import AccessConsole.Gateway.Machine
import AccessConsole.Proofs.Resource.RoutePath
import AccessConsole.Resource.Nas

/-!
# Calls of resources carry the access token

* `isAuthEndpoint_request` — a call of a resource is taken for a sign-in only if the root of the API
  is one.
* `headerValue?_bearer` — a token that is a legal header value is so with its scheme in front.
* `resource_call_bears_token` — with a token in the session, a call of a resource goes out with it.
-/

namespace AccessConsole

/-! ## Parts of URLs -/

/-- The words with which the URL parts of sign-ins end. -/
def signInWords : List String := ["token", "login"]

theorem exists_signInWord {part : String} (h : part ∈ Config.defaultAuthEndpoints) :
    ∃ front, ∃ word ∈ signInWords, part.toList = front ++ '/' :: (word.toList ++ ['/']) := by
  have hends : Config.defaultAuthEndpoints.map String.toList =
      ["/auth".toList ++ '/' :: ("token".toList ++ ['/']),
        "/authentication".toList ++ '/' :: ("token".toList ++ ['/']),
        "/admin-users".toList ++ '/' :: ("login".toList ++ ['/'])] := by decide
  have hmem := List.mem_map_of_mem (f := String.toList) h
  rw [hends, List.mem_cons, List.mem_cons, List.mem_singleton] at hmem
  obtain hpart | hpart | hpart := hmem
  · exact ⟨_, "token", by decide, hpart⟩
  · exact ⟨_, "token", by decide, hpart⟩
  · exact ⟨_, "login", by decide, hpart⟩

/-- No part of a path is one of these words, and no id can be. -/
theorem Route.Spelled.text_ne_signInWord {r : Route} (h : r.Spelled) {s : Segment}
    (hs : s ∈ r.segments) {word : String} (hword : word ∈ signInWords) :
    s.text.toList ≠ word.toList := by
  refine h.text_induction (P := fun t => t.toList ≠ word.toList) ?_ (fun n heq => ?_) hs
  · revert word
    decide
  · have hletter : signInWords.all (fun w => w.toList.any fun c => c ≠ '-' && !c.isDigit) = true :=
      by decide
    obtain ⟨c, hc, hboth⟩ := List.any_eq_true.1 (List.all_eq_true.1 hletter word hword)
    have hc' : c ≠ '-' ∧ c.isDigit = false := by simpa using hboth
    exact not_mem_text hc'.1 hc'.2 (heq ▸ hc)

/-- A part of a URL that is for signing in stands in the URL of a resource only if it stands in the
root of the API with a slash after it: it ends with a whole word, and this is not in the path. -/
theorem Route.Spelled.contains_iff {r : Route} (h : r.Spelled) (root : String) {part : String}
    (hpart : part ∈ Config.defaultAuthEndpoints) :
    Text.contains (root ++ r.path) part = true ↔ Text.contains (root ++ "/") part = true := by
  obtain ⟨rest, hpath, hpieces⟩ := h.path_eq_cons
  obtain ⟨front, word, hword, hends⟩ := exists_signInWord hpart
  have hurl : (root ++ r.path).toList = root.toList ++ '/' :: rest := by
    rw [String.toList_append, hpath]
  have hroot : (root ++ "/").toList = root.toList ++ ['/'] := String.toList_append
  rw [Text.contains_iff_infix, Text.contains_iff_infix, hurl, hroot, hends]
  constructor
  · have hslash : ∀ w ∈ signInWords, '/' ∉ w.toList := by decide
    refine Text.infix_of_not_piece (hslash word hword) ?_
    rw [hpieces, List.mem_append]
    rintro (hmem | hmem)
    · obtain ⟨s, hs, heq⟩ := List.mem_map.1 hmem
      exact h.text_ne_signInWord hs hword heq
    · have hempty : ∀ w ∈ signInWords, w.toList ≠ [] := by decide
      split at hmem
      · exact hempty word hword (List.mem_singleton.1 hmem)
      · exact absurd hmem List.not_mem_nil
  · intro hinfix
    refine hinfix.trans (List.IsPrefix.isInfix ⟨rest, ?_⟩)
    simp only [List.append_assoc, List.cons_append, List.nil_append]

/-- Whatever the operation, only the root of the API decides. -/
theorem isAuthEndpoint_request {α : Type} (op : Operation α) (apiUrl : String) :
    (Config.ofApiUrl apiUrl).isAuthEndpoint (op.request (Config.ofApiUrl apiUrl)).url =
      (Config.ofApiUrl apiUrl).isAuthEndpoint (trimSlashes apiUrl ++ "/") := by
  have hurl : (op.request (Config.ofApiUrl apiUrl)).url =
      trimSlashes apiUrl ++ op.endpoint.route.path := by
    rw [op.request_eq]
    exact Config.endpoint_path _ op.endpoint.spelled
  have hparts : ∀ part ∈ Config.defaultAuthEndpoints,
      Text.contains (op.request (Config.ofApiUrl apiUrl)).url part =
        Text.contains (trimSlashes apiUrl ++ "/") part := by
    intro part hpart
    rw [hurl, Bool.eq_iff_iff]
    exact op.endpoint.spelled.contains_iff _ hpart
  show Config.defaultAuthEndpoints.any _ = Config.defaultAuthEndpoints.any _
  rw [Bool.eq_iff_iff, List.any_eq_true, List.any_eq_true]
  refine exists_congr fun part => and_congr_right fun hpart => ?_
  rw [hparts part hpart]

/-! ## Tokens -/

/-- A token that is a legal header value is so with its scheme in front. -/
theorem headerValue?_bearer {token : String}
    (h : (headerValue? (Bytes.ofText token)).isSome = true) :
    headerValue? (Request.bearer token) = some (Request.bearer token) := by
  have hlegal : ∀ b ∈ Bytes.ofText token, isHeaderByte b = true := by
    unfold headerValue? at h
    split at h
    · rename_i hall
      exact List.all_eq_true.1 hall
    · exact absurd h (by decide)
  have hbytes : Request.bearer token = Bytes.ofText "Bearer " ++ Bytes.ofText token := by
    simp [Request.bearer, Bytes.ofText, String.toByteArray_append]
  have hscheme : (Bytes.ofText "Bearer ").all isHeaderByte = true := by decide
  have hall : (Request.bearer token).all isHeaderByte = true := by
    rw [hbytes, List.all_eq_true]
    intro b hb
    obtain hb | hb := List.mem_append.1 hb
    · exact List.all_eq_true.1 hscheme b hb
    · exact hlegal b hb
  rw [headerValue?, if_pos hall]

/-- A call that is not for signing in, with a token in the session that may stand in a header. -/
theorem Gateway.step_send_bearing {σ : Type} [KeyStore σ] {g : Gateway σ} {id : CallId}
    {request : Request} {token : String} (hid : g.call? id = none)
    (hurl : g.config.isAuthEndpoint request.url = false) (hheaders : request.headers = [])
    (haccess : g.context.session.access = some token)
    (hlegal : (headerValue? (Bytes.ofText token)).isSome = true) :
    (g.step (.send id request)).2 =
      [.dispatch id
        { request with headers := [(Request.authorizationName, Request.bearer token)] }] := by
  have hname : String.ofList (Request.authorizationName.toList.map Char.toLower) =
      Request.authorizationName := by decide
  have hbearing : request.withBearer? token =
      some { request with headers := [(Request.authorizationName, Request.bearer token)] } := by
    rw [Request.withBearer?, headerValue?_bearer hlegal, Option.map_some, Request.withHeader, hname,
      hheaders]
    rfl
  have hstep : g.step (.send id request) = g.begin ⟨id, .send, request, .bare⟩ := by
    simp [step, hid]
  rw [hstep]
  simp only [begin, hurl, haccess, hbearing, dispatching, Bool.false_eq_true, if_false]

/-- No call of a resource is taken for a sign-in, unless the root of the API is one already. So with
a token in the session the first request that is sent for the call carries it, whatever the
operation, its ids, its page and its body. -/
theorem resource_call_bears_token {α : Type} (op : Operation α) (apiUrl : String)
    (hroot : ∀ part ∈ Config.defaultAuthEndpoints,
      Text.contains (trimSlashes apiUrl ++ "/") part = false) :
    (Config.ofApiUrl apiUrl).isAuthEndpoint (op.request (Config.ofApiUrl apiUrl)).url = false ∧
      ∀ (σ : Type) [KeyStore σ] (g : Gateway σ) (id : CallId) (token : String),
        g.config = Config.ofApiUrl apiUrl → g.call? id = none →
        g.context.session.access = some token →
        (headerValue? (Bytes.ofText token)).isSome = true →
        (g.step (.send id (op.request g.config))).2 =
          [.dispatch id
            { op.request g.config with
              headers := [(Request.authorizationName, Request.bearer token)] }] := by
  have hurl : (Config.ofApiUrl apiUrl).isAuthEndpoint (op.request (Config.ofApiUrl apiUrl)).url =
      false := by
    rw [isAuthEndpoint_request]
    show Config.defaultAuthEndpoints.any _ = false
    rw [List.any_eq_false]
    intro part hpart
    rw [hroot part hpart, Bool.and_false]
    exact Bool.false_ne_true
  refine ⟨hurl, ?_⟩
  intro σ _ g id token hconfig hid haccess hlegal
  refine Gateway.step_send_bearing hid ?_ (by rw [op.request_eq]) haccess hlegal
  rw [hconfig]
  exact hurl

/-- A session with an access token outside ASCII. -/
def accentedContext : SessionContext MemoryStore :=
  { store := {}, session := { access := some "é" }, status := .authenticated }

/-- The root of the API ends as URL parts of sign-ins begin, and the call goes out with the
token. -/
theorem call_beside_sign_in_bears_token :
    let c := Config.ofApiUrl "https://radius.test/auth//"
    let g : Gateway MemoryStore := { config := c, context := accentedContext }
    (∀ part ∈ Config.defaultAuthEndpoints,
        Text.contains (trimSlashes "https://radius.test/auth//" ++ "/") part = false) ∧
      (g.step (.send 4 ((Device.revoke (-7) 0 3).request c))).2 =
        [.dispatch 4
          { method := .delete, url := "https://radius.test/auth/nas/authorize/-7/0/3",
            headers := [("authorization", Bytes.ofText "Bearer é")] }] := by
  intro c g
  have hroot : ∀ part ∈ Config.defaultAuthEndpoints,
      Text.contains (trimSlashes "https://radius.test/auth//" ++ "/") part = false := by decide
  refine ⟨hroot, ?_⟩
  have hcall := (resource_call_bears_token (Device.revoke (-7) 0 3) _ hroot).2 MemoryStore g 4 "é"
    rfl rfl rfl (by decide)
  have hurl : ((Device.revoke (-7) 0 3).request c).url =
      "https://radius.test/auth/nas/authorize/-7/0/3" := by decide +kernel
  rw [hcall, ← hurl]
  rfl

end AccessConsole
