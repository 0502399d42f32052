import AccessConsole.CommandLine.Command
import AccessConsole.Proofs.Text.Decimal
import AccessConsole.Proofs.Text.Search
import AccessConsole.Resource.Operation

/-!
# Paths of routes, in pieces

* `Route.words` — the words that stand in paths.
* `Endpoint.spelled` — an endpoint has no other ones in its path.
* `Spelled.pieces_path` — between the slashes of a path stand the words and the ids.
* `Config.endpoint_path` — the URL of an endpoint is its path after the root of the API.
* `Operation.request_eq` — the call of an operation in all its parts.
* `id?_text`, `Spelled.ofText_text` — an id is read back from its text, and no word is an id.
-/

namespace AccessConsole

open Text (splitAt splitAt_append_cons splitAt_of_not_mem)

/-! ## Words -/

/-- The words that stand in paths. -/
def Route.words : List String :=
  ["nas", "by_group", "authorized", "available", "authorize", "authorize-all", "groups", "tree",
   "vendors", "list_all", "radius", "secrets", "encrypt", "decrypt", "radsec", "sources",
   "admin-users", "users", "activate", "deactivate", "send-invitation", "send-password-reset",
   "me", "change-password", "members", "identifiers", "nas-authorizations", "available-nas",
   "attribute-groups", "attributes", "api-keys", "revoke", "identifier-types", "shared",
   "timezones"]

/-- A part of a path is an id or one of the words. -/
def Segment.isSpelled : Segment → Bool
  | .word text => Route.words.contains text
  | .id _ => true

/-- All parts of a path are ids or words, and there is one at least. -/
structure Route.Spelled (r : Route) : Prop where
  segment : ∀ s ∈ r.segments, s.isSpelled = true
  nonempty : r.segments ≠ []

theorem Endpoint.spelled (e : Endpoint) : e.route.Spelled := by
  have hall : e.route.segments.all Segment.isSpelled = true ∧ e.route.segments ≠ [] := by
    cases e with
    | nas r => cases r <;> exact ⟨rfl, List.cons_ne_nil _ _⟩
    | vendor r => cases r <;> exact ⟨rfl, List.cons_ne_nil _ _⟩
    | secret r => cases r <;> exact ⟨rfl, List.cons_ne_nil _ _⟩
    | radSec r => cases r <;> exact ⟨rfl, List.cons_ne_nil _ _⟩
    | admin r => cases r <;> exact ⟨rfl, List.cons_ne_nil _ _⟩
    | user r => cases r <;> exact ⟨rfl, List.cons_ne_nil _ _⟩
    | userGroup r => cases r <;> exact ⟨rfl, List.cons_ne_nil _ _⟩
    | authorization r => cases r <;> exact ⟨rfl, List.cons_ne_nil _ _⟩
    | attributeGroup r => cases r <;> exact ⟨rfl, List.cons_ne_nil _ _⟩
    | «attribute» r => cases r <;> exact ⟨rfl, List.cons_ne_nil _ _⟩
    | apiKey r => cases r <;> exact ⟨rfl, List.cons_ne_nil _ _⟩
    | reference r => cases r <;> exact ⟨rfl, List.cons_ne_nil _ _⟩
  exact ⟨List.all_eq_true.1 hall.1, hall.2⟩

/-- What holds of all words and of the texts of all ids holds of the texts of all parts. -/
theorem Route.Spelled.text_induction {r : Route} (h : r.Spelled) {P : String → Prop}
    (hwords : ∀ w ∈ words, P w) (hids : ∀ n : Int64, P (Text.Decimal.text n.toInt))
    {s : Segment} (hs : s ∈ r.segments) : P s.text := by
  have hspelled := h.segment s hs
  cases s with
  | word text => exact hwords text (by simpa [Segment.isSpelled] using hspelled)
  | id n => exact hids n

/-! ## Pieces -/

theorem toList_text (n : Int) : (Text.Decimal.text n).toList = Text.Decimal.integer n :=
  String.toList_ofList

/-- A numeral has no character but digits and the minus sign. -/
theorem not_mem_text {n : Int} {c : Char} (hminus : c ≠ '-') (hdigit : c.isDigit = false) :
    c ∉ (Text.Decimal.text n).toList := by
  rw [toList_text]
  intro hmem
  obtain rfl | hd := Text.Decimal.minus_or_digit_of_mem_integer hmem
  · exact hminus rfl
  · rw [hd] at hdigit
    exact absurd hdigit (by decide)

namespace Route.Spelled

variable {r : Route}

theorem slash_not_mem (h : r.Spelled) {s : Segment} (hs : s ∈ r.segments) :
    '/' ∉ s.text.toList := by
  refine h.text_induction (P := fun t => '/' ∉ t.toList) (by decide) ?_ hs
  exact fun _ => not_mem_text (by decide) (by decide)

theorem text_ne_nil (h : r.Spelled) {s : Segment} (hs : s ∈ r.segments) : s.text.toList ≠ [] := by
  refine h.text_induction (P := fun t => t.toList ≠ []) (by decide) (fun n => ?_) hs
  rw [toList_text]
  exact Text.Decimal.integer_ne_nil _

/-- The pieces of a text and of further parts with a slash before each. -/
theorem splitAt_append (h : r.Spelled) {ss : List Segment} (hss : ∀ s ∈ ss, s ∈ r.segments)
    {piece : List Char} (hpiece : '/' ∉ piece) :
    splitAt '/' (piece ++ (ss.flatMap (fun s => '/' :: s.text.toList) ++
        if r.slash then ['/'] else [])) =
      piece :: (ss.map (·.text.toList) ++ if r.slash then [[]] else []) := by
  induction ss generalizing piece with
  | nil =>
    cases r.slash with
    | false =>
      show splitAt '/' (piece ++ []) = [piece]
      rw [List.append_nil, splitAt_of_not_mem hpiece]
    | true =>
      show splitAt '/' (piece ++ ['/']) = [piece, []]
      rw [splitAt_append_cons, splitAt_of_not_mem hpiece]
      rfl
  | cons s ss ih =>
    have hs := h.slash_not_mem (hss s List.mem_cons_self)
    have hrest := ih (fun s' hs' => hss s' (List.mem_cons_of_mem _ hs')) hs
    rw [List.flatMap_cons, List.cons_append, List.cons_append, List.append_assoc,
      splitAt_append_cons, splitAt_of_not_mem hpiece, hrest]
    rfl

/-- Between the slashes of a path stand its words and its ids. -/
theorem pieces_path (h : r.Spelled) :
    splitAt '/' r.path.toList =
      [] :: (r.segments.map (·.text.toList) ++ if r.slash then [[]] else []) := by
  rw [path, String.toList_ofList]
  exact h.splitAt_append (fun _ hs => hs) (List.not_mem_nil : '/' ∉ ([] : List Char))

/-- A path begins with a slash. -/
theorem path_eq_cons (h : r.Spelled) : ∃ rest, r.path.toList = '/' :: rest ∧
    splitAt '/' rest = r.segments.map (·.text.toList) ++ if r.slash then [[]] else [] := by
  obtain ⟨s, ss, hsegments⟩ := List.exists_cons_of_ne_nil h.nonempty
  obtain ⟨rest, hrest⟩ : ∃ rest, r.path.toList = '/' :: rest := by
    rw [path, String.toList_ofList, hsegments]
    exact ⟨_, rfl⟩
  refine ⟨rest, hrest, ?_⟩
  have hpieces := h.pieces_path
  rw [hrest, ← List.nil_append ('/' :: rest), splitAt_append_cons] at hpieces
  exact (List.cons_eq_cons.1 hpieces).2

end Route.Spelled

/-- The URL of an endpoint is its path after the root of the API. -/
theorem Config.endpoint_path (c : Config) {r : Route} (h : r.Spelled) :
    c.endpoint r.path = c.apiUrl ++ r.path := by
  obtain ⟨rest, hpath, -⟩ := h.path_eq_cons
  simp [endpoint, Text.startsWith, hpath]

/-! ## Requests -/

@[simp] theorem Request.withPairs_eq (r : Request) (pairs : List (String × String)) :
    r.withPairs pairs = { r with query := r.query ++ pairs } := by
  induction pairs generalizing r with
  | nil => simp [withPairs]
  | cons pair pairs ih =>
    show (r.withQuery pair.1 pair.2).withPairs pairs = _
    rw [ih]
    simp [withQuery]

/-- All parts of the call of an operation. It has no headers. -/
theorem Operation.request_eq {α : Type} (op : Operation α) (c : Config) :
    op.request c =
      { method := op.endpoint.route.method, url := c.endpoint op.endpoint.route.path,
        query := op.endpoint.route.query, body := op.body } := by
  unfold request
  cases hbody : op.body with
  | none => simp [Request.new]
  | some body => simp [Request.new, Request.withJson]

/-! ## Reading back -/

theorem id?_text (n : Int64) : CommandLine.id? (Text.Decimal.text n.toInt) = some n := by
  have hread : Text.Decimal.signed? Int64.minValue.toInt Int64.maxValue.toInt
      (Text.Decimal.text n.toInt).toList = some n.toInt := by
    rw [toList_text]
    exact Text.Decimal.signed?_integer n.minValue_le_toInt n.toInt_le
  rw [CommandLine.id?, CommandLine.number?, hread, Option.map_some, Int64.ofInt_toInt]

/-- The part of a path that a text is: an id if it can be one, and a word otherwise. -/
def Segment.ofText (text : String) : Segment :=
  match CommandLine.id? text with
  | some n => .id n
  | none => .word text

theorem Route.Spelled.ofText_text {r : Route} (h : r.Spelled) {s : Segment}
    (hs : s ∈ r.segments) : Segment.ofText s.text = s := by
  have hwords : ∀ w ∈ words, CommandLine.id? w = none := by decide
  have hspelled := h.segment s hs
  unfold Segment.ofText
  cases s with
  | word text =>
    have hnone := hwords text (by simpa [Segment.isSpelled] using hspelled)
    simp only [Segment.text, hnone]
  | id n => simp only [Segment.text, id?_text]

/-- The parts of a path, whether or not it ends with a slash. -/
def Route.segmentsOf (path : String) : List Segment :=
  ((splitAt '/' path.toList).filter (!·.isEmpty)).map fun piece => .ofText (String.ofList piece)

/-- The parts of a path are read off it. -/
theorem Route.Spelled.segmentsOf_path {r : Route} (h : r.Spelled) :
    segmentsOf r.path = r.segments := by
  have hkept : (r.segments.map (·.text.toList)).filter (!·.isEmpty) =
      r.segments.map (·.text.toList) := by
    refine List.filter_eq_self.2 fun piece hpiece => ?_
    obtain ⟨s, hs, rfl⟩ := List.mem_map.1 hpiece
    simpa using h.text_ne_nil hs
  have hlast : (if r.slash then [[]] else ([] : List (List Char))).filter (!·.isEmpty) = [] := by
    cases r.slash <;> rfl
  unfold segmentsOf
  rw [h.pieces_path, List.filter_cons_of_neg (by simp), List.filter_append, hkept, hlast,
    List.append_nil, List.map_map]
  have hread : ∀ s ∈ r.segments, Segment.ofText (String.ofList s.text.toList) = s := by
    intro s hs
    rw [String.ofList_toList, h.ofText_text hs]
  exact (List.map_congr_left hread).trans (List.map_id' _)

end AccessConsole
