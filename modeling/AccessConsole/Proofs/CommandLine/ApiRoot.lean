import AccessConsole.CommandLine.Program
import AccessConsole.Proofs.Text.Blank
import Mathlib.Tactic.SplitIfs

/-!
# The root of the API

It can be set by an option of the command line and by a variable of the environment. The program
looks at the variable twice: as the value that stands in for the option, and for its configuration.

* `Scan.Avoids` — no value is being read for an argument with a name.
* `Grammar.Gives`, `Grammar.not_gives` — a line gives an option of its general part; it does not
  where no word names the option.
* `Settings.apiUrl_of_not_given` — where the option is not given, the variable stands in for it.
* `Settings.config_follows_environment_iff` — then the program is configured as the environment says
  if and only if the variable is not blank.
-/

namespace AccessConsole

/-- What succeeds in steps does so one step after the other. -/
theorem ok_of_bind {ε α β : Type} {x : Except ε α} {f : α → Except ε β} {b : β}
    (h : (x >>= f) = .ok b) : ∃ a, x = .ok a ∧ f a = .ok b := by
  cases x with
  | error e => cases h
  | ok a => exact ⟨a, rfl, h⟩

/-! ## Options that are not given -/

/-- The name of the option that a word names. -/
def Word.option? : Word → Option String
  | .long name _ => some name
  | _ => none

/-- No argument with the name has a value or has been begun, and none can be begun by its place. -/
structure Scan.Avoids (name : String) (s : Scan) : Prop where
  given : ∀ e ∈ s.given, e.1 ≠ name
  pending : ∀ slot value, s.pending = some (slot, value) → slot.name ≠ name
  places : ∀ slot ∈ s.places, slot.name ≠ name

namespace Scan.Avoids

variable {name : String} {s s' : Scan}

theorem begin (h : s.Avoids name) {slot : Slot} (hslot : slot.name ≠ name)
    (value : Option String) : Avoids name { s with pending := some (slot, value) } := by
  refine ⟨h.given, ?_, h.places⟩
  rintro _ _ ⟨⟩
  exact hslot

theorem give (h : s.Avoids name) {slot : Slot} (hslot : slot.name ≠ name) {value : String}
    (hrun : s.give slot value = .ok s') : s'.Avoids name := by
  unfold Scan.give at hrun
  split_ifs at hrun
  cases hrun
  refine ⟨fun e he => ?_, h.pending, h.places⟩
  obtain he | he := List.mem_append.1 he
  · exact h.given e he
  · rw [List.mem_singleton.1 he]
    exact hslot

theorem settle (h : s.Avoids name) (hrun : s.settle = .ok s') : s'.Avoids name := by
  unfold Scan.settle at hrun
  split at hrun
  · cases hrun
    exact h
  · cases hrun
  · rename_i slot value hpending
    have hcleared : Avoids name { s with pending := none } :=
      ⟨h.given, fun _ _ => nofun, h.places⟩
    exact hcleared.give (h.pending slot _ hpending) hrun

theorem place (h : s.Avoids name) {value : String} (hrun : s.place value = .ok s') :
    s'.Avoids name := by
  obtain ⟨settled, hs, hrun⟩ := ok_of_bind hrun
  have hsettled := h.settle hs
  split at hrun
  · cases hrun
  · rename_i slot places hplaces
    cases hrun
    have hslot : slot.name ≠ name := hsettled.places slot (hplaces ▸ List.mem_cons_self)
    have hbegun := hsettled.begin hslot (some value)
    refine ⟨hbegun.given, hbegun.pending, fun slot' hmem => ?_⟩
    exact hsettled.places slot' (hplaces ▸ List.mem_cons_of_mem _ hmem)

theorem option (h : s.Avoids name) {other : String} (hother : other ≠ name) {value : Option String}
    (hrun : s.option other value = .ok s') : s'.Avoids name := by
  unfold Scan.option at hrun
  split_ifs at hrun
  · obtain ⟨_, -, hhelp⟩ := ok_of_bind hrun
    cases hhelp
  · split at hrun
    · cases hrun
    · rename_i slot hfind
      obtain ⟨settled, hs, hrun⟩ := ok_of_bind hrun
      have hslot : slot.name ≠ name := by
        have hname : slot.name = other := by simpa using List.find?_some hfind
        rwa [hname]
      split at hrun
      · exact (h.settle hs).give hslot hrun
      · cases hrun
        exact (h.settle hs).begin hslot none

/-- A word that does not name the option gives no value to it. -/
theorem step (h : s.Avoids name) {text : String}
    (htext : (Word.ofText text).option? ≠ some name) (hrun : s.step text = .ok s') :
    s'.Avoids name := by
  unfold Scan.step at hrun
  split_ifs at hrun
  · exact h.place hrun
  · split at hrun
    · cases hrun
      exact ⟨h.given, h.pending, h.places⟩
    · rename_i other value hword
      refine h.option (fun hother => htext ?_) hrun
      rw [hword, Word.option?, hother]
    · split_ifs at hrun
      obtain ⟨_, -, hhelp⟩ := ok_of_bind hrun
      cases hhelp
    · split at hrun
      · rename_i slot hpending
        cases hrun
        exact h.begin (h.pending slot _ hpending) _
      · exact h.place hrun

theorem level (h : s.Avoids name) {commands words : List String}
    (hwords : ∀ w ∈ words, (Word.ofText w).option? ≠ some name)
    {command : Option (String × List String)}
    (hrun : Scan.level commands s words = .ok (s', command)) : s'.Avoids name := by
  induction words generalizing s with
  | nil =>
    cases hrun
    exact h
  | cons text rest ih =>
    unfold Scan.level at hrun
    split_ifs at hrun
    · cases hrun
      exact h
    · obtain ⟨next, hstep, hrun⟩ := ok_of_bind hrun
      have hnext := h.step (hwords text List.mem_cons_self) hstep
      exact ih hnext (fun w hw => hwords w (List.mem_cons_of_mem _ hw)) hrun

theorem values (h : s.Avoids name) {given : List (String × String)} (hrun : s.values = .ok given) :
    ∀ e ∈ given, e.1 ≠ name := by
  obtain ⟨settled, hs, hrun⟩ := ok_of_bind hrun
  cases hrun
  exact (h.settle hs).given

end Scan.Avoids

namespace Grammar

variable {γ β : Type}

/-- An option has a value among the general arguments of a line. -/
def Gives (g : Grammar γ β) (words : List String) (name : String) : Prop :=
  ∃ s command given,
    Scan.level (helpName :: g.commands.map (·.1)) (.start g.arguments.slots) words =
      .ok (s, command) ∧
    s.values = .ok given ∧ ∃ e ∈ given, e.1 = name

/-- A line without a word that names an option does not give it. -/
theorem not_gives (g : Grammar γ β) {name : String}
    (hnamed : ∀ slot ∈ g.arguments.slots, slot.named = true) {words : List String}
    (hwords : ∀ w ∈ words, (Word.ofText w).option? ≠ some name) : ¬g.Gives words name := by
  rintro ⟨s, command, given, hlevel, hvalues, e, he, hname⟩
  have hstart : (Scan.start g.arguments.slots).Avoids name := by
    refine ⟨fun _ he => absurd he List.not_mem_nil, fun _ _ => nofun, fun slot hslot => ?_⟩
    obtain ⟨hmem, hplace⟩ := List.mem_filter.1 hslot
    rw [hnamed slot hmem] at hplace
    exact absurd hplace (by decide)
  exact (hstart.level hwords hlevel).values hvalues e he hname

/-- A line that is read has values for its general arguments. -/
theorem read_ok {g : Grammar γ β} {env : Environment} {words : List String} {general : γ}
    {command : β} (h : g.read env words = .ok (general, command)) :
    ∃ s next given values,
      Scan.level (helpName :: g.commands.map (·.1)) (.start g.arguments.slots) words =
        .ok (s, next) ∧
      s.values = .ok given ∧ g.arguments.values? env given = some values ∧
      general = g.general values := by
  obtain ⟨⟨s, next⟩, hlevel, h⟩ := ok_of_bind h
  refine ⟨s, next, ?_⟩
  cases next with
  | none =>
    obtain ⟨_, -, h⟩ := ok_of_bind h
    cases h
  | some named =>
    simp only at h
    split at h
    · obtain ⟨_, -, h⟩ := ok_of_bind h
      obtain ⟨values, hfinish, h⟩ := ok_of_bind h
      cases h
      obtain ⟨given, hgiven, hfinish⟩ := ok_of_bind hfinish
      split at hfinish
      · rename_i values' hvalues
        cases hfinish
        exact ⟨given, values, hlevel, hgiven, hvalues, rfl⟩
      · cases hfinish
    · split_ifs at h

end Grammar

/-- The value of an argument that is not given, but may be set by a variable. -/
theorem Argument.value?_orVariable {name variableName : String} {env : Environment}
    {given : List (String × String)} (hgiven : ∀ e ∈ given, e.1 ≠ name) {value : Option String}
    (h : (orVariable name some variableName Bytes.text?).value? env given = some value) :
    value = env.text? variableName := by
  have hnone : given.find? (·.1 = (orVariable name some variableName Bytes.text?).name) = none := by
    rw [List.find?_eq_none]
    intro e he
    rw [decide_eq_true_eq]
    exact hgiven e he
  rw [value?, hnone] at h
  replace h : (orVariable name some variableName Bytes.text?).missing? env = some value := h
  unfold Environment.text?
  cases hfind : env.find? (·.1 = variableName) with
  | none =>
    simp only [orVariable, hfind] at h
    exact (Option.some.inj h).symm
  | some entry =>
    simp only [orVariable, hfind] at h
    obtain ⟨text, htext, rfl⟩ := Option.map_eq_some_iff.1 h
    exact htext.symm

/-! ## The configuration of the program -/

/-- Where the option is not given, the variable stands in for it, blank or not. -/
theorem Settings.apiUrl_of_not_given {env : Environment} {words : List String}
    {settings : Settings} {command : Command}
    (hread : commandLine.read env words = .ok (settings, command))
    (hgiven : ¬commandLine.Gives words "api-url") :
    settings.apiUrl = env.text? Config.apiUrlVariable := by
  obtain ⟨s, next, given, values, hlevel, hvalues, hgeneral, rfl⟩ := Grammar.read_ok hread
  have havoids : ∀ e ∈ given, e.1 ≠ "api-url" := fun e he hname =>
    hgiven ⟨s, next, given, hlevel, hvalues, e, he, hname⟩
  obtain ⟨apiUrl, hapiUrl, hrest⟩ := Option.bind_eq_some_iff.1 hgeneral
  obtain ⟨_, -, hrest⟩ := Option.bind_eq_some_iff.1 hrest
  cases hrest
  exact Argument.value?_orVariable havoids hapiUrl

/-- The root of the API that the environment gives. -/
theorem Config.apiUrl_ofEnvironment {env : Environment} {text : String}
    (htext : env.text? apiUrlVariable = some text) :
    (ofEnvironment env).apiUrl =
      if Text.isBlankText text then defaultApiUrl else trimSlashes text := by
  have hdefault : trimSlashes defaultApiUrl = defaultApiUrl := by decide
  show trimSlashes ((settingText? env apiUrlVariable).getD defaultApiUrl) = _
  rw [settingText?_of_text htext]
  split_ifs
  · exact hdefault
  · rfl

/-- A blank text has no slash at its end. -/
theorem trimSlashes_of_blank {s : String} (h : Text.isBlankText s = true) : trimSlashes s = s := by
  unfold trimSlashes
  rw [Text.dropTrailing_eq_self, String.ofList_toList]
  intro c hc
  have hblank : Text.isBlank c = true := List.all_eq_true.1 h c (List.mem_of_mem_getLast? hc)
  rw [decide_eq_false_iff_not]
  rintro rfl
  exact absurd hblank (by decide)

/-- Where the option is not given, the program is configured as the environment says, unless the
variable is blank: this is as if it were not set, but not where it stands in for the option. Then
every URL begins with blanks. -/
theorem Settings.config_follows_environment_iff {env : Environment} {words : List String}
    {settings : Settings} {command : Command}
    (hread : commandLine.read env words = .ok (settings, command))
    (hgiven : ¬commandLine.Gives words "api-url") :
    (settings.config env = Config.ofEnvironment env ↔
      ∀ text, env.text? Config.apiUrlVariable = some text → Text.isBlankText text = false) ∧
    ∀ text, env.text? Config.apiUrlVariable = some text → Text.isBlankText text = true →
      (settings.config env).apiUrl = text ∧
        (Config.ofEnvironment env).apiUrl = Config.defaultApiUrl := by
  have hapiUrl := apiUrl_of_not_given hread hgiven
  have hblank : ∀ text, env.text? Config.apiUrlVariable = some text →
      Text.isBlankText text = true →
      (settings.config env).apiUrl = text ∧
        (Config.ofEnvironment env).apiUrl = Config.defaultApiUrl := by
    intro text htext hb
    refine ⟨?_, by rw [Config.apiUrl_ofEnvironment htext, if_pos hb]⟩
    simp only [config, hapiUrl, htext]
    exact trimSlashes_of_blank hb
  refine ⟨⟨fun hsame text htext => ?_, fun hall => ?_⟩, hblank⟩
  · cases hb : Text.isBlankText text with
    | false => rfl
    | true =>
      -- The default root is not blank, so the two differ.
      obtain ⟨hmain, henv⟩ := hblank text htext hb
      rw [hsame, henv] at hmain
      rw [← hmain] at hb
      exact absurd hb (by decide)
  · cases htext : env.text? Config.apiUrlVariable with
    | none => simp only [config, hapiUrl, htext]
    | some text =>
      have hroot := Config.apiUrl_ofEnvironment htext
      rw [hall text htext, if_neg Bool.false_ne_true] at hroot
      simp only [config, hapiUrl, htext, ← hroot]

/-- An environment with nothing but a root of the API. -/
def rootEnvironment (text : String) : Environment := [(Config.apiUrlVariable, Bytes.ofText text)]

/-- Slashes at the end of the variable make no difference, and other options neither. -/
theorem Settings.config_follows_slashes :
    let env := rootEnvironment "https://radius.test/api//"
    let words := ["--session-file=s.json", "nas", "get", "7"]
    let settings : Settings := ⟨some "https://radius.test/api//", some (Path.ofText "s.json")⟩
    commandLine.read env words = .ok (settings, .resource (.device (.get 7))) ∧
      ¬commandLine.Gives words "api-url" ∧ settings.config env = Config.ofEnvironment env := by
  intro env words settings
  have hread : commandLine.read env words = .ok (settings, .resource (.device (.get 7))) := by rfl
  have hgiven : ¬commandLine.Gives words "api-url" :=
    commandLine.not_gives (by decide) (by decide)
  have hvariable : env.text? Config.apiUrlVariable = some "https://radius.test/api//" := by rfl
  refine ⟨hread, hgiven, (config_follows_environment_iff hread hgiven).1.2 ?_⟩
  intro text htext
  obtain rfl := Option.some.inj (hvariable.symm.trans htext)
  decide

/-- A blank variable: the program asks at a blank root, where the environment means the default
one. -/
theorem Settings.blank_variable_misleads :
    let env := rootEnvironment " "
    let settings : Settings := ⟨some " ", none⟩
    commandLine.read env ["status"] = .ok (settings, .status) ∧
      ¬commandLine.Gives ["status"] "api-url" ∧
      (settings.config env).endpoint "/nas/nas/" = " /nas/nas/" ∧
      (Config.ofEnvironment env).endpoint "/nas/nas/" = "http://127.0.0.1:8000/api/nas/nas/" := by
  intro env settings
  refine ⟨by rfl, commandLine.not_gives (by decide) (by decide), ?_, ?_⟩
  · decide +kernel
  · decide +kernel

end AccessConsole
