import Mathlib.Data.List.TakeWhile
import DocBraces.Proofs.Config.Loading
import DocBraces.Proofs.Data.Likeness
import DocBraces.Proofs.Text.Utf8

/-!
# Wrapped configurations

Settings may stand under the program's name, beside whatever else a file holds, or make up
the whole file. Both read alike: the schema asks data for nothing but what alike data
share, so that the settings, or the violations with their places and what is shown there,
come out the same. After that the environment has its say on three switches, and
having had it, says nothing new.
-/

set_option autoImplicit false

namespace DocBraces

open DocBraces.Data DocBraces.Text

namespace Schema

structure Place.Alike (p q : Place) : Prop where
  steps : p.steps = q.steps
  data : p.graph.Alike p.ref q.graph q.ref

section

variable {p q : Place}

namespace Place.Alike

theorem like (alike : p.Alike q) :
    Cell.Like (fun x y => p.graph.Alike x q.graph y) p.cell q.cell := alike.data.like

theorem violation (alike : p.Alike q) (kind : Kind) : p.violation kind = q.violation kind := by
  unfold Place.violation
  rw [alike.steps, alike.data.shown, alike.like.typeName]

theorem reject {α : Type} (alike : p.Alike q) (kind : Kind) :
    (p.reject kind : Checked α) = q.reject kind :=
  congrArg (fun v => Except.error [v]) (alike.violation kind)

theorem step (alike : p.Alike q) (step : Step) {x y : Ref} (h : p.graph.Alike x q.graph y) :
    Place.Alike { p with ref := x, steps := p.steps ++ [step] }
      { q with ref := y, steps := q.steps ++ [step] } where
  steps := congrArg (· ++ [step]) alike.steps
  data := h

theorem field? (alike : p.Alike q) (name : String) :
    Option.Rel Place.Alike (p.field? name) (q.field? name) := by
  have found := alike.like.get? name
  unfold Place.field?
  generalize p.cell.get? name = x at found
  generalize q.cell.get? name = y at found
  cases found with
  | some h => exact .some (alike.step _ h)
  | none => exact .none

end Place.Alike

theorem readText_eq (alike : p.Alike q) : readText p = readText q := by
  have like := alike.like
  unfold readText
  simp only [alike.reject]
  generalize p.cell = c at like
  generalize q.cell = d at like
  cases like with
  | scalar hs => cases hs <;> rfl
  | _ => rfl

theorem textItem_eq (alike : p.Alike q) (index : Nat) {s t : Scalar} (h : s.Like t) :
    textItem p index s = textItem q index t := by
  refine readText_eq ⟨congrArg (· ++ _) alike.steps, ?_⟩
  refine .of_cells (S := fun x y => x = 0 ∧ y = 0) ?_ ?_ ⟨rfl, rfl⟩
  · rintro _ _ _ _ ⟨rfl, rfl⟩ ⟨rfl, rfl⟩
    exact Iff.rfl
  · rintro _ _ ⟨rfl, rfl⟩
    exact .scalar h

theorem mapIdx_eq_of_forall₂ {α β γ : Type} {R : α → β → Prop} {xs : List α} {ys : List β}
    (h : List.Forall₂ R xs ys) {f : Nat → α → γ} {k : Nat → β → γ}
    (same : ∀ i x y, R x y → f i x = k i y) : xs.mapIdx f = ys.mapIdx k := by
  induction h generalizing f k with
  | nil => rfl
  | cons hxy _ ih =>
    rw [List.mapIdx_cons, List.mapIdx_cons, same _ _ _ hxy, ih fun i => same (i + 1)]

theorem readTexts_eq (alike : p.Alike q) : readTexts p = readTexts q := by
  have like := alike.like
  unfold readTexts
  simp only [alike.reject]
  generalize p.cell = c at like
  generalize q.cell = d at like
  cases like with
  | list hl =>
    exact congrArg gather (mapIdx_eq_of_forall₂ hl fun i _ _ h => readText_eq (alike.step _ h))
  | set hs => exact congrArg gather (mapIdx_eq_of_forall₂ hs fun i _ _ => textItem_eq alike i)
  | _ => rfl

theorem readBool_eq (alike : p.Alike q) : readBool p = readBool q := by
  have like := alike.like
  unfold readBool
  simp only [alike.reject]
  generalize p.cell = c at like
  generalize q.cell = d at like
  cases like with
  | scalar hs => cases hs <;> rfl
  | _ => rfl

theorem readPlaceholder_eq (alike : p.Alike q) : readPlaceholder p = readPlaceholder q := by
  unfold readPlaceholder
  simp only [readText_eq alike, alike.violation]

theorem optional_eq {α : Type} {read : Place → Checked α} (alike : p.Alike q) (name : String)
    (default : α) (same : ∀ {p q}, p.Alike q → read p = read q) :
    optional p name default read = optional q name default read := by
  have found := alike.field? name
  unfold optional
  generalize p.field? name = x at found
  generalize q.field? name = y at found
  cases found with
  | some h => exact same h
  | none => rfl

theorem readFallback_eq (alike : p.Alike q) : readFallback p = readFallback q := by
  have like := alike.like
  unfold readFallback
  simp only [alike.reject, optional_eq alike _ _ readBool_eq, optional_eq alike _ _ readTexts_eq]
  generalize p.cell = c at like
  generalize q.cell = d at like
  cases like <;> rfl

theorem placeholderField_eq (alike : p.Alike q) : placeholderField p = placeholderField q := by
  have found := alike.field? "placeholder_chars"
  unfold placeholderField
  generalize p.field? "placeholder_chars" = x at found
  generalize q.field? "placeholder_chars" = y at found
  cases found with
  | some h =>
    dsimp only
    rw [readPlaceholder_eq h]
  | none => rfl

theorem readFields_eq (alike : p.Alike q) : readFields p = readFields q := by
  unfold readFields
  simp only [placeholderField_eq alike, optional_eq alike _ _ readText_eq,
    optional_eq alike _ _ readTexts_eq, optional_eq alike _ _ readBool_eq,
    optional_eq alike _ _ readFallback_eq]

end

theorem read_eq {g h : Graph} {a b : Ref} (alike : g.Alike a h b) : read g a = read h b := by
  have places : Place.Alike ⟨g, a, []⟩ ⟨h, b, []⟩ := ⟨rfl, alike⟩
  have like := places.like
  unfold read
  simp only [readFields_eq places, places.violation]
  generalize Place.cell ⟨g, a, []⟩ = c at like
  generalize Place.cell ⟨h, b, []⟩ = d at like
  cases like <;> rfl

end Schema

namespace Environment

variable (e : Environment) (name : String)

/-- What the variable holds; nothing where it is missing. -/
def value : List Char := ((e.get? name).getD "").toList

/-- The variable is missing, empty, or all white space. -/
def IsBlank : Prop := ∀ c ∈ e.value name, Text.isBlank c = true

instance : Decidable (e.IsBlank name) :=
  List.decidableBAll (fun c => Text.isBlank c = true) (e.value name)

/-- The variable is one of the words for yes, in letters of any case. -/
def flag : Bool := isTruthy (String.ofList ((trim (e.value name)).map lowerAscii))

theorem trim_eq_nil_iff {cs : List Char} : trim cs = [] ↔ ∀ c ∈ cs, Text.isBlank c = true := by
  unfold trim trimEnd trimStart
  rw [List.reverse_eq_nil_iff, List.dropWhile_eq_nil_iff]
  constructor
  · intro h c hc
    rw [← List.takeWhile_append_dropWhile (p := Text.isBlank) (l := cs)] at hc
    obtain hc | hc := List.mem_append.mp hc
    · exact List.mem_takeWhile_imp hc
    · exact h c (List.mem_reverse.mpr hc)
  · intro h c hc
    exact h c ((List.dropWhile_sublist _).mem (List.mem_reverse.mp hc))

theorem flag?_eq : e.flag? name = if e.IsBlank name then none else some (e.flag name) := by
  unfold flag?
  split
  · next h => rw [if_pos (show e.IsBlank name from trim_eq_nil_iff.mp h)]
  · next h => rw [if_neg (show ¬ e.IsBlank name from mt trim_eq_nil_iff.mpr h)]; rfl

end Environment

/-- The settings with their three switches set as the environment says, each where it says
anything. -/
def Settings.switched (c : Settings) (e : Environment) : Settings :=
  { c with
    disabled := if e.IsBlank disableVariable then c.disabled else e.flag disableVariable
    cleanDocs := if e.IsBlank cleanVariable then c.cleanDocs else e.flag cleanVariable
    fallback := { c.fallback with
      enabled := if e.IsBlank noFallbackVariable then c.fallback.enabled
        else !e.flag noFallbackVariable } }

theorem Settings.override_ofEnvironment (c : Settings) (e : Environment) :
    c.override (.ofEnvironment e) = c.switched e := by
  have chosen {blank : Prop} [Decidable blank] (new old : Bool) :
      (if blank then none else some new).getD old = if blank then old else new := by
    split <;> rfl
  have negated {blank : Prop} [Decidable blank] (new : Bool) :
      (if blank then none else some new).map (!·) = if blank then none else some !new := by
    split <;> rfl
  simp only [override, switched, Overrides.ofEnvironment, Environment.flag?_eq, negated, chosen]

namespace Config

open DocBraces.Files DocBraces.Session

/-- The data are a mapping that says nothing under the program's name. -/
def IsFlat (d : Document) : Prop :=
  ∃ entries, d.graph.cell d.root = .mapping entries ∧
    (Cell.mapping entries).get? "bracefence" = none

/-- The data are a mapping that has the other data under the program's name. -/
def Wraps (w d : Document) : Prop :=
  ∃ r, (w.graph.cell w.root).get? "bracefence" = some r ∧ w.graph.Alike r d.graph d.root

/-- Loading in a session reads the file, and its data. -/
structure Reads (s : Session) (file : Option Path) (p : Path) (d : Document) : Prop where
  chosen : outcome (choose file) s = .ok (some p)
  there : outcome (isFile p) s = .ok true
  data : ∃ bytes text, outcome (readBytes p) (announced s p) = .ok bytes ∧
    Utf8.decode bytes = .ok text ∧ Yaml.load (unifyNewlines text) = .ok d

variable {file : Option Path} {p : Path} {d w : Document} {s s' : Session}

theorem settingsOf_flat (flat : IsFlat d) :
    settingsOf p d = (Schema.read d.graph d.root).mapError .invalid := by
  obtain ⟨entries, hc, hn⟩ := flat
  unfold settingsOf settingsPart
  simp only [hc, hn]

theorem settingsOf_wrapped (wraps : Wraps w d) (flat : IsFlat d) :
    settingsOf p w = settingsOf p d := by
  obtain ⟨r, hr, alike⟩ := wraps
  rw [settingsOf_flat flat, ← Schema.read_eq alike]
  obtain ⟨inner, hd, -⟩ := flat
  have like := alike.like
  rw [hd] at like
  unfold settingsOf settingsPart
  cases hc : w.graph.cell w.root with
  | mapping entries =>
    rw [hc] at hr
    simp only [hc, hr]
    cases hi : w.graph.cell r with
    | scalar _ =>
      rw [hi] at like
      cases like
    | _ => rfl
  | _ =>
    rw [hc] at hr
    cases hr

theorem Reads.outcome_load (reads : Reads s file p d) (e : Environment) :
    outcome (load file e) s =
      ((settingsOf p d).mapError .config).map (·.override (.ofEnvironment e)) := by
  obtain ⟨bytes, text, hb, ht, hy⟩ := reads.data
  rw [Config.outcome_load, reads.chosen]
  dsimp only
  rw [outcome_loadFile, reads.there]
  dsimp only
  rw [hb]
  unfold settingsIn
  dsimp only
  rw [ht]
  dsimp only
  rw [hy]

/-- Whether settings make up a file or stand in it under the program's name, loading it
ends alike, with the same settings or the same failure. Settings have their switches set
as the environment says and are otherwise as they were read; asking the
environment again changes nothing. -/
theorem load_wrapped (e : Environment) (wrapped : Reads s file p w) (plain : Reads s' file p d)
    (wraps : Wraps w d) (flat : IsFlat d) :
    outcome (load file e) s = outcome (load file e) s' ∧
      (outcome (load file e) s' = match Schema.read d.graph d.root with
        | .error f => .error (.config (.invalid f))
        | .ok c => .ok (c.switched e)) ∧
      ∀ (c : Settings) (now : Session),
        outcome (applyEnvironment (c.switched e) e) now = .ok (c.switched e) := by
  refine ⟨?_, ?_, fun c now => ?_⟩
  · rw [wrapped.outcome_load, plain.outcome_load, settingsOf_wrapped wraps flat]
  · rw [plain.outcome_load, settingsOf_flat flat]
    cases Schema.read d.graph d.root with
    | error f => rfl
    | ok c => exact congrArg _ (c.override_ofEnvironment e)
  · rw [outcome_applyEnvironment, ← Settings.override_ofEnvironment, Settings.override_override]

def onlyFile : Path := .ofString "/p/bracefence.yml"

theorem configured_reads {text : List Char} (h : Yaml.load (unifyNewlines text) = .ok d) :
    Reads (configured (Utf8.encode text)) (some onlyFile) onlyFile d :=
  ⟨rfl, rfl, _, text, rfl, Utf8.decode_encode text, h⟩

def wrappedSwitch : Document where
  graph := [.mapping [(.text "a", 2), (.text "bracefence", 4)], .scalar (.text "a"),
    .scalar .null, .scalar (.text "bracefence"), .mapping [(.text "disabled", 6)],
    .scalar (.text "disabled"), .scalar (.bool true)]
  root := 0

def isWrappedSwitch : Document → Bool
  | ⟨[.mapping [(.text "a", 2), (.text "bracefence", 4)], .scalar (.text "a"), .scalar .null,
      .scalar (.text "bracefence"), .mapping [(.text "disabled", 6)], .scalar (.text "disabled"),
      .scalar (.bool true)], 0⟩ => true
  | _ => false

def flatSwitch : Document where
  graph := [.mapping [(.text "disabled", 2)], .scalar (.text "disabled"), .scalar (.bool true)]
  root := 0

def isFlatSwitch : Document → Bool
  | ⟨[.mapping [(.text "disabled", 2)], .scalar (.text "disabled"), .scalar (.bool true)], 0⟩ =>
    true
  | _ => false

/-- Data are told by a test, since floats among them could not be compared. -/
theorem loads_of_test {text : List Char} (test : Document → Bool)
    (sound : ∀ other, test other = true → other = d)
    (h : (Yaml.load text).toOption.map test = some true) : Yaml.load text = .ok d := by
  obtain ⟨other, loaded, passed⟩ := Option.map_eq_some_iff.mp h
  rw [← sound other passed]
  exact ok_of_toOption loaded

theorem wraps_switch : Wraps wrappedSwitch flatSwitch := by
  refine ⟨4, rfl, .of_cells (S := fun x y => x = 4 ∧ y = 0 ∨ x = 6 ∧ y = 2) ?_ ?_ (.inl ⟨rfl, rfl⟩)⟩
  · rintro _ _ _ _ (⟨rfl, rfl⟩ | ⟨rfl, rfl⟩) (⟨rfl, rfl⟩ | ⟨rfl, rfl⟩) <;> decide
  · rintro _ _ (⟨rfl, rfl⟩ | ⟨rfl, rfl⟩)
    · exact .mapping (.cons ⟨.refl _, .inr ⟨rfl, rfl⟩⟩ .nil)
    · exact .scalar (.refl _)

theorem wrappedSwitch_loads :
    Yaml.load (unifyNewlines "a:\nbracefence: \x7bdisabled: on\x7d".toList) =
      .ok wrappedSwitch := by
  refine loads_of_test isWrappedSwitch (fun other passed => ?_) (by decide +kernel)
  unfold isWrappedSwitch at passed
  split at passed
  · rfl
  · cases passed

theorem flatSwitch_loads : Yaml.load (unifyNewlines "disabled: on".toList) = .ok flatSwitch := by
  refine loads_of_test isFlatSwitch (fun other passed => ?_) (by decide +kernel)
  unfold isFlatSwitch at passed
  split at passed
  · rfl
  · cases passed

/-- Turns the first switch off and the second one on, and leaves the third. -/
def offAndOn : Environment :=
  [(disableVariable, " Off "), (cleanVariable, "1"), (noFallbackVariable, " ")]

/-- A switch reads alike from under the program's name, with another entry beside it, and
from the top. The environment has the last word either way. -/
theorem wrapped_switch_overridden :
    let wrapped := configured (Utf8.encode "a:\nbracefence: \x7bdisabled: on\x7d".toList)
    let plain := configured (Utf8.encode "disabled: on".toList)
    Reads wrapped (some onlyFile) onlyFile wrappedSwitch ∧
      Reads plain (some onlyFile) onlyFile flatSwitch ∧
      Wraps wrappedSwitch flatSwitch ∧ IsFlat flatSwitch ∧
      outcome (load (some onlyFile) offAndOn) wrapped =
        outcome (load (some onlyFile) offAndOn) plain ∧
      outcome (load (some onlyFile) offAndOn) plain = .ok { cleanDocs := true } := by
  have wrapped := configured_reads wrappedSwitch_loads
  have plain := configured_reads flatSwitch_loads
  have flat : IsFlat flatSwitch := ⟨_, rfl, rfl⟩
  obtain ⟨same, read, -⟩ := load_wrapped offAndOn wrapped plain wraps_switch flat
  refine ⟨wrapped, plain, wraps_switch, flat, same, read.trans ?_⟩
  have fields : Schema.read flatSwitch.graph flatSwitch.root = .ok { disabled := true } := rfl
  rw [fields]
  exact congrArg Except.ok (by decide +kernel)

end Config

end DocBraces
