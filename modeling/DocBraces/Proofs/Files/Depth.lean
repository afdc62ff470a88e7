import DocBraces.Proofs.Files.Selection

/-!
# Deep and long ways down

A walk goes through the folders below a path as far as the stack has levels left, and
fails where a path becomes too long. It ends well only if neither stands in its way.
-/

set_option autoImplicit false

namespace DocBraces.Files

namespace View

variable {α : Type} {v : View} {look : Path → Except WalkFault (List α)} {levels : Nat}
  {p q : Path}

/-- So many folders lie one in the other below a path. -/
def Nests (v : View) : Nat → Path → Prop
  | 0, _ => True
  | n + 1, p => ∃ name, v.entry? p name = some .folder ∧ v.Nests n (p.child name)

/-- Paths that a walk comes to from a path, with no link on the way. -/
inductive Below (v : View) : Path → Path → Prop
  | refl (p : Path) : Below v p p
  | down {p q : Path} {name : String} :
      v.entry? p name = some .folder → Below v (p.child name) q → Below v p q

theorem mem_names_of_entry {name : String} {n : Node} (h : v.entry? p name = some n) :
    name ∈ v.names p := by
  unfold entry? at h
  unfold names
  split at h
  · exact Tree.mem_children.mpr (h ▸ rfl)
  · cases h

theorem scan_error {f : WalkFault} (h : v.scan p = .error f) :
    v.isOverlong p = true ∧ f = .file ⟨.nameTooLong, p.toString⟩ := by
  unfold scan at h
  split at h
  · next long => exact ⟨long, (Except.error.inj h).symm⟩
  · cases h

def onward (v : View) (look : Path → Except WalkFault (List α)) (levels : Nat) (p : Path)
    (name : String) : Except WalkFault (List α) :=
  if v.entry? p name = some .folder then v.walk look levels (p.child name) else .ok []

theorem walk_succ (v : View) (look : Path → Except WalkFault (List α)) (levels : Nat) (p : Path) :
    v.walk look (levels + 1) p = match look p with
      | .error f => .error f
      | .ok found => if v.isOverlong p then overlong p
        else ((v.names p).mapM (v.onward look levels p)).map fun below =>
          found ++ below.flatten := by
  rw [walk, scan]
  cases look p with
  | error f => rfl
  | ok found =>
    cases v.isOverlong p with
    | true => rfl
    | false =>
      change ((v.names p).mapM (v.onward look levels p) >>= _) = _
      cases (v.names p).mapM (v.onward look levels p) <;> rfl

theorem walk_ok {xs : List α} (h : v.walk look (levels + 1) p = .ok xs) :
    v.isOverlong p = false ∧ ∀ name, v.entry? p name = some .folder →
      ∃ ys, v.walk look levels (p.child name) = .ok ys := by
  rw [walk_succ] at h
  split at h
  · cases h
  · split at h
    · cases h
    · next short =>
      refine ⟨Bool.eq_false_iff.mpr short, fun name entered => ?_⟩
      cases hm : (v.names p).mapM (v.onward look levels p) with
      | error f =>
        rw [hm] at h
        cases h
      | ok below =>
        obtain ⟨ys, _, hy⟩ := ok_of_mapM hm (mem_names_of_entry entered)
        rw [onward, if_pos entered] at hy
        exact ⟨ys, hy⟩

theorem walk_error {f : WalkFault} (h : v.walk look (levels + 1) p = .error f) :
    look p = .error f ∨ (v.isOverlong p = true ∧ f = .file ⟨.nameTooLong, p.toString⟩) ∨
      ∃ name, v.entry? p name = some .folder ∧ v.walk look levels (p.child name) = .error f := by
  rw [walk_succ] at h
  split at h
  · next f' hl => exact .inl (hl.trans (congrArg _ (Except.error.inj h)))
  · split at h
    · next long => exact .inr (.inl ⟨long, (Except.error.inj h).symm⟩)
    · refine .inr (.inr ?_)
      cases hm : (v.names p).mapM (v.onward look levels p) with
      | ok below =>
        rw [hm] at h
        cases h
      | error f' =>
        rw [hm] at h
        obtain rfl := Except.error.inj h
        obtain ⟨_, name, _, _, _, hf⟩ := mapM_error_iff.mp hm
        unfold onward at hf
        split at hf
        · next entered => exact ⟨name, entered, hf⟩
        · cases hf

theorem walk_not_nests {xs : List α} (h : v.walk look levels p = .ok xs) :
    ¬ v.Nests levels p := by
  induction levels generalizing p xs with
  | zero =>
    unfold walk at h
    cases hl : look p <;> simp [hl, bind, Except.bind] at h
  | succ levels ih =>
    rintro ⟨name, entered, nests⟩
    obtain ⟨ys, hy⟩ := (walk_ok h).2 name entered
    exact ih hy nests

theorem walk_short {xs : List α} (h : v.walk look levels p = .ok xs) (below : v.Below p q) :
    v.isOverlong q = false := by
  induction below generalizing levels xs with
  | refl p =>
    cases levels with
    | zero => exact absurd trivial (walk_not_nests h)
    | succ levels => exact (walk_ok h).1
  | down entered _ ih =>
    cases levels with
    | zero => exact absurd trivial (walk_not_nests h)
    | succ levels =>
      obtain ⟨ys, hy⟩ := (walk_ok h).2 _ entered
      exact ih hy

theorem walk_tooDeep (hl : ∀ q, look q ≠ .error .tooDeep)
    (h : v.walk look levels p = .error .tooDeep) : v.Nests levels p := by
  induction levels generalizing p with
  | zero => trivial
  | succ levels ih =>
    obtain h | ⟨_, h⟩ | ⟨name, entered, h⟩ := walk_error h
    · exact absurd h (hl p)
    · cases h
    · exact ⟨name, entered, ih h⟩

/-- Only a path that is too long makes a walk fail with a fault of a file. -/
theorem walk_file {f : Fault} (hl : ∀ q g, look q = .error (.file g) → v.isOverlong q = true)
    (h : v.walk look levels p = .error (.file f)) : ∃ q, v.Below p q ∧ v.isOverlong q = true := by
  induction levels generalizing p with
  | zero =>
    unfold walk at h
    cases hp : look p with
    | error g =>
      rw [hp] at h
      obtain rfl := Except.error.inj h
      exact ⟨p, .refl p, hl p f hp⟩
    | ok found =>
      rw [hp] at h
      cases h
  | succ levels ih =>
    obtain h | ⟨long, _⟩ | ⟨name, entered, h⟩ := walk_error h
    · exact ⟨p, .refl p, hl p f h⟩
    · exact ⟨p, .refl p, long⟩
    · obtain ⟨q, below, long⟩ := ih h
      exact ⟨q, .down entered below, long⟩

end View

end DocBraces.Files
