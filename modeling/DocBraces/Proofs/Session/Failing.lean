import DocBraces.Proofs.Session.Contents

/-! What activities of a session can fail with. Looking for a file fails only where a name
is too long, and reading a file that has been found only as files do. -/

set_option autoImplicit false

namespace DocBraces.Session

open DocBraces.Files

variable {α β : Type} {P : Failure → Prop}

theorem outcome_tryCatch (act : Run α) (handle : Failure → Run α) (s : Session) :
    outcome (tryCatch act handle) s = match outcome act s with
      | .ok a => .ok a
      | .error e => outcome (handle e) (after act s) := by
  change ((ExceptT.tryCatch act handle).run s).1 = _
  simp only [ExceptT.tryCatch, ExceptT.run, ExceptT.mk, bind, StateT.bind, outcome, after]
  rcases act s with ⟨a | e, s'⟩ <;> rfl

theorem outcome_map (f : α → β) (act : Run α) (s : Session) :
    outcome (f <$> act) s = (outcome act s).map f := by
  rw [← bind_pure_comp, outcome_bind]
  cases outcome act s <;> rfl

theorem ok_of_toOption {ε : Type} {x : Except ε α} {a : α} (h : x.toOption = some a) :
    x = .ok a := by
  cases x with
  | error f => cases h
  | ok b => exact congrArg Except.ok (Option.some.inj h)

theorem ok_of_bind {act : Run α} {f : α → Run β} {s : Session} {b : β}
    (h : outcome (act >>= f) s = .ok b) : ∃ a, outcome act s = .ok a ∧
      outcome (f a) (after act s) = .ok b ∧ after (act >>= f) s = after (f a) (after act s) := by
  rw [outcome_bind] at h
  rw [after_bind]
  cases ha : outcome act s with
  | error e =>
    rw [ha] at h
    cases h
  | ok a =>
    rw [ha] at h
    exact ⟨a, rfl, h, rfl⟩

theorem bind_of_ok {act : Run α} {a : α} {s : Session} (h : outcome act s = .ok a)
    (f : α → Run β) : outcome (act >>= f) s = outcome (f a) (after act s) ∧
      after (act >>= f) s = after (f a) (after act s) := by
  rw [outcome_bind, after_bind, h]
  exact ⟨rfl, rfl⟩

theorem after_map (f : α → β) (act : Run α) (s : Session) : after (f <$> act) s = after act s := by
  rw [← bind_pure_comp, after_bind]
  cases outcome act s <;> rfl

theorem outcome_mapM {f : α → Run β} (hf : ∀ a, Looks (f a)) (xs : List α) (s : Session) :
    outcome (xs.mapM f) s = xs.mapM fun x => outcome (f x) s := by
  induction xs with
  | nil => rfl
  | cons x xs ih =>
    rw [List.mapM_cons, List.mapM_cons, outcome_bind, hf x]
    cases outcome (f x) s with
    | error e => rfl
    | ok y =>
      dsimp only
      rw [outcome_bind, Looks.composes.mapM hf xs, ih]
      cases xs.mapM fun x => outcome (f x) s <;> rfl

def Fails (P : Failure → Prop) (act : Run α) : Prop := ∀ s f, outcome act s = .error f → P f

theorem Fails.pure (a : α) : Fails P (pure a) := fun _ _ h => nomatch h

theorem Fails.throw {f : Failure} (h : P f) : Fails P (throw f : Run α) := by
  intro s g hg
  obtain rfl := Except.error.inj hg
  exact h

theorem Fails.bind {act : Run α} {f : α → Run β} (h : Fails P act) (hf : ∀ a, Fails P (f a)) :
    Fails P (act >>= f) := by
  intro s g hg
  rw [outcome_bind] at hg
  cases ho : outcome act s with
  | error e =>
    rw [ho] at hg
    obtain rfl := Except.error.inj hg
    exact h s e ho
  | ok a =>
    rw [ho] at hg
    exact hf a _ g hg

theorem Fails.composes (P : Failure → Prop) : Composes (Fails P) := ⟨.pure, .bind⟩

theorem Fails.get_bind {f : Session → Run α} (hf : ∀ s, Fails P (f s)) : Fails P (get >>= f) :=
  fun s g hg => hf s s g hg

theorem Fails.get : Fails P (get : Run Session) := fun _ _ h => nomatch h

theorem Fails.modify (f : Session → Session) : Fails P (modify f : Run Unit) :=
  fun _ _ h => nomatch h

theorem Fails.tryCatch {act : Run α} {handle : Failure → Run α} (h : Fails P act)
    (hh : ∀ f, P f → Fails P (handle f)) : Fails P (tryCatch act handle) := by
  intro s g hg
  rw [outcome_tryCatch] at hg
  cases ho : outcome act s with
  | ok a =>
    rw [ho] at hg
    cases hg
  | error f =>
    rw [ho] at hg
    exact hh f (h s f ho) _ g hg

theorem Fails.foldlM {f : β → α → Run β} (hf : ∀ b a, Fails P (f b a)) (xs : List α) (b : β) :
    Fails P (xs.foldlM f b) := by
  induction xs generalizing b with
  | nil => exact .pure b
  | cons x xs ih =>
    rw [List.foldlM_cons]
    exact .bind (hf b x) ih

theorem Fails.bind_error {act : Run α} {g : α → Run β} {s : Session} {f : Failure}
    (h : Fails P act) (hf : ¬ P f) : outcome (act >>= g) s = .error f ↔
      ∃ a, outcome act s = .ok a ∧ outcome (g a) (after act s) = .error f := by
  rw [outcome_bind]
  cases ho : outcome act s with
  | error e =>
    have other : e ≠ f := by
      rintro rfl
      exact hf (h s e ho)
    simp [other]
  | ok a => simp

theorem Fails.imp {Q : Failure → Prop} {act : Run α} (h : Fails P act) (hpq : ∀ f, P f → Q f) :
    Fails Q act :=
  fun s f hf => hpq f (h s f hf)

def Failure.IsFile (f : Failure) : Prop := ∃ fault, f = .file fault

/-- A failure that comes of a path: the file system reports it, the path is none, or links
lead in circles. -/
def Failure.OfPath (f : Failure) : Prop := f.IsFile ∨ f = .embeddedNul ∨ ∃ path, f = .circle path

theorem node?_fails (path : String) : Fails (· = .file ⟨.nameTooLong, path⟩) (node? path) := by
  unfold Session.node?
  split
  · exact .pure _
  · refine .get_bind fun s => ?_
    split
    · exact .pure _
    · exact .pure _
    · exact .throw rfl
    · exact .pure _

theorem isFile_fails (p : Path) : Fails (· = .file ⟨.nameTooLong, p.toString⟩) (isFile p) :=
  (Fails.composes _).isFile (node?_fails _)

theorem opening_fails (a : Access) {path : String} (hn : hasNul path = false) :
    Fails Failure.IsFile (opening a path) := by
  unfold opening
  refine .get_bind fun s => ?_
  split
  · exact .throw ⟨_, rfl⟩
  · unfold target
    rw [if_neg (by simp [hn])]
    refine .get_bind fun s => ?_
    split
    · exact .pure _
    · exact .throw ⟨_, rfl⟩

theorem opening_ofPath (a : Access) (path : String) : Fails Failure.OfPath (opening a path) := by
  cases hn : hasNul path with
  | false => exact (opening_fails a hn).imp fun f hf => .inl hf
  | true =>
    unfold opening
    refine .get_bind fun s => ?_
    split
    · exact .throw (.inl ⟨_, rfl⟩)
    · unfold target
      rw [if_pos hn]
      exact .throw (.inr (.inl rfl))

theorem readBytes_ofPath (p : Path) : Fails Failure.OfPath (readBytes p) :=
  (Fails.composes _).readBytes (fun _ => .throw (.inl ⟨_, rfl⟩)) (opening_ofPath _ _)

theorem writeBytes_ofPath (p : Path) (bytes : List UInt8) :
    Fails Failure.OfPath (writeBytes p bytes) :=
  .bind (opening_ofPath _ _) fun t => by
    split
    · exact .throw (.inl ⟨_, rfl⟩)
    · exact .get_bind fun s => .modify _

theorem readBytes_fails {p : Path} (hn : hasNul p.toString = false) :
    Fails Failure.IsFile (readBytes p) :=
  (Fails.composes _).readBytes (fun _ => .throw ⟨_, rfl⟩) (opening_fails _ hn)

theorem hasNul_of_isFile {p : Path} {s : Session} (h : outcome (isFile p) s = .ok true) :
    hasNul p.toString = false := by
  obtain ⟨place, bs, hv⟩ := (isFile_ok h).mp rfl
  exact (target_ok.mp (viewed_iff.mp hv)).1

theorem viewed_isFolder {p : Path} {s : Session} :
    s.view.isFolder p = true ↔ outcome (isFolder p) s = .ok true := by
  unfold isFolder
  rw [outcome_bind]
  constructor
  · intro h
    unfold View.isFolder at h
    split at h
    · next place hv =>
      obtain ⟨hn, hr⟩ := target_ok.mp (viewed_iff.mp hv)
      have there : outcome (Session.node? p.toString) s = .ok (some .folder) := by
        unfold Session.node?
        rw [if_neg (by simp [hn]), outcome_get_bind, hr]
        rfl
      rw [there]
      rfl
    · cases h
  · intro h
    cases hn : outcome (Session.node? p.toString) s with
    | error f => simp [hn] at h
    | ok n =>
      rw [hn, node?_ok hn] at h
      unfold View.isFolder
      cases hv : s.view.node? true p with
      | none => simp [hv] at h
      | some found =>
        obtain ⟨place, node⟩ := found
        rw [hv] at h
        cases node <;> first | rfl | cases h

theorem short_of_isFile {p : Path} {s : Session} {b : Bool} (h : outcome (isFile p) s = .ok b) :
    s.view.isOverlong p = false := by
  obtain ⟨n, hn, _⟩ := ok_of_bind h
  unfold Session.node? at hn
  unfold View.isOverlong
  split
  · rfl
  · next hnul =>
    rw [if_neg hnul, outcome_get_bind] at hn
    split
    · next hr =>
      change s.tree.resolve true s.here p.toString = _ at hr
      rw [hr] at hn
      cases hn
    · rfl

theorem realPath_fails (p : Path) :
    Fails (fun f => f = .embeddedNul ∨ ∃ path, f = .circle path) (realPath p) := by
  unfold realPath
  dsimp only
  split
  · exact .throw (.inl rfl)
  · refine .get_bind fun s => ?_
    split
    · exact .throw (.inr ⟨_, rfl⟩)
    · exact .pure _

theorem realPath_looks (p : Path) : Looks (realPath p) := by
  unfold realPath
  dsimp only
  split
  · exact .throw _
  · refine .bind .get fun s => ?_
    split
    · exact .throw _
    · exact .pure _

end DocBraces.Session
