import DocBraces.Proofs.Files.Walking
import DocBraces.Session.Files

/-! How activities of a session end and what they leave. A property is kept by an
activity if it outlasts every run of it, also one that fails. -/

set_option autoImplicit false

namespace DocBraces.Session

open DocBraces.Files

variable {α β : Type}

def outcome (act : Run α) (s : Session) : Except Failure α := (act.run s).1

/-- The session that an activity leaves, however it ends. -/
def after (act : Run α) (s : Session) : Session := (act.run s).2

@[simp] theorem outcome_pure (a : α) (s : Session) : outcome (pure a) s = .ok a := rfl

@[simp] theorem after_pure (a : α) (s : Session) : after (pure a) s = s := rfl

@[simp] theorem outcome_throw (f : Failure) (s : Session) :
    outcome (throw f : Run α) s = .error f := rfl

@[simp] theorem after_throw (f : Failure) (s : Session) : after (throw f : Run α) s = s := rfl

@[simp] theorem outcome_get_bind (f : Session → Run α) (s : Session) :
    outcome (get >>= f) s = outcome (f s) s := rfl

@[simp] theorem after_get_bind (f : Session → Run α) (s : Session) :
    after (get >>= f) s = after (f s) s := rfl

/-- An activity on any world goes on from the world that its first part leaves. -/
theorem run_bind {ω ε : Type} (act : ExceptT ε (StateM ω) α) (f : α → ExceptT ε (StateM ω) β)
    (w : ω) : (act >>= f).run w = match act.run w with
      | (.ok a, w') => (f a).run w'
      | (.error e, w') => (.error e, w') := by
  change (ExceptT.bind act f).run w = _
  simp only [ExceptT.bind, ExceptT.run, ExceptT.mk, bind, StateT.bind]
  rcases act w with ⟨a | e, w'⟩ <;> rfl

theorem outcome_bind (act : Run α) (f : α → Run β) (s : Session) :
    outcome (act >>= f) s = match outcome act s with
      | .ok a => outcome (f a) (after act s)
      | .error e => .error e := by
  simp only [outcome, after, run_bind]
  rcases act.run s with ⟨a | e, s'⟩ <;> rfl

theorem after_bind (act : Run α) (f : α → Run β) (s : Session) :
    after (act >>= f) s = match outcome act s with
      | .ok a => after (f a) (after act s)
      | .error _ => after act s := by
  simp only [outcome, after, run_bind]
  rcases act.run s with ⟨a | e, s'⟩ <;> rfl

theorem after_tryCatch (act : Run α) (handle : Failure → Run α) (s : Session) :
    after (tryCatch act handle) s = match outcome act s with
      | .ok _ => after act s
      | .error e => after (handle e) (after act s) := by
  change ((ExceptT.tryCatch act handle).run s).2 = _
  simp only [ExceptT.tryCatch, ExceptT.run, ExceptT.mk, bind, StateT.bind, outcome, after]
  rcases act s with ⟨a | e, s'⟩ <;> rfl

def Keeps (P : Session → Prop) (act : Run α) : Prop := ∀ s, P s → P (after act s)

variable {P : Session → Prop}

theorem Keeps.after_bind {act : Run α} {f : α → Run β} (hf : ∀ a, Keeps P (f a)) {s : Session}
    (h : P (after act s)) : P (after (act >>= f) s) := by
  rw [Session.after_bind]
  split
  · exact hf _ _ h
  · exact h

theorem Keeps.bind {act : Run α} {f : α → Run β} (h : Keeps P act) (hf : ∀ a, Keeps P (f a)) :
    Keeps P (act >>= f) :=
  fun s hs => Keeps.after_bind hf (h s hs)

theorem Keeps.tryCatch {act : Run α} {handle : Failure → Run α} (h : Keeps P act)
    (hh : ∀ e, Keeps P (handle e)) : Keeps P (tryCatch act handle) := by
  intro s hs
  rw [after_tryCatch]
  split
  · exact h s hs
  · exact hh _ _ (h s hs)

theorem Keeps.pure (a : α) : Keeps P (pure a) := fun _ h => h

theorem Keeps.throw (f : Failure) : Keeps P (throw f : Run α) := fun _ h => h

structure Composes (P : ∀ {α : Type}, Run α → Prop) : Prop where
  pure : ∀ {α : Type} (a : α), P (pure a : Run α)
  bind : ∀ {α β : Type} {act : Run α} {f : α → Run β}, P act → (∀ a, P (f a)) → P (act >>= f)

structure Catches (P : ∀ {α : Type}, Run α → Prop) : Prop extends Composes P where
  throw : ∀ {α : Type} (f : Failure), P (throw f : Run α)
  tryCatch : ∀ {α : Type} {act : Run α} {handle : Failure → Run α}, P act →
    (∀ f, P (handle f)) → P (tryCatch act handle)

theorem Keeps.catches (P : Session → Prop) : Catches (Keeps P) :=
  ⟨⟨.pure, .bind⟩, .throw, .tryCatch⟩

namespace Composes

variable {Q : ∀ {α : Type}, Run α → Prop}

theorem mapM (h : Composes Q) {f : α → Run β} (hf : ∀ a, Q (f a)) (xs : List α) :
    Q (xs.mapM f) := by
  induction xs with
  | nil => exact h.pure _
  | cons x xs ih =>
    rw [List.mapM_cons]
    exact h.bind (hf x) fun _ => h.bind ih fun _ => h.pure _

theorem isFile (h : Composes Q) {p : Path} (looks : Q (node? p.toString)) : Q (isFile p) :=
  h.bind looks fun n => by
    split <;> exact h.pure _

theorem isFolder (h : Composes Q) {p : Path} (looks : Q (node? p.toString)) : Q (isFolder p) :=
  h.bind looks fun n => by
    split <;> exact h.pure _

theorem readBytes (h : Composes Q) (fails : ∀ fault, Q (throw (.file fault) : Run (List UInt8)))
    {p : Path} (opens : Q (opening .reading p.toString)) : Q (readBytes p) :=
  h.bind opens fun t => by
    split
    · exact h.pure _
    · exact fails _
    · exact fails _

end Composes

def Looks (act : Run α) : Prop := ∀ s, after act s = s

theorem Looks.keeps {act : Run α} (h : Looks act) (P : Session → Prop) : Keeps P act := by
  intro s hs
  rwa [h s]

theorem Looks.bind {act : Run α} {f : α → Run β} (h : Looks act) (hf : ∀ a, Looks (f a)) :
    Looks (act >>= f) := by
  intro s
  rw [after_bind, h s]
  split
  · exact hf _ s
  · rfl

theorem Looks.pure (a : α) : Looks (pure a) := fun _ => rfl

theorem Looks.throw (f : Failure) : Looks (throw f : Run α) := fun _ => rfl

theorem Looks.get : Looks (get : Run Session) := fun _ => rfl

theorem Looks.composes : Composes Looks := ⟨.pure, .bind⟩

theorem target_looks (follow : Bool) (path : String) : Looks (target follow path) := by
  intro s
  unfold target
  split
  · rfl
  · rw [after_get_bind]
    split <;> rfl

theorem node?_looks (path : String) : Looks (node? path) := by
  intro s
  unfold node?
  split
  · rfl
  · rw [after_get_bind]
    split <;> rfl

theorem isFile_looks (p : Path) : Looks (isFile p) := Looks.composes.isFile (node?_looks _)

theorem isFolder_looks (p : Path) : Looks (isFolder p) := Looks.composes.isFolder (node?_looks _)

theorem opening_looks (a : Access) (path : String) : Looks (opening a path) := by
  intro s
  unfold opening
  rw [after_get_bind]
  split
  · rfl
  · exact target_looks true path s

theorem readBytes_looks (p : Path) : Looks (readBytes p) :=
  Looks.composes.readBytes (fun _ => .throw _) (opening_looks _ _)

end DocBraces.Session
