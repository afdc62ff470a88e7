import DocBraces.CommandLine.Run
import DocBraces.Proofs.Session.Failing

/-! How acts of a command line end: with a value, with an exit status, or with a failure
that nothing catches. Printing never fails. -/

set_option autoImplicit false

namespace DocBraces.CommandLine

open DocBraces.Files DocBraces.Session

variable {α β : Type}

/-- How an act ends; an exit status is not a failure. -/
def ending (act : Act α) (s : Session) : Except Failure (Except Nat α) := outcome act.run s

def left (act : Act α) (s : Session) : Session := after act.run s

@[simp] theorem left_pure (a : α) (s : Session) : left (pure a) s = s := rfl

theorem ending_run (r : Run α) (s : Session) : ending (run r) s = (outcome r s).map .ok := by
  change outcome (ExceptT.run (ExceptT.lift r)) s = _
  rw [ExceptT.run_lift, ← bind_pure_comp, outcome_bind]
  cases outcome r s <;> rfl

theorem left_run (r : Run α) (s : Session) : left (run r) s = after r s := by
  change after (ExceptT.run (ExceptT.lift r)) s = _
  rw [ExceptT.run_lift, ← bind_pure_comp, after_bind]
  cases outcome r s <;> rfl

theorem ending_bind (act : Act α) (f : α → Act β) (s : Session) :
    ending (act >>= f) s = match ending act s with
      | .ok (.ok a) => ending (f a) (left act s)
      | .ok (.error n) => .ok (.error n)
      | .error e => .error e := by
  unfold ending left
  rw [ExceptT.run_bind, outcome_bind]
  rcases outcome act.run s with e | (n | a) <;> rfl

theorem left_bind (act : Act α) (f : α → Act β) (s : Session) :
    left (act >>= f) s = match ending act s with
      | .ok (.ok a) => left (f a) (left act s)
      | _ => left act s := by
  unfold left ending
  rw [ExceptT.run_bind, after_bind]
  rcases outcome act.run s with e | (n | a) <;> rfl

/-- An act ends with a value, and leaves a session. -/
structure Ends (act : Act α) (s : Session) (a : α) (s' : Session) : Prop where
  ending : ending act s = .ok (.ok a)
  left : left act s = s'

section

variable {s s' s'' : Session} {act : Act α} {f : α → Act β} {a : α} {b : β}

theorem Ends.pure (a : α) (s : Session) : Ends (pure a) s a s := ⟨rfl, rfl⟩

theorem Ends.ending_bind (h : Ends act s a s') : CommandLine.ending (act >>= f) s =
    CommandLine.ending (f a) s' := by
  rw [CommandLine.ending_bind, h.ending]
  dsimp only
  rw [h.left]

theorem Ends.left_bind (h : Ends act s a s') : CommandLine.left (act >>= f) s =
    CommandLine.left (f a) s' := by
  rw [CommandLine.left_bind, h.ending]
  dsimp only
  rw [h.left]

theorem Ends.bind (h : Ends act s a s') (hf : Ends (f a) s' b s'') : Ends (act >>= f) s b s'' :=
  ⟨h.ending_bind.trans hf.ending, h.left_bind.trans hf.left⟩

theorem Ends.forIn {f : α → PUnit → Act (ForInStep PUnit)} {xs : List α} {s : Session}
    (h : ∀ x ∈ xs, Ends (f x .unit) s (.yield .unit) s) : Ends (forIn xs .unit f) s .unit s := by
  induction xs with
  | nil => exact .pure _ s
  | cons x xs ih =>
    rw [List.forIn_cons]
    exact .bind (h x (.head _)) (ih fun y hy => h y (.tail _ hy))

theorem Ends.unique (h : Ends act s a s') {a' : α} (h' : Ends act s a' s'') : a' = a ∧ s'' = s' :=
  ⟨Except.ok.inj (Except.ok.inj (h'.ending.symm.trans h.ending)), h'.left.symm.trans h.left⟩

theorem Ends.run {r : Run α} (h : outcome r s = .ok a) : Ends (run r) s a (after r s) := by
  refine ⟨?_, left_run r s⟩
  rw [ending_run, h]
  rfl

theorem Ends.lift (m : StateM Session α) (s : Session) :
    Ends (CommandLine.run (ExceptT.lift m)) s (m s).1 (m s).2 := ⟨rfl, rfl⟩

end

def FailsAs (P : Failure → Prop) (act : Act α) : Prop := ∀ s f, ending act s = .error f → P f

section

variable {P : Failure → Prop}

theorem FailsAs.pure (a : α) : FailsAs P (pure a) := fun _ _ => nofun

theorem FailsAs.exit (n : Nat) : FailsAs P (exit n : Act α) := fun _ _ => nofun

theorem FailsAs.run {r : Run α} (h : Fails P r) : FailsAs P (run r) := by
  intro s f hf
  rw [ending_run] at hf
  cases ho : outcome r s with
  | ok a =>
    rw [ho] at hf
    cases hf
  | error g =>
    rw [ho] at hf
    obtain rfl := Except.error.inj hf
    exact h s g ho

theorem FailsAs.bind {act : Act α} {f : α → Act β} (h : FailsAs P act)
    (hf : ∀ a, FailsAs P (f a)) : FailsAs P (act >>= f) := by
  intro s e he
  rw [ending_bind] at he
  rcases ha : ending act s with g | (n | a)
  · rw [ha] at he
    obtain rfl := Except.error.inj he
    exact h s g ha
  · rw [ha] at he
    cases he
  · rw [ha] at he
    exact hf a _ e he

theorem FailsAs.bind_error {act : Act α} {g : α → Act β} {s : Session} {f : Failure}
    (h : FailsAs P act) (hf : ¬ P f) : ending (act >>= g) s = .error f ↔
      ∃ a s', Ends act s a s' ∧ ending (g a) s' = .error f := by
  constructor
  · intro he
    rw [ending_bind] at he
    rcases ha : ending act s with e | (n | a)
    · rw [ha] at he
      obtain rfl := Except.error.inj he
      exact absurd (h s e ha) hf
    · rw [ha] at he
      cases he
    · rw [ha] at he
      exact ⟨a, _, ⟨ha, rfl⟩, he⟩
  · rintro ⟨a, s', ends, he⟩
    exact ends.ending_bind.trans he

end

def Unfailing (act : Act α) : Prop := ∀ s f, ending act s ≠ .error f

theorem Unfailing.failsAs {P : Failure → Prop} {act : Act α} (h : Unfailing act) :
    FailsAs P act :=
  fun s f hf => absurd hf (h s f)

theorem Unfailing.pure (a : α) : Unfailing (pure a) := fun _ _ => nofun

theorem Unfailing.exit (n : Nat) : Unfailing (exit n : Act α) := fun _ _ => nofun

theorem Unfailing.bind {act : Act α} {f : α → Act β} (h : Unfailing act)
    (hf : ∀ a, Unfailing (f a)) : Unfailing (act >>= f) := by
  intro s e
  rw [ending_bind]
  rcases ha : ending act s with g | (n | a)
  · exact absurd ha (h s g)
  · exact nofun
  · exact hf a _ e

theorem say_unfailing (text : String) : Unfailing (say text) := fun _ _ => nofun

theorem complain_unfailing (text : String) : Unfailing (complain text) := fun _ _ => nofun

theorem sayLine_unfailing (text : String) : Unfailing (sayLine text) := say_unfailing _

theorem sayItems_unfailing (items : List String) : Unfailing (sayItems items) := by
  unfold sayItems
  induction items with
  | nil => exact .pure _
  | cons t ts ih =>
    exact .bind (sayLine_unfailing _) fun _ => ih

end DocBraces.CommandLine
