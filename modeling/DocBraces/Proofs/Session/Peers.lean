import DocBraces.Proofs.Session.Contents
import DocBraces.Proofs.Session.Failing

/-!
# Sessions that differ in what has been said

Printing and logging to the console touch no file. An activity that does nothing else, and
asks for nothing but the files, ends alike wherever the files and the surroundings are the
same, whatever has been said before.
-/

set_option autoImplicit false

namespace DocBraces.Session

open DocBraces.Files

variable {α β : Type} {s s' s'' : Session}

/-- The same files in the same surroundings, and no log among them. What has been printed
and how much is logged may differ. -/
structure Peers (s s' : Session) : Prop where
  tree : s'.tree = s.tree
  here : s'.here = s.here
  locked : s'.locked = s.locked
  unreadable : s'.unreadable = s.unreadable
  environment : s'.environment = s.environment
  programs : s'.programs = s.programs
  input : s'.input = s.input
  unlogged : s.logFile = none
  unlogged' : s'.logFile = none

namespace Peers

theorem said (unlogged : s.logFile = none) (output errors : String) :
    Peers s { s with output, errors } :=
  ⟨rfl, rfl, rfl, rfl, rfl, rfl, rfl, unlogged, unlogged⟩

theorem refl (unlogged : s.logFile = none) : Peers s s := said unlogged _ _

theorem symm (h : Peers s s') : Peers s' s :=
  ⟨h.tree.symm, h.here.symm, h.locked.symm, h.unreadable.symm, h.environment.symm,
    h.programs.symm, h.input.symm, h.unlogged', h.unlogged⟩

theorem trans (h : Peers s s') (h' : Peers s' s'') : Peers s s'' :=
  ⟨h'.tree.trans h.tree, h'.here.trans h.here, h'.locked.trans h.locked,
    h'.unreadable.trans h.unreadable, h'.environment.trans h.environment,
    h'.programs.trans h.programs, h'.input.trans h.input, h.unlogged, h'.unlogged'⟩

theorem record (h : Peers s s') (r : Log.Record) : Peers s (s'.record r) := by
  refine h.trans ?_
  unfold Session.record
  split
  · split
    · exact .refl h.unlogged'
    · exact said h.unlogged' _ _
  · rw [h.unlogged']
    exact ⟨rfl, rfl, rfl, rfl, rfl, rfl, rfl, h.unlogged', rfl⟩

theorem target (h : Peers s s') (follow : Bool) (path : String) :
    outcome (target follow path) s' = outcome (target follow path) s := by
  unfold Session.target
  split
  · rfl
  · rw [outcome_get_bind, outcome_get_bind, h.tree, h.here]
    split <;> rfl

theorem node? (h : Peers s s') (path : String) :
    outcome (node? path) s' = outcome (node? path) s := by
  unfold Session.node?
  split
  · rfl
  · rw [outcome_get_bind, outcome_get_bind, h.tree, h.here]
    split <;> rfl

theorem denies (h : Peers s s') (a : Access) (path : String) :
    s'.denies a path = s.denies a path := by
  unfold Session.denies
  rw [h.locked, h.here]

theorem opening (h : Peers s s') (a : Access) (path : String) :
    outcome (opening a path) s' = outcome (opening a path) s := by
  rw [outcome_opening, outcome_opening, h.denies, h.target]

theorem realPath (h : Peers s s') (p : Path) :
    outcome (realPath p) s' = outcome (realPath p) s := by
  unfold Session.realPath
  dsimp only
  by_cases nul : hasNul p.toString = true
  · rw [if_pos nul]
    rfl
  · rw [if_neg nul, outcome_get_bind, outcome_get_bind, h.tree, h.here]
    generalize (if p.root = .relative then s.here else []) = start
    split <;> rfl

theorem landing (h : Peers s s') (p : Path) : s'.landing p = s.landing p := by
  unfold Session.landing
  rw [h.opening]

end Peers

structure Observes (act : Run α) : Prop where
  same : ∀ {s s'}, Peers s s' → outcome act s' = outcome act s
  kept : ∀ {s}, s.logFile = none → Peers s (after act s)

namespace Observes

theorem pure (a : α) : Observes (pure a) := ⟨fun _ => rfl, .refl⟩

theorem throw (f : Failure) : Observes (throw f : Run α) := ⟨fun _ => rfl, .refl⟩

theorem of_looks {act : Run α} (looks : Looks act)
    (same : ∀ {s s'}, Peers s s' → outcome act s' = outcome act s) : Observes act where
  same := same
  kept unlogged := (looks _).symm ▸ .refl unlogged

theorem after_peers {act : Run α} (h : Observes act) (peers : Peers s s') :
    Peers (after act s) (after act s') :=
  (h.kept peers.unlogged).symm.trans (peers.trans (h.kept peers.unlogged'))

theorem bind {act : Run α} {f : α → Run β} (h : Observes act) (hf : ∀ a, Observes (f a)) :
    Observes (act >>= f) where
  same {s s'} peers := by
    rw [outcome_bind, outcome_bind, h.same peers]
    cases outcome act s with
    | error e => rfl
    | ok a => exact (hf a).same (h.after_peers peers)
  kept {s} unlogged := by
    have first := h.kept unlogged
    rw [after_bind]
    cases outcome act s with
    | error e => exact first
    | ok a => exact first.trans ((hf a).kept first.unlogged')

theorem tryCatch {act : Run α} {handle : Failure → Run α} (h : Observes act)
    (hh : ∀ f, Observes (handle f)) : Observes (tryCatch act handle) where
  same {s s'} peers := by
    rw [outcome_tryCatch, outcome_tryCatch, h.same peers]
    cases outcome act s with
    | error e => exact (hh e).same (h.after_peers peers)
    | ok a => rfl
  kept {s} unlogged := by
    have first := h.kept unlogged
    rw [after_tryCatch]
    cases outcome act s with
    | error e => exact first.trans ((hh e).kept first.unlogged')
    | ok a => exact first

theorem log (logger : String) (level : Nat) (message : String) :
    Observes (log logger level message) where
  same _ := rfl
  kept unlogged := (Peers.refl unlogged).record _

theorem print (text : String) : Observes (print text) :=
  ⟨fun _ => rfl, fun unlogged => .said unlogged _ _⟩

theorem complain (text : String) : Observes (complain text) :=
  ⟨fun _ => rfl, fun unlogged => .said unlogged _ _⟩

theorem map {act : Run α} (h : Observes act) (f : α → β) : Observes (f <$> act) := by
  rw [← bind_pure_comp]
  exact h.bind fun _ => .pure _

theorem currentFolder : Observes currentFolder :=
  of_looks (.bind .get fun _ => .pure _) fun peers =>
    congrArg (fun here => Except.ok (pathOfPlace here)) peers.here

theorem catches : Catches Observes := ⟨⟨.pure, .bind⟩, .throw, .tryCatch⟩

theorem isFile (p : Path) : Observes (isFile p) :=
  catches.isFile (of_looks (node?_looks _) (·.node? _))

theorem readBytes (p : Path) : Observes (readBytes p) :=
  catches.readBytes (fun _ => .throw _) (of_looks (opening_looks _ _) (·.opening _ _))

theorem realPath (p : Path) : Observes (realPath p) := of_looks (realPath_looks p) (·.realPath p)

end Observes

end DocBraces.Session
