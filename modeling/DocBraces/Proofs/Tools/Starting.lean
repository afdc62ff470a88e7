import DocBraces.Tools.Start

/-!
# What is run and what is not

A command runs just if its words can be handed over and its first one names a tool that is
found. Whatever else it comes to, it has not run, and then it has done nothing to the files.
-/

set_option autoImplicit false

namespace DocBraces.Tools

open DocBraces.Files DocBraces.Render

/-- An ending of something that has run, be it in time or not. -/
def HasRun : Ending → Prop
  | .exited _ _ _ => True
  | .timedOut => True
  | _ => False

/-- The words of a command can be handed over to a tool that is found. -/
structure Startable (v : View) (e : Environment) (c : Command) : Prop where
  noNul : c.words.any hasNul = false
  found : ∃ program args, c.words = program :: args ∧ canStart (surroundings v e c) program = true

theorem endingOf_hasRun (sh : Shell) (ended : Except Leaving (Option Nat)) :
    HasRun (endingOf sh ended) := by
  unfold endingOf
  dsimp only
  split
  · trivial
  all_goals
    split
    · trivial
    · trivial

theorem refusal_not_hasRun (v : View) (program : String) : ¬ HasRun (refusal v program) := by
  unfold refusal
  dsimp only
  split
  · exact id
  · split
    · split
      · exact id
      · exact id
    · split
      · exact id
      · exact id
      · exact id
      · exact id

variable (v : View) (e : Environment) (c : Command)

theorem start_startable (h : Startable v e c) : HasRun (start v e c).1 := by
  obtain ⟨program, args, words, found⟩ := h.found
  have noNul := h.noNul
  unfold start
  rw [words] at noNul ⊢
  simp only [noNul, found, Bool.not_true, Bool.false_eq_true, if_false]
  exact endingOf_hasRun _ _

theorem start_other (h : ¬ Startable v e c) :
    ¬ HasRun (start v e c).1 ∧ (start v e c).2 = v.tree := by
  unfold start
  split
  · exact ⟨id, rfl⟩
  · next noNul =>
    split
    · exact ⟨id, rfl⟩
    · next program args words =>
      dsimp only
      split
      · exact ⟨refusal_not_hasRun v program, rfl⟩
      · next found => exact absurd ⟨by simpa using noNul, _, _, words, by simpa using found⟩ h

/-- A command has run just if it could be started, and what has not run has left the files
alone. -/
theorem start_hasRun_iff :
    (HasRun (start v e c).1 ↔ Startable v e c) ∧
      (¬ HasRun (start v e c).1 → (start v e c).2 = v.tree) := by
  refine ⟨⟨?_, start_startable v e c⟩, ?_⟩
  · intro ran
    by_cases h : Startable v e c
    · exact h
    · exact absurd ran (start_other v e c h).1
  · intro idle
    by_cases h : Startable v e c
    · exact absurd (start_startable v e c h) idle
    · exact (start_other v e c h).2

end DocBraces.Tools
