import Mathlib.Data.List.SplitBy
import DocBraces.Tools.Sorting

/-!
# Lines that are grouped and compared

Lines with equal keys that follow each other make up a group, and the groups are as long as
they can be. Two files that are compared are merged so that each of them can be read off
the result again.
-/

set_option autoImplicit false

namespace DocBraces.Tools

theorem groupLines_cons (same : Bytes → Bytes → Bool) (l : Bytes) (ls : List Bytes) :
    groupLines same (l :: ls) = match groupLines same ls with
      | (m :: ms) :: rest => if same l m then (l :: m :: ms) :: rest else [l] :: (m :: ms) :: rest
      | rest => [l] :: rest := rfl

/-- A line joins the group behind it just if it is the same as the first line there. -/
theorem groupLines_eq_splitBy (same : Bytes → Bytes → Bool) (ls : List Bytes) :
    groupLines same ls = ls.splitBy same := by
  induction ls with
  | nil => rfl
  | cons l ls ih =>
    obtain ⟨flat, full, chains, borders⟩ := List.splitBy_eq_iff.mp ih.symm
    rw [groupLines_cons]
    symm
    rw [List.splitBy_eq_iff]
    cases hg : groupLines same ls with
    | nil =>
      rw [hg] at flat
      simp [flat]
    | cons g rest =>
      rw [hg] at flat full chains borders
      cases g with
      | nil => simp at full
      | cons m ms =>
        by_cases hs : same l m
        · simp only [hs, if_true]
          refine ⟨by simp [flat], by simpa using full, ?_, ?_⟩
          · intro g hmem
            obtain rfl | hmem := List.mem_cons.mp hmem
            · exact List.isChain_cons_cons.mpr ⟨hs, chains _ (by simp)⟩
            · exact chains g (by simp [hmem])
          · cases rest with
            | nil => simp
            | cons g rest => simpa using borders
        · simp only [hs, Bool.false_eq_true, if_false]
          refine ⟨by simp [flat], by simpa using full, ?_, ?_⟩
          · intro g hmem
            obtain rfl | hmem := List.mem_cons.mp hmem
            · simp
            · exact chains g hmem
          · exact List.isChain_cons_cons.mpr ⟨⟨by simp, by simp, by simpa using hs⟩, borders⟩

/-- Groups by a key hold all lines in order. Within a group all keys are equal, and where one
group ends and the next begins they are not. -/
theorem groupLines_by_key {κ : Type} [BEq κ] [LawfulBEq κ] (key : Bytes → κ) (ls : List Bytes) :
    let groups := groupLines (fun a b => key a == key b) ls
    groups.flatten = ls ∧ (∀ g ∈ groups, g ≠ [] ∧ ∀ a ∈ g, ∀ b ∈ g, key a = key b) ∧
      groups.IsChain fun g h => ∀ a ∈ g.getLast?, ∀ b ∈ h.head?, key a ≠ key b := by
  dsimp only
  rw [groupLines_eq_splitBy]
  refine ⟨List.flatten_splitBy _ _, fun g hg => ⟨List.ne_nil_of_mem_splitBy hg, ?_⟩, ?_⟩
  · let Same : Bytes → Bytes → Prop := fun a b => key a = key b
    have chain : g.IsChain Same := (List.isChain_of_mem_splitBy hg).imp fun a b => beq_iff_eq.mp
    have : Trans Same Same Same := ⟨Eq.trans⟩
    have : Std.Symm Same := ⟨fun _ _ => Eq.symm⟩
    intro a ha b hb
    have all := chain.pairwise.forall_of_forall (R := Same) fun _ _ => rfl
    exact all ha hb
  · refine (List.isChain_getLast_head_splitBy _ ls).imp ?_
    rintro g h ⟨hg, hh, differ⟩ a ha b hb
    rw [List.getLast?_eq_some_getLast hg] at ha
    rw [List.head?_eq_some_head hh] at hb
    obtain rfl := Option.some.inj ha
    obtain rfl := Option.some.inj hb
    exact beq_eq_false_iff_ne.mp differ

theorem compareBytes_eq_iff (a b : Bytes) : compareBytes a b = .eq ↔ a = b := by
  unfold compareBytes
  by_cases h : a = b
  · simp [h]
  · split
    · simp_all
    · split <;> simp [h]

/-- The lines of a merge that one side has, alone or with the other one. -/
def linesOf (side : Side) (merged : List (Side × Bytes)) : List Bytes :=
  (merged.filter fun line => line.1 == side || line.1 == .both).map Prod.snd

theorem linesOf_cons (side : Side) (line : Side × Bytes) (merged : List (Side × Bytes)) :
    linesOf side (line :: merged) =
      if line.1 == side || line.1 == .both then line.2 :: linesOf side merged
      else linesOf side merged := by
  unfold linesOf
  rw [List.filter_cons]
  split <;> rfl

theorem linesOf_alone (side : Side) (ls : List Bytes) : linesOf side (ls.map (side, ·)) = ls := by
  induction ls with
  | nil => rfl
  | cons l ls ih => simp [linesOf_cons, ih]

theorem linesOf_other {side other : Side} (apart : other ≠ side) (alone : other ≠ .both)
    (ls : List Bytes) : linesOf side (ls.map (other, ·)) = [] := by
  induction ls with
  | nil => rfl
  | cons l ls ih => simp [linesOf_cons, apart, alone, ih]

/-- Both files can be read off their merge. A line that both have comes once in it. -/
theorem linesOf_mergeSides (fuel : Nat) (as bs : List Bytes)
    (enough : as.length + bs.length < fuel) :
    linesOf .first (mergeSides fuel as bs) = as ∧ linesOf .second (mergeSides fuel as bs) = bs := by
  fun_induction mergeSides fuel as bs with
  | case1 => omega
  | case2 fuel bs => exact ⟨linesOf_other (by decide) (by decide) bs, linesOf_alone _ bs⟩
  | case3 fuel as => exact ⟨linesOf_alone _ as, linesOf_other (by decide) (by decide) as⟩
  | case4 fuel a as b bs both ih =>
    obtain rfl := (compareBytes_eq_iff a b).mp both
    obtain ⟨first, second⟩ := ih (by simp at enough; omega)
    simp [linesOf_cons, first, second]
  | case5 fuel a as b bs before ih =>
    obtain ⟨first, second⟩ := ih (by simp at enough ⊢; omega)
    simp [linesOf_cons, first, second]
  | case6 fuel a as b bs behind ih =>
    obtain ⟨first, second⟩ := ih (by simp at enough ⊢; omega)
    simp [linesOf_cons, first, second]

end DocBraces.Tools
