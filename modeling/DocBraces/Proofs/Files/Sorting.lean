import Mathlib.Data.List.Lex
import Mathlib.Data.String.Basic
import DocBraces.Files.Path

/-!
# Sorted paths

Paths are in the order of their rows of parts. Sorting drops repetitions and nothing
else, so that paths from one root are sorted into the same list however they come.
-/

set_option autoImplicit false

namespace DocBraces.Files.Path

theorem lessNames_iff (as bs : List String) : lessNames as bs = true ↔ as < bs := by
  induction as generalizing bs with
  | nil => cases bs <;> simp [lessNames]
  | cons a as ih =>
    cases bs with
    | nil => simp [lessNames]
    | cons b bs =>
      rw [lessNames, List.cons_lt_cons_iff]
      by_cases h : a = b
      · simp [h, ih]
      · simp [h]

theorem before_iff (p q : Path) : p.before q = true ↔ p.parts < q.parts := lessNames_iff _ _

theorem eq_of_parts {p q : Path} (hr : p.root = q.root) (h : p.parts = q.parts) : p = q := by
  obtain ⟨root, names⟩ := p
  obtain ⟨_, others⟩ := q
  obtain rfl : root = _ := hr
  have hn : names = others := by
    unfold parts at h
    split at h
    · exact h
    · exact (List.cons.inj h).2
  rw [hn]

theorem child_lt_child (root : Path) (a b : String) :
    (root.child a).parts < (root.child b).parts ↔ a < b := by
  have after_ (pre : List String) : pre ++ [a] < pre ++ [b] ↔ a < b := by
    induction pre with
    | nil =>
      rw [List.nil_append, List.nil_append, List.cons_lt_cons_iff]
      exact or_iff_left fun h => List.not_lt_nil _ h.2
    | cons n pre ih =>
      rw [List.cons_append, List.cons_append, List.cons_lt_cons_iff, ih]
      exact ⟨fun h => h.elim (fun h => absurd h (lt_irrefl n)) And.right, fun h => .inr ⟨rfl, h⟩⟩
  have spelled (n : String) : (root.child n).parts = root.parts ++ [n] := by
    unfold parts child
    split <;> rfl
  rw [spelled, spelled, after_]

theorem nodup_eraseDups (ps : List Path) : ps.eraseDups.Nodup := by
  induction hn : ps.length using Nat.strong_induction_on generalizing ps with
  | _ n ih =>
    cases ps with
    | nil => exact List.nodup_nil
    | cons p ps =>
      rw [List.eraseDups_cons, List.nodup_cons]
      constructor
      · simp
      · refine ih _ ?_ _ rfl
        have := List.length_filter_le (fun q => !q == p) ps
        simp only [List.length_cons] at hn
        omega

theorem mem_sort {p : Path} {ps : List Path} : p ∈ sort ps ↔ p ∈ ps := by
  rw [sort, List.mem_mergeSort, List.mem_eraseDups]

theorem nodup_sort (ps : List Path) : (sort ps).Nodup :=
  (List.mergeSort_perm _ _).nodup_iff.mpr (nodup_eraseDups ps)

theorem sort_ordered (ps : List Path) : (sort ps).Pairwise fun p q => p.parts ≤ q.parts := by
  have le (p q : Path) : (!q.before p) = true ↔ p.parts ≤ q.parts := by
    rw [Bool.not_eq_true', ← Bool.not_eq_true, before_iff, not_lt]
  have sorted := @List.pairwise_mergeSort Path (fun p q => !q.before p)
    (fun a b c hab hbc => (le a c).mpr (((le a b).mp hab).trans ((le b c).mp hbc)))
    (fun a b => by
      rw [Bool.or_eq_true, le, le]
      exact le_total _ _)
    ps.eraseDups
  exact sorted.imp fun h => (le _ _).mp h

theorem sort_of_ordered {ps : List Path} (distinct : ps.eraseDups = ps)
    (ordered : ps.Pairwise fun p q => (!q.before p) = true) : sort ps = ps := by
  rw [sort, distinct]
  exact List.mergeSort_of_pairwise ordered

theorem sort_strict {r : PathRoot} {ps : List Path} (hr : ∀ p ∈ ps, p.root = r) :
    (sort ps).Pairwise fun p q => p.parts < q.parts := by
  refine ((sort_ordered ps).and (nodup_sort ps)).imp_of_mem fun {p q} hp hq h => ?_
  refine lt_of_le_of_ne h.1 fun he => h.2 (eq_of_parts ?_ he)
  rw [hr p (mem_sort.mp hp), hr q (mem_sort.mp hq)]

/-- The order in which paths from one root are found, and how often, has no say. -/
theorem sort_congr {r : PathRoot} {ps qs : List Path} (hr : ∀ p ∈ ps, p.root = r)
    (same : ∀ p, p ∈ ps ↔ p ∈ qs) : sort ps = sort qs := by
  have hq : ∀ p ∈ qs, p.root = r := fun p hp => hr p ((same p).mpr hp)
  refine List.Perm.eq_of_pairwise (fun p q _ _ hpq hqp => absurd hqp (lt_asymm hpq))
    (sort_strict hr) (sort_strict hq) ?_
  rw [List.perm_ext_iff_of_nodup (nodup_sort ps) (nodup_sort qs)]
  intro p
  rw [mem_sort, mem_sort]
  exact same p

end DocBraces.Files.Path
