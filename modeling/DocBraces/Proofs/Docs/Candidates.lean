import DocBraces.Proofs.Docs.Sources
import DocBraces.Proofs.Files.LinkFree
import DocBraces.Proofs.Files.Selection
import DocBraces.Proofs.Files.Sorting
import DocBraces.Proofs.Session.Failing

/-!
# Candidates

Patterns of one component select entries of the root by their names. All patterns
together select each of these entries once, in the order of the names, whatever order the
patterns have.
-/

set_option autoImplicit false

namespace DocBraces.Docs

open DocBraces.Files DocBraces.Session

/-- A pattern for the entries of one folder. -/
structure Flat (pattern : String) : Prop where
  noSlash : '/' ∉ pattern.toList
  notFolders : pattern ≠ "**"
  notUp : pattern ≠ ".."

instance (pattern : String) : Decidable (Flat pattern) :=
  decidable_of_iff ('/' ∉ pattern.toList ∧ pattern ≠ "**" ∧ pattern ≠ "..")
    ⟨fun ⟨h₁, h₂, h₃⟩ => ⟨h₁, h₂, h₃⟩, fun ⟨h₁, h₂, h₃⟩ => ⟨h₁, h₂, h₃⟩⟩

/-- The pattern stands for a name: by its units if it is wild, else for itself. -/
def standsFor (pattern name : String) : Bool :=
  if Glob.isWild pattern then Glob.fits (Glob.units pattern) name.toList else name == pattern

theorem splitNames_flat {s : String} (h : '/' ∉ s.toList) : Path.splitNames s = [s] := by
  rw [Path.splitNames, List.splitOn_eq_singleton h, List.map_singleton, String.ofList_toList]

theorem rootOf_flat {s : String} (h : '/' ∉ s.toList) : Path.rootOf s = .relative := by
  have none_ : s.toList.takeWhile (· == '/') = [] := by
    cases hs : s.toList with
    | nil => rfl
    | cons c cs =>
      have hc : c ≠ '/' := by
        rintro rfl
        simp [hs] at h
      simp [hc]
  rw [Path.rootOf, none_]
  rfl

theorem pattern_flat {pattern : String} (flat : Flat pattern) {pat : Glob.Pattern}
    (h : Glob.Pattern.ofString pattern = .ok pat) : IsName pattern ∧ pat = ⟨[if Glob.isWild pattern
      then .like (Glob.units pattern) else .exactly pattern], false⟩ := by
  have last : (pattern.toList.getLast? == some '/') = false := by
    rw [beq_eq_false_iff_ne]
    exact fun hl => flat.noSlash (List.mem_of_getLast? hl)
  unfold Glob.Pattern.ofString at h
  split at h
  · cases h
  · next he =>
    have hne : pattern ≠ "" := by
      rintro rfl
      exact he rfl
    unfold Path.ofString at h
    rw [splitNames_flat flat.noSlash, rootOf_flat flat.noSlash, last] at h
    dsimp only at h
    by_cases hd : pattern = "."
    · subst hd
      cases h
    · have kept : [pattern].filter Path.isName = [pattern] := by
        simp [Path.isName, hne, hd]
      rw [kept, if_neg (by simp), if_neg (by simp)] at h
      refine ⟨⟨hne, hd, flat.noSlash⟩, ?_⟩
      rw [List.mapM_cons, List.mapM_nil, Glob.component, if_neg flat.notFolders] at h
      split at h
      · cases h
      · split at h
        · next hw =>
          cases h
          rw [if_pos hw]
        · next hw =>
          cases h
          rw [if_neg hw]

variable {s : Session} {root : Path} {top : Place}

/-- A name leads to something in the root just when there is an entry of this name. -/
theorem isThere_child (free : s.tree.LinkFree) (named : s.tree.NamedAt top) (hr : root.Proper)
    (there : s.view.node? true root = some (top, .folder)) {n : String} (hn : IsName n)
    (notUp : n ≠ "..") (short : s.view.isOverlong (root.child n) = false) :
    s.view.isThere (root.child n) = (s.tree.node? (top ++ [n])).isSome := by
  cases hnul : hasNul n with
  | true =>
    have nul : hasNul (root.child n).toString = true :=
      (Path.hasNul_toString _).mpr ⟨n, by simp [Path.child], hnul⟩
    have none_ : (s.tree.node? (top ++ [n])).isSome = false := by
      rw [← Bool.not_eq_true]
      intro h
      rw [(named n h).noNul] at hnul
      cases hnul
    rw [View.isThere, View.node?, if_pos nul, none_]
    rfl
  | false =>
    rw [View.isThere, View.node?_child free hr there ⟨hn, notUp, hnul⟩ short, Option.isSome_map]
    rfl

/-- A flat pattern selects the entries of the root whose names it stands for. -/
theorem select_flat (free : s.tree.LinkFree) (named : s.tree.NamedAt top) (hr : root.Proper)
    (there : s.view.node? true root = some (top, .folder)) {pattern : String}
    (flat : Flat pattern) {ps : List Path} (h : outcome (select root pattern) s = .ok ps)
    {p : Path} : p ∈ ps ↔ ∃ n, p = root.child n ∧
      (s.tree.node? (top ++ [n])).isSome = true ∧ standsFor pattern n = true := by
  unfold select at h
  cases hpat : Glob.Pattern.ofString pattern with
  | error f =>
    rw [hpat] at h
    cases h
  | ok pat =>
    rw [hpat] at h
    obtain ⟨name, rfl⟩ := pattern_flat flat hpat
    dsimp only at h
    rw [outcome_get_bind] at h
    have folder : s.view.isFolder root = true := by rw [View.isFolder, there]
    have short := View.not_isOverlong there
    rw [Glob.find, if_neg (by simp [short]), if_pos folder] at h
    unfold standsFor
    cases hw : Glob.isWild pattern with
    | true =>
      rw [hw, if_pos rfl, Glob.select_like, View.scan, if_neg (by simp [short]),
        View.names, there] at h
      obtain rfl := Except.ok.inj h
      simp only [List.mem_map, List.mem_filter, Tree.mem_children, if_true]
      constructor
      · rintro ⟨n, hn, rfl⟩
        exact ⟨n, rfl, hn⟩
      · rintro ⟨n, rfl, hn⟩
        exact ⟨n, hn, rfl⟩
    | false =>
      rw [hw, if_neg Bool.false_ne_true, Glob.select_exactly] at h
      cases ho : s.view.isOverlong (root.child pattern) with
      | true =>
        rw [ho] at h
        cases h
      | false =>
        rw [ho, if_neg Bool.false_ne_true,
          isThere_child free named hr there name flat.notUp ho] at h
        have one : ps = if (s.tree.node? (top ++ [pattern])).isSome then [root.child pattern]
            else [] := by
          cases hn : (s.tree.node? (top ++ [pattern])).isSome with
          | true =>
            rw [hn] at h
            exact (Except.ok.inj h).symm
          | false =>
            rw [hn] at h
            exact (Except.ok.inj h).symm
        rw [one]
        constructor
        · intro hp
          split at hp
          · next hn => exact ⟨pattern, List.mem_singleton.mp hp, hn, by simp⟩
          · cases hp
        · rintro ⟨n, rfl, hn, hb⟩
          obtain rfl : n = pattern := by simpa using hb
          rw [if_pos hn]
          exact List.mem_singleton.mpr rfl

def standFor (patterns : List String) (name : String) : Bool :=
  patterns.any fun pattern => standsFor pattern name

theorem outcome_candidates (s : Session) (root : Path) (patterns : List String) :
    outcome (candidates root patterns) s =
      (patterns.mapM fun pattern => outcome (select root pattern) s).map
        fun found => Path.sort found.flatten := by
  unfold candidates
  rw [outcome_bind, outcome_mapM (select_looks root)]
  cases patterns.mapM fun pattern => outcome (select root pattern) s <;> rfl

theorem candidates_ok {patterns : List String} {ps : List Path}
    (h : outcome (candidates root patterns) s = .ok ps) :
    ∃ found, (patterns.mapM fun pattern => outcome (select root pattern) s) = .ok found ∧
      ps = Path.sort found.flatten := by
  rw [outcome_candidates] at h
  cases hm : patterns.mapM fun pattern => outcome (select root pattern) s with
  | error f =>
    rw [hm] at h
    cases h
  | ok found =>
    rw [hm] at h
    exact ⟨found, rfl, (Except.ok.inj h).symm⟩

theorem select_root {pattern : String} {ps : List Path}
    (h : outcome (select root pattern) s = .ok ps) : ∀ p ∈ ps, p.root = root.root := by
  unfold select at h
  split at h
  · cases h
  · next pat _ =>
    rw [outcome_get_bind] at h
    split at h
    · next found hf =>
      obtain rfl := Except.ok.inj h
      exact Glob.find_root _ _ _ _ _ hf
    · cases h

/-- The order and the repetition of patterns have no say in the candidates. -/
theorem candidates_congr {patterns others : List String}
    (same : ∀ pattern, pattern ∈ others ↔ pattern ∈ patterns) {ps : List Path}
    (h : outcome (candidates root patterns) s = .ok ps) :
    outcome (candidates root others) s = .ok ps := by
  obtain ⟨found, hf, rfl⟩ := candidates_ok h
  obtain ⟨found', hf'⟩ : ∃ found',
      (others.mapM fun pattern => outcome (select root pattern) s) = .ok found' :=
    mapM_ok_of_forall fun pattern hp =>
      (ok_of_mapM hf ((same pattern).mp hp)).imp fun _ => And.right
  rw [outcome_candidates, hf']
  refine congrArg Except.ok (Path.sort_congr (r := root.root) (fun p hp => ?_) fun p => ?_)
  · obtain ⟨pattern, _, ps, hs, hm⟩ := (mem_flatten_of_mapM hf').mp hp
    exact select_root hs p hm
  · rw [mem_flatten_of_mapM hf, mem_flatten_of_mapM hf']
    simp only [same]

/-- The candidates are entries of the root, one for each name that a pattern stands for, in
the order of the names. -/
theorem candidates_flat (free : s.tree.LinkFree) (named : s.tree.NamedAt top) (hr : root.Proper)
    (there : s.view.node? true root = some (top, .folder)) {patterns : List String}
    (flat : ∀ pattern ∈ patterns, Flat pattern) {ps : List Path}
    (h : outcome (candidates root patterns) s = .ok ps) :
    ∃ names : List String, ps = names.map root.child ∧ names.Pairwise (· < ·) ∧
      ∀ n, n ∈ names ↔ (s.tree.node? (top ++ [n])).isSome = true ∧ standFor patterns n = true := by
  obtain ⟨found, hf, rfl⟩ := candidates_ok h
  have member : ∀ p, p ∈ Path.sort found.flatten ↔ ∃ n, p = root.child n ∧
      (s.tree.node? (top ++ [n])).isSome = true ∧ standFor patterns n = true := by
    intro p
    rw [Path.mem_sort, mem_flatten_of_mapM hf]
    constructor
    · rintro ⟨pattern, hp, ps, hs, hm⟩
      obtain ⟨n, rfl, hn, hst⟩ :=
        (select_flat free named hr there (flat pattern hp) hs).mp hm
      exact ⟨n, rfl, hn, List.any_eq_true.mpr ⟨pattern, hp, hst⟩⟩
    · rintro ⟨n, rfl, hn, hst⟩
      obtain ⟨pattern, hp, hst⟩ := List.any_eq_true.mp hst
      obtain ⟨ps, _, hs⟩ := ok_of_mapM hf hp
      exact ⟨pattern, hp, ps, hs,
        (select_flat free named hr there (flat pattern hp) hs).mpr ⟨n, rfl, hn, hst⟩⟩
  have back : ∀ p ∈ Path.sort found.flatten, root.child p.baseName = p := by
    intro p hp
    obtain ⟨n, rfl, _⟩ := (member p).mp hp
    rw [Path.baseName_child]
  refine ⟨(Path.sort found.flatten).map Path.baseName, ?_, ?_, fun n => ?_⟩
  · rw [List.map_map]
    exact ((List.map_congr_left back).trans (List.map_id _)).symm
  · rw [List.pairwise_map]
    have one : ∀ p ∈ found.flatten, p.root = root.root := by
      intro p hp
      obtain ⟨n, rfl, _⟩ := (member p).mp (Path.mem_sort.mpr hp)
      rfl
    refine (Path.sort_strict one).imp_of_mem fun {p q} hp hq hpq => ?_
    rwa [← back p hp, ← back q hq, Path.child_lt_child] at hpq
  · rw [List.mem_map]
    constructor
    · rintro ⟨p, hp, rfl⟩
      obtain ⟨n, rfl, found⟩ := (member p).mp hp
      rw [Path.baseName_child]
      exact found
    · intro found
      exact ⟨root.child n, (member _).mpr ⟨n, rfl, found⟩, Path.baseName_child _ _⟩

end DocBraces.Docs
