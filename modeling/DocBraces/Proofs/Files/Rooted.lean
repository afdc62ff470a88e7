import Mathlib.Algebra.Ring.Nat
import DocBraces.Proofs.Files.LinkFree
import DocBraces.Proofs.Files.Selection
import DocBraces.Proofs.Text.Utf8

/-!
# Paths from the top

A path with a root leads to the same from every folder, and so does all that a pattern
selects below it. Where all places on the way down to a place are folders, no link is in
the way of its names: the path of the place leads there, and the place is real.
-/

set_option autoImplicit false

namespace DocBraces.Files

open DocBraces.Text

namespace Path

theorem isRooted_of_root {p : Path} (h : p.root ≠ .relative) :
    Tree.isRooted p.toString = true := by
  have text : p.toString = p.root.text ++ "/".intercalate p.names := if_neg fun hp => h hp.1
  rw [Tree.isRooted, text, String.toList_append]
  cases hr : p.root with
  | relative => exact absurd hr h
  | absolute => rfl
  | doubled => rfl

theorem root_of_isRooted {text : String} (h : Tree.isRooted text = true) :
    (ofString text).root ≠ .relative := by
  change rootOf text ≠ .relative
  unfold rootOf
  unfold Tree.isRooted at h
  cases hs : text.toList with
  | nil => simp [hs] at h
  | cons c cs =>
    obtain rfl : c = '/' := by simpa [hs] using h
    rw [List.takeWhile_cons_of_pos rfl, List.length_cons]
    split
    · next hn => cases hn
    · nofun
    · nofun

theorem join_rooted {p : Path} (h : p.root ≠ .relative) (q : Path) :
    (p.join q).root ≠ .relative := by
  unfold join
  split
  · exact h
  · assumption

end Path

variable {t : Tree} {follow : Bool} {here there : Place} {p : Path}

theorem Tree.resolve_rooted {text : String} (h : isRooted text = true) (here there : Place) :
    t.resolve follow here text = t.resolve follow there text := by
  unfold resolve
  rw [h]
  rfl

namespace View

theorem node?_rooted (h : p.root ≠ .relative) (here there : Place) :
    (View.mk t here).node? follow p = (View.mk t there).node? follow p := by
  unfold View.node?
  rw [Tree.resolve_rooted (Path.isRooted_of_root h) here there]

theorem isFolder_rooted (h : p.root ≠ .relative) (here there : Place) :
    (View.mk t here).isFolder p = (View.mk t there).isFolder p := by
  unfold View.isFolder
  rw [node?_rooted h here there]

theorem isThere_rooted (h : p.root ≠ .relative) (here there : Place) :
    (View.mk t here).isThere p = (View.mk t there).isThere p := by
  unfold View.isThere
  rw [node?_rooted h here there]

theorem isOverlong_rooted (h : p.root ≠ .relative) (here there : Place) :
    (View.mk t here).isOverlong p = (View.mk t there).isOverlong p := by
  unfold View.isOverlong
  rw [Tree.resolve_rooted (Path.isRooted_of_root h) here there]

theorem names_rooted (h : p.root ≠ .relative) (here there : Place) :
    (View.mk t here).names p = (View.mk t there).names p := by
  unfold View.names
  rw [node?_rooted h here there]

theorem child_rooted (h : p.root ≠ .relative) (name : String) (here there : Place) :
    View.entry? (View.mk t here) p name = View.entry? (View.mk t there) p name := by
  unfold View.entry?
  rw [node?_rooted h here there]

theorem scan_rooted (h : p.root ≠ .relative) (here there : Place) :
    (View.mk t here).scan p = (View.mk t there).scan p := by
  unfold View.scan
  rw [isOverlong_rooted h here there, names_rooted h here there]

theorem holdsFolder_rooted (h : p.root ≠ .relative) (name : String) (here there : Place) :
    (View.mk t here).holdsFolder p name = (View.mk t there).holdsFolder p name := by
  have child : (p.child name).root ≠ .relative := h
  unfold View.holdsFolder
  rw [child_rooted h name here there, isOverlong_rooted child here there,
    isFolder_rooted child here there]

theorem walk_rooted {α : Type} {look look' : Path → Except WalkFault (List α)}
    (hl : ∀ p : Path, p.root ≠ .relative → look p = look' p) (h : p.root ≠ .relative)
    (levels : Nat) (here there : Place) :
    (View.mk t here).walk look levels p = (View.mk t there).walk look' levels p := by
  induction levels generalizing p with
  | zero =>
    unfold View.walk
    rw [hl p h]
  | succ levels ih =>
    have child (n : String) : (p.child n).root ≠ .relative := h
    unfold View.walk
    rw [hl p h, scan_rooted h here there]
    simp only [child_rooted h _ here there, ih (child _)]

end View

theorem Glob.select_rooted (h : p.root ≠ .relative) (levels : Nat) (onlyFolders : Bool)
    (cs : List Component) (here there : Place) :
    select (View.mk t here) levels onlyFolders cs p =
      select (View.mk t there) levels onlyFolders cs p := by
  induction cs generalizing p with
  | nil => rfl
  | cons c cs ih =>
    have child (n : String) : (p.child n).root ≠ .relative := h
    cases c with
    | exactly name =>
      simp only [select]
      rw [View.isOverlong_rooted (child name) here there,
        View.isFolder_rooted (child name) here there,
        View.isThere_rooted (child name) here there, ih (child name)]
    | like us =>
      simp only [select]
      rw [View.scan_rooted h here there]
      simp only [View.holdsFolder_rooted h _ here there, ih (child _)]
    | folders => exact View.walk_rooted (fun q hq => ih hq) h levels here there

theorem Glob.find_rooted (h : p.root ≠ .relative) (levels : Nat) (pat : Pattern) :
    find (View.mk t here) levels p pat = find (View.mk t there) levels p pat := by
  unfold find
  rw [View.isOverlong_rooted h here there, View.isFolder_rooted h here there,
    select_rooted h _ _ _ here there]

namespace Tree

/-- All places on the way down to a place are folders, and so is the place. Their names are
such that entries can have, and the file system takes them. -/
structure Stands (t : Tree) (place : Place) : Prop where
  folders : ∀ q, q <+: place → t.node? q = some .folder
  names : ∀ n ∈ place, IsEntry n ∧ (Utf8.encode n.toList).length ≤ nameLimit

instance (t : Tree) (place : Place) : Decidable (t.Stands place) :=
  decidable_of_iff ((∀ q ∈ place.inits, t.node? q = some .folder) ∧
      ∀ n ∈ place, IsEntry n ∧ (Utf8.encode n.toList).length ≤ nameLimit)
    ⟨fun ⟨h₁, h₂⟩ => ⟨fun q hq => h₁ q ((List.mem_inits q place).mpr hq), h₂⟩,
      fun ⟨h₁, h₂⟩ => ⟨fun q hq => h₁ q ((List.mem_inits q place).mp hq), h₂⟩⟩

variable {top place : Place} {n : String}

theorem Stands.above (h : t.Stands place) (hp : top <+: place) : t.Stands top where
  folders := fun q hq => h.folders q (hq.trans hp)
  names := fun n hn => h.names n (hp.subset hn)

theorem Stands.folder (h : t.Stands place) : t.node? place = some .folder :=
  h.folders place (List.prefix_refl _)

theorem Stands.step (h : t.Stands place) {n : String} (hn : n ∈ place) : IsStep n :=
  have ⟨entry, short⟩ := h.names n hn
  ⟨entry.name.2.1, entry.notUp, short⟩

theorem Stands.proper (h : t.Stands place) : (Path.mk .absolute place).Proper :=
  fun n hn => (h.names n hn).1.name

theorem noNul_of_entries {p : Path} (h : ∀ n ∈ p.names, IsEntry n) :
    hasNul p.toString = false := by
  rw [← Bool.not_eq_true, Path.hasNul_toString]
  rintro ⟨n, hn, hnul⟩
  rw [(h n hn).noNul] at hnul
  cases hnul

theorem Stands.noNul (h : t.Stands place) : hasNul (Path.mk .absolute place).toString = false :=
  noNul_of_entries fun n hn => (h.names n hn).1

theorem Stands.alike {u : Tree} (h : t.Stands place) (alike : t.Alike u) : u.Stands place where
  folders := fun q hq => alike.of_not_file (h.folders q hq) fun _ => nofun
  names := h.names

theorem Stands.walk (h : t.Stands place) (follow : Bool) (links : Nat) (rest : List String) :
    t.walk follow links [] (place ++ rest) = t.walk follow links place rest := by
  obtain ⟨jump, hj⟩ := walk_eq_walkNames t follow links
  induction place using List.reverseRecOn generalizing rest with
  | nil => rfl
  | append_singleton top n ih =>
    have step := h.step (List.mem_append_right top (List.mem_singleton.mpr rfl))
    rw [List.append_assoc, ih (h.above (List.prefix_append _ _)), hj]
    simp only [List.singleton_append, walkNames, step.1, step.2.1, Nat.not_lt.mpr step.2.2,
      if_false, h.folder]

theorem Stands.followNames (h : t.Stands place)
    (jump : Place → Place → List String → Place × Option (List String)) (rest : List String) :
    t.followNames jump [] (place ++ rest) = t.followNames jump place rest := by
  induction place using List.reverseRecOn generalizing rest with
  | nil => rfl
  | append_singleton top n ih =>
    have step := h.step (List.mem_append_right top (List.mem_singleton.mpr rfl))
    rw [List.append_assoc, ih (h.above (List.prefix_append _ _))]
    simp only [List.singleton_append, Tree.followNames, step.1, step.2.1, if_false, h.folder]

theorem Stands.realPlace (h : t.Stands place) : t.realPlace [] place = place := by
  have followed : t.followLinks (t.entries.length + 1) [] [] place = (place, none) := by
    have onward := fun jump => h.followNames jump []
    rw [List.append_nil] at onward
    rw [followLinks, onward]
    rfl
  rw [Tree.realPlace, followed]

theorem resolve_place (proper : (Path.mk .absolute place).Proper) (follow : Bool) (here : Place) :
    t.resolve follow here (Path.mk .absolute place).toString = t.walk follow linkLimit [] place ∨
      t.resolve follow here (Path.mk .absolute place).toString = .error .nameTooLong := by
  have absolute : ¬ (PathRoot.absolute = .relative ∧ t.node? here ≠ some .folder) := nofun
  rw [resolve_path proper, hindrance, if_neg absolute]
  by_cases long : pathLimit ≤ (Utf8.encode (Path.mk .absolute place).toString.toList).length
  · rw [if_pos long]
    exact .inr rfl
  · rw [if_neg long]
    exact .inl rfl

theorem Stands.walk_self (h : t.Stands place) (follow : Bool) :
    t.walk follow linkLimit [] place = .ok (.present place .folder) := by
  have onward := h.walk follow linkLimit []
  rw [List.append_nil] at onward
  exact onward.trans (walk_of_leads (.here h.folder))

theorem Stands.resolve_short (h : t.Stands place)
    (short : (Utf8.encode (Path.mk .absolute place).toString.toList).length < pathLimit)
    (follow : Bool) (here : Place) :
    t.resolve follow here (Path.mk .absolute place).toString = .ok (.present place .folder) := by
  have clear : t.hindrance here (Path.mk .absolute place) = none :=
    hindrance_eq_none.mpr ⟨short, rfl⟩
  rw [resolve_path h.proper, clear]
  exact h.walk_self follow

theorem Stands.resolve_long (h : t.Stands place)
    (long : pathLimit ≤ (Utf8.encode (Path.mk .absolute place).toString.toList).length)
    (follow : Bool) (here : Place) :
    t.resolve follow here (Path.mk .absolute place).toString = .error .nameTooLong := by
  rw [resolve_path h.proper, hindrance, if_pos long]

theorem Stands.resolve (h : t.Stands place) (follow : Bool) (here : Place) :
    t.resolve follow here (Path.mk .absolute place).toString = .ok (.present place .folder) ∨
      t.resolve follow here (Path.mk .absolute place).toString = .error .nameTooLong := by
  obtain walked | long := resolve_place h.proper follow here
  · exact .inl (walked.trans (h.walk_self follow))
  · exact .inr long

/-- An entry of a real place is where the path of the place and its name lead. -/
theorem Stands.resolve_entry (h : t.Stands place) (entry : IsEntry n)
    (short : (Utf8.encode (Path.mk .absolute (place ++ [n])).toString.toList).length < pathLimit)
    (follow : Bool) (here : Place) {found : Target}
    (leads : Leads t follow linkLimit place [n] found) :
    t.resolve follow here (Path.mk .absolute (place ++ [n])).toString = .ok found := by
  have proper : (Path.mk .absolute (place ++ [n])).Proper := h.proper.child entry.name
  have clear : t.hindrance here (Path.mk .absolute (place ++ [n])) = none :=
    hindrance_eq_none.mpr ⟨short, rfl⟩
  rw [resolve_path proper, clear]
  exact (h.walk follow linkLimit [n]).trans (walk_of_leads leads)

end Tree

theorem length_toString {names : List String} (h : names ≠ []) :
    (Utf8.encode (Path.mk .absolute names).toString.toList).length =
      (names.map fun n => (Utf8.encode n.toList).length + 1).sum := by
  have joined (l : List Char) (ls : List (List Char)) :
      (Utf8.encode (['/'].intercalate (l :: ls))).length =
        (Utf8.encode l).length + (ls.map fun l => (Utf8.encode l).length + 1).sum := by
    induction ls generalizing l with
    | nil => simp
    | cons m ms ih =>
      rw [List.intercalate_cons_of_ne_nil (by simp), Utf8.encode_append, Utf8.encode_append,
        List.length_append, List.length_append, ih]
      have slash : (Utf8.encode ['/']).length = 1 := rfl
      simp only [slash, List.map_cons, List.sum_cons]
      omega
  have pieces : (Path.mk .absolute names).pieces = "" :: names := by
    rw [Path.pieces]
    exact congrArg _ (if_neg h)
  rw [Path.toString_toList, pieces, List.map_cons, joined, List.map_map]
  exact Nat.zero_add _

theorem length_toString_le {top names pre : Place} (h : pre <+: names) (n : String) :
    (Utf8.encode (Path.mk .absolute (top ++ pre ++ [n])).toString.toList).length ≤
      (Utf8.encode (Path.mk .absolute (top ++ names ++ [n])).toString.toList).length := by
  obtain ⟨post, rfl⟩ := h
  rw [length_toString (by simp), length_toString (by simp)]
  simp only [List.map_append, List.sum_append]
  omega

end DocBraces.Files
