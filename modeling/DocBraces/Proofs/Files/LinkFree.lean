import DocBraces.Proofs.Files.Names

/-!
# Trees without links

Where there are no links, names lead from folder to folder to the place that they spell,
down by a name and up by two dots. What there is in a folder is reached by one more name,
unless the path has become too long.
-/

set_option autoImplicit false

namespace DocBraces.Files

open DocBraces.Text

/-- What an entry of a folder can be called. -/
structure IsEntry (n : String) : Prop where
  name : IsName n
  notUp : n ≠ ".."
  noNul : hasNul n = false

instance (n : String) : Decidable (IsEntry n) :=
  decidable_of_iff (IsName n ∧ n ≠ ".." ∧ hasNul n = false)
    ⟨fun ⟨h₁, h₂, h₃⟩ => ⟨h₁, h₂, h₃⟩, fun ⟨h₁, h₂, h₃⟩ => ⟨h₁, h₂, h₃⟩⟩

namespace Tree

/-- The places that names lead down to, one after the other. -/
def placesDown (here : Place) : List String → List Place
  | [] => []
  | name :: rest =>
    if name = "." then placesDown here rest
    else if name = ".." then placesDown here.dropLast rest
    else (here ++ [name]) :: placesDown (here ++ [name]) rest

theorem plainNames_append (here : Place) (names rest : List String) :
    plainNames here (names ++ rest) = plainNames (plainNames here names) rest :=
  List.foldl_append

theorem placesDown_append (here : Place) (names rest : List String) :
    placesDown here (names ++ rest) =
      placesDown here names ++ placesDown (plainNames here names) rest := by
  induction names generalizing here with
  | nil => rfl
  | cons name names ih =>
    simp only [List.cons_append, placesDown, plainNames, List.foldl_cons]
    split
    · exact ih here
    · split
      · exact ih here.dropLast
      · rw [ih, List.cons_append]
        rfl

theorem plainNames_down (here : Place) {names : List String}
    (down : ∀ n ∈ names, n ≠ "." ∧ n ≠ "..") : plainNames here names = here ++ names := by
  induction names generalizing here with
  | nil => exact (List.append_nil _).symm
  | cons name names ih =>
    obtain ⟨first, rest⟩ := List.forall_mem_cons.mp down
    change plainNames (if name = "." then here else
      if name = ".." then here.dropLast else here ++ [name]) names = _
    rw [if_neg first.1, if_neg first.2, ih _ rest, List.append_assoc]
    rfl

theorem mem_placesDown (here : Place) {names : List String}
    (down : ∀ n ∈ names, n ≠ "." ∧ n ≠ "..") {q : Place} :
    q ∈ placesDown here names ↔ ∃ ms, ms ≠ [] ∧ ms <+: names ∧ q = here ++ ms := by
  induction names generalizing here with
  | nil => simp [placesDown]
  | cons name names ih =>
    obtain ⟨first, rest⟩ := List.forall_mem_cons.mp down
    rw [placesDown, if_neg first.1, if_neg first.2, List.mem_cons, ih _ rest]
    constructor
    · rintro (rfl | ⟨ms, _, hms, rfl⟩)
      · exact ⟨[name], by simp, by simp, rfl⟩
      · exact ⟨name :: ms, by simp, List.cons_prefix_cons.mpr ⟨rfl, hms⟩, by simp⟩
    · rintro ⟨ms, hne, hms, rfl⟩
      obtain rfl | ⟨ms', rfl, h'⟩ := List.prefix_cons_iff.mp hms
      · exact absurd rfl hne
      · by_cases he : ms' = []
        · subst he
          exact .inl rfl
        · exact .inr ⟨ms', he, h', by simp⟩

end Tree

namespace Path

def place (here : Place) (p : Path) : Place := Tree.plainNames (p.start here) p.names

/-- The places that a path passes on its way down: where it starts, and where each of its
names leads down to. -/
def way (here : Place) (p : Path) : List Place :=
  p.start here :: Tree.placesDown (p.start here) p.names

theorem place_child (here : Place) (p : Path) {n : String} (hn : IsEntry n) :
    (p.child n).place here = p.place here ++ [n] := by
  unfold place child
  rw [Tree.plainNames_append, Tree.plainNames_down _ (by simp [hn.name.2.1, hn.notUp])]
  rfl

theorem place_join (here : Place) (p : Path) {q : Path} (hq : q.root = .relative) :
    (p.join q).place here = Tree.plainNames (p.place here) q.names := by
  unfold join
  rw [if_pos hq]
  exact Tree.plainNames_append _ _ _

theorem way_join (here : Place) (p : Path) {q : Path} (hq : q.root = .relative) :
    (p.join q).way here = p.way here ++ Tree.placesDown (p.place here) q.names := by
  unfold join
  rw [if_pos hq]
  exact congrArg _ (Tree.placesDown_append _ _ _)

end Path

namespace Tree

def LinkFree (t : Tree) : Prop := ∀ p target, t.node? p ≠ some (.link target)

/-- What there is at a place has a name that an entry can have. -/
def NamedAt (t : Tree) (top : Place) : Prop :=
  ∀ n, (t.node? (top ++ [n])).isSome = true → IsEntry n

theorem linkFree_iff {t : Tree} :
    t.LinkFree ↔ ∀ e ∈ t.entries, (t.node? e.1).any Node.isLink = false := by
  constructor
  · intro free e _
    cases hn : t.node? e.1 with
    | none => rfl
    | some n =>
      cases n with
      | file bs => rfl
      | folder => rfl
      | link target => exact absurd hn (free _ _)
  · intro h p target hp
    have there : (t.entries.lookup p).isSome = true := by
      unfold node? at hp
      split at hp
      · cases hp
      · rw [hp]
        rfl
    obtain ⟨e, he, hk⟩ := List.lookup_isSome_iff.mp there
    obtain rfl : p = e.1 := by simpa using hk
    have := h e he
    rw [hp] at this
    cases this

instance (t : Tree) : Decidable t.LinkFree := decidable_of_iff _ linkFree_iff.symm

instance (t : Tree) (top : Place) : Decidable (t.NamedAt top) :=
  decidable_of_iff (∀ n ∈ t.children top, IsEntry n)
    ⟨fun h n hn => h n (mem_children.mpr hn), fun h n hn => h n (mem_children.mp hn)⟩

/-- All names in the tree are such that an entry can have. -/
def Named (t : Tree) : Prop := ∀ top, t.NamedAt top

theorem named_iff {t : Tree} :
    t.Named ↔ ∀ e ∈ t.entries, ∀ n ∈ e.1.getLast?, IsEntry n := by
  constructor
  · intro named e he n hn
    obtain ⟨top, hp⟩ := List.getLast?_eq_some_iff.mp hn
    refine named top n ?_
    rw [node?, if_neg (by simp), List.lookup_isSome_iff]
    exact ⟨e, he, beq_iff_eq.mpr hp.symm⟩
  · intro h top n hs
    rw [node?, if_neg (by simp), List.lookup_isSome_iff] at hs
    obtain ⟨e, he, hp⟩ := hs
    have hp : top ++ [n] = e.1 := beq_iff_eq.mp hp
    exact h e he n (by simp [← hp])

instance (t : Tree) : Decidable t.Named := decidable_of_iff' _ named_iff

theorem Named.alike {t u : Tree} (h : t.Alike u) (named : t.Named) : u.Named := by
  intro top n hs
  rw [← h.isSome] at hs
  exact named top n hs

theorem Named.put {t : Tree} (named : t.Named) {top : Place} {n : String} (hn : IsEntry n)
    (node : Node) : (t.put (top ++ [n]) node).Named := by
  intro other m hs
  by_cases hp : other ++ [m] = top ++ [n]
  · obtain ⟨_, hm⟩ := List.append_inj' hp rfl
    obtain rfl := (List.cons.inj hm).1
    exact hn
  · rw [node?_put_of_ne _ _ _ _ hp] at hs
    exact named other m hs

theorem LinkFree.alike {t u : Tree} (h : t.Alike u) (free : t.LinkFree) : u.LinkFree :=
  fun p target hu => free p target (h.symm.of_not_file hu fun _ => nofun)

theorem LinkFree.put {t : Tree} (free : t.LinkFree) {p : Place} (hp : p ≠ []) {n : Node}
    (hn : ∀ target, n ≠ .link target) : (t.put p n).LinkFree := by
  intro q target hq
  by_cases h : q = p
  · subst h
    rw [node?_put_self _ _ _ hp] at hq
    exact hn target (Option.some.inj hq)
  · rw [node?_put_of_ne _ _ _ _ h] at hq
    exact free q target hq

variable {t : Tree} {follow : Bool} {links : Nat} {here : Place} {names : List String}

/-- Names lead to the place that they spell, with nothing but folders on the way. -/
theorem Leads.spelled (free : t.LinkFree) {found : Target}
    (h : Leads t follow links here names found) : found.place = plainNames here names ∧
      ∀ q ∈ placesDown here names, q ≠ found.place → t.node? q = some .folder := by
  induction h with
  | here => exact ⟨rfl, fun _ => nofun⟩
  | dot _ ih => exact ih
  | up _ ih => exact ih
  | free hs =>
    simp only [placesDown, plainNames, List.foldl_cons, hs.1, hs.2.1, if_false]
    exact ⟨rfl, fun q hq hne => absurd (List.mem_singleton.mp hq) hne⟩
  | file hs =>
    simp only [placesDown, plainNames, List.foldl_cons, hs.1, hs.2.1, if_false]
    exact ⟨rfl, fun q hq hne => absurd (List.mem_singleton.mp hq) hne⟩
  | folder hs hf _ ih =>
    simp only [placesDown, plainNames, List.foldl_cons, hs.1, hs.2.1, if_false]
    refine ⟨ih.1, fun q hq hne => ?_⟩
    obtain rfl | hq := List.mem_cons.mp hq
    · exact hf
    · exact ih.2 q hq hne
  | stop hs hl => exact absurd hl (free _ _)
  | jump hs hl => exact absurd hl (free _ _)

theorem Leads.absent_down (free : t.LinkFree) {place : Place}
    (h : Leads t follow links here names (.absent place)) : place ∈ placesDown here names := by
  generalize hf : Target.absent place = found at h
  induction h with
  | here => cases hf
  | dot _ ih => exact ih hf
  | up _ ih => exact ih hf
  | free hs =>
    cases hf
    simp [placesDown, hs.1, hs.2.1]
  | file => cases hf
  | folder hs _ _ ih =>
    simp only [placesDown, hs.1, hs.2.1, if_false]
    exact List.mem_cons_of_mem _ (ih hf)
  | stop => cases hf
  | jump _ hl => exact absurd hl (free _ _)

theorem Leads.walk_append (free : t.LinkFree) {top : Place}
    (h : Leads t follow links here names (.present top .folder)) (rest : List String) :
    t.walk follow links here (names ++ rest) = t.walk follow links top rest := by
  obtain ⟨jump, hj⟩ := walk_eq_walkNames t follow links
  rw [hj]
  generalize hf : Target.present top .folder = found at h
  induction h with
  | here =>
    cases hf
    rfl
  | dot _ ih =>
    rw [List.cons_append, walkNames, if_pos rfl]
    exact ih hj hf
  | up _ ih =>
    rw [List.cons_append, walkNames, if_neg (by decide), if_pos rfl]
    exact ih hj hf
  | free => cases hf
  | file => cases hf
  | folder hs hn _ ih =>
    simp only [List.cons_append, walkNames, hs.1, hs.2.1, Nat.not_lt.mpr hs.2.2, if_false, hn]
    exact ih hj hf
  | stop hs hl => exact absurd hl (free _ _)
  | jump hs hl => exact absurd hl (free _ _)

theorem Leads.short (free : t.LinkFree) {found : Target}
    (h : Leads t follow links here names found) :
    ∀ n ∈ names, (Utf8.encode n.toList).length ≤ nameLimit := by
  induction h with
  | here => simp
  | dot _ ih => exact List.forall_mem_cons.mpr ⟨by decide, ih⟩
  | up _ ih => exact List.forall_mem_cons.mpr ⟨by decide, ih⟩
  | free hs => simpa using hs.2.2
  | file hs => simpa using hs.2.2
  | folder hs _ _ ih => exact List.forall_mem_cons.mpr ⟨hs.2.2, ih⟩
  | stop hs => simpa using hs.2.2
  | jump _ hl => exact absurd hl (free _ _)

/-- Names lead to a folder if they lead down through folders and there is one in the end. -/
theorem leads_of_folders (short : ∀ n ∈ names, (Utf8.encode n.toList).length ≤ nameLimit)
    (way : ∀ q ∈ placesDown here names, t.node? q = some .folder)
    (there : t.node? (plainNames here names) = some .folder) :
    Leads t follow links here names (.present (plainNames here names) .folder) := by
  induction names generalizing here with
  | nil => exact .here there
  | cons n names ih =>
    obtain ⟨first, rest⟩ := List.forall_mem_cons.mp short
    by_cases dot : n = "."
    · subst dot
      exact .dot (ih rest way there)
    · by_cases up : n = ".."
      · subst up
        exact .up (ih rest way there)
      · simp only [placesDown, plainNames, List.foldl_cons, dot, up, if_false] at way there ⊢
        obtain ⟨folder, onward⟩ := List.forall_mem_cons.mp way
        exact .folder ⟨dot, up, first⟩ folder (ih rest onward there)

def entry (t : Tree) (top : Place) (n : String) : Target :=
  match t.node? (top ++ [n]) with
  | some node => .present (top ++ [n]) node
  | none => .absent (top ++ [n])

theorem walk_entry (free : t.LinkFree) {top : Place} {n : String} (hn : n ≠ "." ∧ n ≠ "..") :
    t.walk follow links top [n] = .error .nameTooLong ∨
      t.walk follow links top [n] = .ok (t.entry top n) := by
  obtain ⟨jump, hj⟩ := walk_eq_walkNames t follow links
  unfold entry
  rw [hj]
  simp only [walkNames, hn.1, hn.2, if_false]
  split
  · exact .inl rfl
  · refine .inr ?_
    cases hnode : t.node? (top ++ [n]) with
    | none => rfl
    | some node =>
      cases node with
      | file bs => rfl
      | folder => simp
      | link target => exact absurd hnode (free _ _)

/-- In a folder that a path leads to, one more name leads to what there is, if the path is
not too long by then. -/
theorem resolve_child (free : t.LinkFree) {root : Path} (hr : root.Proper) {top : Place}
    (h : t.resolve follow here root.toString = .ok (.present top .folder)) {n : String}
    (hn : IsEntry n) :
    t.resolve follow here (root.child n).toString = .error .nameTooLong ∨
      t.resolve follow here (root.child n).toString = .ok (t.entry top n) := by
  obtain ⟨unhindered, leads⟩ := (resolve_ok hr).mp h
  have start := (hindrance_eq_none.mp unhindered).2
  rw [resolve_path (hr.child hn.name)]
  by_cases short : (Utf8.encode (root.child n).toString.toList).length < pathLimit
  · have still : t.hindrance here (root.child n) = none :=
      hindrance_eq_none.mpr ⟨short, start⟩
    rw [still]
    dsimp only
    have names_ : (root.child n).names = root.names ++ [n] := rfl
    rw [Path.start_child, names_, leads.walk_append free [n]]
    exact walk_entry free ⟨hn.name.2.1, hn.notUp⟩
  · left
    rw [hindrance, if_pos (Nat.not_lt.mp short)]

/-- A path leads to the place that it spells, with nothing but folders on the way. -/
theorem resolve_spelled (free : t.LinkFree) {p : Path} (hp : p.Proper) {found : Target}
    (h : t.resolve follow here p.toString = .ok found) : found.place = p.place here ∧
      ∀ q ∈ p.way here, q ≠ found.place → t.node? q = some .folder := by
  obtain ⟨unhindered, leads⟩ := (resolve_ok hp).mp h
  obtain ⟨place, down⟩ := leads.spelled free
  refine ⟨place, fun q hq hne => ?_⟩
  obtain rfl | hq := List.mem_cons.mp hq
  · exact (hindrance_eq_none.mp unhindered).2
  · exact down q hq hne

theorem resolve_absent (free : t.LinkFree) {p : Path} (hp : p.Proper) {place : Place}
    (h : t.resolve follow here p.toString = .ok (.absent place)) : place ∈ p.way here :=
  List.mem_cons_of_mem _ (((resolve_ok hp).mp h).2.absent_down free)

end Tree

theorem View.node?_some {v : View} {follow : Bool} {p : Path} {place : Place} {n : Node} :
    v.node? follow p = some (place, n) ↔
      hasNul p.toString = false ∧
        v.tree.resolve follow v.here p.toString = .ok (.present place n) := by
  unfold View.node?
  cases hasNul p.toString with
  | true => simp
  | false =>
    simp only [Bool.false_eq_true, if_false, true_and]
    split <;> simp_all

theorem View.not_isOverlong {v : View} {p : Path} {found : Place × Node}
    (h : v.node? true p = some found) : v.isOverlong p = false := by
  unfold View.isOverlong
  rw [(View.node?_some.mp h).1, if_neg Bool.false_ne_true, (View.node?_some.mp h).2]

/-- A path that leads to a folder leads there in any tree that has folders on its way. -/
theorem View.node?_of_folders {v w : View} (free : v.tree.LinkFree) {root : Path}
    (hr : root.Proper) {top : Place} {follow : Bool}
    (h : v.node? follow root = some (top, .folder)) (here : w.here = v.here)
    (way : ∀ q ∈ root.way v.here, w.tree.node? q = some .folder)
    (there : w.tree.node? top = some .folder) : w.node? follow root = some (top, .folder) := by
  obtain ⟨noNul, hres⟩ := View.node?_some.mp h
  obtain ⟨rfl, _⟩ : top = root.place v.here ∧ _ := Tree.resolve_spelled free hr hres
  obtain ⟨start, onward⟩ := List.forall_mem_cons.mp way
  obtain ⟨unhindered, leads⟩ := (Tree.resolve_ok hr).mp hres
  have short := (Tree.hindrance_eq_none.mp unhindered).1
  refine View.node?_some.mpr ⟨noNul, (Tree.resolve_ok hr).mpr ?_⟩
  rw [here]
  exact ⟨Tree.hindrance_eq_none.mpr ⟨short, start⟩,
    Tree.leads_of_folders (leads.short free) onward there⟩

theorem View.noNul_child {v : View} {follow : Bool} {root : Path} {found : Place × Node}
    (h : v.node? follow root = some found) {n : String} (hn : hasNul n = false) :
    hasNul (root.child n).toString = false := by
  obtain ⟨hroot, _⟩ := View.node?_some.mp h
  rw [← Bool.not_eq_true, Path.hasNul_toString]
  rintro ⟨m, hm, hnul⟩
  obtain hm | hm := List.mem_append.mp hm
  · rw [(Path.hasNul_toString root).mpr ⟨m, hm, hnul⟩] at hroot
    cases hroot
  · rw [List.mem_singleton.mp hm, hn] at hnul
    cases hnul

theorem View.node?_child {v : View} (free : v.tree.LinkFree) {root : Path} (hr : root.Proper)
    {top : Place} (h : v.node? true root = some (top, .folder)) {n : String} (hn : IsEntry n)
    (short : v.isOverlong (root.child n) = false) :
    v.node? true (root.child n) = (v.tree.node? (top ++ [n])).map (top ++ [n], ·) := by
  have noNul := View.noNul_child h hn.noNul
  have there : v.tree.resolve true v.here (root.child n).toString =
      .ok (v.tree.entry top n) := by
    refine (Tree.resolve_child free hr (View.node?_some.mp h).2 hn).resolve_left fun hres => ?_
    rw [View.isOverlong, noNul, if_neg Bool.false_ne_true, hres] at short
    cases short
  rw [View.node?, noNul, if_neg Bool.false_ne_true, there, Tree.entry]
  cases v.tree.node? (top ++ [n]) <;> rfl

end DocBraces.Files
