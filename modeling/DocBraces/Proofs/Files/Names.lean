import DocBraces.Proofs.Files.Walking

/-!
# Names of paths

A path that has been read is written and read again without loss: the names that are
handed to the file system are those of the path.
-/

set_option autoImplicit false

namespace DocBraces.Files

def IsName (n : String) : Prop := n ≠ "" ∧ n ≠ "." ∧ '/' ∉ n.toList

instance (n : String) : Decidable (IsName n) :=
  inferInstanceAs (Decidable (n ≠ "" ∧ n ≠ "." ∧ '/' ∉ n.toList))

theorem not_mem_splitOn (x : Char) (cs : List Char) : ∀ l ∈ cs.splitOn x, x ∉ l := by
  induction cs with
  | nil => simp [List.splitOn_nil]
  | cons c cs ih =>
    rw [List.splitOn_cons_eq_if_modifyHead]
    split
    · intro l hl
      obtain rfl | hl := List.mem_cons.mp hl
      · simp
      · exact ih l hl
    · next hc =>
      cases hs : cs.splitOn x with
      | nil => simp
      | cons m ms =>
        rw [hs] at ih
        intro l hl
        obtain rfl | hl := List.mem_cons.mp hl
        · have hm := ih m (by simp)
          have hne : x ≠ c := by
            rintro rfl
            simp at hc
          simp [hm, hne]
        · exact ih l (by simp [hl])

namespace Path

/-- Every name of the path is one that is kept. -/
def Proper (p : Path) : Prop := ∀ n ∈ p.names, IsName n

instance (p : Path) : Decidable p.Proper := inferInstanceAs (Decidable (∀ n ∈ p.names, IsName n))

theorem proper_ofString (s : String) : (ofString s).Proper := by
  intro n hn
  obtain ⟨hs, hk⟩ := List.mem_filter.mp hn
  obtain ⟨cs, hcs, rfl⟩ := List.mem_map.mp hs
  have slash : '/' ∉ (String.ofList cs).toList := by
    rw [String.toList_ofList]
    exact not_mem_splitOn _ _ cs hcs
  simp only [isName, Bool.and_eq_true, Bool.not_eq_true', bne_iff_ne] at hk
  exact ⟨fun he => by simp [he] at hk, hk.2, slash⟩

variable {p q : Path}

theorem Proper.join (hp : p.Proper) (hq : q.Proper) : (p.join q).Proper := by
  unfold Path.join
  split
  · intro n hn
    obtain hn | hn := List.mem_append.mp hn
    · exact hp n hn
    · exact hq n hn
  · exact hq

theorem Proper.child (hp : p.Proper) {n : String} (hn : IsName n) : (p.child n).Proper := by
  intro m hm
  obtain hm | hm := List.mem_append.mp hm
  · exact hp m hm
  · exact List.mem_singleton.mp hm ▸ hn

theorem Proper.parent (hp : p.Proper) : p.parent.Proper :=
  fun n hn => hp n (List.dropLast_subset _ hn)

def pieces (p : Path) : List String :=
  match p.root with
  | .relative => if p.names = [] then ["."] else p.names
  | .absolute => "" :: if p.names = [] then [""] else p.names
  | .doubled => "" :: "" :: if p.names = [] then [""] else p.names

theorem pieces_ne_nil (p : Path) : p.pieces ≠ [] := by
  unfold pieces
  split <;> split <;> simp_all

theorem toString_toList (p : Path) :
    p.toString.toList = ['/'].intercalate (p.pieces.map String.toList) := by
  have slash : "/".toList = ['/'] := rfl
  obtain ⟨root, names⟩ := p
  unfold Path.toString pieces
  cases names with
  | nil => cases root <;> rfl
  | cons n ns =>
    cases root with
    | relative => simp [PathRoot.text, String.toList_intercalate, slash]
    | absolute =>
      simp [PathRoot.text, String.toList_intercalate, slash, List.intercalate_cons_of_ne_nil]
    | doubled =>
      simp [PathRoot.text, String.toList_intercalate, slash, List.intercalate_cons_of_ne_nil]

theorem slash_not_mem_pieces (hp : p.Proper) : ∀ n ∈ p.pieces, '/' ∉ n.toList := by
  have names : ∀ n ∈ p.names, '/' ∉ n.toList := fun n hn => (hp n hn).2.2
  have shown (other : String) (ho : '/' ∉ other.toList) :
      ∀ n ∈ if p.names = [] then [other] else p.names, '/' ∉ n.toList := by
    split
    · intro n hn
      exact List.mem_singleton.mp hn ▸ ho
    · exact names
  unfold pieces
  split
  · exact shown "." (by decide)
  · exact List.forall_mem_cons.mpr ⟨by decide, shown "" (by decide)⟩
  · exact List.forall_mem_cons.mpr ⟨by decide,
      List.forall_mem_cons.mpr ⟨by decide, shown "" (by decide)⟩⟩

theorem splitNames_toString (hp : p.Proper) : splitNames p.toString = p.pieces := by
  have slash : ∀ l ∈ p.pieces.map String.toList, '/' ∉ l := by
    intro l hl
    obtain ⟨n, hn, rfl⟩ := List.mem_map.mp hl
    exact slash_not_mem_pieces hp n hn
  rw [splitNames, toString_toList, List.splitOn_intercalate '/' slash (by simp [pieces_ne_nil]),
    List.map_map]
  exact (List.map_congr_left fun n _ => String.ofList_toList).trans (List.map_id _)

theorem rawNames_toString (hp : p.Proper) : Tree.rawNames p.toString =
    if p.root = .relative ∧ p.names = [] then ["."] else p.names := by
  have kept : p.names.filter (!·.isEmpty) = p.names := by
    rw [List.filter_eq_self]
    intro n hn
    simp [(hp n hn).1]
  have last : p.names.getLast? ≠ some "" := fun h => (hp "" (List.mem_of_getLast? h)).1 rfl
  have pieces_ := splitNames_toString hp
  unfold splitNames at pieces_
  unfold Tree.rawNames
  rw [pieces_]
  obtain ⟨root, names⟩ := p
  unfold pieces
  cases names with
  | nil => cases root <;> rfl
  | cons n ns => cases root <;> simp_all

theorem head?_toString (hp : p.Proper) : p.toString.toList.head? =
    if p.root = .relative then (p.pieces.head?.bind fun n => n.toList.head?) else some '/' := by
  have cons_ (l : List Char) (ls : List (List Char)) (hl : l ≠ []) :
      (['/'].intercalate (l :: ls)).head? = l.head? := by
    cases ls with
    | nil => rw [List.intercalate_singleton]
    | cons m ms =>
      rw [List.intercalate_cons_of_ne_nil (by simp), List.append_assoc,
        List.head?_append_of_ne_nil _ hl]
  rw [toString_toList]
  obtain ⟨root, names⟩ := p
  unfold pieces
  cases names with
  | nil => cases root <;> rfl
  | cons n ns =>
    have hn : n.toList ≠ [] := by
      have := (hp n (by simp)).1
      simpa using this
    cases root with
    | relative => simpa using cons_ n.toList _ hn
    | absolute => simp [List.intercalate_cons_of_ne_nil]
    | doubled => simp [List.intercalate_cons_of_ne_nil]

theorem isRooted_toString (hp : p.Proper) :
    Tree.isRooted p.toString = (p.root != .relative) := by
  have slash := slash_not_mem_pieces hp
  unfold Tree.isRooted
  rw [head?_toString hp]
  by_cases hr : p.root = .relative
  · rw [if_pos hr, hr]
    cases hh : p.pieces.head?.bind fun n => n.toList.head? with
    | none => rfl
    | some c =>
      obtain ⟨n, hn, hc⟩ := Option.bind_eq_some_iff.mp hh
      have hm : c ∈ n.toList := List.mem_of_head? hc
      have hne : c ≠ '/' := fun h => slash n (List.mem_of_head? hn) (h ▸ hm)
      simpa using hne
  · rw [if_neg hr]
    simpa using hr

theorem toString_isEmpty (hp : p.Proper) : p.toString.isEmpty = false := by
  rw [Bool.eq_false_iff]
  intro he
  have hh := head?_toString hp
  rw [String.isEmpty_iff.mp he] at hh
  obtain ⟨root, names⟩ := p
  unfold pieces at hh
  cases names with
  | nil => cases root <;> simp at hh
  | cons n ns =>
    have hn := (hp n (by simp)).1
    cases root with
    | relative =>
      have hl : n.toList = [] := List.head?_eq_none_iff.mp (by simpa using hh.symm)
      exact hn (String.toList_eq_nil_iff.mp hl)
    | absolute => simp at hh
    | doubled => simp at hh

theorem mem_intercalate_slash {x : Char} (hx : x ≠ '/') (ls : List (List Char)) :
    x ∈ ['/'].intercalate ls ↔ ∃ l ∈ ls, x ∈ l := by
  induction ls with
  | nil => simp
  | cons l ls ih =>
    cases ls with
    | nil => simp
    | cons m ms =>
      rw [List.intercalate_cons_of_ne_nil (by simp), List.mem_append, List.mem_append, ih]
      simp [hx]

theorem hasNul_toString (p : Path) :
    hasNul p.toString = true ↔ ∃ n ∈ p.names, hasNul n = true := by
  have nul (s : String) : hasNul s = true ↔ '\x00' ∈ s.toList := by simp [hasNul]
  have pieces_ : (∃ n ∈ p.pieces, '\x00' ∈ n.toList) ↔ ∃ n ∈ p.names, '\x00' ∈ n.toList := by
    obtain ⟨root, names⟩ := p
    unfold pieces
    cases names with
    | nil => cases root <;> simp
    | cons n ns => cases root <;> simp
  simp only [nul]
  rw [toString_toList, mem_intercalate_slash (by decide), ← pieces_]
  simp only [List.mem_map, exists_exists_and_eq_and]

/-- The folder where the names of a path start. -/
def start (here : Place) (p : Path) : Place := if p.root = .relative then here else []

theorem start_child (here : Place) (p : Path) (n : String) :
    (p.child n).start here = p.start here := rfl

theorem start_parent (here : Place) (p : Path) : p.parent.start here = p.start here := rfl

end Path

namespace Tree

open Text

def hindrance (t : Tree) (here : Place) (p : Path) : Option Cause :=
  if pathLimit ≤ (Utf8.encode p.toString.toList).length then some .nameTooLong
  else if p.root = .relative ∧ t.node? here ≠ some .folder then some .notFound
  else none

theorem resolve_path {t : Tree} {follow : Bool} {here : Place} {p : Path} (hp : p.Proper) :
    t.resolve follow here p.toString = match t.hindrance here p with
      | some c => .error c
      | none => t.walk follow linkLimit (p.start here) p.names := by
  have dot (jump : Place → List String → Except Cause Target) :
      t.walkNames follow jump here ["."] = t.walkNames follow jump here [] := by
    simp [walkNames]
  have rooted : isRooted p.toString = decide (p.root ≠ .relative) := by
    rw [Path.isRooted_toString hp]
    cases p.root <;> rfl
  unfold resolve hindrance
  rw [Path.toString_isEmpty hp, if_neg Bool.false_ne_true, rooted, Path.rawNames_toString hp]
  by_cases hl : pathLimit ≤ (Utf8.encode p.toString.toList).length
  · simp [hl]
  · by_cases hr : p.root = .relative
    · by_cases hh : t.node? here = some .folder
      · by_cases hn : p.names = []
        · obtain ⟨jump, hj⟩ := walk_eq_walkNames t follow linkLimit
          simp [hl, hr, hh, hn, Path.start, hj, dot]
        · simp [hl, hr, hh, hn, Path.start]
      · simp [hl, hr, hh]
    · simp [hl, hr, Path.start]

theorem resolve_ok {t : Tree} {follow : Bool} {here : Place} {p : Path} (hp : p.Proper)
    {found : Target} : t.resolve follow here p.toString = .ok found ↔
      t.hindrance here p = none ∧ Leads t follow linkLimit (p.start here) p.names found := by
  rw [resolve_path hp]
  cases t.hindrance here p with
  | some c => simp
  | none => simp [walk_iff]

theorem hindrance_eq_none {t : Tree} {here : Place} {p : Path} : t.hindrance here p = none ↔
    (Utf8.encode p.toString.toList).length < pathLimit ∧
      t.node? (p.start here) = some .folder := by
  unfold hindrance Path.start
  by_cases long : pathLimit ≤ (Utf8.encode p.toString.toList).length
  · simp [long, Nat.not_lt.mpr long]
  · by_cases hrel : p.root = .relative
    · simp [long, Nat.not_le.mp long, hrel]
    · simp [long, Nat.not_le.mp long, hrel, node?]

end Tree

end DocBraces.Files
