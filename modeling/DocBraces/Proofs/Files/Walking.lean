import Mathlib.Data.List.Infix
import DocBraces.Files.View

/-! Where names lead, as a relation with one case for each kind of step, and what becomes
of it when a file is put into the tree: names lead elsewhere only if they lead to this
file. -/

set_option autoImplicit false

namespace DocBraces.Files

open DocBraces.Text

theorem mem_of_lookup {α β : Type} [BEq α] [LawfulBEq α] {l : List (α × β)} {a : α} {b : β}
    (h : l.lookup a = some b) : (a, b) ∈ l := by
  obtain ⟨before, after_, listed, _⟩ := List.lookup_eq_some_iff.mp h
  simp [listed]

namespace Node

def isFile : Node → Bool
  | .file _ => true
  | _ => false

def isLink : Node → Bool
  | .link _ => true
  | _ => false

end Node

namespace Tree

def fileAt (t : Tree) (p : Place) : Option (List UInt8) :=
  match t.node? p with
  | some (.file bs) => some bs
  | _ => none

theorem fileAt_eq_some {t : Tree} {p : Place} {bs : List UInt8} :
    t.fileAt p = some bs ↔ t.node? p = some (.file bs) := by
  unfold fileAt
  split <;> simp_all

theorem fileAt_congr {t u : Tree} {p : Place} (h : t.node? p = u.node? p) :
    t.fileAt p = u.fileAt p := by
  simp only [fileAt, h]

theorem fileAt_put_of_ne (t : Tree) {p q : Place} (n : Node) (h : q ≠ p) :
    (t.put p n).fileAt q = t.fileAt q :=
  fileAt_congr (node?_put_of_ne t p q n h)

theorem fileAt_put_self (t : Tree) {p : Place} (bs : List UInt8) (h : p ≠ []) :
    (t.put p (.file bs)).fileAt p = some bs :=
  fileAt_eq_some.mpr (node?_put_self t p _ h)

theorem ne_nil_of_absent {t : Tree} {p : Place} (h : t.node? p = none) : p ≠ [] := by
  rintro rfl
  simp [node?] at h

theorem ne_nil_of_file {t : Tree} {p : Place} {bs : List UInt8}
    (h : t.node? p = some (.file bs)) : p ≠ [] := by
  rintro rfl
  simp [node?] at h

theorem fileAt_put_folder (t : Tree) {p : Place} (q : Place) (h : t.node? p = none) :
    (t.put p .folder).fileAt q = t.fileAt q := by
  by_cases hq : q = p
  · subst hq
    simp [fileAt, node?_put_self t q .folder (ne_nil_of_absent h), h]
  · exact fileAt_put_of_ne t .folder hq

theorem lookup_filter_place (keep : Place → Bool) (q : Place) (es : List (Place × Node)) :
    (es.filter fun e => keep e.1).lookup q = if keep q then es.lookup q else none := by
  induction es with
  | nil => simp
  | cons e es ih =>
    obtain ⟨k, n⟩ := e
    by_cases hk : q = k
    · subst hk
      by_cases hs : keep q = true <;> simp [hs, ih]
    · have hb : (q == k) = false := by simpa using hk
      by_cases hs : keep k = true <;> simp [hs, List.lookup_cons, hb, ih]

theorem node?_clear (t : Tree) (p q : Place) :
    (t.clear p).node? q = if p <+: q ∧ q ≠ p then none else t.node? q := by
  by_cases hq : q = []
  · subst hq
    have hp : ¬ (p <+: [] ∧ [] ≠ p) := fun h => h.2 (List.prefix_nil.mp h.1).symm
    rw [if_neg hp]
    rfl
  · simp only [node?, hq, if_false, clear]
    rw [lookup_filter_place fun e => !(p.isPrefixOf e && e != p)]
    by_cases hb : p <+: q ∧ q ≠ p
    · have hk : (p.isPrefixOf q && q != p) = true := by
        simp [List.isPrefixOf_iff_prefix.mpr hb.1, hb.2]
      rw [hk, if_pos hb]
      rfl
    · have hk : (p.isPrefixOf q && q != p) = false := by
        by_contra h
        simp only [Bool.not_eq_false, Bool.and_eq_true, bne_iff_ne,
          List.isPrefixOf_iff_prefix] at h
        exact hb h
      rw [hk, if_neg hb]
      rfl

theorem node?_drop_of_ne (t : Tree) {p q : Place} (h : q ≠ p) :
    (t.drop p).node? q = t.node? q := by
  by_cases hq : q = []
  · simp [node?, hq]
  · simp [node?, hq, drop, lookup_filter_ne p q h]

theorem node?_drop_self (t : Tree) {p : Place} (h : p ≠ []) : (t.drop p).node? p = none := by
  simp only [node?, h, if_false, drop]
  rw [lookup_filter_place fun e => e != p]
  simp

theorem fileAt_clear (t : Tree) {p : Place} (q : Place) (h : t.node? p = some .folder) :
    (t.clear p).fileAt q = if p <+: q then none else t.fileAt q := by
  by_cases hq : q = p
  · subst hq
    simp [fileAt, node?_clear, h]
  · by_cases hb : p <+: q <;> simp [fileAt, node?_clear, hb, hq]

theorem fileAt_drop (t : Tree) {p : Place} (q : Place) (h : t.node? p = some .folder) :
    (t.drop p).fileAt q = t.fileAt q := by
  by_cases hq : q = p
  · subst hq
    by_cases hn : q = []
    · simp [fileAt, node?, hn]
    · simp [fileAt, node?_drop_self t hn, h]
  · exact fileAt_congr (node?_drop_of_ne t hq)

theorem mem_of_node? {t : Tree} {p : Place} {n : Node} (hp : p ≠ []) (h : t.node? p = some n) :
    (p, n) ∈ t.entries := by
  rw [node?, if_neg hp] at h
  exact mem_of_lookup h

theorem node?_of_mem {t : Tree} {p : Place} {n : Node} (hp : p ≠ [])
    (listed : (p, n) ∈ t.entries) (only : ∀ m, (p, m) ∈ t.entries → m = n) :
    t.node? p = some n := by
  have found : (t.entries.lookup p).isSome = true :=
    List.lookup_isSome_iff.mpr ⟨_, listed, beq_self_eq_true _⟩
  obtain ⟨m, hm⟩ := Option.isSome_iff_exists.mp found
  rw [node?, if_neg hp, hm, only m (mem_of_lookup hm)]

theorem mem_children {t : Tree} {p : Place} {name : String} :
    name ∈ t.children p ↔ (t.node? (p ++ [name])).isSome = true := by
  unfold Tree.children Tree.node?
  rw [if_neg (by simp), List.mem_filterMap, List.lookup_isSome_iff]
  constructor
  · rintro ⟨⟨k, n⟩, hm, hk⟩
    refine ⟨(k, n), hm, beq_iff_eq.mpr ?_⟩
    cases hl : k.getLast? with
    | none => simp [hl] at hk
    | some last =>
      obtain ⟨init, rfl⟩ := List.getLast?_eq_some_iff.mp hl
      obtain ⟨rfl, rfl⟩ : init = p ∧ last = name := by simpa using hk
      rfl
  · rintro ⟨⟨k, n⟩, hm, hk⟩
    obtain rfl : p ++ [name] = k := beq_iff_eq.mp hk
    exact ⟨(p ++ [name], n), hm, by simp⟩

def IsStep (name : String) : Prop :=
  name ≠ "." ∧ name ≠ ".." ∧ (Utf8.encode name.toList).length ≤ nameLimit

inductive Leads (t : Tree) (follow : Bool) : Nat → Place → List String → Target → Prop
  | here {links : Nat} {here : Place} {n : Node} :
      t.node? here = some n → Leads t follow links here [] (.present here n)
  | dot {links : Nat} {here : Place} {rest : List String} {found : Target} :
      Leads t follow links here rest found → Leads t follow links here ("." :: rest) found
  | up {links : Nat} {here : Place} {rest : List String} {found : Target} :
      Leads t follow links here.dropLast rest found →
        Leads t follow links here (".." :: rest) found
  | free {links : Nat} {here : Place} {name : String} :
      IsStep name → t.node? (here ++ [name]) = none →
        Leads t follow links here [name] (.absent (here ++ [name]))
  | file {links : Nat} {here : Place} {name : String} {bs : List UInt8} :
      IsStep name → t.node? (here ++ [name]) = some (.file bs) →
        Leads t follow links here [name] (.present (here ++ [name]) (.file bs))
  | folder {links : Nat} {here : Place} {name : String} {rest : List String} {found : Target} :
      IsStep name → t.node? (here ++ [name]) = some .folder →
        Leads t follow links (here ++ [name]) rest found →
          Leads t follow links here (name :: rest) found
  | stop {links : Nat} {here : Place} {name target : String} :
      IsStep name → t.node? (here ++ [name]) = some (.link target) → follow = false →
        Leads t follow links here [name] (.present (here ++ [name]) (.link target))
  | jump {links : Nat} {here : Place} {name target : String} {rest : List String}
      {found : Target} :
      IsStep name → t.node? (here ++ [name]) = some (.link target) →
        (follow = false → rest ≠ []) →
        Leads t follow links (if isRooted target then [] else here) (rawNames target ++ rest)
          found → Leads t follow (links + 1) here (name :: rest) found

theorem leads_of_walkNames {t : Tree} {follow : Bool} {links : Nat}
    {jump : Place → List String → Except Cause Target}
    (hj : ∀ here names found, jump here names = .ok found →
      ∃ left, links = left + 1 ∧ Leads t follow left here names found)
    {here : Place} {names : List String} {found : Target}
    (h : t.walkNames follow jump here names = .ok found) :
    Leads t follow links here names found := by
  fun_induction t.walkNames follow jump here names with
  | case1 here n hn =>
    cases h
    exact .here hn
  | case2 => cases h
  | case3 here rest ih => exact .dot (ih h)
  | case4 here rest _ ih => exact .up (ih h)
  | case5 => cases h
  | case6 here name rest hd hu hl p hn hr =>
    cases h
    obtain rfl := List.isEmpty_iff.mp hr
    exact .free ⟨hd, hu, Nat.le_of_not_lt hl⟩ hn
  | case7 => cases h
  | case8 here name rest hd hu hl p bs hn hr =>
    cases h
    obtain rfl := List.isEmpty_iff.mp hr
    exact .file ⟨hd, hu, Nat.le_of_not_lt hl⟩ hn
  | case9 => cases h
  | case10 here name rest hd hu hl p hn ih =>
    exact .folder ⟨hd, hu, Nat.le_of_not_lt hl⟩ hn (ih h)
  | case11 here name rest hd hu hl p target hn hs =>
    cases h
    rw [Bool.and_eq_true, List.isEmpty_iff, Bool.not_eq_true'] at hs
    obtain ⟨rfl, hf⟩ := hs
    exact .stop ⟨hd, hu, Nat.le_of_not_lt hl⟩ hn hf
  | case12 here name rest hd hu hl p target hn hs =>
    obtain ⟨left, rfl, hw⟩ := hj _ _ _ h
    refine .jump ⟨hd, hu, Nat.le_of_not_lt hl⟩ hn ?_ hw
    rintro rfl rfl
    exact hs rfl

theorem leads_of_walk {t : Tree} {follow : Bool} {links : Nat} {here : Place}
    {names : List String} {found : Target} (h : t.walk follow links here names = .ok found) :
    Leads t follow links here names found := by
  induction links generalizing here names found with
  | zero =>
    refine leads_of_walkNames (fun _ _ _ hj => ?_) h
    cases hj
  | succ links ih => exact leads_of_walkNames (fun _ _ _ hj => ⟨links, rfl, ih hj⟩) h

theorem walk_eq_walkNames (t : Tree) (follow : Bool) (links : Nat) :
    ∃ jump, t.walk follow links = t.walkNames follow jump := by
  cases links <;> exact ⟨_, rfl⟩

theorem walk_of_leads {t : Tree} {follow : Bool} {links : Nat} {here : Place}
    {names : List String} {found : Target} (h : Leads t follow links here names found) :
    t.walk follow links here names = .ok found := by
  induction h with
  | @jump links here name target rest found hs hn hr _ ih =>
    have hb : (rest.isEmpty && !follow) = false := by
      cases follow <;> simp_all
    simpa [walk, walkNames, hs.1, hs.2.1, Nat.not_lt.mpr hs.2.2, hn, hb] using ih
  | @here links _ _ hn =>
    obtain ⟨jump, hj⟩ := walk_eq_walkNames t follow links
    simp [hj, walkNames, hn]
  | @dot links _ _ _ _ ih | @up links _ _ _ _ ih =>
    obtain ⟨jump, hj⟩ := walk_eq_walkNames t follow links
    simpa [hj, walkNames] using ih
  | @free links _ _ hs hn | @file links _ _ _ hs hn =>
    obtain ⟨jump, hj⟩ := walk_eq_walkNames t follow links
    simp [hj, walkNames, hs.1, hs.2.1, Nat.not_lt.mpr hs.2.2, hn]
  | @folder links _ _ _ _ hs hn _ ih =>
    obtain ⟨jump, hj⟩ := walk_eq_walkNames t follow links
    simpa [hj, walkNames, hs.1, hs.2.1, Nat.not_lt.mpr hs.2.2, hn] using ih
  | @stop links _ _ _ hs hn hf =>
    subst hf
    obtain ⟨jump, hj⟩ := walk_eq_walkNames t false links
    simp [hj, walkNames, hs.1, hs.2.1, Nat.not_lt.mpr hs.2.2, hn]

theorem walk_iff {t : Tree} {follow : Bool} {links : Nat} {here : Place} {names : List String}
    {found : Target} :
    t.walk follow links here names = .ok found ↔ Leads t follow links here names found :=
  ⟨leads_of_walk, walk_of_leads⟩

def Target.Holds (t : Tree) : Target → Prop
  | .present p n => t.node? p = some n
  | .absent p => t.node? p = none

section
variable {t : Tree} {follow : Bool} {links : Nat} {here : Place} {names : List String}
  {found : Target}

theorem Leads.holds (h : Leads t follow links here names found) : found.Holds t := by
  induction h with
  | here hn => exact hn
  | dot _ ih => exact ih
  | up _ ih => exact ih
  | free _ hn => exact hn
  | file _ hn => exact hn
  | folder _ _ _ ih => exact ih
  | stop _ hn _ => exact hn
  | jump _ _ _ _ ih => exact ih

/-- A folder that is found without a link at the end is found with all links followed. -/
theorem Leads.followed {p : Place} (h : Leads t false links here names (.present p .folder)) :
    Leads t true links here names (.present p .folder) := by
  generalize hf : Target.present p .folder = found at h
  induction h with
  | here hn => exact .here hn
  | dot _ ih => exact .dot (ih hf)
  | up _ ih => exact .up (ih hf)
  | free => cases hf
  | file => cases hf
  | folder hs hn _ ih => exact .folder hs hn (ih hf)
  | stop => cases hf
  | jump hs hn _ _ ih => exact .jump hs hn (fun h => nomatch h) (ih hf)

/-- Names that lead on from a folder do so from where it is, with the links that are left. -/
theorem Leads.walk_onward {top : Place} (h : Leads t true links here names (.present top .folder)) :
    ∃ left, ∀ (follow : Bool) (rest : List String), rest ≠ [] →
      t.walk follow links here (names ++ rest) = t.walk follow left top rest := by
  generalize hf : Target.present top .folder = found at h
  induction h with
  | @here links _ _ =>
    cases hf
    exact ⟨links, fun _ _ _ => rfl⟩
  | @dot links _ _ _ _ ih =>
    obtain ⟨left, onward⟩ := ih hf
    refine ⟨left, fun follow rest hne => ?_⟩
    obtain ⟨jump, hj⟩ := walk_eq_walkNames t follow links
    rw [← onward follow rest hne, hj, List.cons_append, walkNames, if_pos rfl]
  | @up links _ _ _ _ ih =>
    obtain ⟨left, onward⟩ := ih hf
    refine ⟨left, fun follow rest hne => ?_⟩
    obtain ⟨jump, hj⟩ := walk_eq_walkNames t follow links
    rw [← onward follow rest hne, hj, List.cons_append, walkNames, if_neg (by decide), if_pos rfl]
  | free => cases hf
  | file => cases hf
  | stop => cases hf
  | @folder links _ _ _ _ hs hn _ ih =>
    obtain ⟨left, onward⟩ := ih hf
    refine ⟨left, fun follow rest hne => ?_⟩
    obtain ⟨jump, hj⟩ := walk_eq_walkNames t follow links
    rw [← onward follow rest hne, hj]
    simp only [List.cons_append, walkNames, hs.1, hs.2.1, Nat.not_lt.mpr hs.2.2, if_false, hn]
  | @jump links _ _ _ names _ hs hn _ _ ih =>
    obtain ⟨left, onward⟩ := ih hf
    refine ⟨left, fun follow rest hne => ?_⟩
    have more : (names ++ rest).isEmpty = false := by simp [hne]
    rw [← onward follow rest hne, walk, List.append_assoc]
    simp only [List.cons_append, walkNames, hs.1, hs.2.1, Nat.not_lt.mpr hs.2.2, if_false, hn, more,
      Bool.false_and, Bool.false_eq_true]

theorem Leads.entry_place {top : Place} {n : String} {found : Target}
    (h : Leads t follow links top [n] found) (hn : n ≠ "." ∧ n ≠ "..")
    (plain : ∀ target, t.node? (top ++ [n]) ≠ some (.link target)) :
    found.place = top ++ [n] := by
  cases h with
  | dot => exact absurd rfl hn.1
  | up => exact absurd rfl hn.2
  | free => rfl
  | file => rfl
  | folder _ _ h =>
    cases h
    rfl
  | stop => rfl
  | jump _ hl => exact absurd hl (plain _)

theorem Leads.before_put {p : Place} {bs : List UInt8}
    (h : Leads (t.put p (.file bs)) follow links here names found) (hne : found.place ≠ p)
    (hp : p ≠ []) : Leads t follow links here names found := by
  have same (q : Place) (hq : q ≠ p) : (t.put p (.file bs)).node? q = t.node? q :=
    node?_put_of_ne t p q _ hq
  have self : (t.put p (.file bs)).node? p = some (.file bs) := node?_put_self t p _ hp
  induction h with
  | here hn => exact .here (same _ hne ▸ hn)
  | dot _ ih => exact .dot (ih hne)
  | up _ ih => exact .up (ih hne)
  | free hs hn => exact .free hs (same _ hne ▸ hn)
  | file hs hn => exact .file hs (same _ hne ▸ hn)
  | @folder _ here name _ _ hs hn _ ih =>
    have hq : here ++ [name] ≠ p := by
      rintro rfl
      simp [self] at hn
    exact .folder hs (same _ hq ▸ hn) (ih hne)
  | stop hs hn hl => exact .stop hs (same _ hne ▸ hn) hl
  | @jump _ here name _ _ _ hs hn hr _ ih =>
    have hq : here ++ [name] ≠ p := by
      rintro rfl
      simp [self] at hn
    exact .jump hs (same _ hq ▸ hn) hr (ih hne)

/-- Trees that differ in nothing but what their files hold. -/
def Alike (t u : Tree) : Prop :=
  ∀ p, t.node? p = u.node? p ∨ ∃ a b, t.node? p = some (.file a) ∧ u.node? p = some (.file b)

theorem Alike.symm {u : Tree} (h : Alike t u) : Alike u t := by
  intro p
  obtain hp | ⟨a, b, ha, hb⟩ := h p
  · exact .inl hp.symm
  · exact .inr ⟨b, a, hb, ha⟩

theorem Alike.of_not_file {u : Tree} (h : Alike t u) {p : Place} {n : Option Node}
    (hn : t.node? p = n) (hf : ∀ bs, n ≠ some (.file bs)) : u.node? p = n := by
  obtain hp | ⟨a, _, ha, _⟩ := h p
  · exact hp ▸ hn
  · exact absurd (hn.symm.trans ha) (hf a)

theorem Alike.isSome {u : Tree} (h : Alike t u) (p : Place) :
    (t.node? p).isSome = (u.node? p).isSome := by
  obtain hp | ⟨a, b, ha, hb⟩ := h p
  · rw [hp]
  · rw [ha, hb]
    rfl

theorem alike_put {p : Place} {old : List UInt8} (bs : List UInt8)
    (h : t.node? p = some (.file old)) : Alike t (t.put p (.file bs)) := by
  intro q
  by_cases hq : q = p
  · subst hq
    exact .inr ⟨old, bs, h, node?_put_self t q _ (ne_nil_of_file h)⟩
  · exact .inl (node?_put_of_ne t p q _ hq).symm

def Target.Like (found other : Target) : Prop :=
  found = other ∨ ∃ p a b, found = .present p (.file a) ∧ other = .present p (.file b)

theorem Leads.alike {u : Tree} (h : Alike t u) (hw : Leads t follow links here names found) :
    ∃ other, Leads u follow links here names other ∧ found.Like other := by
  induction hw with
  | @here links here n hn =>
    obtain hp | ⟨a, b, ha, hb⟩ := h here
    · exact ⟨_, .here (hp ▸ hn), .inl rfl⟩
    · obtain rfl : n = .file a := Option.some.inj (hn.symm.trans ha)
      exact ⟨_, .here hb, .inr ⟨here, a, b, rfl, rfl⟩⟩
  | dot _ ih =>
    obtain ⟨other, ho, hl⟩ := ih
    exact ⟨other, .dot ho, hl⟩
  | up _ ih =>
    obtain ⟨other, ho, hl⟩ := ih
    exact ⟨other, .up ho, hl⟩
  | free hs hn => exact ⟨_, .free hs (h.of_not_file hn fun _ => nofun), .inl rfl⟩
  | @file links here name bs hs hn =>
    obtain hp | ⟨a, b, ha, hb⟩ := h (here ++ [name])
    · exact ⟨_, .file hs (hp ▸ hn), .inl rfl⟩
    · exact ⟨_, .file hs hb, .inr ⟨_, bs, b, rfl, rfl⟩⟩
  | folder hs hn _ ih =>
    obtain ⟨other, ho, hl⟩ := ih
    exact ⟨other, .folder hs (h.of_not_file hn fun _ => nofun) ho, hl⟩
  | stop hs hn hf => exact ⟨_, .stop hs (h.of_not_file hn fun _ => nofun) hf, .inl rfl⟩
  | jump hs hn hr _ ih =>
    obtain ⟨other, ho, hl⟩ := ih
    exact ⟨other, .jump hs (h.of_not_file hn fun _ => nofun) hr ho, hl⟩

theorem resolve_iff {s : String} : t.resolve follow here s = .ok found ↔
    s.isEmpty = false ∧ (Utf8.encode s.toList).length < pathLimit ∧
      (isRooted s = true ∨ t.node? here = some .folder) ∧
      Leads t follow linkLimit (if isRooted s then [] else here) (rawNames s) found := by
  unfold resolve
  rw [← walk_iff]
  cases s.isEmpty with
  | true => simp
  | false =>
    by_cases hl : pathLimit ≤ (Utf8.encode s.toList).length
    · simp [hl, Nat.not_lt.mpr hl]
    · cases isRooted s <;> by_cases hn : t.node? here = some .folder <;>
        simp [hl, hn, Nat.lt_of_not_le hl]

theorem resolve_alike {u : Tree} (h : Alike t u) {s : String}
    (hr : t.resolve follow here s = .ok found) :
    ∃ other, u.resolve follow here s = .ok other ∧ found.Like other := by
  obtain ⟨he, hl, hh, hw⟩ := resolve_iff.mp hr
  obtain ⟨other, ho, hlike⟩ := hw.alike h
  have there : isRooted s = true ∨ u.node? here = some .folder :=
    hh.imp_right fun hn => h.of_not_file hn (by simp)
  exact ⟨other, resolve_iff.mpr ⟨he, hl, there, ho⟩, hlike⟩

theorem walkNames_error_alike {u : Tree} (h : Alike t u)
    {jump jump' : Place → List String → Except Cause Target}
    (hj : ∀ here names c, jump here names = .error c → jump' here names = .error c)
    {c : Cause} (hw : t.walkNames follow jump here names = .error c) :
    u.walkNames follow jump' here names = .error c := by
  fun_induction t.walkNames follow jump here names with
  | case1 => cases hw
  | case2 here hn =>
    rw [walkNames, h.of_not_file hn fun _ => nofun]
    exact hw
  | case3 here rest ih =>
    rw [walkNames, if_pos rfl]
    exact ih hw
  | case4 here rest hd ih =>
    rw [walkNames, if_neg hd, if_pos rfl]
    exact ih hw
  | case5 here name rest hd hu hl =>
    rw [walkNames, if_neg hd, if_neg hu, if_pos hl]
    exact hw
  | case6 => cases hw
  | case7 here name rest hd hu hl p hn hr =>
    simp only [walkNames, hd, hu, hl, if_false]
    rw [h.of_not_file hn fun _ => nofun]
    dsimp only
    rw [if_neg hr]
    exact hw
  | case8 => cases hw
  | case9 here name rest hd hu hl p bs hn hr =>
    simp only [walkNames, hd, hu, hl, if_false]
    obtain hp | ⟨a, b, _, hb⟩ := h p
    · rw [← hp, hn]
      dsimp only
      rw [if_neg hr]
      exact hw
    · rw [hb]
      dsimp only
      rw [if_neg hr]
      exact hw
  | case10 here name rest hd hu hl p hn ih =>
    simp only [walkNames, hd, hu, hl, if_false]
    rw [h.of_not_file hn fun _ => nofun]
    exact ih hw
  | case11 => cases hw
  | case12 here name rest hd hu hl p target hn hs =>
    simp only [walkNames, hd, hu, hl, if_false]
    rw [h.of_not_file hn fun _ => nofun]
    dsimp only
    rw [if_neg hs]
    exact hj _ _ _ hw

theorem walk_error_alike {u : Tree} (h : Alike t u) {c : Cause}
    (hw : t.walk follow links here names = .error c) :
    u.walk follow links here names = .error c := by
  induction links generalizing here names c with
  | zero => exact walkNames_error_alike h (fun _ _ _ hj => hj) hw
  | succ links ih => exact walkNames_error_alike h (fun _ _ _ hj => ih hj) hw

theorem resolve_error_alike {u : Tree} (h : Alike t u) {s : String} {c : Cause}
    (hr : t.resolve follow here s = .error c) : u.resolve follow here s = .error c := by
  have there : (t.node? here != some .folder) = (u.node? here != some .folder) := by
    obtain hp | ⟨a, b, ha, hb⟩ := h here
    · rw [hp]
    · rw [ha, hb]
      rfl
  unfold resolve at hr ⊢
  rw [← there]
  split
  · next he => rwa [if_pos he] at hr
  · next he =>
    rw [if_neg he] at hr
    split
    · next hl => rwa [if_pos hl] at hr
    · next hl =>
      rw [if_neg hl] at hr
      split
      · next hh => rwa [if_pos hh] at hr
      · next hh =>
        rw [if_neg hh] at hr
        exact walk_error_alike h hr

theorem resolve_before_put {p : Place} {bs : List UInt8} {s : String}
    (h : (t.put p (.file bs)).resolve follow here s = .ok found) (hne : found.place ≠ p)
    (hp : p ≠ []) : t.resolve follow here s = .ok found := by
  obtain ⟨he, hl, hh, hw⟩ := resolve_iff.mp h
  refine resolve_iff.mpr ⟨he, hl, hh.imp_right fun hn => ?_, hw.before_put hne hp⟩
  by_cases hq : here = p
  · rw [hq, node?_put_self t p _ hp] at hn
    cases hn
  · rwa [node?_put_of_ne t p here _ hq] at hn

end

end Tree

end DocBraces.Files
