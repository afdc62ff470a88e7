import Mathlib.Data.List.Forall2
import DocBraces.Files.Glob
import DocBraces.Proofs.Files.Walking

/-!
# What is selected

A pattern selects by what there is at each place. What the files hold has no say in it,
and the order in which a tree has its entries only in the order of what is selected.
-/

set_option autoImplicit false

namespace DocBraces.Files

section
variable {α β ε : Type}

theorem mapM_ok_iff {f : α → Except ε β} {xs : List α} {ys : List β} :
    xs.mapM f = .ok ys ↔ List.Forall₂ (fun x y => f x = .ok y) xs ys := by
  induction xs generalizing ys with
  | nil =>
    rw [List.mapM_nil, List.forall₂_nil_left_iff]
    exact ⟨fun h => (Except.ok.inj h).symm, fun h => h ▸ rfl⟩
  | cons x xs ih =>
    rw [List.mapM_cons, List.forall₂_cons_left_iff]
    cases hx : f x with
    | error e => exact iff_of_false nofun fun ⟨_, _, h, _⟩ => nomatch h
    | ok y =>
      cases hxs : xs.mapM f with
      | error e =>
        refine iff_of_false nofun fun ⟨_, zs, _, h, _⟩ => ?_
        rw [ih.mpr h] at hxs
        cases hxs
      | ok zs =>
        constructor
        · intro h
          obtain rfl := Except.ok.inj h
          exact ⟨y, zs, rfl, ih.mp hxs, rfl⟩
        · rintro ⟨_, zs', h, hr, rfl⟩
          obtain rfl := Except.ok.inj h
          obtain rfl := Except.ok.inj (hxs.symm.trans (ih.mpr hr))
          rfl

theorem mapM_ok_of_forall {f : α → Except ε β} {xs : List α} (h : ∀ x ∈ xs, ∃ y, f x = .ok y) :
    ∃ ys, xs.mapM f = .ok ys := by
  induction xs with
  | nil => exact ⟨[], rfl⟩
  | cons x xs ih =>
    obtain ⟨y, hy⟩ := h x (by simp)
    obtain ⟨ys, hys⟩ := ih fun z hz => h z (by simp [hz])
    exact ⟨y :: ys, mapM_ok_iff.mpr (.cons hy (mapM_ok_iff.mp hys))⟩

theorem ok_of_mapM {f : α → Except ε β} {xs : List α} {ys : List β} (h : xs.mapM f = .ok ys)
    {x : α} (hx : x ∈ xs) : ∃ y ∈ ys, f x = .ok y := by
  have hf := mapM_ok_iff.mp h
  clear h
  induction hf with
  | nil => cases hx
  | @cons z y zs ys hy _ ih =>
    obtain rfl | hx := List.mem_cons.mp hx
    · exact ⟨y, by simp, hy⟩
    · obtain ⟨w, hw, hf⟩ := ih hx
      exact ⟨w, by simp [hw], hf⟩

theorem mapM_error_iff {f : α → Except ε β} {xs : List α} {e : ε} :
    xs.mapM f = .error e ↔ ∃ earlier x later, xs = earlier ++ x :: later ∧
      (∀ y ∈ earlier, ∃ v, f y = .ok v) ∧ f x = .error e := by
  induction xs with
  | nil => exact iff_of_false nofun fun ⟨_, _, _, h, _⟩ => by simp at h
  | cons x xs ih =>
    rw [List.mapM_cons]
    constructor
    · intro h
      cases hx : f x with
      | error e' =>
        rw [hx] at h
        obtain rfl := Except.error.inj h
        exact ⟨[], x, xs, rfl, by simp, hx⟩
      | ok v =>
        have rest : xs.mapM f = .error e := by
          cases hr : xs.mapM f with
          | error e' =>
            rw [hx, hr] at h
            exact congrArg _ (Except.error.inj h)
          | ok vs =>
            rw [hx, hr] at h
            cases h
        obtain ⟨earlier, y, later, rfl, before, hy⟩ := ih.mp rest
        exact ⟨x :: earlier, y, later, rfl, List.forall_mem_cons.mpr ⟨⟨v, hx⟩, before⟩, hy⟩
    · rintro ⟨earlier, y, later, hxs, before, hy⟩
      cases earlier with
      | nil =>
        obtain ⟨rfl, rfl⟩ := List.cons.inj hxs
        rw [hy]
        rfl
      | cons z earlier =>
        obtain ⟨rfl, rfl⟩ := List.cons.inj hxs
        obtain ⟨⟨v, hv⟩, before⟩ := List.forall_mem_cons.mp before
        rw [hv, ih.mpr ⟨earlier, y, later, rfl, before, hy⟩]
        rfl

theorem mem_flatten_of_mapM {f : α → Except ε (List β)} {xs : List α} {ys : List (List β)}
    (h : xs.mapM f = .ok ys) {b : β} :
    b ∈ ys.flatten ↔ ∃ x ∈ xs, ∃ bs, f x = .ok bs ∧ b ∈ bs := by
  have hf := mapM_ok_iff.mp h
  clear h
  induction hf with
  | nil => simp
  | @cons x y xs ys hy _ ih =>
    rw [List.flatten_cons, List.mem_append]
    constructor
    · rintro (hb | hb)
      · exact ⟨x, by simp, y, hy, hb⟩
      · obtain ⟨z, hz, hzs⟩ := ih.mp hb
        exact ⟨z, by simp [hz], hzs⟩
    · rintro ⟨z, hz, bs, hbs, hb⟩
      obtain rfl | hz := List.mem_cons.mp hz
      · obtain rfl := Except.ok.inj (hy.symm.trans hbs)
        exact .inl hb
      · exact .inr (ih.mpr ⟨z, hz, bs, hbs, hb⟩)

end

inductive Agree {α : Type} : Except WalkFault (List α) → Except WalkFault (List α) → Prop
  | found {xs ys : List α} : (∀ x, x ∈ xs ↔ x ∈ ys) → Agree (.ok xs) (.ok ys)
  | failed {f g : WalkFault} : Agree (.error f) (.error g)

section
variable {α β : Type} {x y : Except WalkFault (List α)}

theorem Agree.refl (x : Except WalkFault (List α)) : Agree x x := by
  cases x with
  | error f => exact .failed
  | ok xs => exact .found fun _ => .rfl

theorem Agree.ok (h : Agree x y) {xs : List α} (hx : x = .ok xs) :
    ∃ ys, y = .ok ys ∧ ∀ a, a ∈ xs ↔ a ∈ ys := by
  subst hx
  cases h with
  | found same => exact ⟨_, rfl, same⟩

theorem Agree.symm (h : Agree x y) : Agree y x := by
  cases h with
  | found same => exact .found fun a => (same a).symm
  | failed => exact .failed

/-- Searches from the members of two lists agree if the lists have the same members and
the searches agree at each. -/
theorem Agree.mapM {f g : α → Except WalkFault (List β)} {xs ys : List α} {first first' : List β}
    (same : ∀ x, x ∈ xs ↔ x ∈ ys) (h : ∀ x, Agree (f x) (g x))
    (before : ∀ b, b ∈ first ↔ b ∈ first') :
    Agree (do return first ++ (← xs.mapM f).flatten)
      (do return first' ++ (← ys.mapM g).flatten) := by
  have forth {f g : α → Except WalkFault (List β)} {xs ys : List α}
      (same : ∀ x, x ∈ xs ↔ x ∈ ys) (h : ∀ x, Agree (f x) (g x)) {found : List (List β)}
      (hx : xs.mapM f = .ok found) : ∃ others, ys.mapM g = .ok others := by
    refine mapM_ok_of_forall fun y hy => ?_
    obtain ⟨ps, _, hf⟩ := ok_of_mapM hx ((same y).mpr hy)
    obtain ⟨qs, hq, _⟩ := (h y).ok hf
    exact ⟨qs, hq⟩
  cases hx : xs.mapM f with
  | error e =>
    cases hy : ys.mapM g with
    | error e' => exact .failed
    | ok others =>
      obtain ⟨found, hf⟩ := forth (fun x => (same x).symm) (fun x => (h x).symm) hy
      rw [hx] at hf
      cases hf
  | ok found =>
    obtain ⟨others, hy⟩ := forth same h hx
    rw [hy]
    refine .found fun b => ?_
    have side {x : α} {bs : List β} {f g : α → Except WalkFault (List β)}
        (h : ∀ x, Agree (f x) (g x)) (hf : f x = .ok bs) (hb : b ∈ bs) :
        ∃ cs, g x = .ok cs ∧ b ∈ cs := by
      obtain ⟨cs, hc, hs⟩ := (h x).ok hf
      exact ⟨cs, hc, (hs b).mp hb⟩
    rw [List.mem_append, List.mem_append, mem_flatten_of_mapM hx, mem_flatten_of_mapM hy, before]
    refine or_congr_right ⟨?_, ?_⟩
    · rintro ⟨x, hm, bs, hf, hb⟩
      exact ⟨x, (same x).mp hm, side h hf hb⟩
    · rintro ⟨x, hm, bs, hf, hb⟩
      exact ⟨x, (same x).mpr hm, side (fun x => (h x).symm) hf hb⟩

end

def FindsFrom (r : PathRoot) (x : Except WalkFault (List Path)) : Prop :=
  ∀ ps, x = .ok ps → ∀ p ∈ ps, p.root = r

theorem FindsFrom.ok {r : PathRoot} {ps : List Path} (h : ∀ p ∈ ps, p.root = r) :
    FindsFrom r (.ok ps) := by
  intro qs hq
  obtain rfl := Except.ok.inj hq
  exact h

theorem FindsFrom.error {r : PathRoot} (f : WalkFault) : FindsFrom r (.error f) := fun _ => nofun

theorem FindsFrom.bind {α : Type} {r : PathRoot} {x : Except WalkFault α}
    {f : α → Except WalkFault (List Path)} (h : ∀ a, x = .ok a → FindsFrom r (f a)) :
    FindsFrom r (x >>= f) := by
  cases x with
  | error e => exact .error e
  | ok a => exact h a rfl

theorem FindsFrom.mapM {α : Type} {r : PathRoot} {f : α → Except WalkFault (List Path)}
    {xs : List α} (h : ∀ x ∈ xs, FindsFrom r (f x)) (first : List Path)
    (hf : ∀ p ∈ first, p.root = r) :
    FindsFrom r (do return first ++ (← xs.mapM f).flatten) := by
  refine .bind fun found hx => .ok fun p hp => ?_
  obtain hp | hp := List.mem_append.mp hp
  · exact hf p hp
  · obtain ⟨x, hm, ps, hps, hp⟩ := (mem_flatten_of_mapM hx).mp hp
    exact h x hm ps hps p hp

theorem View.walk_root (v : View) {look : Path → Except WalkFault (List Path)}
    (h : ∀ p, FindsFrom p.root (look p)) (levels : Nat) (p : Path) :
    FindsFrom p.root (v.walk look levels p) := by
  induction levels generalizing p with
  | zero => exact .bind fun _ _ => .error _
  | succ levels ih =>
    refine .bind fun found hfound => .bind fun names _ => .mapM (fun n _ => ?_) found (h p _ hfound)
    split
    · exact ih (p.child n)
    · exact .ok (by simp)

theorem Glob.select_root (v : View) (levels : Nat) (onlyFolders : Bool) (cs : List Component)
    (p : Path) : FindsFrom p.root (select v levels onlyFolders cs p) := by
  induction cs generalizing p with
  | nil => exact .ok (by simp)
  | cons c cs ih =>
    cases c with
    | exactly name =>
      have onward (there : Bool) : FindsFrom p.root
          (if there then select v levels onlyFolders cs (p.child name) else .ok []) := by
        cases there
        · exact .ok (by simp)
        · exact ih (p.child name)
      simp only [select]
      split
      · exact .error _
      · split
        · exact onward _
        · exact onward _
    | like us =>
      refine .bind fun names _ => .mapM (fun n _ => .bind fun there _ => ?_) [] (by simp)
      split
      · exact ih (p.child n)
      · exact .ok (by simp)
    | folders => exact v.walk_root ih levels p

theorem Glob.find_root (v : View) (levels : Nat) (root : Path) (pat : Pattern) :
    FindsFrom root.root (find v levels root pat) := by
  unfold find
  split
  · exact .error _
  · split
    · exact select_root v _ _ _ root
    · exact .ok (by simp)

/-- A pattern of one component for names selects the entries whose names fit. -/
theorem Glob.select_like (v : View) (levels : Nat) (us : List Unit) (root : Path) :
    select v levels false [.like us] root = (v.scan root).map fun names =>
      (names.filter fun n => fits us n.toList).map root.child := by
  have each (ns : List String) : (ns.mapM fun n => if fits us n.toList
      then (.ok [root.child n] : Except WalkFault (List Path)) else .ok []) =
        .ok (ns.map fun n => if fits us n.toList then [root.child n] else []) := by
    simp only [← apply_ite]
    exact List.mapM_pure
  have kept (ns : List String) : (ns.map fun n =>
      if fits us n.toList then [root.child n] else []).flatten =
        (ns.filter fun n => fits us n.toList).map root.child := by
    induction ns with
    | nil => rfl
    | cons n ns ih =>
      rw [List.map_cons, List.flatten_cons, ih, List.filter_cons]
      split <;> rfl
  cases hv : v.scan root with
  | error f =>
    rw [select]
    simp only [hv]
    rfl
  | ok names =>
    rw [select]
    simp only [hv, select]
    exact (congrArg (· >>= fun found => pure found.flatten) (each names)).trans
      (congrArg Except.ok (kept names))

theorem Glob.select_exactly (v : View) (levels : Nat) (name : String) (root : Path) :
    select v levels false [.exactly name] root =
      if v.isOverlong (root.child name) then View.overlong (root.child name)
      else if v.isThere (root.child name) then .ok [root.child name] else .ok [] := by
  simp only [select]
  cases v.isOverlong (root.child name) <;> rfl

structure View.Alike (v w : View) : Prop where
  tree : v.tree.Alike w.tree
  here : v.here = w.here

namespace View.Alike

variable {v w : View}

theorem symm (h : v.Alike w) : w.Alike v := ⟨h.tree.symm, h.here.symm⟩

theorem node? (h : v.Alike w) {follow : Bool} {p : Path} {place : Place} {n : Node}
    (hv : v.node? follow p = some (place, n)) : ∃ m, w.node? follow p = some (place, m) ∧
      (n = m ∨ ∃ a b, n = .file a ∧ m = .file b) := by
  unfold View.node? at hv ⊢
  split at hv
  · cases hv
  · next hn =>
    rw [if_neg hn, ← h.here]
    cases hr : v.tree.resolve follow v.here p.toString with
    | error c => simp [hr] at hv
    | ok found =>
      rw [hr] at hv
      obtain ⟨other, ho, hlike⟩ := Tree.resolve_alike h.tree hr
      rw [ho]
      cases found with
      | absent q => cases hv
      | present q m =>
        cases hv
        obtain rfl | ⟨at_, a, b, hf, rfl⟩ := hlike
        · exact ⟨n, rfl, .inl rfl⟩
        · cases hf
          exact ⟨.file b, rfl, .inr ⟨a, b, rfl, rfl⟩⟩

theorem folder (h : v.Alike w) {follow : Bool} {p : Path} {place : Place}
    (hv : v.node? follow p = some (place, .folder)) :
    w.node? follow p = some (place, .folder) := by
  obtain ⟨m, hm, rfl | ⟨a, b, ha, _⟩⟩ := h.node? hv
  · exact hm
  · cases ha

theorem isFolder (h : v.Alike w) (p : Path) : v.isFolder p = w.isFolder p := by
  have forth {v w : View} (h : v.Alike w) (hv : v.isFolder p = true) : w.isFolder p = true := by
    unfold View.isFolder at hv ⊢
    split at hv
    · next place hp => rw [h.folder hp]
    · cases hv
  exact Bool.eq_iff_iff.mpr ⟨forth h, forth h.symm⟩

theorem isThere (h : v.Alike w) (p : Path) : v.isThere p = w.isThere p := by
  have forth {v w : View} (h : v.Alike w) (hv : v.isThere p = true) : w.isThere p = true := by
    obtain ⟨⟨place, n⟩, hp⟩ := Option.isSome_iff_exists.mp hv
    obtain ⟨m, hm, _⟩ := h.node? hp
    exact Option.isSome_iff_exists.mpr ⟨_, hm⟩
  exact Bool.eq_iff_iff.mpr ⟨forth h, forth h.symm⟩

theorem isOverlong (h : v.Alike w) (p : Path) : v.isOverlong p = w.isOverlong p := by
  have forth {v w : View} (h : v.Alike w) (hv : v.isOverlong p = true) :
      w.isOverlong p = true := by
    unfold View.isOverlong at hv ⊢
    split at hv
    · cases hv
    · next hn =>
      rw [if_neg hn, ← h.here]
      split at hv
      · next hr => rw [Tree.resolve_error_alike h.tree hr]
      · cases hv
  exact Bool.eq_iff_iff.mpr ⟨forth h, forth h.symm⟩

theorem names (h : v.Alike w) (p : Path) (name : String) :
    name ∈ v.names p ↔ name ∈ w.names p := by
  have forth {v w : View} (h : v.Alike w) (hv : name ∈ v.names p) : name ∈ w.names p := by
    unfold View.names at hv ⊢
    split at hv
    · next place hp =>
      rw [h.folder hp]
      rw [Tree.mem_children, h.tree.isSome] at hv
      exact Tree.mem_children.mpr hv
    · cases hv
  exact ⟨forth h, forth h.symm⟩

theorem entry? (h : v.Alike w) (p : Path) (name : String) :
    v.entry? p name = w.entry? p name ∨
      ∃ a b, v.entry? p name = some (.file a) ∧ w.entry? p name = some (.file b) := by
  have nothing {v w : View} (h : v.Alike w)
      (hv : ∀ place, v.node? true p ≠ some (place, .folder)) : w.entry? p name = none := by
    unfold View.entry?
    split
    · next place hp => exact absurd (h.symm.folder hp) (hv place)
    · rfl
  by_cases hv : ∃ place, v.node? true p = some (place, .folder)
  · obtain ⟨place, hp⟩ := hv
    unfold View.entry?
    rw [hp, h.folder hp]
    exact h.tree _
  · rw [not_exists] at hv
    rw [nothing h hv, nothing ⟨fun _ => .inl rfl, rfl⟩ hv]
    exact .inl rfl

theorem scan (h : v.Alike w) (p : Path) : Agree (v.scan p) (w.scan p) := by
  unfold View.scan
  rw [h.isOverlong]
  split
  · exact .refl _
  · exact .found (h.names p)

theorem holdsFolder (h : v.Alike w) (p : Path) (name : String) :
    v.holdsFolder p name = w.holdsFolder p name := by
  unfold View.holdsFolder
  rw [h.isOverlong, h.isFolder]
  obtain he | ⟨a, b, ha, hb⟩ := h.entry? p name
  · rw [he]
  · rw [ha, hb]

theorem isEnteredFolder (h : v.Alike w) (p : Path) (name : String) :
    v.entry? p name = some .folder ↔ w.entry? p name = some .folder := by
  obtain he | ⟨a, b, ha, hb⟩ := h.entry? p name
  · rw [he]
  · simp [ha, hb]

theorem scan_mapM (h : v.Alike w) {α : Type} {p : Path}
    {f g : String → Except WalkFault (List α)} (hf : ∀ n, Agree (f n) (g n))
    (first first' : List α) (before : ∀ a, a ∈ first ↔ a ∈ first') :
    Agree (do return first ++ (← (← v.scan p).mapM f).flatten)
      (do return first' ++ (← (← w.scan p).mapM g).flatten) := by
  have scans := h.scan p
  generalize v.scan p = x at scans ⊢
  generalize w.scan p = y at scans ⊢
  cases scans with
  | found same => exact .mapM same hf before
  | failed => exact .failed

theorem walk (h : v.Alike w) {α : Type} {look look' : Path → Except WalkFault (List α)}
    (hl : ∀ p, Agree (look p) (look' p)) (levels : Nat) (p : Path) :
    Agree (v.walk look levels p) (w.walk look' levels p) := by
  induction levels generalizing p with
  | zero =>
    have first := hl p
    unfold View.walk
    generalize look p = x at first ⊢
    generalize look' p = y at first ⊢
    cases first with
    | found => exact .failed
    | failed => exact .failed
  | succ levels ih =>
    have first := hl p
    unfold View.walk
    generalize look p = x at first ⊢
    generalize look' p = y at first ⊢
    cases first with
    | found same =>
      refine h.scan_mapM (fun n => ?_) _ _ same
      rw [ite_congr (propext (h.isEnteredFolder p n)) (fun _ => rfl) fun _ => rfl]
      split
      · exact ih _
      · exact .refl _
    | failed => exact .failed

theorem select (h : v.Alike w) (levels : Nat) (onlyFolders : Bool) (cs : List Glob.Component)
    (p : Path) :
    Agree (Glob.select v levels onlyFolders cs p) (Glob.select w levels onlyFolders cs p) := by
  induction cs generalizing p with
  | nil => exact .refl _
  | cons c cs ih =>
    cases c with
    | exactly name =>
      simp only [Glob.select]
      rw [h.isOverlong, h.isFolder, h.isThere]
      have onward (there : Bool) : Agree
          (if there then Glob.select v levels onlyFolders cs (p.child name) else .ok [])
          (if there then Glob.select w levels onlyFolders cs (p.child name) else .ok []) := by
        cases there
        · exact .refl _
        · exact ih _
      split
      · exact .failed
      · split
        · exact onward _
        · exact onward _
    | like us =>
      refine h.scan_mapM (fun n => ?_) [] [] fun _ => .rfl
      dsimp only
      rw [h.holdsFolder]
      generalize (if onlyFolders || !cs.isEmpty then w.holdsFolder p n else .ok true) = x
      cases x with
      | error f => exact .failed
      | ok there =>
        change Agree (if _ then _ else _) (if _ then _ else _)
        split
        · exact ih _
        · exact .refl _
    | folders => exact h.walk ih levels p

theorem find (h : v.Alike w) (levels : Nat) (root : Path) (pat : Glob.Pattern) :
    Agree (Glob.find v levels root pat) (Glob.find w levels root pat) := by
  unfold Glob.find
  rw [h.isOverlong, h.isFolder]
  split
  · exact .refl _
  · split
    · exact h.select _ _ _ _
    · exact .refl _

end View.Alike

end DocBraces.Files
