import Mathlib.Data.List.Basic
import Mathlib.Data.List.Forall2
import Mathlib.Data.List.Nodup
import DocBraces.Data.Graph

/-!
# Likeness of data

Data are alike when walks down from both, side by side, find the same cells all the way,
and come back to a cell that they are inside of on both sides at once. Where the cells
stand, which of them are shared and what else the graphs hold makes no difference. What
is shown for data depends on nothing else, and neither does whether it can be shown.
-/

set_option autoImplicit false

namespace DocBraces.Data

/-- The same scalar. Results that are no number are not told apart. -/
inductive Scalar.Like : Scalar → Scalar → Prop
  | refl (s : Scalar) : Like s s
  | nan (i j : Nat) : Like (.nan i) (.nan j)

/-- The same cell, but for its parts, which a relation compares. -/
inductive Cell.Like (R : Ref → Ref → Prop) : Cell → Cell → Prop
  | scalar {s t : Scalar} : s.Like t → Like R (.scalar s) (.scalar t)
  | list {xs ys : List Ref} : List.Forall₂ R xs ys → Like R (.list xs) (.list ys)
  | pair {a b c d : Ref} : R a c → R b d → Like R (.pair a b) (.pair c d)
  | set {xs ys : List Scalar} : List.Forall₂ Scalar.Like xs ys → Like R (.set xs) (.set ys)
  | mapping {es fs : List (Scalar × Ref)} :
      List.Forall₂ (fun e f => e.1.Like f.1 ∧ R e.2 f.2) es fs → Like R (.mapping es) (.mapping fs)

/-- `R passed a b` holds where walks down two graphs, after the cells `passed`, come to
`a` and `b`. -/
structure Graph.Traced (g h : Graph) (R : List (Ref × Ref) → Ref → Ref → Prop) : Prop where
  like : ∀ {passed a b}, R passed a b → Cell.Like (R ((a, b) :: passed)) (g.cell a) (h.cell b)
  again : ∀ {passed a b}, R passed a b → ∀ c ∈ passed, a = c.1 ↔ b = c.2

def Graph.Alike (g : Graph) (a : Ref) (h : Graph) (b : Ref) : Prop :=
  ∃ R, Graph.Traced g h R ∧ R [] a b

namespace Scalar.Like

variable {s t : Scalar}

theorem symm (like : s.Like t) : t.Like s := by
  cases like with
  | refl => exact .refl _
  | nan i j => exact .nan j i

theorem shown (like : s.Like t) : s.shown = t.shown := by cases like <;> rfl

theorem isShown (like : s.Like t) : s.isShown = t.isShown := by cases like <;> rfl

theorem typeName (like : s.Like t) : s.typeName = t.typeName := by cases like <;> rfl

theorem sameKey_text (like : s.Like t) (key : String) :
    s.sameKey (.text key) = t.sameKey (.text key) := by cases like <;> rfl

end Scalar.Like

theorem map_eq_of_forall₂ {α β γ : Type} {R : α → β → Prop} {f : α → γ} {k : β → γ}
    {xs : List α} {ys : List β} (h : List.Forall₂ R xs ys) (same : ∀ x y, R x y → f x = k y) :
    xs.map f = ys.map k := by
  induction h with
  | nil => rfl
  | cons hxy _ ih => rw [List.map_cons, List.map_cons, same _ _ hxy, ih]

theorem exists_mem_of_forall₂ {α β : Type} {R : α → β → Prop} {xs : List α} {ys : List β} {x : α}
    (h : List.Forall₂ R xs ys) (hx : x ∈ xs) : ∃ y ∈ ys, R x y := by
  induction h with
  | nil => cases hx
  | @cons a b _ _ hab _ ih =>
    cases hx with
    | head => exact ⟨b, .head _, hab⟩
    | tail _ hx =>
      obtain ⟨y, hy, hxy⟩ := ih hx
      exact ⟨y, .tail _ hy, hxy⟩

namespace Cell

def parts : Cell → List Ref
  | scalar _ => []
  | list items => items
  | pair a b => [a, b]
  | set _ => []
  | mapping entries => entries.map (·.2)

def scalars : Cell → List Scalar
  | scalar s => [s]
  | list _ => []
  | pair _ _ => []
  | set items => items
  | mapping entries => entries.map (·.1)

theorem get?_cons (key : String) (e : Scalar × Ref) (es : List (Scalar × Ref)) :
    (mapping (e :: es)).get? key =
      if e.1.sameKey (.text key) then some e.2 else (mapping es).get? key := by
  dsimp only [get?]
  rw [List.find?_cons]
  cases e.1.sameKey (.text key) <;> rfl

namespace Like

variable {R : Ref → Ref → Prop} {c d : Cell}

theorem imp {S : Ref → Ref → Prop} (like : Like R c d) (h : ∀ a b, R a b → S a b) :
    Like S c d := by
  cases like with
  | scalar hs => exact .scalar hs
  | list hl => exact .list (hl.imp h)
  | pair h1 h2 => exact .pair (h _ _ h1) (h _ _ h2)
  | set hs => exact .set hs
  | mapping hm => exact .mapping (hm.imp fun _ _ he => ⟨he.1, h _ _ he.2⟩)

theorem symm (like : Like R c d) : Like (flip R) d c := by
  cases like with
  | scalar hs => exact .scalar hs.symm
  | list hl => exact .list hl.flip
  | pair h1 h2 => exact .pair h1 h2
  | set hs => exact .set (hs.imp fun _ _ => Scalar.Like.symm).flip
  | mapping hm => exact .mapping (hm.imp fun _ _ he => ⟨he.1.symm, he.2⟩).flip

theorem parts (like : Like R c d) : List.Forall₂ R c.parts d.parts := by
  cases like with
  | scalar _ => exact .nil
  | list hl => exact hl
  | pair h1 h2 => exact .cons h1 (.cons h2 .nil)
  | set _ => exact .nil
  | mapping hm =>
    exact List.forall₂_map_left_iff.mpr (List.forall₂_map_right_iff.mpr (hm.imp fun _ _ he => he.2))

theorem scalars (like : Like R c d) : List.Forall₂ Scalar.Like c.scalars d.scalars := by
  cases like with
  | scalar hs => exact .cons hs .nil
  | list _ => exact .nil
  | pair _ _ => exact .nil
  | set hs => exact hs
  | mapping hm =>
    exact List.forall₂_map_left_iff.mpr (List.forall₂_map_right_iff.mpr (hm.imp fun _ _ he => he.1))

theorem typeName (like : Like R c d) : c.typeName = d.typeName := by
  cases like with
  | scalar hs => exact hs.typeName
  | _ => rfl

theorem get? (like : Like R c d) (key : String) : Option.Rel R (c.get? key) (d.get? key) := by
  cases like with
  | mapping hm =>
    induction hm with
    | nil => exact .none
    | @cons e f es fs he _ ih =>
      rw [get?_cons, get?_cons, he.1.sameKey_text]
      split
      · exact .some he.2
      · exact ih
  | _ => exact .none

end Like

end Cell

namespace Graph

variable {g h : Graph} {R : List (Ref × Ref) → Ref → Ref → Prop} {depth : Nat} {path : List Ref}
  {a r : Ref}

theorem lt_of_cell (h : g.cell r ≠ .scalar .null) : r < g.length := by
  by_contra beyond
  refine h ?_
  rw [cell, List.getElem?_eq_none (Nat.le_of_not_lt beyond)]
  rfl

/-- The cells on a way without repetition, with room for all the others below. -/
structure Fits (g : Graph) (depth : Nat) (path : List Ref) : Prop where
  nodup : path.Nodup
  within : ∀ r ∈ path, r < g.length
  room : g.length < depth + path.length

theorem fits_start : g.Fits (g.length + 1) [] := ⟨.nil, nofun, Nat.lt_succ_self _⟩

theorem Fits.not_zero : ¬ g.Fits 0 path := by
  intro fits
  have bound := fits.nodup.length_le_of_subset fun r hr => List.mem_range.mpr (fits.within r hr)
  rw [List.length_range] at bound
  have := fits.room
  omega

theorem Fits.down (fits : g.Fits (depth + 1) path) (fresh : r ∉ path) (inside : r < g.length) :
    g.Fits depth (r :: path) where
  nodup := List.nodup_cons.mpr ⟨fresh, fits.nodup⟩
  within := List.forall_mem_cons.mpr ⟨inside, fits.within⟩
  room := by
    have := fits.room
    rw [List.length_cons]
    omega

theorem Traced.contains (traced : Traced g h R) {passed : List (Ref × Ref)} {a b : Ref}
    (hR : R passed a b) : (passed.map (·.1)).contains a = (passed.map (·.2)).contains b := by
  rw [Bool.eq_iff_iff, List.contains_iff_mem, List.contains_iff_mem, List.mem_map, List.mem_map]
  exact exists_congr fun c => and_congr_right fun hc =>
    eq_comm.trans ((traced.again hR c hc).trans eq_comm)

theorem Traced.shownWithin (traced : Traced g h R) {depth' : Nat} {passed : List (Ref × Ref)}
    {a b : Ref} (hR : R passed a b) (fits : g.Fits depth (passed.map (·.1)))
    (fits' : h.Fits depth' (passed.map (·.2))) :
    g.shownWithin depth (passed.map (·.1)) a = h.shownWithin depth' (passed.map (·.2)) b := by
  induction depth generalizing depth' passed a b with
  | zero => exact absurd fits Fits.not_zero
  | succ depth ih =>
    cases depth' with
    | zero => exact absurd fits' Fits.not_zero
    | succ depth' =>
      have same := traced.contains hR
      have like := traced.like hR
      -- Parts are only shown where the walk is at a cell that it has not met.
      have inner (fresh : ¬ (passed.map (·.2)).contains b) (inside : g.cell a ≠ .scalar .null)
          (inside' : h.cell b ≠ .scalar .null) (x y : Ref) (hxy : R ((a, b) :: passed) x y) :
          g.shownWithin depth (a :: passed.map (·.1)) x =
            h.shownWithin depth' (b :: passed.map (·.2)) y := by
        refine ih hxy (fits.down ?_ (lt_of_cell inside)) (fits'.down ?_ (lt_of_cell inside'))
        · rwa [← List.contains_iff_mem, same]
        · rwa [← List.contains_iff_mem]
      dsimp only [Graph.shownWithin]
      rw [same]
      generalize g.cell a = c at like inner
      generalize h.cell b = d at like inner
      cases like with
      | scalar hs => exact hs.shown
      | list hl =>
        dsimp only
        split
        · rfl
        · next fresh => rw [map_eq_of_forall₂ hl (inner fresh nofun nofun)]
      | pair h1 h2 =>
        dsimp only
        split
        · rfl
        · next fresh => rw [inner fresh nofun nofun _ _ h1, inner fresh nofun nofun _ _ h2]
      | set hs =>
        dsimp only
        rw [map_eq_of_forall₂ hs fun _ _ => Scalar.Like.shown]
        cases hs <;> rfl
      | mapping hm =>
        dsimp only
        split
        · rfl
        · next fresh =>
          rw [map_eq_of_forall₂ hm fun e f he => by
            rw [he.1.shown, inner fresh nofun nofun _ _ he.2]]

/-- Below a cell, on a way that comes to no cell of the path and to none twice, is a
scalar that cannot be shown. -/
inductive Hides (g : Graph) : List Ref → Ref → Prop
  | here {path : List Ref} {r : Ref} {s : Scalar} :
      s ∈ (g.cell r).scalars → s.isShown = false → Hides g path r
  | down {path : List Ref} {r q : Ref} :
      q ∈ (g.cell r).parts → q ∉ r :: path → Hides g (r :: path) q → Hides g path r

theorem Hides.subset {path' : List Ref} (hides : Hides g path r) (h : path' ⊆ path) :
    Hides g path' r := by
  induction hides generalizing path' with
  | here hs hidden => exact .here hs hidden
  | @down path r q part fresh _ ih =>
    have sub : r :: path' ⊆ r :: path := List.cons_subset_cons r h
    exact .down part (fun hq => fresh (sub hq)) (ih sub)

theorem isShownWithin_succ (depth : Nat) (path : List Ref) (r : Ref) :
    g.isShownWithin (depth + 1) path r = ((g.cell r).scalars.all Scalar.isShown &&
      (g.cell r).parts.all fun q => path.contains q || g.isShownWithin depth (r :: path) q) := by
  dsimp only [isShownWithin]
  cases g.cell r with
  | mapping entries =>
    dsimp only [Cell.scalars, Cell.parts]
    rw [List.all_map, List.all_map]
    induction entries with
    | nil => rfl
    | cons e es ih =>
      rw [List.all_cons, List.all_cons, List.all_cons, ih]
      dsimp only [Function.comp_apply]
      ac_rfl
  | _ => simp [Cell.scalars, Cell.parts]

theorem hides_of_isShownWithin (h : g.isShownWithin depth path r = false) : Hides g path r := by
  induction depth generalizing path r with
  | zero => cases h
  | succ depth ih =>
    rw [isShownWithin_succ, Bool.and_eq_false_iff, List.all_eq_false, List.all_eq_false] at h
    obtain ⟨s, hs, hidden⟩ | ⟨q, part, hq⟩ := h
    · exact .here hs (eq_false_of_ne_true hidden)
    · obtain ⟨fresh, hq⟩ := not_or.mp (mt (Bool.or_eq_true _ _).mpr hq)
      have hides := ih (eq_false_of_ne_true hq)
      by_cases loop : q = r
      · -- A cell that is a part of itself is gone through once more, to no new end.
        exact (loop ▸ hides).subset (List.subset_cons_self _ _)
      · refine .down part (List.not_mem_cons_of_ne_of_not_mem loop ?_) hides
        exact mt List.contains_iff_mem.mpr fresh

theorem Hides.isShownWithin (hides : Hides g path r) (fits : g.Fits depth path)
    (fresh : r ∉ path) : g.isShownWithin depth path r = false := by
  induction hides generalizing depth with
  | here hs hidden =>
    cases depth with
    | zero => exact absurd fits Fits.not_zero
    | succ depth =>
      rw [isShownWithin_succ, List.all_eq_false.mpr ⟨_, hs, ne_true_of_eq_false hidden⟩]
      rfl
  | @down path r q part fresh' _ ih =>
    cases depth with
    | zero => exact absurd fits Fits.not_zero
    | succ depth =>
      have inside : r < g.length := by
        refine lt_of_cell fun hc => ?_
        rw [hc] at part
        cases part
      have hq := ih (fits.down fresh inside) fresh'
      rw [isShownWithin_succ, Bool.and_eq_false_iff]
      refine .inr (List.all_eq_false.mpr ⟨q, part, ?_⟩)
      rw [hq, Bool.or_false, List.contains_iff_mem]
      exact fun hp => fresh' (.tail _ hp)

theorem isShown_eq_false_iff :
    g.isShownWithin (g.length + 1) [] r = false ↔ Hides g [] r :=
  ⟨hides_of_isShownWithin, fun h => h.isShownWithin fits_start List.not_mem_nil⟩

theorem Traced.hides (traced : Traced g h R) {passed : List (Ref × Ref)} {a b : Ref}
    (hR : R passed a b) (hides : Hides g (passed.map (·.1)) a) :
    Hides h (passed.map (·.2)) b := by
  generalize hp : passed.map (·.1) = path at hides
  induction hides generalizing passed b with
  | here hs hidden =>
    obtain ⟨t, ht, like⟩ := exists_mem_of_forall₂ (traced.like hR).scalars hs
    exact .here ht (like.isShown ▸ hidden)
  | down part fresh _ ih =>
    obtain ⟨q, hq, hR'⟩ := exists_mem_of_forall₂ (traced.like hR).parts part
    subst hp
    refine .down hq ?_ (ih hR' rfl)
    have same := traced.contains hR'
    rw [Bool.eq_iff_iff, List.contains_iff_mem, List.contains_iff_mem] at same
    exact mt same.mpr fresh

theorem Traced.symm (traced : Traced g h R) :
    Traced h g fun passed b a => R (passed.map Prod.swap) a b where
  like hR := (traced.like hR).symm
  again hR c hc := (traced.again hR c.swap (List.mem_map_of_mem hc)).symm

namespace Alike

variable {b : Ref}

theorem symm (alike : g.Alike a h b) : h.Alike b g a := by
  obtain ⟨R, traced, hR⟩ := alike
  exact ⟨_, traced.symm, hR⟩

theorem like (alike : g.Alike a h b) :
    Cell.Like (fun x y => g.Alike x h y) (g.cell a) (h.cell b) := by
  obtain ⟨R, traced, hR⟩ := alike
  refine (traced.like hR).imp fun x y hxy => ⟨fun passed => R (passed ++ [(a, b)]), ?_, hxy⟩
  exact ⟨traced.like, fun hp c hc => traced.again hp c (List.mem_append_left _ hc)⟩

theorem hides (alike : g.Alike a h b) (hidden : Hides g [] a) : Hides h [] b := by
  obtain ⟨R, traced, hR⟩ := alike
  exact traced.hides hR hidden

theorem shown (alike : g.Alike a h b) : g.shown a = h.shown b := by
  have same : g.isShownWithin (g.length + 1) [] a = h.isShownWithin (h.length + 1) [] b := by
    rw [← Bool.not_inj_iff, Bool.eq_iff_iff, Bool.not_eq_true', Bool.not_eq_true',
      isShown_eq_false_iff, isShown_eq_false_iff]
    exact ⟨alike.hides, alike.symm.hides⟩
  unfold Graph.shown
  rw [same, alike.like.typeName]
  obtain ⟨R, traced, hR⟩ := alike
  rw [show g.shownWithin _ [] a = _ from traced.shownWithin hR fits_start fits_start]
  rfl

theorem of_cells {S : Ref → Ref → Prop} (one : ∀ {x y x' y'}, S x y → S x' y' → (x = x' ↔ y = y'))
    (like : ∀ {x y}, S x y → Cell.Like S (g.cell x) (h.cell y)) (hab : S a b) : g.Alike a h b :=
  ⟨fun passed x y => S x y ∧ ∀ c ∈ passed, S c.1 c.2,
    ⟨fun hR => (like hR.1).imp fun _ _ hS => ⟨hS, List.forall_mem_cons.mpr hR⟩,
      fun hR c hc => one hR.1 (hR.2 c hc)⟩, hab, nofun⟩

end Alike

end Graph

end DocBraces.Data
