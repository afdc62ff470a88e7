import DocBraces.Proofs.Pattern.Consuming

/-!
# Rows of items

One token after the other becomes part of a row, or changes its last part. Alternatives
that share their first items are one row, but the rest of them stays apart.
-/

set_option autoImplicit false

namespace DocBraces.Pattern

open DocBraces.Text

namespace Reading

def isRepeatSign (c : Char) : Bool := ['?', '*', '+', '\x7b'].contains c

def isOpeningSign (c : Char) : Bool := c == '[' || c == '(' || isRepeatSign c

/-- What a token, of which the tokens behind it are left in the first reader, makes of the
parts before it. -/
inductive ItemRead (fuel : Nat) (done : List Part) (t : Token) (s : Reader) :
    List Part → Reader → Prop
  | escape {c : Char} {e : Expr} {s' : Reader} (ht : t.text = ['\\', c])
      (h : (Reading.escape {} c).run s = .ok (e, s')) :
      ItemRead fuel done t s (.ofExpr e :: done) s'
  | cls {cls : CharClass} {s' : Reader} (ht : t.text = ['['])
      (h : (charClass t.position).run s = .ok (cls, s')) :
      ItemRead fuel done t s (.ofExpr (.one {} cls) :: done) s'
  | group {part : Option Part} {s' : Reader} (ht : t.text = ['('])
      (h : (Reading.group fuel {} t.position).run s = .ok (part, s')) :
      ItemRead fuel done t s (part.toList ++ done) s'
  | rounds {c : Char} {least : Nat} {most : Option Nat} {mid s' : Reader} {parts : List Part}
      (ht : t.text = [c]) (hc : isRepeatSign c = true)
      (hbounds : (bounds? c t.position).run s = .ok (some (least, most), mid))
      (hrepeat : (repeatLast t.position least most done).run mid = .ok (parts, s')) :
      ItemRead fuel done t s parts s'
  | brace {c : Char} {s' : Reader} (ht : t.text = [c]) (hc : isRepeatSign c = true)
      (hbounds : (bounds? c t.position).run s = .ok (none, s')) :
      ItemRead fuel done t s (.ofExpr (sign {} c) :: done) s'
  | sign {c : Char} (ht : t.text = [c]) (hc : isOpeningSign c = false) :
      ItemRead fuel done t s (.ofExpr (sign {} c) :: done) s
  | nothing (hone : ∀ c, t.text ≠ [c]) (htwo : ∀ c, t.text ≠ ['\\', c]) :
      ItemRead fuel done t s done s

theorem items_step {fuel : Nat} {done : List Part} {s s' : Reader} {row : List Item} {t : Token}
    {ts : List Token} (hs : s.rest = t :: ts) (hbar : t.text ≠ ['|']) (hclose : t.text ≠ [')'])
    (h : (items (fuel + 1) {} done).run s = .ok (row, s')) :
    ∃ parts mid, ItemRead fuel done t { s with rest := ts } parts mid ∧
      (items fuel {} parts).run mid = .ok (row, s') := by
  unfold items at h
  obtain ⟨start, s₁, hposition, h₁⟩ := ok_of_bind h
  have hstart : start = t.position ∧ s₁ = s := by
    unfold position at hposition
    rw [get_bind, hs] at hposition
    cases hposition
    exact ⟨rfl, rfl⟩
  obtain ⟨rfl, rfl⟩ := hstart
  obtain ⟨seen, s₂, hpeek, h₂⟩ := ok_of_bind h₁
  cases hpeek
  rw [hs] at h₂
  have hgo : ¬(t.text == ['|'] || t.text == [')']) = true := by simp [hbar, hclose]
  dsimp only [List.head?_cons, Option.map_some] at h₂
  rw [if_neg hgo] at h₂
  obtain ⟨_, s₃, hnext, h₃⟩ := ok_of_bind h₂
  obtain ⟨_, hnil, _⟩ | ⟨u, us, hus, _, rfl⟩ := next_ok hnext
  · simp [hs] at hnil
  obtain ⟨rfl, rfl⟩ := List.cons.inj (hs.symm.trans hus)
  split at h₃
  · next c ht =>
    split at h₃
    · next hspaced => cases hspaced
    split at h₃
    · next hremark => cases hremark
    split at h₃
    · next hc =>
      subst hc
      obtain ⟨cls, mid, hcls, hrest⟩ := ok_of_bind h₃
      exact ⟨_, mid, .cls ht hcls, hrest⟩
    split at h₃
    · next hc =>
      subst hc
      obtain ⟨part, mid, hgroup, hrest⟩ := ok_of_bind h₃
      refine ⟨_, mid, .group ht hgroup, ?_⟩
      cases part with
      | none => exact hrest
      | some part => exact hrest
    split at h₃
    · next hsign =>
      have hc : isRepeatSign c = true := by rcases hsign with rfl | rfl | rfl | rfl <;> decide
      obtain ⟨bounds, mid, hbounds, hrest⟩ := ok_of_bind h₃
      cases bounds with
      | none => exact ⟨_, mid, .brace ht hc hbounds, hrest⟩
      | some bounds =>
        obtain ⟨parts, s₄, hrepeat, hlast⟩ := ok_of_bind hrest
        exact ⟨parts, s₄, .rounds ht hc hbounds hrepeat, hlast⟩
    · next hset hparen hrepeat =>
      have hc : isOpeningSign c = false := by
        simp only [not_or] at hrepeat
        simp [isOpeningSign, isRepeatSign, hset, hparen, hrepeat]
      exact ⟨_, _, .sign ht hc, h₃⟩
  · next c ht =>
    obtain ⟨e, mid, he, hrest⟩ := ok_of_bind h₃
    exact ⟨_, mid, .escape ht he, hrest⟩
  · next hone htwo => exact ⟨done, _, .nothing hone htwo, h₃⟩

/-- A row is over at the end of the pattern, before another alternative and at the end of
a group. -/
theorem items_over {fuel : Nat} {m : Mode} {done : List Part} {s s' : Reader} {row : List Item}
    (hs : ∀ t ∈ s.rest.head?, t.text = ['|'] ∨ t.text = [')'])
    (h : (items fuel m done).run s = .ok (row, s')) : row = Part.row done ∧ s' = s := by
  cases fuel with
  | zero =>
    unfold items at h
    cases h
    exact ⟨rfl, rfl⟩
  | succ fuel =>
    unfold items at h
    obtain ⟨start, s₁, hposition, h₁⟩ := ok_of_bind h
    obtain rfl := (position_along : Along Eq position) _ _ _ hposition
    obtain ⟨seen, s₂, hpeek, h₂⟩ := ok_of_bind h₁
    cases hpeek
    cases hhead : s.rest.head? with
    | none =>
      rw [hhead] at h₂
      cases h₂
      exact ⟨rfl, rfl⟩
    | some t =>
      have hstop : (t.text == ['|'] || t.text == [')']) = true := by
        simpa using hs t hhead
      rw [hhead] at h₂
      dsimp only [Option.map_some] at h₂
      rw [if_pos hstop] at h₂
      cases h₂
      exact ⟨rfl, rfl⟩

theorem alternatives_step {fuel : Nat} {m : Mode} {rows : List (List Item)} {s s' : Reader}
    {all : List Item} (h : (alternatives (fuel + 1) m rows).run s = .ok (all, s')) :
    ∃ row mid, (items fuel m []).run s = .ok (row, mid) ∧
      ((∃ t ts, mid.rest = t :: ts ∧ t.text = ['|'] ∧
          (alternatives fuel m (row :: rows)).run { mid with rest := ts } = .ok (all, s')) ∨
        s' = mid ∧ all = Item.branch m (row :: rows).reverse) := by
  unfold alternatives at h
  obtain ⟨row, mid, hrow, h₁⟩ := ok_of_bind h
  refine ⟨row, mid, hrow, ?_⟩
  obtain ⟨bar, s₂, hbar, h₂⟩ := ok_of_bind h₁
  obtain ⟨rfl, rfl⟩ | ⟨rfl, t, ts, hmid, ht, rfl⟩ := accept_ok hbar
  · cases h₂
    exact .inr ⟨rfl, rfl⟩
  · exact .inl ⟨t, ts, hmid, ht, h₂⟩

theorem repeatLast_ok {start least : Nat} {most : Option Nat} {done parts : List Part}
    {s s' : Reader} (h : (repeatLast start least most done).run s = .ok (parts, s')) :
    ∃ last more g, done = last :: more ∧ greed.run s = .ok (g, s') ∧
      parts = { kind := .repeated,
                items := [{ expr := .rounds g least most (Item.join last.items) }] } :: more := by
  unfold repeatLast at h
  cases done with
  | nil => cases h
  | cons last more =>
    dsimp only at h
    split at h
    · cases h
    · cases h
    · obtain ⟨g, mid, hg, hend⟩ := ok_of_bind h
      cases hend
      exact ⟨last, more, g, rfl, hg, rfl⟩

def filled (parts : List Part) : Nat := parts.countP fun p => !p.items.isEmpty

theorem filled_le_cons (p : Part) (parts : List Part) : filled parts ≤ filled (p :: parts) := by
  rw [filled, filled, List.countP_cons]
  omega

theorem filled_le_row (parts : List Part) : filled parts ≤ (Part.row parts).length := by
  have hsum : filled parts ≤ (parts.map fun p => p.items.length).sum := by
    induction parts with
    | nil => exact Nat.zero_le _
    | cons p ps ih =>
      rw [filled, List.countP_cons, List.map_cons, List.sum_cons, ← filled]
      cases hp : p.items with
      | nil => simpa using ih
      | cons i is =>
        simp only [List.isEmpty_cons, Bool.not_false, if_true, List.length_cons]
        omega
  rw [Part.row, List.length_flatMap, List.map_reverse, List.sum_reverse]
  exact hsum

theorem ItemRead.filled_le {fuel : Nat} {done parts : List Part} {t : Token} {s s' : Reader}
    (h : ItemRead fuel done t s parts s') : filled done ≤ filled parts := by
  cases h with
  | escape ht h => exact filled_le_cons _ _
  | cls ht h => exact filled_le_cons _ _
  | group ht h =>
    rename_i part
    cases part with
    | none => exact le_refl _
    | some part => exact filled_le_cons _ _
  | rounds ht hc hbounds hrepeat =>
    obtain ⟨last, more, g, rfl, _, rfl⟩ := repeatLast_ok hrepeat
    rw [filled, filled, List.countP_cons, List.countP_cons]
    simp only [List.isEmpty_cons, Bool.not_false, if_true]
    split <;> omega
  | brace ht hc hbounds => exact filled_le_cons _ _
  | sign ht hc => exact filled_le_cons _ _
  | nothing hone htwo => exact le_refl _

end Reading

namespace Item

theorem sharedCount_le (row : List Item) (rows : List (List Item)) (front back : List Item)
    (i : Item) (hrow : front ++ i :: back ∈ rows) (hi : i.isOpen = false) :
    sharedCount row rows ≤ front.length := by
  induction row generalizing rows front with
  | nil => exact Nat.zero_le _
  | cons j row ih =>
    rw [sharedCount]
    split
    · next hshared =>
      simp only [Bool.and_eq_true, List.all_eq_true, beq_iff_eq] at hshared
      have hhead := hshared.2 _ hrow
      cases front with
      | nil =>
        obtain rfl : i = j := by simpa using hhead
        simp [hi] at hshared
      | cons k front =>
        have hle := ih (rows.map List.tail) front (List.mem_map.mpr ⟨_, hrow, rfl⟩)
        rw [List.length_cons]
        omega
    · exact Nat.zero_le _

theorem mapM_eq_none {α β : Type} (f : α → Option β) (xs : List α) (x : α) (hx : x ∈ xs)
    (h : f x = none) : xs.mapM f = none := by
  induction xs with
  | nil => cases hx
  | cons y ys ih =>
    rw [List.mapM_cons]
    cases hy : f y with
    | none => rfl
    | some z =>
      obtain rfl | hmem := List.mem_cons.mp hx
      · rw [h] at hy
        cases hy
      · rw [ih hmem]
        rfl

theorem members?_long (row : List Item) (h : 1 < row.length) : members? row = none := by
  unfold members?
  split
  · simp at h
  · rfl

/-- A row that goes on after an item that is not shared keeps its alternatives apart. -/
theorem branch_apart (m : Mode) (row : List Item) (rows : List (List Item))
    (front back : List Item) (i j : Item) (hrow : front ++ i :: j :: back ∈ rows)
    (hi : i.isOpen = false) :
    ∃ shared first others, branch m (row :: rows) =
      shared ++ [{ expr := .alt first others }] := by
  have hshared := sharedCount_le row rows front (j :: back) i hrow hi
  have hlong : members? ((front ++ i :: j :: back).drop (sharedCount row rows)) = none := by
    apply members?_long
    simp only [List.length_drop, List.length_append, List.length_cons]
    omega
  have hnone : ((row :: rows).map (·.drop (sharedCount row rows))).mapM members? = none :=
    mapM_eq_none _ _ _ (List.mem_map.mpr ⟨_, List.mem_cons_of_mem _ hrow, rfl⟩) hlong
  obtain ⟨other, more, rfl⟩ := List.exists_cons_of_ne_nil (List.ne_nil_of_mem hrow)
  refine ⟨row.take (sharedCount row (other :: more)),
    join (row.drop (sharedCount row (other :: more))),
    .ofAlternatives (((other :: more).map (·.drop (sharedCount row (other :: more)))).map join), ?_⟩
  unfold branch
  dsimp only
  rw [hnone]
  rfl

end Item

end DocBraces.Pattern
