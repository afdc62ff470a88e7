import DocBraces.Proofs.Pattern.Steps

/-!
# What reading a pattern consumes

A reader of patterns leaves an end of the tokens that were there. Of a group it leaves
what stands after a closing parenthesis.
-/

set_option autoImplicit false

namespace DocBraces.Pattern.Reading

open DocBraces.Text

variable {α β : Type}

def Shortens (s s' : Reader) : Prop := s'.rest <:+ s.rest

instance : Std.Refl Shortens := ⟨fun s => List.suffix_refl s.rest⟩

instance : IsTrans Reader Shortens := ⟨fun _ _ _ h₁ h₂ => h₂.trans h₁⟩

theorem continueWith_shortens {ts : List Token} {s s' : Reader} {u : Unit}
    (h : (continueWith ts).run s = .ok (u, s')) (hts : ts <:+ s.rest) : Shortens s s' := by
  obtain rfl := continueWith_ok h
  exact hts

theorem next_shortens : Along Shortens next := by
  intro s text s' h
  obtain ⟨_, _, rfl⟩ | ⟨t, ts, hs, _, rfl⟩ := next_ok h
  · exact List.suffix_refl _
  · exact ⟨[t], hs.symm⟩

theorem accept_shortens (c : Char) : Along Shortens (accept c) := by
  intro s taken s' h
  obtain ⟨_, rfl⟩ | ⟨_, t, ts, hs, _, rfl⟩ := accept_ok h
  · exact List.suffix_refl _
  · exact ⟨[t], hs.symm⟩

theorem plainWhile_shortens (limit : Nat) (test : Char → Bool) :
    Along Shortens (plainWhile limit test) := by
  intro s cs s' h
  obtain ⟨taken, hs, _⟩ := plainWhile_ok h
  exact ⟨taken, hs.symm⟩

theorem nameUntil_shortens (closing : Char) (what : String) :
    Along Shortens (nameUntil closing what) := by
  intro s name s' h
  obtain ⟨body, t, hs, _, _⟩ := nameUntil_ok h
  exact ⟨body ++ [t], by simp [hs]⟩

theorem spells_shortens : Spells Shortens where
  plain limit test _ := plainWhile_shortens limit test
  accept c _ := accept_shortens c

def Keeps (s s' : Reader) : Prop := s'.rest = s.rest

instance : Std.Refl Keeps := ⟨fun _ => rfl⟩

instance : IsTrans Reader Keeps := ⟨fun _ _ _ h₁ h₂ => h₂.trans h₁⟩

theorem Along.shortens {x : Reading α} (h : Along Keeps x) : Along Shortens x :=
  fun s a s' hs => ⟨[], h s a s' hs⟩

theorem modify_keeps (f : Reader → Reader) (h : ∀ s, (f s).rest = s.rest) :
    Along Keeps (modify f : Reading PUnit) := by
  intro s a s' hs
  cases hs
  exact h s

theorem modify_shortens (f : Reader → Reader) (h : ∀ s, (f s).rest = s.rest) :
    Along Shortens (modify f : Reading PUnit) := (modify_keeps f h).shortens

theorem escape_shortens (m : Mode) (c : Char) : Along Shortens (escape m c) :=
  escape_along spells_shortens m c fun _ =>
    namedCode_along spells_shortens (nameUntil_shortens _ _)

theorem classMember_shortens (t : List Char) : Along Shortens (classMember t) := by
  unfold classMember
  split
  · exact .pure _
  · exact classEscape_along spells_shortens _ fun _ =>
      namedCode_along spells_shortens (nameUntil_shortens _ _)
  · exact .pure _

theorem classItems_shortens (start fuel : Nat) (members : List ClassItem) :
    Along Shortens (classItems start fuel members) := by
  induction fuel generalizing members with
  | zero => exact .pure _
  | succ fuel ih =>
    unfold classItems
    refine .bind next_shortens fun t => ?_
    cases t with
    | none => exact .failAt _ _
    | some t =>
      refine .ite (.pure _) (.bind (classMember_shortens t) fun low => ?_)
      refine .bind (accept_shortens _) fun dash => .ite (.bind next_shortens fun u => ?_) (ih _)
      cases u with
      | none => exact .failAt _ _
      | some u =>
        refine .ite (.pure _) (.bind (classMember_shortens u) fun high => ?_)
        split
        · exact .ite (.fail_bind _ _ _) (ih _)
        · exact fail_along _ _

theorem charClass_shortens (start : Nat) : Along Shortens (charClass start) :=
  .bind (accept_shortens _) fun _ => .bind .get fun _ =>
    .bind (classItems_shortens _ _ _) fun _ => .pure _

theorem switchesOn_shortens (fuel : Nat) (on : Switches) (c : Char) :
    Along Shortens (switchesOn fuel on c) := by
  induction fuel generalizing on c with
  | zero => exact .pure _
  | succ fuel ih =>
    unfold switchesOn
    refine .ite (.fail_bind _ _ _)
      (.ite (.fail_bind _ _ _) (.bind next_shortens fun t => ?_))
    cases t with
    | none => exact fail_along _ _
    | some t =>
      dsimp only
      split
      · exact .ite (.pure _) (.ite (ih _ _) (fail_along _ _))
      · exact fail_along _ _

theorem switchesOff_shortens (fuel : Nat) (off : Switches) (c : Char) :
    Along Shortens (switchesOff fuel off c) := by
  induction fuel generalizing off c with
  | zero => exact .pure _
  | succ fuel ih =>
    unfold switchesOff
    refine .ite (.fail_bind _ _ _) (.bind next_shortens fun t => ?_)
    cases t with
    | none => exact fail_along _ _
    | some t =>
      refine .ite (.pure _) ?_
      split
      · exact .ite (ih _ _) (fail_along _ _)
      · exact fail_along _ _

theorem switches_shortens (m : Mode) (start : Nat) (c : Char) :
    Along Shortens (switches m start c) := by
  unfold switches
  have hmeeting (on off : Switches) : Along Shortens (do
      if off.wholePattern then fail .turnsOffWholePattern 1
      if on.meets off then fail .turnedOnAndOff 1
      return Mode.apply m on off) :=
    .ite (.fail_bind _ _ _) (.ite (.fail_bind _ _ _) (.pure _))
  refine .bind .get fun s => ?_
  refine .ite (.bind (.pure _) ?turned) (.bind (switchesOn_shortens _ _ _) ?turned)
  case turned =>
    intro on
    refine .ite (.failAt_bind _ _ _) (.ite (.fail_bind _ _ _)
      (.ite (.bind next_shortens fun t => ?_) (.bind (.pure _) (hmeeting on.1))))
    split
    · split
      · exact .ite (.bind (switchesOff_shortens _ _ _) (hmeeting on.1)) (.fail_bind _ _ _)
      · exact .fail_bind _ _ _
    · exact .fail_bind _ _ _

theorem conditionGroup_shortens : Along Shortens conditionGroup := by
  unfold conditionGroup
  refine .bind (nameUntil_shortens _ _) fun name => .ite (.bind (groupNamed_along _) fun n => ?_) ?_
  · cases n with
    | none => exact fail_along _ _
    | some n => exact .pure _
  · split
    · refine .ite (.fail_bind _ _ _) (.ite (.fail_bind _ _ _) (.bind position_along fun here => ?_))
      refine .bind (modify_shortens _ fun s => ?_) fun _ => .pure _
      split <;> rfl
    · exact fail_along _ _

theorem skipLine_shortens : Along Shortens skipLine := by
  refine .get_bind fun s u s' h => ?_
  refine continueWith_shortens h ?_
  exact (List.drop_suffix _ _).trans (List.dropWhile_suffix _)

theorem enterBehind_keeps : Along Keeps enterBehind := by
  unfold enterBehind
  refine .bind .get fun s => .bind groupCount_along fun n => .ite ?_ (.pure _)
  exact .bind (modify_keeps _ fun _ => rfl) fun _ => .pure _

theorem leaveBehind_keeps (saved : Option Nat) : Along Keeps (leaveBehind saved) :=
  modify_keeps _ fun _ => rfl

theorem look_keeps (behind negated : Bool) (e : Expr) :
    Along Keeps (look behind negated e) := by
  unfold look
  have hwide (w : Width) : Along Keeps (do
      if behindLimit ≤ w.least then modify fun r => { r with wide := true }
      return Expr.behind negated w.least e) :=
    .ite (.bind (modify_keeps _ fun _ => rfl) fun _ => .pure _) (.pure _)
  exact .ite (.bind (widthOf_along e) fun w => .ite
    (.bind (modify_keeps _ fun _ => rfl) fun _ => hwide w) (hwide w)) (.pure _)

theorem openGroup_shortens (name : Option (List Char)) : Along Shortens (openGroup name) := by
  unfold openGroup
  refine .bind groupCount_along fun n => .bind (modify_shortens _ fun _ => rfl) fun _ => ?_
  split
  · exact .pure _
  · refine .bind .get fun s => ?_
    split
    · exact .fail_bind _ _ _
    · exact .bind (modify_shortens _ fun _ => rfl) fun _ => .pure _

theorem closeGroup_keeps (n : Nat) (e : Expr) : Along Keeps (closeGroup n e) :=
  .bind (widthOf_along e) fun _ => modify_keeps _ fun _ => rfl

def Closes (s s' : Reader) : Prop := ∃ body t, s.rest = body ++ t :: s'.rest ∧ t.text = [')']

theorem Closes.shortens {s s' : Reader} (h : Closes s s') : Shortens s s' := by
  obtain ⟨body, t, hs, _⟩ := h
  exact ⟨body ++ [t], by simp [hs]⟩

theorem Shortens.closes {s mid s' : Reader} (h : Shortens s mid) (hc : Closes mid s') :
    Closes s s' := by
  obtain ⟨front, hs⟩ := h
  obtain ⟨body, t, hmid, ht⟩ := hc
  exact ⟨front ++ body, t, by rw [← hs, hmid, List.append_assoc], ht⟩

theorem Closes.bind {x : Reading α} {f : α → Reading β} (hx : Along Shortens x)
    (hf : ∀ a, Along Closes (f a)) : Along Closes (x >>= f) := by
  intro s b s' h
  obtain ⟨a, mid, h₁, h₂⟩ := ok_of_bind h
  exact Shortens.closes (hx _ _ _ h₁) (hf a _ _ _ h₂)

theorem Closes.bind_keeps {x : Reading α} {f : α → Reading β} (hx : Along Closes x)
    (hf : ∀ a, Along Keeps (f a)) : Along Closes (x >>= f) := by
  intro s b s' h
  obtain ⟨a, mid, h₁, h₂⟩ := ok_of_bind h
  obtain ⟨body, t, hs, ht⟩ := hx _ _ _ h₁
  exact ⟨body, t, by rw [hs, hf a _ _ _ h₂], ht⟩

theorem closing_closes (start : Nat) : Along Closes (closing start) := by
  intro s u s' h
  unfold closing at h
  obtain ⟨taken, mid, ha, hend⟩ := ok_of_bind h
  obtain ⟨rfl, rfl⟩ | ⟨rfl, t, ts, hs, ht, rfl⟩ := accept_ok ha
  · cases hend
  · cases hend
    exact ⟨[], t, hs, ht⟩

theorem nameUntil_closes (what : String) : Along Closes (nameUntil ')' what) := by
  intro s name s' h
  obtain ⟨body, t, hs, _, ht⟩ := nameUntil_ok h
  exact ⟨body, t, hs, ht⟩

theorem skipRemark_closes (start : Nat) : Along Closes (skipRemark start) := by
  refine .get_bind fun s u s' h => ?_
  dsimp only at h
  rw [drop_takeWhile] at h
  cases hrest : s.rest.dropWhile fun t => t.text != [')'] with
  | nil =>
    rw [hrest] at h
    cases h
  | cons t ts =>
    rw [hrest] at h
    obtain rfl := continueWith_ok h
    have hhead := List.head?_dropWhile_not (fun t : Token => t.text != [')']) s.rest
    rw [hrest] at hhead
    refine ⟨s.rest.takeWhile fun t => t.text != [')'], t, ?_, by simpa using hhead⟩
    rw [← hrest]
    exact List.takeWhile_append_dropWhile.symm

theorem namedBackReference_closes (m : Mode) : Along Closes (namedBackReference m) := by
  intro s part s' h
  obtain ⟨name, mid, hname, hrest⟩ := ok_of_bind h
  have hlook : mid = s' := by
    refine Along.bind (checkGroupName_along name)
      (fun _ => .bind (groupNamed_along name) fun n => ?_) _ _ _ hrest
    cases n with
    | none => exact fail_along _ _
    | some n =>
      exact .bind (isClosed_along n) fun _ =>
        .ite (.bind (checkBehind_along n) fun _ => .pure _) (.fail_bind _ _ _)
  subst hlook
  exact nameUntil_closes _ _ _ _ hname

/-- Where an opening is all of its group, the group is closed. -/
def Opens (x : Reading Opening) : Prop :=
  ∀ s o s', x.run s = .ok (o, s') → Shortens s s' ∧ ∀ part, o = .done part → Closes s s'

namespace Opens

theorem bind {x : Reading α} {f : α → Reading Opening} (hx : Along Shortens x)
    (hf : ∀ a, Opens (f a)) : Opens (x >>= f) := by
  intro s o s' h
  obtain ⟨a, mid, h₁, h₂⟩ := ok_of_bind h
  have hmid := hx _ _ _ h₁
  obtain ⟨hends, hdone⟩ := hf a _ _ _ h₂
  exact ⟨hends.trans hmid, fun part ho => hmid.closes (hdone part ho)⟩

theorem done {x : Reading α} (hx : Along Closes x) (part : α → Option Part) :
    Opens (x >>= fun a => pure (.done (part a))) := by
  intro s o s' h
  obtain ⟨a, mid, h₁, h₂⟩ := ok_of_bind h
  cases h₂
  exact ⟨(hx _ _ _ h₁).shortens, fun _ _ => hx _ _ _ h₁⟩

theorem pure (o : Opening) (h : ∀ part, o ≠ .done part) : Opens (pure o) := by
  intro s o' s' hs
  cases hs
  exact ⟨List.suffix_refl _, fun part ho => absurd ho (h part)⟩

theorem fail (reason : Reason) (back : Nat) : Opens (fail reason back) := by
  intro s o s' h
  cases h

theorem ite {p : Prop} [Decidable p] {x y : Reading Opening} (hx : Opens x) (hy : Opens y) :
    Opens (if p then x else y) := by
  split
  · exact hx
  · exact hy

end Opens

theorem opening_opens (m : Mode) (start : Nat) : Opens (opening m start) := by
  unfold opening
  refine .bind (accept_shortens _) fun _ => .ite (.bind next_shortens fun t => ?_) (.pure _ nofun)
  cases t with
  | none => exact .fail _ _
  | some t =>
    dsimp only
    split
    · refine .bind (accept_shortens _) fun _ => .ite
        (.bind (nameUntil_shortens _ _) fun _ => .bind (checkGroupName_along _) fun _ =>
          .pure _ nofun)
        (.bind (accept_shortens _) fun _ => .ite (.done (namedBackReference_closes m) _)
          (.bind next_shortens fun u => ?_))
      cases u with
      | none => exact .fail _ _
      | some u => exact .fail _ _
    · exact .pure _ nofun
    · exact .done (skipRemark_closes start) _
    · exact .pure _ nofun
    · exact .pure _ nofun
    · refine .bind next_shortens fun u => ?_
      cases u with
      | none => exact .fail _ _
      | some u => exact .ite (.pure _ nofun) (.ite (.pure _ nofun) (.fail _ _))
    · exact .pure _ nofun
    · exact .pure _ nofun
    · split
      · exact .ite (.bind (switches_shortens m start _) fun _ => .pure _ nofun) (.fail _ _)
      · exact .fail _ _

def Passes (s s' : Reader) : Prop := s' = s ∨ Closes s s'

theorem Passes.shortens {s s' : Reader} (h : Passes s s') : Shortens s s' := by
  obtain rfl | h := h
  · exact List.suffix_refl _
  · exact h.shortens

/-- With so much fuel a group ends as it should, and nothing that it is made of goes back. -/
structure Advances (fuel : Nat) : Prop where
  group : ∀ m start, Along Passes (group fuel m start)
  alternatives : ∀ m done, Along Shortens (alternatives fuel m done)
  items : ∀ m done, Along Shortens (items fuel m done)

theorem advances_zero : Advances 0 where
  group m start := by
    unfold Reading.group
    exact fun s p s' h => .inl (by cases h; rfl)
  alternatives _ _ := .pure _
  items _ _ := by
    unfold Reading.items
    exact .pure _

namespace Advances

variable {fuel : Nat}

theorem group_succ (h : Advances fuel) (m : Mode) (start : Nat) :
    Along Passes (Reading.group (fuel + 1) m start) := by
  intro s part s' hg
  unfold Reading.group at hg
  obtain ⟨o, mid, ho, hrest⟩ := ok_of_bind hg
  obtain ⟨hmid, hdone⟩ := opening_opens m start s o mid ho
  have hclosing {x : Reading (Option Part)} (hx : Along Keeps x) :
      Along Closes (closing start >>= fun _ => x) :=
    Closes.bind_keeps (closing_closes start) fun _ => hx
  have hbody (inner : Mode) (f : List Item → Reading (Option Part))
      (hf : ∀ row, Along Keeps (f row)) : Along Closes (do
        let row ← Reading.alternatives fuel inner []
        closing start
        f row) :=
    Closes.bind (h.alternatives inner []) fun row => hclosing (hf row)
  have hends {x : Reading (Option Part)} (hx : x.run mid = .ok (part, s'))
      (hc : Along Closes x) : Closes s s' := hmid.closes (hc _ _ _ hx)
  refine .inr ?_
  cases o with
  | done p =>
    cases hrest
    exact hdone _ rfl
  | look behind negated =>
    have hlook (saved : Option Nat) : Along Closes (do
        let row ← Reading.alternatives fuel m []
        if behind then leaveBehind saved
        closing start
        return some (Part.ofExpr (← look behind negated (Item.join row)))) := by
      refine Closes.bind (h.alternatives m []) fun row => ?_
      have hlast := hclosing (.bind (look_keeps behind negated (Item.join row)) fun e =>
        .pure (some (Part.ofExpr e)))
      exact .ite (Closes.bind (leaveBehind_keeps saved).shortens fun _ => hlast) hlast
    exact hends hrest (.ite (Closes.bind enterBehind_keeps.shortens hlook)
      (Closes.bind .get fun _ => Closes.bind (.pure _) hlook))
  | condition =>
    refine hends hrest (Closes.bind conditionGroup_shortens fun n =>
      Closes.bind (checkBehind_along n) fun _ =>
      Closes.bind (h.items m []) fun yes =>
      Closes.bind (accept_shortens _) fun _ => .ite
        (Closes.bind (h.items m []) fun no => Closes.bind peek_along fun _ => .ite
          (.fail_bind _ _ _) (hclosing (.pure _)))
        (hclosing (.pure _)))
  | numbered name =>
    exact hends hrest (Closes.bind (openGroup_shortens name) fun n =>
      hbody m _ fun row => .bind (closeGroup_keeps n _) fun _ => .pure _)
  | unnumbered => exact hends hrest (hbody m _ fun row => .pure _)
  | switched inner => exact hends hrest (hbody inner _ fun row => .pure _)
  | atomic => exact hends hrest (hbody m _ fun row => .pure _)

theorem alternatives_succ (h : Advances fuel) (m : Mode) (done : List (List Item)) :
    Along Shortens (Reading.alternatives (fuel + 1) m done) := by
  unfold Reading.alternatives
  exact .bind (h.items m []) fun row => .bind (accept_shortens _) fun _ =>
    .ite (h.alternatives m _) (.pure _)

theorem items_succ (h : Advances fuel) (m : Mode) (done : List Part) :
    Along Shortens (Reading.items (fuel + 1) m done) := by
  unfold Reading.items
  refine .bind position_along fun start => .bind peek_along fun t => ?_
  cases t with
  | none => exact .pure _
  | some t =>
    refine .ite (.pure _) (.bind next_shortens fun _ => ?_)
    split
    · refine .ite (h.items m done) (.ite
        (.bind skipLine_shortens fun _ => h.items m done) (.ite
        (.bind (charClass_shortens start) fun cls => h.items m _) (.ite
        (.bind ((h.group m start).imp fun _ _ => Passes.shortens) fun part => ?_) (.ite
        (.bind (bounds_along spells_shortens _ start) fun bounds => ?_)
        (h.items m _)))))
      · cases part with
        | none => exact h.items m _
        | some part => exact h.items m _
      · cases bounds with
        | none => exact h.items m _
        | some bounds =>
          exact .bind (repeatLast_along spells_shortens start _ _ done) fun parts =>
            h.items m parts
    · exact .bind (escape_shortens m _) fun e => h.items m _
    · exact h.items m done

end Advances

theorem advances (fuel : Nat) : Advances fuel := by
  induction fuel with
  | zero => exact advances_zero
  | succ fuel ih => exact ⟨ih.group_succ, ih.alternatives_succ, ih.items_succ⟩

theorem group_passes (fuel : Nat) (m : Mode) (start : Nat) : Along Passes (group fuel m start) :=
  (advances fuel).group m start

end DocBraces.Pattern.Reading
