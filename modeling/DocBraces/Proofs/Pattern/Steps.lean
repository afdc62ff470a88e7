import DocBraces.Pattern.Parse
import Mathlib.Data.List.TakeWhile
import Mathlib.Order.Defs.Unbundled

/-!
# Steps of a reader

What each step of a reader takes of the tokens, and how a relation between readers that
single steps keep is kept along a whole reading that ends well.
-/

set_option autoImplicit false

namespace DocBraces.Pattern.Reading

open DocBraces.Text

variable {α β : Type}

theorem get_bind (f : Reader → Reading β) (s : Reader) : (get >>= f).run s = (f s).run s := rfl

theorem ok_of_bind {x : Reading α} {f : α → Reading β} {s s' : Reader} {b : β}
    (h : (x >>= f).run s = .ok (b, s')) :
    ∃ a mid, x.run s = .ok (a, mid) ∧ (f a).run mid = .ok (b, s') := by
  rw [StateT.run_bind] at h
  cases hx : x.run s with
  | error e =>
    rw [hx] at h
    cases h
  | ok r =>
    rw [hx] at h
    exact ⟨r.1, r.2, rfl, h⟩

def Along (R : Reader → Reader → Prop) (x : Reading α) : Prop :=
  ∀ s a s', x.run s = .ok (a, s') → R s s'

namespace Along

variable {R : Reader → Reader → Prop}

theorem imp {Q : Reader → Reader → Prop} {x : Reading α} (h : Along R x)
    (hq : ∀ s s', R s s' → Q s s') : Along Q x :=
  fun s a s' hs => hq s s' (h s a s' hs)

theorem throw (f : Failure) : Along R (throw f : Reading α) := fun _ _ _ => nofun

theorem failAt (n : Nat) (reason : Reason) : Along R (failAt n reason : Reading α) := .throw _

theorem get_bind {f : Reader → Reading β}
    (h : ∀ s b s', (f s).run s = .ok (b, s') → R s s') : Along R (get >>= f) :=
  fun s b s' hs => h s b s' hs

theorem ite {p : Prop} [Decidable p] {x y : Reading α} (hx : Along R x) (hy : Along R y) :
    Along R (if p then x else y) := by
  split
  · exact hx
  · exact hy

theorem throw_bind (f : Failure) (g : α → Reading β) :
    Along R ((MonadExcept.throw f : Reading α) >>= g) := by
  intro s b s' h
  obtain ⟨a, mid, hf, -⟩ := ok_of_bind h
  cases hf

theorem failAt_bind (n : Nat) (reason : Reason) (g : α → Reading β) :
    Along R (Reading.failAt n reason >>= g) := .throw_bind _ g

theorem fail_bind (reason : Reason) (back : Nat) (f : α → Reading β) :
    Along R (fail reason back >>= f) := by
  intro s b s' h
  obtain ⟨a, mid, hf, -⟩ := ok_of_bind h
  cases hf

variable [Std.Refl R]

theorem pure (a : α) : Along R (pure a) := by
  intro s b s' h
  cases h
  exact Std.Refl.refl s

theorem get : Along R (get : Reading Reader) := by
  intro s b s' h
  cases h
  exact Std.Refl.refl s

variable [IsTrans Reader R]

omit [Std.Refl R] in
theorem bind {x : Reading α} {f : α → Reading β} (hx : Along R x)
    (hf : ∀ a, Along R (f a)) : Along R (x >>= f) := by
  intro s b s' h
  obtain ⟨a, mid, h₁, h₂⟩ := ok_of_bind h
  exact IsTrans.trans _ _ _ (hx _ _ _ h₁) (hf a _ _ _ h₂)

theorem forIn {ts : List α} {f : α → β → Reading (ForInStep β)}
    (hf : ∀ a b, Along R (f a b)) (b : β) : Along R (forIn ts b f) := by
  induction ts generalizing b with
  | nil => exact .pure b
  | cons t ts ih =>
    rw [List.forIn_cons]
    refine .bind (hf t b) fun step => ?_
    cases step with
    | done b => exact .pure b
    | yield b => exact ih b

end Along

section

variable {R : Reader → Reader → Prop}

def Since (R : Reader → Reader → Prop) (start : Reader) (s s' : Reader) : Prop :=
  R start s → R start s'

instance (start : Reader) : Std.Refl (Since R start) := ⟨fun _ => id⟩

instance (start : Reader) : IsTrans Reader (Since R start) := ⟨fun _ _ _ h₁ h₂ => h₂ ∘ h₁⟩

theorem Along.since [IsTrans Reader R] {x : Reading α} (h : Along R x) (start : Reader) :
    Along (Since R start) x :=
  fun s a s' hs hstart => IsTrans.trans _ _ _ hstart (h s a s' hs)

theorem Along.back [Std.Refl R] (start : Reader) :
    Along (Since R start) (set start : Reading PUnit) := by
  intro s a s' h _
  cases h
  exact Std.Refl.refl start

theorem Along.of_since [Std.Refl R] {f : Reader → Reading β}
    (h : ∀ s, Along (Since R s) (f s)) : Along R (MonadState.get >>= f) :=
  fun s b s' hs => h s s b s' hs (Std.Refl.refl s)

end

section

variable {R : Reader → Reader → Prop} [Std.Refl R] [IsTrans Reader R]

theorem position_along : Along R position := .bind .get fun _ => .pure _

theorem fail_along (reason : Reason) (back : Nat) : Along R (fail reason back : Reading α) :=
  .bind position_along fun _ => .failAt _ _

theorem peek_along : Along R peek := .bind .get fun _ => .pure _

theorem groupCount_along : Along R groupCount := .bind .get fun _ => .pure _

theorem isClosed_along (n : Nat) : Along R (isClosed n) := .bind .get fun _ => .pure _

theorem groupNamed_along (name : List Char) : Along R (groupNamed? name) :=
  .bind .get fun _ => .pure _

theorem widthOf_along (e : Expr) : Along R (widthOf e) := .bind .get fun _ => .pure _

theorem checkBehind_along (n : Nat) : Along R (checkBehind n) := by
  unfold checkBehind
  refine .bind .get fun r => ?_
  split
  · exact .pure _
  · exact .bind (isClosed_along n) fun _ =>
      .ite (.ite (fail_along _ _) (.pure _)) (.fail_bind _ _ _)

theorem checkGroupName_along (name : List Char) : Along R (checkGroupName name) := by
  unfold checkGroupName
  split
  · exact .pure _
  · exact fail_along _ _

/-- A relation that single plain characters up to a closing bracket keep, and names in
curly braces. -/
structure Spells (R : Reader → Reader → Prop) : Prop where
  plain : ∀ limit test, test ']' = false → Along R (plainWhile limit test)
  accept : ∀ c, c ≠ ']' → Along R (accept c)

variable (hR : Spells R)

include hR in
theorem hexCode_along (c : Char) (width : Nat) : Along R (hexCode c width) := by
  unfold hexCode
  refine .bind (hR.plain _ _ (by decide)) fun ds => ?_
  refine .ite (.fail_bind _ _ _) (.ite (.pure _) (.ite (.throw _) (fail_along _ _)))

include hR in
theorem octalCode_along (c : Char) : Along R (octalCode c) := by
  unfold octalCode
  exact .bind (hR.plain _ _ (by decide)) fun ds => .ite (fail_along _ _) (.pure _)

include hR in
theorem namedCode_along (hname : Along R (nameUntil '\x7d' "character name")) :
    Along R namedCode := by
  unfold namedCode
  refine .bind (hR.accept _ (by decide)) fun _ => .ite (.bind hname fun name => ?_) (.fail_bind _ _ _)
  split
  · exact .pure _
  · exact fail_along _ _

include hR in
theorem plainEscape_along (c : Char) (hname : c = 'N' → Along R namedCode) :
    Along R (plainEscape c) := by
  unfold plainEscape
  split
  · exact hexCode_along hR _ _
  · exact hexCode_along hR _ _
  · exact hexCode_along hR _ _
  · exact hname rfl
  · exact .ite (fail_along _ _) (.pure _)

include hR in
theorem classEscape_along (c : Char) (hname : c = 'N' → Along R namedCode) :
    Along R (classEscape c) := by
  unfold classEscape
  split
  · exact .pure _
  · exact .pure _
  · exact .ite (.bind (octalCode_along hR c) fun _ => .pure _)
      (.bind (plainEscape_along hR c hname) fun _ => .pure _)

include hR in
theorem backReference_along (m : Mode) (c : Char) : Along R (backReference m c) := by
  unfold backReference
  refine .bind (hR.plain _ _ (by decide)) fun second => ?_
  have hdecimal : Along R (do
      let n := ofDigits 10 (c :: second)
      if n < (← groupCount) then
        unless ← isClosed n do fail .openGroup (2 + second.length)
        checkBehind n
        return Expr.again m n
      else fail (.noSuchGroup n) (1 + second.length)) :=
    .bind groupCount_along fun _ => .ite
      (.bind (isClosed_along _) fun _ =>
        .ite (.bind (checkBehind_along _) fun _ => .pure _) (.fail_bind _ _ _))
      (fail_along _ _)
  exact .ite (.bind (hR.plain _ _ (by decide)) fun _ => .ite hdecimal
    (.ite (.fail_bind _ _ _) (.pure _))) hdecimal

include hR in
theorem escape_along (m : Mode) (c : Char) (hname : c = 'N' → Along R namedCode) :
    Along R (escape m c) := by
  unfold escape
  split
  · exact .pure _
  · exact .pure _
  · exact .pure _
  · exact .ite (.bind (hR.plain _ _ (by decide)) fun _ => .pure _)
      (.ite (backReference_along hR m c) (.bind (plainEscape_along hR c hname) fun _ => .pure _))

omit [IsTrans Reader R] in
theorem bound_along (ds : List Char) : Along R (bound ds) := by
  unfold bound
  exact .ite (.throw_bind _ _) (.ite (.throw_bind _ _) (.pure _))

include hR in
theorem greed_along : Along R greed := by
  unfold greed
  exact .bind (hR.accept _ (by decide)) fun _ => .ite (.pure _)
    (.bind (hR.accept _ (by decide)) fun _ => .ite (.pure _) (.pure _))

include hR in
theorem repeatLast_along (start least : Nat) (most : Option Nat) (parts : List Part) :
    Along R (repeatLast start least most parts) := by
  unfold repeatLast
  split
  · exact .failAt _ _
  · split
    · exact .failAt _ _
    · exact .failAt _ _
    · exact .bind (greed_along hR) fun _ => .pure _

include hR in
theorem bounds_along (sign : Char) (start : Nat) : Along R (bounds? sign start) := by
  unfold bounds?
  split
  · exact .pure _
  · exact .pure _
  · exact .pure _
  · refine .of_since fun saved => ?_
    have digits (limit : Nat) : Along (Since R saved) (plainWhile limit Char.isDigit) :=
      (hR.plain limit _ (by decide)).since saved
    have sign (c : Char) (hc : c ≠ ']') : Along (Since R saved) (accept c) :=
      (hR.accept c hc).since saved
    refine .bind peek_along fun seen => .ite (.pure _) (.bind (digits _) fun low => ?_)
    have hclose (high : List Char) : Along (Since R saved) (do
        unless ← accept '\x7d' do
          set saved
          return none
        let least ← if low.isEmpty then Pure.pure 0 else bound low
        if high.isEmpty then return some (least, none)
        let most ← bound high
        if most < least then failAt (start + 1) .boundsReversed
        return some (least, some most)) := by
      have hmost (least : Nat) : Along (Since R saved) (do
          if high.isEmpty then return some (least, none)
          let most ← bound high
          if most < least then Reading.failAt (start + 1) .boundsReversed
          return some (least, some most)) :=
        .ite (.pure _) (.bind (bound_along high) fun _ =>
          .ite (.failAt_bind _ _ _) (.pure _))
      exact .bind (sign _ (by decide)) fun _ => .ite
        (.ite (.bind (.pure _) hmost) (.bind (bound_along low) hmost))
        (.bind (.back saved) fun _ => .pure _)
    exact .bind (sign _ (by decide)) fun _ => .ite
      (.bind (digits _) hclose) (.bind (.pure _) hclose)

end

theorem continueWith_ok {ts : List Token} {s s' : Reader} {u : Unit}
    (h : (continueWith ts).run s = .ok (u, s')) : s' = { s with rest := ts } := by
  cases ts with
  | nil =>
    cases h
    rfl
  | cons t ts =>
    unfold continueWith at h
    dsimp only at h
    split at h
    · cases h
    · cases h
      rfl

theorem next_ok {s s' : Reader} {text : Option (List Char)} (h : next.run s = .ok (text, s')) :
    (text = none ∧ s.rest = [] ∧ s' = s) ∨
      ∃ t ts, s.rest = t :: ts ∧ text = some t.text ∧ s' = { s with rest := ts } := by
  unfold next at h
  rw [get_bind] at h
  cases hs : s.rest with
  | nil =>
    rw [hs] at h
    cases h
    exact .inl ⟨rfl, rfl, rfl⟩
  | cons t ts =>
    rw [hs] at h
    obtain ⟨_, mid, hc, h⟩ := ok_of_bind h
    obtain rfl := continueWith_ok hc
    cases h
    exact .inr ⟨t, ts, rfl, rfl, rfl⟩

theorem accept_ok {c : Char} {s s' : Reader} {taken : Bool}
    (h : (accept c).run s = .ok (taken, s')) : (taken = false ∧ s' = s) ∨
      (taken = true ∧ ∃ t ts, s.rest = t :: ts ∧ t.text = [c] ∧ s' = { s with rest := ts }) := by
  unfold accept at h
  obtain ⟨seen, mid, hp, h⟩ := ok_of_bind h
  cases hp
  split at h
  · next hc =>
    obtain ⟨_, mid, hn, h⟩ := ok_of_bind h
    obtain ⟨_, hs, _⟩ | ⟨t, ts, hs, _, rfl⟩ := next_ok hn
    · simp [hs] at hc
    · cases h
      exact .inr ⟨rfl, t, ts, hs, by simpa [hs] using hc, rfl⟩
  · cases h
    exact .inl ⟨rfl, rfl⟩

theorem accept_false {c : Char} {s s' : Reader} (h : (accept c).run s = .ok (false, s')) :
    s.rest.head?.map (·.text) ≠ some [c] := by
  unfold accept at h
  obtain ⟨seen, mid, hp, h⟩ := ok_of_bind h
  cases hp
  split at h
  · obtain ⟨_, mid, _, h⟩ := ok_of_bind h
    cases h
  · next hc => simpa using hc

theorem drop_takeWhile_take {p : α → Bool} (limit : Nat) (ts : List α) :
    ts = (ts.take limit).takeWhile p ++ ts.drop ((ts.take limit).takeWhile p).length :=
  List.prefix_iff_eq_append.mp ((List.takeWhile_prefix p).trans (List.take_prefix limit ts)) |>.symm

theorem plainWhile_ok {limit : Nat} {test : Char → Bool} {s s' : Reader} {cs : List Char}
    (h : (plainWhile limit test).run s = .ok (cs, s')) :
    ∃ taken, s.rest = taken ++ s'.rest ∧ ∀ t ∈ taken, ∃ c, t.text = [c] ∧ test c = true := by
  unfold plainWhile at h
  rw [get_bind] at h
  dsimp only at h
  obtain ⟨_, mid, hc, h⟩ := ok_of_bind h
  obtain rfl := continueWith_ok hc
  cases h
  refine ⟨_, drop_takeWhile_take limit s.rest, fun t ht => ?_⟩
  have hpass := List.mem_takeWhile_imp ht
  split at hpass
  · next c hc => exact ⟨c, hc, hpass⟩
  · cases hpass

theorem drop_takeWhile (p : α → Bool) (ts : List α) :
    ts.drop (ts.takeWhile p).length = ts.dropWhile p := by
  have h := congrArg (List.drop (ts.takeWhile p).length) (List.takeWhile_append_dropWhile (p := p) (l := ts))
  rwa [List.drop_left, eq_comm] at h

theorem nameUntil_ok {closing : Char} {what : String} {s s' : Reader} {name : List Char}
    (h : (nameUntil closing what).run s = .ok (name, s')) :
    ∃ body t, s.rest = body ++ t :: s'.rest ∧ (∀ u ∈ body, u.text ≠ [closing]) ∧
      t.text = [closing] := by
  unfold nameUntil at h
  rw [get_bind] at h
  dsimp only at h
  obtain ⟨_, mid, hloop, h⟩ := ok_of_bind h
  have hlook : Along Eq (forIn (s.rest.takeWhile fun t => t.text != [closing]) PUnit.unit
      fun t _ => do
        if t.dangles then failAt t.position .danglingEscape
        return ForInStep.yield PUnit.unit) :=
    .forIn (fun _ _ => .ite (.failAt_bind _ _ _) (.pure _)) _
  obtain rfl := hlook _ _ _ hloop
  rw [drop_takeWhile] at h
  cases hrest : s.rest.dropWhile fun t => t.text != [closing] with
  | nil =>
    rw [hrest] at h
    obtain ⟨_, mid, hc, h⟩ := ok_of_bind h
    split at h <;> cases h
  | cons t ts =>
    rw [hrest] at h
    obtain ⟨_, mid, hc, h⟩ := ok_of_bind h
    obtain rfl := continueWith_ok hc
    split at h
    · cases h
    · cases h
      have hhead := List.head?_dropWhile_not (fun t : Token => t.text != [closing]) s.rest
      rw [hrest] at hhead
      refine ⟨s.rest.takeWhile fun t => t.text != [closing], t, ?_, fun u hu => ?_,
        by simpa using hhead⟩
      · rw [← hrest]
        exact List.takeWhile_append_dropWhile.symm
      · simpa using List.mem_takeWhile_imp hu

theorem bind_of_ok {x : Reading α} {s mid : Reader} {a : α} (h : x.run s = .ok (a, mid))
    (f : α → Reading β) : (x >>= f).run s = (f a).run mid := by
  rw [StateT.run_bind, h]
  rfl

def Ready (ts : List Token) : Prop := ∀ t ∈ ts.head?, t.dangles = false

theorem ready_cons {t : Token} (ts : List Token) (h : t.dangles = false) : Ready (t :: ts) := by
  intro u hu
  obtain rfl : t = u := Option.some.inj hu
  exact h

theorem run_position {s : Reader} {t : Token} {ts : List Token} (hs : s.rest = t :: ts) :
    position.run s = .ok (t.position, s) := by
  unfold position
  rw [get_bind, hs]
  rfl

theorem run_continueWith {ts : List Token} (h : Ready ts) (s : Reader) :
    (continueWith ts).run s = .ok ((), { s with rest := ts }) := by
  cases ts with
  | nil => rfl
  | cons t ts =>
    have ht : t.dangles = false := h t rfl
    unfold continueWith
    dsimp only
    rw [ht]
    rfl

theorem run_next {s : Reader} {t : Token} {ts : List Token} (hs : s.rest = t :: ts)
    (h : Ready ts) : next.run s = .ok (some t.text, { s with rest := ts }) := by
  unfold next
  rw [get_bind, hs]
  dsimp only
  rw [bind_of_ok (run_continueWith h s)]
  rfl

theorem run_accept {s : Reader} {t : Token} {ts : List Token} {c : Char} (hs : s.rest = t :: ts)
    (ht : t.text = [c]) (h : Ready ts) : (accept c).run s = .ok (true, { s with rest := ts }) := by
  have hpeek : peek.run s = .ok (s.rest.head?.map (·.text), s) := rfl
  rw [hs, List.head?_cons, Option.map_some, ht] at hpeek
  unfold accept
  rw [bind_of_ok hpeek, if_pos (by simp), bind_of_ok (run_next hs h)]
  rfl

theorem run_refuse {s : Reader} {c : Char} (h : ∀ t ∈ s.rest.head?, t.text ≠ [c]) :
    (accept c).run s = .ok (false, s) := by
  have hpeek : peek.run s = .ok (s.rest.head?.map (·.text), s) := rfl
  have hother : ¬(s.rest.head?.map (·.text) == some [c]) = true := by
    cases hhead : s.rest.head? with
    | none => exact nofun
    | some t => simpa using h t hhead
  unfold accept
  rw [bind_of_ok hpeek, if_neg hother]
  rfl

end DocBraces.Pattern.Reading
