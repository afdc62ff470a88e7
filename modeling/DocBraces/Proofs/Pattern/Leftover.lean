import DocBraces.Braces.Codec
import Mathlib.Data.List.TakeWhile
import Mathlib.Logic.Function.Iterate

/-!
# What a match leaves over

Patterns of tests and greedy rounds of one test do not look at what they have noted, nor
at the text before. A match of such a pattern is told by the text that it leaves over,
as a function of the text ahead.
-/

set_option autoImplicit false

namespace DocBraces.Pattern

open DocBraces.Text

def Outcome.left? : Outcome → Option (List Char)
  | matched s => some s.place.after
  | failed _ => none

theorem Expr.lengthAt?_eq_left? (e : Expr) (nonempty : Bool) (before after : List Char) :
    e.lengthAt? nonempty before after =
      (e.run false none ⟨before, after⟩ { place := ⟨before, after⟩ } fun q s =>
        if nonempty && q.meets ⟨before, after⟩ then .failed s else .matched (s.lookAt q)).left?.map
          fun rest => after.length - rest.length := by
  rw [lengthAt?, matchAt?]
  generalize e.run false none _ _ _ = ending
  cases ending <;> rfl

abbrev Leftover := List Char → Option (List Char)

def Leaves (k : Rest) (g : Leftover) : Prop := ∀ p s, (k p s).left? = g p.after

def Leftover.char (c : Char) (g : Leftover) : Leftover
  | [] => none
  | d :: ds => if d = c then g ds else none

def Leftover.rounds (test : Char → Bool) (g : Leftover) : Leftover := fun text =>
  (List.range (text.takeWhile test).length).reverse.findSome? fun n => g (text.drop (n + 1))

theorem exactly_leaves (c : Char) (r : Bool) (next : Option (Mode × CharClass)) (k : Rest)
    (g : Leftover) (h : Leaves k g) :
    Leaves (fun p s => (exactly c).run r next p s k) (g.char c) := by
  intro p s
  simp only [exactly, Expr.run, CharClass.holds_ofChar]
  cases hp : p.after with
  | nil => rfl
  | cons d ds =>
    by_cases hd : d = c
    · simp [Leftover.char, hd, h _ _]
    · simp [Leftover.char, hd, Outcome.left?]

theorem reach_after (test : Char → Bool) (before after : List Char) (found : List Cursor) :
    (Cursor.reach test none before after found).map Cursor.after =
      ((List.range ((after.takeWhile test).length + 1)).map after.drop).reverse ++
        found.map Cursor.after := by
  induction after generalizing before found with
  | nil => rfl
  | cons c cs ih =>
    by_cases hc : test c = true
    · have hreach : Cursor.reach test none before (c :: cs) found =
          Cursor.reach test none (c :: before) cs (⟨before, c :: cs⟩ :: found) := by
        simp [Cursor.reach, hc]
      rw [hreach, ih, List.takeWhile_cons_of_pos hc, List.length_cons,
        List.range_succ_eq_map (n := (cs.takeWhile test).length + 1)]
      simp [Function.comp_def]
    · simp [Cursor.reach, hc]

theorem tryEach_left (r : Bool) (next : Option Nat) (saved : Notes) (k : Rest) (g : Leftover)
    (h : Leaves k g)
    (hnext : ∀ q : Cursor, (next.any fun n => (q.after.head?.map Char.toNat) != some n) = true →
      g q.after = none)
    (qs : List Cursor) (s : Notes) :
    (tryEach r next saved k qs s).left? = (qs.map Cursor.after).findSome? g := by
  induction qs generalizing s with
  | nil => rfl
  | cons q qs ih =>
    rw [tryEach]
    split
    · next hq => rw [ih, List.map_cons, List.findSome?_cons, hnext q hq]
    · have hk := h q (s.lookAt q)
      cases ho : k q (s.lookAt q) with
      | matched t =>
        rw [ho] at hk
        simp [← hk, Outcome.left?]
      | failed t =>
        rw [ho] at hk
        rw [List.map_cons, List.findSome?_cons, ← hk]
        exact ih _

def Leftover.roundsFrom (least : ℕ) (test : Char → Bool) (g : Leftover) : Leftover := fun text =>
  (List.range ((text.takeWhile test).length + 1 - least)).reverse.findSome? fun n =>
    g (text.drop (n + least))

/-- Rounds of one test leave over what the rest leaves over behind them, if only places are
passed over at which the rest does not match. -/
theorem greedy_leave_next (m : Mode) (cls : CharClass) (least : ℕ)
    (next : Option (Mode × CharClass)) (r : Bool) (k : Rest) (g : Leftover) (h : Leaves k g)
    (hnext : ∀ q : Cursor, ((next.bind fun (m, cls) => cls.literal? m).any fun n =>
      (q.after.head?.map Char.toNat) != some n) = true → g q.after = none) :
    Leaves (fun p s => (Expr.rounds .greedy least none (.one m cls)).run r next p s k)
      (g.roundsFrom least (cls.holds m)) := by
  intro p s
  simp only [Expr.run, Expr.unit?, unitRounds]
  have hplaces : ((p.reaches (cls.holds m) none).map Cursor.after) =
      ((List.range ((p.after.takeWhile (cls.holds m)).length + 1)).map p.after.drop).reverse := by
    rw [Cursor.reaches, reach_after]
    simp
  have hlength := congrArg List.length hplaces
  simp only [List.length_map, List.length_reverse, List.length_range] at hlength
  by_cases hahead : p.hasAhead least = true
  · simp only [hahead, Bool.not_true, Bool.false_eq_true, if_false]
    -- the places that are tried are those behind enough rounds, the furthest first
    have hstops (most : ℕ) : ((List.range most).map p.after.drop).reverse.take (most - least) =
        (List.range (most - least)).reverse.map fun n => p.after.drop (n + least) := by
      rw [List.take_reverse, List.length_map, List.length_range, List.map_reverse]
      congr 1
      apply List.ext_getElem
      · simp
        omega
      · intro i _ hi
        simp only [List.length_map, List.length_range] at hi
        simp only [List.getElem_drop, List.getElem_map, List.getElem_range]
        congr 1
        omega
    rw [tryEach_left _ _ _ _ _ h hnext, List.map_take, hplaces, hlength, hstops,
      List.findSome?_map]
    rfl
  · have hshort : p.after.length < least := by
      by_contra hlong
      exact hahead (by simp [Cursor.hasAhead]; omega)
    have hnone : (p.after.takeWhile (cls.holds m)).length + 1 - least = 0 := by
      have := (List.takeWhile_prefix (l := p.after) (cls.holds m)).length_le
      omega
    simp [hahead, Leftover.roundsFrom, hnone, Outcome.left?]

theorem rounds_leave_next (cls : CharClass) (next : Option (Mode × CharClass)) (r : Bool)
    (k : Rest) (g : Leftover) (h : Leaves k g)
    (hnext : ∀ q : Cursor, ((next.bind fun (m, cls) => cls.literal? m).any fun n =>
      (q.after.head?.map Char.toNat) != some n) = true → g q.after = none) :
    Leaves (fun p s => (Expr.rounds .greedy 1 none (.one {} cls)).run r next p s k)
      (g.rounds (cls.holds {})) :=
  greedy_leave_next {} cls 1 next r k g h hnext

/-- Where a character has to follow the rounds, only places before it are tried. -/
theorem rounds_leave (cls : CharClass) (c : Char) (r : Bool) (k : Rest) (g : Leftover)
    (h : Leaves k (g.char c)) :
    Leaves (fun p s => (Expr.rounds .greedy 1 none (.one {} cls)).run r
      (some ({}, CharClass.ofChar c)) p s k) ((g.char c).rounds (cls.holds {})) := by
  refine rounds_leave_next cls _ r k _ h fun q hq => ?_
  cases hqa : q.after with
  | nil => rfl
  | cons d ds =>
    have hd : d ≠ c := by
      rintro rfl
      have hliteral : (CharClass.ofChar d).literal? {} = some d.toNat := rfl
      simp [hqa, hliteral] at hq
    simp [Leftover.char, hd]

/-- A group notes its borders, at which a rest that looks at the text ahead does not look. -/
theorem group_leaves (n : ℕ) (e : Expr) (r : Bool) (next : Option (Mode × CharClass))
    (turn : Leftover → Leftover)
    (he : ∀ k g, Leaves k g → Leaves (fun p s => e.run r none p s k) (turn g)) (k : Rest)
    (g : Leftover) (h : Leaves k g) :
    Leaves (fun p s => (Expr.group n e).run r next p s k) (turn g) :=
  fun p _ => he _ g (fun q _ => h q _) p _

theorem char_iterate_some (c : Char) (n : ℕ) (g : Leftover) (text rest : List Char) :
    (Leftover.char c)^[n] g text = some rest ↔
      ∃ more, text = List.replicate n c ++ more ∧ g more = some rest := by
  induction n generalizing text with
  | zero => simp
  | succ n ih =>
    rw [Function.iterate_succ_apply']
    cases text with
    | nil => simp [Leftover.char, List.replicate_succ]
    | cons d ds =>
      by_cases hd : d = c
      · subst hd
        simp [Leftover.char, ih, List.replicate_succ]
      · simp [Leftover.char, hd, List.replicate_succ]

theorem exists_of_rounds (test : Char → Bool) (g : Leftover) (text rest : List Char)
    (h : g.rounds test text = some rest) :
    ∃ content more, content ≠ [] ∧ (∀ d ∈ content, test d = true) ∧
      text = content ++ more ∧ g more = some rest := by
  obtain ⟨n, hn, hg⟩ := List.exists_of_findSome?_eq_some h
  simp only [List.mem_reverse, List.mem_range] at hn
  refine ⟨text.take (n + 1), text.drop (n + 1), ?_, ?_, (List.take_append_drop _ _).symm, hg⟩
  · intro hnil
    have hlen := congrArg List.length hnil
    have hle := (List.takeWhile_prefix (l := text) test).length_le
    simp only [List.length_take, List.length_nil] at hlen
    omega
  · intro d hd
    have hsub : text.take (n + 1) <+: text.takeWhile test :=
      List.prefix_of_prefix_length_le (List.take_prefix _ _) (List.takeWhile_prefix _)
        (by rw [List.length_take]; omega)
    exact List.mem_takeWhile_imp (hsub.subset hd)

/-- The rounds are tried from the most to the fewest: where some number of them lets the rest
match, they take no fewer. -/
theorem rounds_longest (test : Char → Bool) (g : Leftover) (content more rest : List Char)
    (hne : content ≠ []) (hall : ∀ d ∈ content, test d = true) (hg : g more = some rest) :
    ∃ n, content.length ≤ n ∧
      g.rounds test (content ++ more) = g ((content ++ more).drop n) ∧
      (g ((content ++ more).drop n)).isSome = true := by
  have hbound : content.length ≤ ((content ++ more).takeWhile test).length := by
    rw [List.takeWhile_append_of_pos hall, List.length_append]
    exact Nat.le_add_right _ _
  have hpos : 0 < content.length := List.length_pos_iff.mpr hne
  have hhere : g ((content ++ more).drop content.length) = some rest := by
    rw [List.drop_left, hg]
  rw [Leftover.rounds]
  generalize ((content ++ more).takeWhile test).length = most at hbound
  induction most with
  | zero => omega
  | succ most ih =>
    rw [List.range_succ, List.reverse_append, List.reverse_singleton, List.singleton_append,
      List.findSome?_cons]
    cases hlast : g ((content ++ more).drop (most + 1)) with
    | some left => exact ⟨most + 1, hbound, by simp [hlast], by simp [hlast]⟩
    | none =>
      have hless : content.length ≠ most + 1 := by
        intro heq
        rw [← heq, hhere] at hlast
        cases hlast
      exact ih (by omega)

/-- The rounds end where the character stands that has to follow, if it is not under test. -/
theorem rounds_some (test : Char → Bool) (c : Char) (hc : test c = false) (g : Leftover)
    (text rest : List Char) :
    (g.char c).rounds test text = some rest ↔
      ∃ content more, content ≠ [] ∧ (∀ d ∈ content, test d = true) ∧
        text = content ++ more ∧ g.char c more = some rest := by
  constructor
  · exact exists_of_rounds test (g.char c) text rest
  · rintro ⟨content, more, hne, hall, rfl, hg⟩
    have htake : (content ++ more).takeWhile test = content := by
      cases more with
      | nil => simp [Leftover.char] at hg
      | cons d ds =>
        have hd : d = c := by
          by_contra hd
          simp [Leftover.char, hd] at hg
        rw [List.takeWhile_append_of_pos hall, hd, List.takeWhile_cons_of_neg (by simp [hc]),
          List.append_nil]
    obtain ⟨m, hm⟩ := Nat.exists_eq_succ_of_ne_zero (mt List.length_eq_zero_iff.mp hne)
    have hdrop : (content ++ more).drop (m + 1) = more := List.drop_left' hm
    rw [Leftover.rounds, htake, hm, List.range_succ, List.reverse_append]
    simp only [List.reverse_singleton, List.singleton_append, List.findSome?_cons, hdrop, hg]

end DocBraces.Pattern
