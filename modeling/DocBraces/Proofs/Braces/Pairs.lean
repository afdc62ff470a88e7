import DocBraces.Proofs.Braces.Balance
import Mathlib.Data.List.Infix

/-!
# Pairs of braces with one end in code

Where the braces of a text are balanced, each opening one has the closing one that it is
paired with. A pair whose ends are both in code, or both not, leaves the substitutes balanced.
A pair with one end in code tips the balance, and another pair can tip it back.
-/

set_option autoImplicit false

namespace DocBraces

open DocBraces.Text DocBraces.Pattern

structure Marked where
  char : Char
  inCode : Bool
  deriving DecidableEq, Repr

def marked (inCode : Bool) (text : List Char) : List Marked := text.map (Marked.mk · inCode)

/-- Segments behind a backtick, with the spans marked as code. -/
def markSpans : List (List Char) → List (List Marked)
  | s :: t :: rest =>
    if s = [] then [] :: markSpans (t :: rest)
    else marked true s :: marked false t :: markSpans rest
  | segments => segments.map (marked false)

def markInlineCode (line : List Char) : List Marked :=
  match line.splitOn tick with
  | [] => []
  | first :: segments => [⟨tick, false⟩].intercalate (marked false first :: markSpans segments)

def LineMode.mark (m : LineMode) (line : List Char) : List Marked :=
  match m.kind line with
  | .delimiter => marked false line
  | .fenced => marked true line
  | .indented => marked true line
  | .prose => markInlineCode line

def markLines (m : LineMode) (ls : List (List Char)) : List (List Marked) :=
  List.zipWith LineMode.mark (modes m ls) ls

theorem markLines_cons (m : LineMode) (l : List Char) (ls : List (List Char)) :
    markLines m (l :: ls) = m.mark l :: markLines (m.next l) ls := rfl

/-- The characters of a text, each with whether it is in code. -/
def markText (text : List Char) : List Marked :=
  [⟨'\n', false⟩].intercalate (markLines .prose (splitLines text))

def codeChars (cs : List Marked) : List Char := (cs.filter Marked.inCode).map Marked.char

theorem marked_char (inCode : Bool) (text : List Char) :
    (marked inCode text).map Marked.char = text := by
  simp [marked, Function.comp_def]

theorem intercalate_char (d : Marked) (parts : List (List Marked)) :
    ([d].intercalate parts).map Marked.char =
      [d.char].intercalate (parts.map (List.map Marked.char)) := by
  match parts with
  | [] => rfl
  | [p] => simp
  | p :: q :: ps =>
    have hmap : ((p :: q :: ps).map (List.map Marked.char)) =
        p.map Marked.char :: q.map Marked.char :: ps.map (List.map Marked.char) := rfl
    rw [hmap, List.intercalate_cons_cons, List.intercalate_cons_cons, List.map_append,
      List.map_append, intercalate_char d (q :: ps)]
    rfl

theorem markSpans_char (segments : List (List Char)) :
    (markSpans segments).map (List.map Marked.char) = segments := by
  match segments with
  | [] => rfl
  | [s] => simp [markSpans, marked_char]
  | s :: t :: rest =>
    rw [markSpans]
    split
    · rename_i hs
      rw [List.map_cons, markSpans_char (t :: rest), hs, List.map_nil]
    · rw [List.map_cons, List.map_cons, markSpans_char rest, marked_char, marked_char]

theorem markInlineCode_char (line : List Char) : (markInlineCode line).map Marked.char = line := by
  obtain ⟨first, segments, hline⟩ := List.exists_cons_of_ne_nil (List.splitOn_ne_nil tick line)
  simp only [markInlineCode, hline]
  rw [intercalate_char, List.map_cons, marked_char, markSpans_char, ← hline,
    List.intercalate_splitOn]

theorem LineMode.mark_char (m : LineMode) (line : List Char) :
    (m.mark line).map Marked.char = line := by
  rw [LineMode.mark]
  cases m.kind line with
  | delimiter => exact marked_char false line
  | fenced => exact marked_char true line
  | indented => exact marked_char true line
  | prose => exact markInlineCode_char line

theorem markLines_char (m : LineMode) (ls : List (List Char)) :
    (markLines m ls).map (List.map Marked.char) = ls := by
  induction ls generalizing m with
  | nil => rfl
  | cons l ls ih =>
    rw [markLines_cons, List.map_cons, m.mark_char, ih]

theorem markText_char (text : List Char) : (markText text).map Marked.char = text := by
  rw [markText, intercalate_char, markLines_char, ← joinLines_eq_intercalate, joinLines_splitLines]

theorem codeChars_append (before after : List Marked) :
    codeChars (before ++ after) = codeChars before ++ codeChars after := by
  rw [codeChars, List.filter_append, List.map_append, codeChars, codeChars]

theorem codeChars_code (text : List Char) : codeChars (marked true text) = text := by
  simp [codeChars, marked, List.filter_map, Function.comp_def]

theorem codeChars_other (text : List Char) : codeChars (marked false text) = [] := by
  simp [codeChars, marked, List.filter_map, Function.comp_def]

theorem codeChars_intercalate (d : Char) (parts : List (List Marked)) :
    codeChars ([⟨d, false⟩].intercalate parts) = (parts.map codeChars).flatten := by
  have hd : codeChars [⟨d, false⟩] = [] := rfl
  match parts with
  | [] => rfl
  | [p] => simp
  | p :: q :: ps =>
    rw [List.intercalate_cons_cons, codeChars_append, codeChars_append, hd, List.append_nil,
      codeChars_intercalate d (q :: ps), List.map_cons (a := p), List.flatten_cons]

theorem codeChars_markSpans (segments : List (List Char)) :
    ((markSpans segments).map codeChars).flatten = (spans segments).flatten := by
  match segments with
  | [] => rfl
  | [s] => simp [markSpans, spans, codeChars_other]
  | s :: t :: rest =>
    rw [markSpans, spans]
    split
    · rw [List.map_cons, List.flatten_cons, codeChars_markSpans (t :: rest)]
      rfl
    · simp only [List.map_cons, List.flatten_cons, codeChars_code, codeChars_other,
        List.nil_append, codeChars_markSpans rest]

theorem codeChars_markInlineCode (line : List Char) :
    codeChars (markInlineCode line) = (inlineSpans line).flatten := by
  obtain ⟨first, segments, hline⟩ := List.exists_cons_of_ne_nil (List.splitOn_ne_nil tick line)
  simp only [markInlineCode, inlineSpans, hline, List.tail_cons]
  rw [codeChars_intercalate, List.map_cons, List.flatten_cons, codeChars_other, List.nil_append,
    codeChars_markSpans]

theorem codeChars_markLine (m : LineMode) (line : List Char) :
    codeChars (m.mark line) = (m.code line).flatten := by
  rw [LineMode.mark, LineMode.code]
  cases m.kind line with
  | delimiter => exact codeChars_other line
  | fenced => simpa using codeChars_code line
  | indented => simpa using codeChars_code line
  | prose => exact codeChars_markInlineCode line

theorem codeChars_markLines (m : LineMode) (ls : List (List Char)) :
    ((markLines m ls).map codeChars).flatten = (codeOfLines m ls).flatten := by
  induction ls generalizing m with
  | nil => rfl
  | cons l ls ih =>
    rw [markLines_cons, codeOfLines_cons, List.map_cons, List.flatten_cons, codeChars_markLine, ih,
      List.flatten_append]

theorem codeChars_markText (text : List Char) :
    codeChars (markText text) = (codePieces text).flatten := by
  rw [markText, codeChars_intercalate, codeChars_markLines, codePieces]

/-- Which ends of a pair are in code. -/
structure Ends where
  opening : Bool
  closing : Bool
  deriving DecidableEq, Repr

namespace Alphabet

/-- A closing brace makes a pair with the last opening one that is still waiting. -/
def pairs (a : Alphabet) : (waiting : List Bool) → List Marked → List Ends
  | _, [] => []
  | waiting, c :: cs =>
    if c.char = a.opening then a.pairs (c.inCode :: waiting) cs
    else if c.char = a.closing then
      match waiting with
      | [] => a.pairs [] cs
      | w :: ws => ⟨w, c.inCode⟩ :: a.pairs ws cs
    else a.pairs waiting cs

/-- No beginning of the text closes more than it opens, and all of it closes as much. -/
def Balanced (a : Alphabet) (text : List Char) : Prop :=
  (∀ p ∈ text.inits, p.count a.closing ≤ p.count a.opening) ∧
    text.count a.opening = text.count a.closing

instance (a : Alphabet) (text : List Char) : Decidable (a.Balanced text) :=
  inferInstanceAs (Decidable (_ ∧ _))

/-- A text that closes the braces waiting before it and its own ones, each when its turn
comes. -/
inductive Closes (a : Alphabet) : List Bool → List Marked → Prop
  | done : a.Closes [] []
  | opened (waiting : List Bool) (c : Marked) (cs : List Marked) (hc : c.char = a.opening)
      (h : a.Closes (c.inCode :: waiting) cs) : a.Closes waiting (c :: cs)
  | closed (w : Bool) (waiting : List Bool) (c : Marked) (cs : List Marked)
      (hc : c.char = a.closing) (h : a.Closes waiting cs) : a.Closes (w :: waiting) (c :: cs)
  | passed (waiting : List Bool) (c : Marked) (cs : List Marked) (ho : c.char ≠ a.opening)
      (hc : c.char ≠ a.closing) (h : a.Closes waiting cs) : a.Closes waiting (c :: cs)

section

variable {a : Alphabet} {waiting : List Bool} {c : Marked} {cs : List Marked}

theorem pairs_opened (hc : c.char = a.opening) :
    a.pairs waiting (c :: cs) = a.pairs (c.inCode :: waiting) cs := by
  cases waiting <;> rw [pairs, if_pos hc]

theorem pairs_closed (w : Bool) (hc : c.char = a.closing) :
    a.pairs (w :: waiting) (c :: cs) = ⟨w, c.inCode⟩ :: a.pairs waiting cs := by
  have hne : c.char ≠ a.opening := hc ▸ Ne.symm a.opening_ne_closing
  rw [pairs, if_neg hne, if_pos hc]

theorem pairs_passed (ho : c.char ≠ a.opening) (hc : c.char ≠ a.closing) :
    a.pairs waiting (c :: cs) = a.pairs waiting cs := by
  cases waiting <;> rw [pairs, if_neg ho, if_neg hc]

theorem closes_of_counts (waiting : List Bool) (cs : List Marked)
    (hle : ∀ p, p <+: cs.map Marked.char → p.count a.closing ≤ waiting.length + p.count a.opening)
    (hall : (cs.map Marked.char).count a.closing =
      waiting.length + (cs.map Marked.char).count a.opening) : a.Closes waiting cs := by
  have hne := a.opening_ne_closing
  induction cs generalizing waiting with
  | nil =>
    have hnil : waiting = [] := List.length_eq_zero_iff.mp (by simpa using hall.symm)
    rw [hnil]
    exact .done
  | cons c cs ih =>
    have hnext (p : List Char) (hp : p <+: cs.map Marked.char) :=
      hle (c.char :: p) (List.cons_prefix_cons.mpr ⟨rfl, hp⟩)
    rw [List.map_cons] at hall
    by_cases ho : c.char = a.opening
    · simp only [ho, List.count_cons_self, List.count_cons_of_ne hne] at hnext hall
      refine .opened waiting c cs ho (ih _ (fun p hp => ?_) ?_)
      · have hcount := hnext p hp
        rw [List.length_cons]
        omega
      · rw [List.length_cons]
        omega
    by_cases hc : c.char = a.closing
    · simp only [hc, List.count_cons_self, List.count_cons_of_ne (Ne.symm hne)] at hnext hall
      cases waiting with
      | nil =>
        -- Nothing waits for this brace, so that it alone closes more than is open.
        have hcount := hnext [] List.nil_prefix
        simp at hcount
      | cons w waiting =>
        rw [List.length_cons] at hnext hall
        refine .closed w waiting c cs hc (ih _ (fun p hp => ?_) ?_)
        · have hcount := hnext p hp
          omega
        · omega
    · simp only [List.count_cons_of_ne ho, List.count_cons_of_ne hc] at hnext hall
      exact .passed waiting c cs ho hc (ih waiting hnext hall)

theorem Balanced.closes (h : a.Balanced (cs.map Marked.char)) : a.Closes [] cs := by
  refine closes_of_counts [] cs (fun p hp => ?_) ?_
  · rw [List.length_nil, Nat.zero_add]
    exact h.1 p ((List.mem_inits _ _).mpr hp)
  · rw [List.length_nil, Nat.zero_add, h.2]

end

end Alphabet

namespace Ends

/-- Pairs with only their opening brace in code, less those with only their closing one. -/
def surplus (ps : List Ends) : ℤ := ps.count ⟨true, false⟩ - ps.count ⟨false, true⟩

theorem surplus_cons (p : Ends) (ps : List Ends) :
    surplus (p :: ps) = p.opening.toNat - p.closing.toNat + surplus ps := by
  rcases p with ⟨_ | _, _ | _⟩ <;> simp [surplus] <;> ring

theorem surplus_eq_zero_iff (ps : List Ends) :
    surplus ps = 0 ↔ ps.count ⟨true, false⟩ = ps.count ⟨false, true⟩ := by
  rw [surplus, sub_eq_zero, Nat.cast_inj]

end Ends

theorem codeChars_cons (c : Marked) (cs : List Marked) :
    codeChars (c :: cs) = if c.inCode then c.char :: codeChars cs else codeChars cs := by
  rw [codeChars, List.filter_cons]
  split <;> rfl

theorem Alphabet.balance_codeChars_cons (a : Alphabet) (c : Marked) (cs : List Marked) :
    a.balance (codeChars (c :: cs)) =
      c.inCode.toNat * a.weight c.char + a.balance (codeChars cs) := by
  rw [codeChars_cons]
  cases c.inCode with
  | false => simp
  | true => simp [a.balance_cons]

/-- Braces of code are balanced up to the pairs that have only one end in it. -/
theorem Alphabet.Closes.surplus_pairs {a : Alphabet} {waiting : List Bool} {cs : List Marked}
    (h : a.Closes waiting cs) :
    Ends.surplus (a.pairs waiting cs) = waiting.count true + a.balance (codeChars cs) := by
  induction h with
  | done => rfl
  | opened waiting c cs hc h ih =>
    rw [pairs_opened hc, ih, a.balance_codeChars_cons, hc, a.weight_opening]
    cases c.inCode <;> simp
    ring
  | closed w waiting c cs hc h ih =>
    rw [pairs_closed w hc, Ends.surplus_cons, ih, a.balance_codeChars_cons, hc, a.weight_closing]
    cases w <;> simp <;> ring
  | passed waiting c cs ho hc h ih =>
    have hmem : c.char ∉ a.chars := by simp [Alphabet.chars, ho, hc]
    rw [pairs_passed ho hc, ih, a.balance_codeChars_cons, a.weight_of_not_mem _ hmem, mul_zero,
      zero_add]

theorem Alphabet.balance_flatten (a : Alphabet) (pieces : List (List Char)) :
    a.balance pieces.flatten = (pieces.map a.balance).sum := by
  induction pieces with
  | nil => rfl
  | cons p ps ih => rw [List.flatten_cons, a.balance_append, ih, List.map_cons, List.sum_cons]

namespace Codec

/-- The pairs of a text, each with which of its ends are in code. -/
def pairsOf (k : Codec) (text : List Char) : List Ends := k.ascii.pairs [] (markText text)

theorem sanitize_surplus {k : Codec} {cls : CharClass} (hk : k.Uses cls)
    (hc : ∀ c ∈ k.ascii.chars, cls.holds {} c = false) (text : List Char)
    (h : k.ascii.Balanced text) :
    k.substitute.balance (k.sanitize text) =
      k.substitute.balance text + Ends.surplus (k.pairsOf text) := by
  have hcloses : k.ascii.Closes [] (markText text) := by
    refine Alphabet.Balanced.closes ?_
    rwa [markText_char]
  rw [sanitize_balance hk hc, pairsOf, hcloses.surplus_pairs, codeChars_markText,
    k.ascii.balance_flatten, List.count_nil, Nat.cast_zero, zero_add]

/-- Sanitizing a text without substitutes whose braces are balanced gives as many opening as
closing substitutes exactly when as many pairs have only their opening brace in code as have
only their closing one there. So it does when no pair has just one end in code. -/
theorem default_balances_iff (text : List Char)
    (hfree : ∀ c ∈ Alphabet.fullwidth.chars, c ∉ text) (h : Alphabet.ascii.Balanced text) :
    ((Codec.default.sanitize text).count Alphabet.fullwidth.opening =
        (Codec.default.sanitize text).count Alphabet.fullwidth.closing ↔
      (Codec.default.pairsOf text).count ⟨true, false⟩ =
        (Codec.default.pairsOf text).count ⟨false, true⟩) ∧
    ((∀ p ∈ Codec.default.pairsOf text, p.opening = p.closing) →
      (Codec.default.sanitize text).count Alphabet.fullwidth.opening =
        (Codec.default.sanitize text).count Alphabet.fullwidth.closing) := by
  have huses : Codec.default.Uses defaultClass := rfl
  have hsurplus := sanitize_surplus huses defaultClass_braceless text h
  rw [Codec.default.substitute.balance_of_free text hfree, zero_add] at hsurplus
  have hiff : (Codec.default.sanitize text).count Alphabet.fullwidth.opening =
        (Codec.default.sanitize text).count Alphabet.fullwidth.closing ↔
      (Codec.default.pairsOf text).count ⟨true, false⟩ =
        (Codec.default.pairsOf text).count ⟨false, true⟩ := by
    rw [← Ends.surplus_eq_zero_iff, ← hsurplus]
    exact (Alphabet.fullwidth.balance_eq_zero_iff _).symm
  refine ⟨hiff, fun hsame => hiff.mpr ?_⟩
  have habsent (p : Ends) (hp : p.opening ≠ p.closing) : (Codec.default.pairsOf text).count p = 0 :=
    List.count_eq_zero_of_not_mem fun hmem => hp (hsame p hmem)
  rw [habsent ⟨true, false⟩ (by decide), habsent ⟨false, true⟩ (by decide)]

/-- Two pairs with one end in code each, which make up for each other. -/
theorem default_balances_crossing :
    let text := "\x7b \x60\x7d\x7b\x60 \x7d".toList
    (∀ c ∈ Alphabet.fullwidth.chars, c ∉ text) ∧ Alphabet.ascii.Balanced text ∧
    Codec.default.pairsOf text = [⟨false, true⟩, ⟨true, false⟩] ∧
    (Codec.default.sanitize text).count Alphabet.fullwidth.opening =
      (Codec.default.sanitize text).count Alphabet.fullwidth.closing := by
  intro text
  have hfree := (Alphabet.fullwidth.forall_mem_chars (· ∉ text)).mpr (by decide +kernel)
  have hbalanced : Alphabet.ascii.Balanced text := by decide +kernel
  have hpairs : Codec.default.pairsOf text = [⟨false, true⟩, ⟨true, false⟩] := by decide +kernel
  refine ⟨hfree, hbalanced, hpairs, (default_balances_iff text hfree hbalanced).1.mpr ?_⟩
  rw [hpairs]
  rfl

/-- A pair that opens in prose and closes in code gets a closing substitute only. -/
theorem balanced_text_loses_balance :
    ¬ ∀ text : List Char, (∀ c ∈ Alphabet.fullwidth.chars, c ∉ text) →
      Alphabet.ascii.Balanced text →
      (Codec.default.sanitize text).count Alphabet.fullwidth.opening =
        (Codec.default.sanitize text).count Alphabet.fullwidth.closing := by
  intro h
  have hcount := h "\x7b\x60\x7d\x60".toList
    ((Alphabet.fullwidth.forall_mem_chars _).mpr (by decide +kernel)) (by decide +kernel)
  exact absurd hcount (by decide +kernel)

end Codec

end DocBraces
