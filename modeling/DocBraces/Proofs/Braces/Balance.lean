import DocBraces.Proofs.Braces.InlineSpans
import DocBraces.Proofs.Braces.LineKinds
import DocBraces.Proofs.Braces.PlaceholderSearch
import DocBraces.Proofs.Braces.Resanitizing
import Mathlib.Algebra.BigOperators.Group.List.Basic
import Mathlib.Tactic.Ring

/-!
# Brace accounts

Placeholders are replaced with as many opening as closing braces. So it is code alone that
unbalances substitutes: they get the surplus that the braces of the code had.
-/

set_option autoImplicit false

namespace DocBraces

open DocBraces.Text DocBraces.Pattern

namespace Alphabet

def balance (a : Alphabet) (text : List Char) : ℤ := text.count a.opening - text.count a.closing

def weight (a : Alphabet) (c : Char) : ℤ :=
  if c = a.opening then 1 else if c = a.closing then -1 else 0

section

variable (a : Alphabet)

theorem forall_mem_chars (p : Char → Prop) : (∀ c ∈ a.chars, p c) ↔ p a.opening ∧ p a.closing := by
  simp [chars]

theorem balance_nil : a.balance [] = 0 := rfl

theorem balance_eq_zero_iff (text : List Char) :
    a.balance text = 0 ↔ text.count a.opening = text.count a.closing := by
  rw [balance, sub_eq_zero, Nat.cast_inj]

theorem weight_opening : a.weight a.opening = 1 := if_pos rfl

theorem weight_closing : a.weight a.closing = -1 := by
  simp [weight, Ne.symm a.opening_ne_closing]

theorem weight_of_not_mem (c : Char) (h : c ∉ a.chars) : a.weight c = 0 := by
  simp only [chars, List.mem_cons, List.not_mem_nil, or_false, not_or] at h
  simp [weight, h.1, h.2]

theorem balance_cons (c : Char) (cs : List Char) :
    a.balance (c :: cs) = a.weight c + a.balance cs := by
  have hne := a.opening_ne_closing
  rw [balance, balance, List.count_cons, List.count_cons, weight]
  by_cases ho : c = a.opening
  · subst ho
    simp [hne]
    ring
  · by_cases hc : c = a.closing
    · subst hc
      simp [Ne.symm hne]
      ring
    · simp [ho, hc]

theorem balance_append (before after : List Char) :
    a.balance (before ++ after) = a.balance before + a.balance after := by
  rw [balance, balance, balance, List.count_append, List.count_append]
  push_cast
  ring

theorem balance_of_free (text : List Char) (h : ∀ c ∈ a.chars, c ∉ text) : a.balance text = 0 := by
  rw [forall_mem_chars] at h
  rw [balance_eq_zero_iff, List.count_eq_zero_of_not_mem h.1, List.count_eq_zero_of_not_mem h.2]

theorem balance_intercalate (d : Char) (parts : List (List Char)) :
    a.balance ([d].intercalate parts) =
      (parts.map a.balance).sum + (parts.length - 1 : ℕ) * a.weight d := by
  match parts with
  | [] => simp [balance_nil]
  | [p] => simp
  | p :: q :: ps =>
    rw [List.intercalate_cons_cons, balance_append, balance_append, balance_cons, balance_nil,
      balance_intercalate d (q :: ps), List.map_cons (a := p), List.sum_cons, List.length_cons,
      List.length_cons, Nat.add_sub_cancel, Nat.add_sub_cancel, List.length_cons, Nat.cast_succ]
    ring

end

end Alphabet

theorem joinLines_eq_intercalate (ls : List (List Char)) :
    joinLines ls = ['\n'].intercalate ls := by
  match ls with
  | [] => rfl
  | [l] => simp [joinLines]
  | l :: m :: ls =>
    rw [joinLines_cons l (m :: ls) (List.cons_ne_nil m ls), List.intercalate_cons_cons,
      joinLines_eq_intercalate (m :: ls), List.append_assoc, List.singleton_append]

namespace Placeholder

theorem balance_word (b : Placeholder) (content : List Char) (h : b.Admits content) :
    b.braces.balance (b.word content) = 0 := by
  have hfree : b.braces.balance content = 0 := by
    refine b.braces.balance_of_free content (b.braces.forall_mem_chars _ |>.mpr ⟨?_, ?_⟩)
    · exact fun hm => Bool.noConfusion (b.opening_outside.symm.trans (h.2 _ hm))
    · exact fun hm => Bool.noConfusion (b.closing_outside.symm.trans (h.2 _ hm))
  have hne := b.braces.opening_ne_closing
  rw [word, Alphabet.balance_append, Alphabet.balance_append, hfree]
  simp [Alphabet.balance, List.count_replicate, hne, Ne.symm hne]

end Placeholder

namespace Codec

variable (k : Codec)

theorem weight_swapChar (c : Char) :
    k.substitute.weight (k.swapChar c) = k.substitute.weight c + k.ascii.weight c := by
  by_cases ho : c = k.ascii.opening
  · subst ho
    rw [swapChar, Alphabet.exchange_opening, Alphabet.weight_opening, Alphabet.weight_opening,
      k.substitute.weight_of_not_mem _ (k.disjoint _ (by simp [Alphabet.chars])), zero_add]
  · by_cases hc : c = k.ascii.closing
    · subst hc
      rw [swapChar, Alphabet.exchange_closing, Alphabet.weight_closing, Alphabet.weight_closing,
        k.substitute.weight_of_not_mem _ (k.disjoint _ (by simp [Alphabet.chars])), zero_add]
    · have hmem : c ∉ k.ascii.chars := by simp [Alphabet.chars, ho, hc]
      rw [(k.swapChar_eq_self_iff c).mpr hmem, k.ascii.weight_of_not_mem c hmem, add_zero]

/-- Replacing all braces of a text adds their balance to that of the substitutes. -/
theorem balance_swap (text : List Char) :
    k.substitute.balance (k.swap text) = k.substitute.balance text + k.ascii.balance text := by
  induction text with
  | nil => rfl
  | cons c cs ih =>
    have hmap : k.swap (c :: cs) = k.swapChar c :: k.swap cs := rfl
    rw [hmap, Alphabet.balance_cons, Alphabet.balance_cons, Alphabet.balance_cons, ih,
      k.weight_swapChar]
    ring

theorem balance_rewrite (b : Placeholder) (hb : b.braces = k.ascii) (text : List Char) :
    k.substitute.balance (b.rewrite k.swapChar text) = k.substitute.balance text := by
  induction text using b.scan_induction with
  | nil => rfl
  | word content rest hc ih =>
    have hword := k.balance_swap (b.word content)
    rw [← hb, b.balance_word content hc, add_zero, swap] at hword
    rw [b.rewrite_word _ content rest hc, Alphabet.balance_append, Alphabet.balance_append, hword,
      ih]
  | keep c cs hw ih =>
    rw [b.rewrite_keep _ c cs hw, Alphabet.balance_cons, Alphabet.balance_cons, ih]

theorem balance_mapSpans (segments : List (List Char)) :
    ((mapSpans k.swapChar segments).map k.substitute.balance).sum =
      (segments.map k.substitute.balance).sum + ((spans segments).map k.ascii.balance).sum := by
  match segments with
  | [] => simp [mapSpans, spans]
  | [s] => simp [mapSpans, spans]
  | s :: t :: rest =>
    rw [mapSpans, spans]
    split
    · have ih := balance_mapSpans (t :: rest)
      simp only [List.map_cons, List.sum_cons] at ih ⊢
      rw [ih]
      ring
    · have ih := balance_mapSpans rest
      have hspan := k.balance_swap s
      rw [swap] at hspan
      simp only [List.map_cons, List.sum_cons, ih, hspan]
      ring

theorem balance_inlineCode (line : List Char) :
    k.substitute.balance (k.sanitizeInlineCode line) =
      k.substitute.balance line + ((inlineSpans line).map k.ascii.balance).sum := by
  obtain ⟨first, segments, hline⟩ := List.exists_cons_of_ne_nil (List.splitOn_ne_nil tick line)
  have hjoin : line = [tick].intercalate (first :: segments) := by
    rw [← hline, List.intercalate_splitOn]
  have hlength := (mapSpans_length k.swapChar segments).length_eq
  have hspans : inlineSpans line = spans segments := by rw [inlineSpans, hline, List.tail_cons]
  rw [hspans, sanitizeInlineCode, mapInlineCode_segments _ line first segments hline, joinTicks,
    Alphabet.balance_intercalate, List.map_cons, List.sum_cons, k.balance_mapSpans, hjoin,
    Alphabet.balance_intercalate, List.map_cons, List.sum_cons, List.length_cons, hlength,
    List.length_cons]
  ring

end Codec

/-- What of a line is code: all of a line in a fence and of an indented one, and the contents
of the spans of a line of prose. -/
def LineMode.code (m : LineMode) (line : List Char) : List (List Char) :=
  match m.kind line with
  | .delimiter => []
  | .fenced => [line]
  | .indented => [line]
  | .prose => inlineSpans line

/-- The code of lines, the first of which comes in a mode. -/
def codeOfLines (m : LineMode) (ls : List (List Char)) : List (List Char) :=
  (List.zipWith LineMode.code (modes m ls) ls).flatten

theorem codeOfLines_cons (m : LineMode) (l : List Char) (ls : List (List Char)) :
    codeOfLines m (l :: ls) = m.code l ++ codeOfLines (m.next l) ls := rfl

def codePieces (text : List Char) : List (List Char) := codeOfLines .prose (splitLines text)

namespace Codec

section

variable {k : Codec} {cls : CharClass} (hk : k.Uses cls)
  (hc : ∀ c ∈ k.ascii.chars, cls.holds {} c = false)

include hk hc

theorem sanitizeProse_balance (line : List Char) :
    k.substitute.balance (k.sanitizeProse line) =
      k.substitute.balance (k.sanitizeInlineCode line) := by
  obtain ⟨hopening, hclosing⟩ := (k.ascii.forall_mem_chars _).mp hc
  rw [sanitizeProse, Placeholder.single_rewrite k cls hk hopening hclosing,
    Placeholder.doublePlaceholder_rewrite, k.balance_rewrite _ rfl, k.balance_rewrite _ rfl]

theorem sanitizeLine_balance (m : LineMode) (line : List Char) :
    k.substitute.balance (k.sanitizeLine m line) =
      k.substitute.balance line + ((m.code line).map k.ascii.balance).sum := by
  rw [sanitizeLine_kind, LineMode.code]
  cases m.kind line with
  | delimiter => simp
  | fenced => simpa using k.balance_swap line
  | indented => simpa using k.balance_swap line
  | prose =>
    rw [sanitizeProse_balance hk hc]
    exact k.balance_inlineCode line

theorem sanitizeLines_balance (m : LineMode) (ls : List (List Char)) :
    ((k.sanitizeLines m ls).map k.substitute.balance).sum =
      (ls.map k.substitute.balance).sum + ((codeOfLines m ls).map k.ascii.balance).sum := by
  induction ls generalizing m with
  | nil => simp [sanitizeLines, codeOfLines]
  | cons l ls ih =>
    rw [sanitizeLines, List.map_cons, List.sum_cons, ih, sanitizeLine_balance hk hc,
      codeOfLines_cons, List.map_cons, List.sum_cons, List.map_append, List.sum_append]
    ring

/-- Sanitizing adds the balance of the braces of the code to that of the substitutes. -/
theorem sanitize_balance (text : List Char) :
    k.substitute.balance (k.sanitize text) =
      k.substitute.balance text + ((codePieces text).map k.ascii.balance).sum := by
  have hlength : (k.sanitizeLines .prose (splitLines text)).length = (splitLines text).length :=
    (k.sanitizeLines_stays .prose (splitLines text)).length_eq.symm
  have hsource := joinLines_splitLines text
  rw [joinLines_eq_intercalate] at hsource
  have hbalance := k.substitute.balance_intercalate '\n' (splitLines text)
  rw [hsource] at hbalance
  rw [sanitize, joinLines_eq_intercalate, Alphabet.balance_intercalate,
    sanitizeLines_balance hk hc, hlength, hbalance, codePieces]
  ring

end

theorem defaultClass_braceless : ∀ c ∈ Codec.default.ascii.chars, defaultClass.holds {} c = false :=
  (Alphabet.forall_mem_chars _ _).mpr (by decide)

/-- The surplus of opening over closing substitutes grows by the surplus that the ASCII braces
have in the code of the text, all pieces together: the placeholders of prose add nothing to
it. A text without substitutes whose pieces of code are balanced each for itself gets as many
opening as closing ones. -/
theorem sanitizing_accounts (k : Codec) (cls : CharClass) (hk : k.Uses cls)
    (hc : ∀ c ∈ k.ascii.chars, cls.holds {} c = false) (text : List Char) :
    k.substitute.balance (k.sanitize text) =
      k.substitute.balance text + ((codePieces text).map k.ascii.balance).sum ∧
    (∀ line, k.substitute.balance (k.sanitizeProse line) =
      k.substitute.balance (k.sanitizeInlineCode line)) ∧
    ((∀ c ∈ k.substitute.chars, c ∉ text) →
      (∀ piece ∈ codePieces text, k.ascii.balance piece = 0) →
      (k.sanitize text).count k.substitute.opening =
        (k.sanitize text).count k.substitute.closing) := by
  have hbalance := sanitize_balance hk hc text
  refine ⟨hbalance, sanitizeProse_balance hk hc, fun hfree hpieces => ?_⟩
  have hsum : ((codePieces text).map k.ascii.balance).sum = 0 := by
    refine List.sum_eq_zero fun n hn => ?_
    obtain ⟨piece, hpiece, rfl⟩ := List.mem_map.mp hn
    exact hpieces piece hpiece
  rw [← k.substitute.balance_eq_zero_iff, hbalance, k.substitute.balance_of_free text hfree, hsum,
    add_zero]

theorem sanitizing_accounts_default :
    let text := "\x7ba\x7d \x60\x7bb\x7d\x60 \x7bc d\n    \x7be f\x7d".toList
    Codec.default.Uses defaultClass ∧
    (∀ c ∈ Codec.default.ascii.chars, defaultClass.holds {} c = false) ∧
    Codec.default.substitute.balance (Codec.default.sanitize text) = 0 ∧
    (Codec.default.sanitize text).count Codec.default.substitute.opening =
      (Codec.default.sanitize text).count Codec.default.substitute.closing := by
  intro text
  have huses : Codec.default.Uses defaultClass := rfl
  have haccounts := sanitizing_accounts Codec.default defaultClass huses defaultClass_braceless text
  have hpieces : ∀ piece ∈ codePieces text, Codec.default.ascii.balance piece = 0 := by
    decide +kernel
  have hfree := (Codec.default.substitute.forall_mem_chars (· ∉ text)).mpr (by decide +kernel)
  refine ⟨huses, defaultClass_braceless, ?_, haccounts.2.2 hfree hpieces⟩
  rw [haccounts.1]
  decide +kernel

end Codec

end DocBraces
