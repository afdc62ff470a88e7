import DocBraces.Proofs.Braces.Resanitizing

/-!
# Placeholders in one scan

Prose is searched twice, for doubled braces and then for single ones. One scan from the
left does the same: where both kinds could begin it takes the doubled braces, and it
jumps past what it has replaced. A character is replaced exactly if a placeholder of
either kind stands over it.
-/

set_option autoImplicit false

namespace DocBraces

open DocBraces.Text DocBraces.Pattern

/-- Length of the token with which a text begins: opening braces, the allowed characters
that follow them and as many closing braces. Zero if it begins with none. -/
def tokenLength (a : Alphabet) (depth : ℕ) (allowed : Char → Bool) (text : List Char) : ℕ :=
  let content := (text.drop depth).takeWhile allowed
  let token := List.replicate depth a.opening ++ content ++ List.replicate depth a.closing
  if content ≠ [] ∧ token.isPrefixOf text then token.length else 0

/-- Doubled braces around a text without braces come before single braces around allowed
characters. -/
def tokenWidth (a : Alphabet) (allowed : Char → Bool) (text : List Char) : ℕ :=
  match tokenLength a 2 (fun c => !a.chars.contains c) text with
  | 0 => tokenLength a 1 allowed text
  | n => n

/-- Applies `f` to tokens from the left and copies everything else; `left` counts what is
still to come of the token under way. -/
def scanFrom (a : Alphabet) (allowed : Char → Bool) (f : Char → Char) :
    (left : ℕ) → List Char → List Char
  | _, [] => []
  | n + 1, c :: cs => f c :: scanFrom a allowed f n cs
  | 0, c :: cs => match tokenWidth a allowed (c :: cs) with
    | 0 => c :: scanFrom a allowed f 0 cs
    | n + 1 => f c :: scanFrom a allowed f n cs

def scan (a : Alphabet) (allowed : Char → Bool) (f : Char → Char) (text : List Char) :
    List Char := scanFrom a allowed f 0 text

section

variable (a : Alphabet) (allowed : Char → Bool) (f : Char → Char)

theorem scanFrom_length (token rest : List Char) :
    scanFrom a allowed f token.length (token ++ rest) =
      token.map f ++ scan a allowed f rest := by
  induction token with
  | nil => rfl
  | cons c cs ih => simp [scanFrom, ih]

theorem scan_token (token rest : List Char) (hpos : 0 < token.length)
    (h : tokenWidth a allowed (token ++ rest) = token.length) :
    scan a allowed f (token ++ rest) = token.map f ++ scan a allowed f rest := by
  obtain ⟨c, cs, rfl⟩ := List.exists_cons_of_length_pos hpos
  rw [scan, List.cons_append, scanFrom]
  rw [List.cons_append] at h
  simp only [h, List.length_cons, List.map_cons, List.cons_append]
  rw [scanFrom_length]

theorem scan_copy (c : Char) (cs : List Char) (h : tokenWidth a allowed (c :: cs) = 0) :
    scan a allowed f (c :: cs) = c :: scan a allowed f cs := by
  simp [scan, scanFrom, h]

end

namespace Placeholder

variable (b : Placeholder)

theorem takeWhile_word (content rest : List Char) (h : b.Admits content) :
    ((b.word content ++ rest).drop b.depth).takeWhile b.inside = content := by
  obtain ⟨d, hd⟩ := Nat.exists_eq_succ_of_ne_zero b.depth_pos.ne'
  have hdrop : (b.word content ++ rest).drop b.depth =
      content ++ b.braces.closing :: (List.replicate d b.braces.closing ++ rest) := by
    rw [word, List.append_assoc, List.append_assoc, List.drop_left' (by simp), hd,
      List.replicate_succ, List.cons_append]
  rw [hdrop, List.takeWhile_append_of_pos h.2, List.takeWhile_cons_of_neg (by
    simp [b.closing_outside]), List.append_nil]

theorem tokenLength_eq_width (text : List Char) :
    tokenLength b.braces b.depth b.inside text = b.width text := by
  by_cases hw : b.width text = 0
  · rw [hw, tokenLength, if_neg]
    rintro ⟨hne, htoken⟩
    obtain ⟨rest, heq⟩ := List.isPrefixOf_iff_prefix.mp htoken
    have hadmits : b.Admits ((text.drop b.depth).takeWhile b.inside) :=
      ⟨hne, fun c hc => (List.mem_takeWhile_imp hc)⟩
    have hword := b.width_word _ rest hadmits
    rw [word, heq, hw] at hword
    have hpos := b.word_pos ((text.drop b.depth).takeWhile b.inside)
    rw [word] at hpos
    omega
  · obtain ⟨content, rest, hc, rfl⟩ := b.exists_word text hw
    rw [b.width_word content rest hc, tokenLength, b.takeWhile_word content rest hc]
    exact if_pos ⟨hc.1, List.isPrefixOf_iff_prefix.mpr (List.prefix_append _ _)⟩

theorem width_of_ne (c : Char) (cs : List Char) (h : c ≠ b.braces.opening) :
    b.width (c :: cs) = 0 := by
  by_contra hw
  obtain ⟨content, rest, _, heq⟩ := b.exists_word _ hw
  obtain ⟨d, hd⟩ := Nat.exists_eq_succ_of_ne_zero b.depth_pos.ne'
  rw [word, hd, List.replicate_succ] at heq
  exact h (List.cons.inj heq).1

theorem rewrite_pass (f : Char → Char) (clear rest : List Char)
    (h : b.braces.opening ∉ clear) : b.rewrite f (clear ++ rest) = clear ++ b.rewrite f rest := by
  induction clear with
  | nil => rfl
  | cons c cs ih =>
    rw [List.mem_cons, not_or] at h
    rw [List.cons_append, b.rewrite_keep f c _ (b.width_of_ne c _ (Ne.symm h.1)), ih h.2]
    rfl

theorem opening_first (text : List Char) (start : ℕ) (content : List Char)
    (h : b.Occurs text start content) (i : ℕ) (hi : i < start + (b.word content).length)
    (ho : text[i]? = some b.braces.opening) :
    i < start + b.depth := by
  rw [b.word_length] at hi
  by_contra hle
  by_cases hin : i < start + b.depth + content.length
  · have hinside := b.occurs_inside text start content h (i - start - b.depth) (by omega)
      b.braces.opening (by rwa [show start + b.depth + (i - start - b.depth) = i by omega])
    exact Bool.noConfusion (b.opening_outside.symm.trans hinside)
  · have hclose := b.occurs_closing text start content h (i - start - b.depth - content.length)
      (by omega)
    rw [show start + b.depth + content.length + (i - start - b.depth - content.length) = i by omega,
      ho] at hclose
    exact b.braces.opening_ne_closing (Option.some.inj hclose)

theorem closing_last (text : List Char) (start : ℕ) (content : List Char)
    (h : b.Occurs text start content) (i : ℕ) (hs : start ≤ i)
    (hc : text[i]? = some b.braces.closing) :
    start + b.depth + content.length ≤ i := by
  by_contra hlt
  by_cases hin : start + b.depth ≤ i
  · have hinside := b.occurs_inside text start content h (i - start - b.depth) (by omega)
      b.braces.closing (by rwa [show start + b.depth + (i - start - b.depth) = i by omega])
    exact Bool.noConfusion (b.closing_outside.symm.trans hinside)
  · have hopen := b.occurs_opening text start content h (i - start) (by omega)
    rw [show start + (i - start) = i by omega, hc] at hopen
    exact b.braces.opening_ne_closing (Option.some.inj hopen).symm

end Placeholder

namespace Codec

variable (k : Codec) (cls : CharClass) (hc : k.Spares cls)

theorem double_tokenLength (text : List Char) :
    tokenLength k.ascii 2 (fun c => !k.ascii.chars.contains c) text =
      (Placeholder.doubled k.ascii).width text := by
  have hinside : (Placeholder.doubled k.ascii).inside = fun c => !k.ascii.chars.contains c :=
    funext (Placeholder.holds_excluding k.ascii.chars)
  rw [← (Placeholder.doubled k.ascii).tokenLength_eq_width, hinside]
  rfl

theorem tokenWidth_of_double (allowed : Char → Bool) (text : List Char)
    (h : (Placeholder.doubled k.ascii).width text ≠ 0) :
    tokenWidth k.ascii allowed text = (Placeholder.doubled k.ascii).width text := by
  rw [tokenWidth, k.double_tokenLength]
  split
  · next h0 => exact absurd h0 h
  · rfl

theorem tokenWidth_of_single (text : List Char)
    (h : (Placeholder.doubled k.ascii).width text = 0) :
    tokenWidth k.ascii (cls.holds {}) text = (k.singles cls hc).width text := by
  rw [tokenWidth, k.double_tokenLength, h]
  exact (k.singles cls hc).tokenLength_eq_width text

theorem swap_opening (text : List Char) : k.ascii.opening ∉ k.swap text :=
  k.swap_clear text _ (by simp [Alphabet.chars])

/-- Behind its first brace a placeholder in single braces has no opening one, so that none
in doubled braces begins there. -/
theorem double_passes_single (content rest : List Char)
    (h : (k.singles cls hc).Admits content)
    (hw : (Placeholder.doubled k.ascii).width ((k.singles cls hc).word content ++ rest) = 0) :
    (Placeholder.doubled k.ascii).rewrite k.swapChar ((k.singles cls hc).word content ++ rest) =
      (k.singles cls hc).word content ++
        (Placeholder.doubled k.ascii).rewrite k.swapChar rest := by
  have hword : (k.singles cls hc).word content =
      k.ascii.opening :: (content ++ [k.ascii.closing]) := rfl
  have hclear : k.ascii.opening ∉ content ++ [k.ascii.closing] := by
    rw [List.mem_append, List.mem_singleton, not_or]
    refine ⟨fun hm => ?_, k.ascii.opening_ne_closing⟩
    have hin := h.2 _ hm
    exact Bool.noConfusion ((k.spares_opening cls hc).symm.trans hin)
  rw [hword, List.cons_append] at hw ⊢
  rw [Placeholder.rewrite_keep _ _ _ _ hw, Placeholder.rewrite_pass _ _ _ _ hclear]
  rfl

/-- Replacing doubled braces does not bring about a placeholder in single braces. -/
theorem single_stays_away (c : Char) (cs : List Char)
    (hw : (k.singles cls hc).width (c :: cs) = 0) :
    (k.singles cls hc).width
      (c :: (Placeholder.doubled k.ascii).rewrite k.swapChar cs) = 0 := by
  by_contra hlater
  obtain ⟨content, rest, hcontent, heq⟩ := (k.singles cls hc).exists_word _ hlater
  have hstays : List.Forall₂ (StaysOr k.swapChar) (c :: cs)
      (c :: (Placeholder.doubled k.ascii).rewrite k.swapChar cs) :=
    .cons (.inl rfl) (k.rewrite_stays (Placeholder.doubled k.ascii) cs)
  rw [heq] at hstays
  have hbefore := k.singles_before cls hc _ _ hstays 0 content
    ((k.singles cls hc).occurs_word content rest hcontent)
  have hpos := (k.singles cls hc).word_pos content
  rw [(k.singles cls hc).width_of_occurs _ _ hbefore] at hw
  omega

theorem stages_eq_scan (text : List Char) :
    (k.singles cls hc).rewrite k.swapChar
        ((Placeholder.doubled k.ascii).rewrite k.swapChar text) =
      scan k.ascii (cls.holds {}) k.swapChar text := by
  induction h : text.length using Nat.strong_induction_on generalizing text with
  | _ n ih =>
    cases text with
    | nil => rfl
    | cons c cs =>
      by_cases hdouble : (Placeholder.doubled k.ascii).width (c :: cs) = 0
      · by_cases hsingle : (k.singles cls hc).width (c :: cs) = 0
        · have hnone : tokenWidth k.ascii (cls.holds {}) (c :: cs) = 0 := by
            rw [k.tokenWidth_of_single cls hc _ hdouble, hsingle]
          rw [scan_copy _ _ _ _ _ hnone, Placeholder.rewrite_keep _ _ _ _ hdouble,
            Placeholder.rewrite_keep _ _ _ _ (k.single_stays_away cls hc c cs hsingle),
            ih cs.length (by simp [← h]) cs rfl]
        · obtain ⟨content, rest, hcontent, heq⟩ := (k.singles cls hc).exists_word _ hsingle
          have hpos := (k.singles cls hc).word_pos content
          have hlen : (c :: cs).length = ((k.singles cls hc).word content).length +
              rest.length := by rw [heq, List.length_append]
          rw [heq] at hdouble ⊢
          have hwidth : tokenWidth k.ascii (cls.holds {})
              ((k.singles cls hc).word content ++ rest) =
                ((k.singles cls hc).word content).length := by
            rw [k.tokenWidth_of_single cls hc _ hdouble, Placeholder.width_word _ _ _ hcontent]
          rw [scan_token _ _ _ _ _ hpos hwidth, k.double_passes_single cls hc _ _ hcontent hdouble,
            Placeholder.rewrite_word _ _ _ _ hcontent, ih rest.length (by omega) rest rfl]
      · obtain ⟨content, rest, hcontent, heq⟩ :=
          (Placeholder.doubled k.ascii).exists_word _ hdouble
        have hpos := (Placeholder.doubled k.ascii).word_pos content
        have hlen : (c :: cs).length = ((Placeholder.doubled k.ascii).word content).length +
            rest.length := by rw [heq, List.length_append]
        rw [heq] at hdouble ⊢
        have hwidth : tokenWidth k.ascii (cls.holds {})
            ((Placeholder.doubled k.ascii).word content ++ rest) =
              ((Placeholder.doubled k.ascii).word content).length := by
          rw [k.tokenWidth_of_double _ _ hdouble, Placeholder.width_word _ _ _ hcontent]
        rw [scan_token _ _ _ _ _ hpos hwidth, Placeholder.rewrite_word _ _ _ _ hcontent]
        rw [Placeholder.rewrite_pass _ _ _ _ (k.swap_opening _), ih rest.length (by omega) rest rfl]

/-- A placeholder in single braces that meets one in doubled braces is all of it but the
outer braces. -/
theorem single_within_double (text : List Char) (p q : ℕ) (x y : List Char)
    (hx : (k.singles cls hc).Occurs text p x)
    (hy : (Placeholder.doubled k.ascii).Occurs text q y)
    (hp : p < q + ((Placeholder.doubled k.ascii).word y).length)
    (hq : q < p + ((k.singles cls hc).word x).length) :
    p = q + 1 ∧ x.length = y.length := by
  have hsingle : ((k.singles cls hc).word x).length = 1 + x.length + 1 :=
    (k.singles cls hc).word_length x
  have hdouble : ((Placeholder.doubled k.ascii).word y).length = 2 + y.length + 2 :=
    (Placeholder.doubled k.ascii).word_length y
  have hxopen := (k.singles cls hc).occurs_opening text p x hx 0 Nat.one_pos
  have hyopen (i : ℕ) (hi : i < 2) := (Placeholder.doubled k.ascii).occurs_opening text q y hy i hi
  have hxfirst := (k.singles cls hc).opening_first text p x hx
  have hyfirst := (Placeholder.doubled k.ascii).opening_first text q y hy
  have hstart : p = q + 1 := by
    have hle : q ≤ p := by
      by_contra hlt
      have hfirst : q < p + 1 := hxfirst q hq (hyopen 0 (by omega))
      omega
    have hlt : p < q + 2 := hyfirst p hp hxopen
    have hne : p ≠ q := by
      rintro rfl
      have hfirst : p + 1 < p + 1 := hxfirst (p + 1) (by omega) (hyopen 1 (by omega))
      omega
    omega
  subst hstart
  have hxclose : text[q + 1 + 1 + x.length + 0]? = some k.ascii.closing :=
    (k.singles cls hc).occurs_closing text (q + 1) x hx 0 Nat.one_pos
  have hyclose : text[q + 2 + y.length + 0]? = some k.ascii.closing :=
    (Placeholder.doubled k.ascii).occurs_closing text q y hy 0 Nat.two_pos
  have hyx : y.length ≤ x.length := by
    by_contra hlt
    have hlast : q + 2 + y.length ≤ q + 1 + 1 + x.length + 0 :=
      (Placeholder.doubled k.ascii).closing_last text q y hy _ (by omega) hxclose
    omega
  have hxy : q + 1 + 1 + x.length ≤ q + 2 + y.length + 0 :=
    (k.singles cls hc).closing_last text (q + 1) x hx _ (by omega) hyclose
  exact ⟨rfl, by omega⟩

/-- A placeholder of either kind stands over the place. -/
def Replaces (text : List Char) (i : ℕ) : Prop :=
  (Placeholder.doubled k.ascii).Covers text i ∨ (k.singles cls hc).Covers text i

/-- A placeholder in single braces is left as it is where none in doubled braces meets it. -/
theorem single_kept (text : List Char) (i : ℕ) (hs : (k.singles cls hc).Covers text i)
    (hd : ¬(Placeholder.doubled k.ascii).Covers text i) :
    (k.singles cls hc).Covers
      ((Placeholder.doubled k.ascii).rewrite k.swapChar text) i := by
  obtain ⟨p, x, hx, hpi, hix⟩ := hs
  refine ⟨p, x, (k.singles cls hc).occurs_of_same text _ p x hx fun j hpj hjx => ?_, hpi, hix⟩
  refine Placeholder.rewrite_uncovered _ _ _ _ ?_
  rintro ⟨q, y, hy, hqj, hjy⟩
  obtain ⟨rfl, hlength⟩ := k.single_within_double cls hc text p q x y hx hy (by omega) (by omega)
  have hsingle : ((k.singles cls hc).word x).length = 1 + x.length + 1 :=
    (k.singles cls hc).word_length x
  have hdouble : ((Placeholder.doubled k.ascii).word y).length = 2 + y.length + 2 :=
    (Placeholder.doubled k.ascii).word_length y
  exact hd ⟨q, y, hy, by omega, by omega⟩

theorem stages_replaced (text : List Char) (i : ℕ) (h : k.Replaces cls hc text i) :
    ((k.singles cls hc).rewrite k.swapChar
      ((Placeholder.doubled k.ascii).rewrite k.swapChar text))[i]? = text[i]?.map k.swapChar := by
  by_cases hd : (Placeholder.doubled k.ascii).Covers text i
  · have hdone := Placeholder.rewrite_covered _ k.swapChar text i hd
    by_cases hs : (k.singles cls hc).Covers
        ((Placeholder.doubled k.ascii).rewrite k.swapChar text) i
    · rw [Placeholder.rewrite_covered _ _ _ _ hs, hdone, Option.map_map]
      congr 1
      exact funext k.swapChar_swapChar
    · rw [Placeholder.rewrite_uncovered _ _ _ _ hs, hdone]
  · have hs := k.single_kept cls hc text i (h.resolve_left hd) hd
    rw [Placeholder.rewrite_covered _ _ _ _ hs, Placeholder.rewrite_uncovered _ _ _ _ hd]

theorem stages_copied (text : List Char) (i : ℕ) (h : ¬k.Replaces cls hc text i) :
    ((k.singles cls hc).rewrite k.swapChar
      ((Placeholder.doubled k.ascii).rewrite k.swapChar text))[i]? = text[i]? := by
  rw [Replaces, not_or] at h
  rw [Placeholder.rewrite_uncovered, Placeholder.rewrite_uncovered _ _ _ _ h.1]
  rintro ⟨p, x, hx, hpi, hix⟩
  have hbefore := k.singles_before cls hc _ _ (k.rewrite_stays _ text) p x hx
  exact h.2 ⟨p, x, hbefore, hpi, hix⟩

theorem double_replaced (text : List Char) (start : ℕ) (content : List Char)
    (h : (Placeholder.doubled k.ascii).Occurs text start content) :
    (((k.singles cls hc).rewrite k.swapChar
      ((Placeholder.doubled k.ascii).rewrite k.swapChar text)).drop start).take
        ((Placeholder.doubled k.ascii).word content).length =
      k.swap ((Placeholder.doubled k.ascii).word content) := by
  apply List.ext_getElem?
  intro i
  rw [swap, List.getElem?_map]
  by_cases hi : i < ((Placeholder.doubled k.ascii).word content).length
  · have hcovers : k.Replaces cls hc text (start + i) :=
      .inl ⟨start, content, h, by omega, by omega⟩
    rw [List.getElem?_take_of_lt hi, List.getElem?_drop, k.stages_replaced cls hc _ _ hcovers,
      Placeholder.occurs_getElem _ text start content h _ (by omega) (by omega),
      Nat.add_sub_cancel_left]
  · rw [List.getElem?_take_eq_none (by omega), List.getElem?_eq_none (by omega), Option.map_none]

theorem brace_outside (row : List Char) (i : ℕ) (c : Char) (hmem : c ∈ k.ascii.chars)
    (h : (k.sanitizeInlineCode row)[i]? = some c) : row[i]? = some c := by
  obtain ⟨d, hd, rfl | rfl⟩ :=
    stays_getElem _ _ _ (mapInlineCodeFrom_stays k.swapChar 0 row) i c h
  · exact hd
  · exact absurd hmem (k.swapChar_not_mem d)

theorem brace_stays_iff (text : List Char) (i : ℕ) (c : Char) (hmem : c ∈ k.ascii.chars)
    (h : text[i]? = some c) :
    ((k.singles cls hc).rewrite k.swapChar
      ((Placeholder.doubled k.ascii).rewrite k.swapChar text))[i]? = some c ↔
      ¬k.Replaces cls hc text i := by
  constructor
  · intro hsame hcovers
    rw [k.stages_replaced cls hc text i hcovers, h, Option.map_some, Option.some.injEq] at hsame
    exact (k.swapChar_eq_self_iff c).mp hsame hmem
  · intro hcovers
    rw [k.stages_copied cls hc text i hcovers, h]

/-- For placeholders of a class without braces, a line of prose comes out as one scan makes
it of the line whose inline code is done. Every placeholder in doubled braces is replaced
as a whole. A character is replaced if a placeholder of either kind stands over it and
copied otherwise, so that a brace outside of code and of all placeholders stays. -/
theorem sanitizeProse_eq_scan (k : Codec) (cls : CharClass) (hk : k.Uses cls)
    (hc : k.Spares cls) (row : List Char) :
    k.sanitizeProse row =
      scan k.ascii (cls.holds {}) k.swapChar (k.sanitizeInlineCode row) ∧
    (∀ start content,
      (Placeholder.doubled k.ascii).Occurs (k.sanitizeInlineCode row) start content →
      ((k.sanitizeProse row).drop start).take
          ((Placeholder.doubled k.ascii).word content).length =
        k.swap ((Placeholder.doubled k.ascii).word content)) ∧
    (∀ i, k.Replaces cls hc (k.sanitizeInlineCode row) i →
      (k.sanitizeProse row)[i]? = (k.sanitizeInlineCode row)[i]?.map k.swapChar) ∧
    (∀ i, ¬k.Replaces cls hc (k.sanitizeInlineCode row) i →
      (k.sanitizeProse row)[i]? = (k.sanitizeInlineCode row)[i]?) ∧
    ∀ i, ∀ c ∈ k.ascii.chars, (k.sanitizeInlineCode row)[i]? = some c →
      row[i]? = some c ∧
        ((k.sanitizeProse row)[i]? = some c ↔
          ¬k.Replaces cls hc (k.sanitizeInlineCode row) i) := by
  rw [k.sanitizeProse_stages cls hk hc, doublesDone]
  exact ⟨k.stages_eq_scan cls hc _, k.double_replaced cls hc _, k.stages_replaced cls hc _,
    k.stages_copied cls hc _, fun i c hmem h =>
      ⟨k.brace_outside row i c hmem h, k.brace_stays_iff cls hc _ i c hmem h⟩⟩

/-- In a run of three braces the scan takes the inner two, and a stray pair stays. -/
theorem default_scan :
    Codec.default.Uses defaultClass ∧ Codec.default.Spares defaultClass ∧
    Codec.default.sanitizeProse "\x7b\x7b\x7ba\x7d\x7d\x7d \x7bb\x7d \x7bc d\x7d".toList =
      "\x7b\uff5b\uff5ba\uff5d\uff5d\x7d \uff5bb\uff5d \x7bc d\x7d".toList := by
  have huses : Codec.default.Uses defaultClass := rfl
  have hspares : Codec.default.Spares defaultClass := by decide
  refine ⟨huses, hspares, ?_⟩
  rw [(sanitizeProse_eq_scan Codec.default defaultClass huses hspares _).1]
  decide +kernel

end Codec

end DocBraces
