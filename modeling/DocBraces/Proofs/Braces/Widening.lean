import DocBraces.Proofs.Braces.FenceParity
import DocBraces.Proofs.Braces.Policy

/-!
# Wider placeholder policies

A wider class lets a search begin a word earlier and end it later, so that it finds other
words. It never ends one within a word of the narrower class: from any of its own places in
there it could have gone on to the end. So whatever is replaced for the narrower class is
replaced for the wider one, classes with braces included.
-/

set_option autoImplicit false

namespace DocBraces

open DocBraces.Text DocBraces.Pattern

inductive RewritesMore : (source less more : List Char) → Prop
  | nil : RewritesMore [] [] []
  | cons {c d e : Char} {source less more : List Char} (h : d = c ∨ e = d)
      (hrest : RewritesMore source less more) :
      RewritesMore (c :: source) (d :: less) (e :: more)

namespace RewritesMore

variable {source less more : List Char}

theorem same {f : Char → Char} (h : List.Forall₂ (StaysOr f) source more) :
    RewritesMore source more more := by
  induction h with
  | nil => exact .nil
  | cons _ _ ih => exact .cons (.inr rfl) ih

theorem append {source' less' more' : List Char} (h : RewritesMore source less more)
    (h' : RewritesMore source' less' more') :
    RewritesMore (source ++ source') (less ++ less') (more ++ more') := by
  induction h with
  | nil => exact h'
  | cons hc _ ih => exact .cons hc ih

theorem getElem (h : RewritesMore source less more) (i : ℕ) (hne : less[i]? ≠ source[i]?) :
    more[i]? = less[i]? := by
  induction h generalizing i with
  | nil => rfl
  | cons hc _ ih =>
    cases i with
    | zero =>
      rcases hc with rfl | rfl
      · exact absurd rfl hne
      · rfl
    | succ i => exact ih i hne

theorem earlier {f : Char → Char} (hf : ∀ c, f (f c) = f c) {first : List Char}
    (h : RewritesMore source less more) (hfirst : List.Forall₂ (StaysOr f) first source)
    (hmore : List.Forall₂ (StaysOr f) source more) : RewritesMore first less more := by
  induction h generalizing first with
  | nil =>
    cases hfirst
    exact .nil
  | @cons c d e _ _ _ hc _ ih =>
    obtain ⟨b, bs, hb, hbs, rfl⟩ := List.forall₂_cons_right_iff.mp hfirst
    rw [List.forall₂_cons] at hmore
    refine .cons ?_ (ih hbs hmore.2)
    rcases hc with rfl | rfl
    · rcases hb with rfl | rfl
      · exact .inl rfl
      · rcases hmore.1 with he | he
        · exact .inr he
        · exact .inr (he.trans (hf b))
    · exact .inr rfl

end RewritesMore

theorem wordWidth_longest (a : Alphabet) (cls : CharClass) (content rest : List Char)
    (hne : content ≠ []) (hall : ∀ c ∈ content, cls.holds {} c = true) :
    content.length + 2 ≤ wordWidth a cls (a.opening :: (content ++ a.closing :: rest)) := by
  obtain ⟨n, hn, hrounds, hsome⟩ := rounds_longest (cls.holds {}) (Leftover.char a.closing some)
    content (a.closing :: rest) rest hne hall (by simp [Leftover.char])
  have hleft : usesLeftover a cls (a.opening :: (content ++ a.closing :: rest)) =
      Leftover.char a.closing some ((content ++ a.closing :: rest).drop n) := by
    rw [← hrounds]
    exact if_pos rfl
  rw [wordWidth, Leftover.width, hleft]
  have hlength := List.length_drop (i := n) (l := content ++ a.closing :: rest)
  cases hdrop : (content ++ a.closing :: rest).drop n with
  | nil => simp [hdrop, Leftover.char] at hsome
  | cons d ds =>
    have hd : d = a.closing := by
      by_contra hd
      simp [hdrop, Leftover.char, hd] at hsome
    rw [hdrop] at hlength
    simp only [Leftover.char, hd, if_true, List.length_cons, List.length_append] at hlength ⊢
    omega

/-- The word that is taken begins with the brace and ends behind its characters. -/
theorem exists_inside (a : Alphabet) (cls : CharClass) (c : Char) (cs : List Char)
    (h : wordWidth a cls (c :: cs) ≠ 0) :
    c = a.opening ∧ ∃ content rest, content ≠ [] ∧ (∀ d ∈ content, cls.holds {} d = true) ∧
      cs = content ++ a.closing :: rest ∧ wordWidth a cls (c :: cs) = content.length + 2 := by
  obtain ⟨word, rest, ⟨content, hne, hall, rfl⟩, htext, hlength⟩ := exists_braced a cls _ h
  rw [List.cons_append, List.cons_append, List.append_assoc] at htext
  obtain ⟨hc, hcs⟩ := List.cons.inj htext
  exact ⟨hc, content, rest, hne, hall, hcs, by simp [← hlength]⟩

/-- A search is within a word of a class, of which so much is to come, and no more could. -/
structure Within (closing : Char) (inside : Char → Prop) (n : ℕ) (text : List Char) : Prop where
  ends : ∃ content rest, (∀ c ∈ content, inside c) ∧ text = content ++ closing :: rest ∧
    content.length + 1 = n
  longest : ∀ content rest, (∀ c ∈ content, inside c) → text = content ++ closing :: rest →
    content.length + 1 ≤ n

theorem Within.next {closing : Char} {inside : Char → Prop} {n : ℕ} {c : Char} {cs : List Char}
    (h : Within closing inside (n + 1) (c :: cs)) (hn : n ≠ 0) : Within closing inside n cs := by
  obtain ⟨content, rest, hall, htext, hlength⟩ := h.ends
  obtain ⟨d, ds, rfl⟩ := List.exists_cons_of_length_eq_add_one
    (n := n - 1) (l := content) (by omega)
  obtain ⟨rfl, rfl⟩ := List.cons.inj htext
  rw [List.forall_mem_cons] at hall
  refine ⟨⟨ds, rest, hall.2, rfl, by simpa using hlength⟩, fun other last hother htext => ?_⟩
  have hle := h.longest (c :: other) last (List.forall_mem_cons.mpr ⟨hall.1, hother⟩)
    (by rw [htext]; rfl)
  simpa using hle

theorem wordWidth_within (a : Alphabet) (cls : CharClass) (n : ℕ) (c : Char) (cs : List Char)
    (h : wordWidth a cls (c :: cs) = n + 1) :
    Within a.closing (cls.holds {} · = true) n cs := by
  obtain ⟨rfl, content, rest, hne, hall, rfl, hlength⟩ :=
    exists_inside a cls c cs (by rw [h]; exact n.succ_ne_zero)
  refine ⟨⟨content, rest, hall, rfl, by omega⟩, fun other last hother htext => ?_⟩
  cases other with
  | nil =>
    rw [List.length_nil]
    omega
  | cons d ds =>
    have hlonger := wordWidth_longest a cls (d :: ds) last (by simp) hother
    rw [← htext, h] at hlonger
    omega

section

variable (a : Alphabet) {narrow wide : CharClass}
  (hsub : ∀ c, narrow.holds {} c = true → wide.holds {} c = true)

include hsub

theorem wordWidth_mono (text : List Char) : wordWidth a narrow text ≤ wordWidth a wide text := by
  cases text with
  | nil => exact Nat.zero_le _
  | cons c cs =>
    by_cases hw : wordWidth a narrow (c :: cs) = 0
    · rw [hw]
      exact Nat.zero_le _
    · obtain ⟨rfl, content, rest, hne, hall, rfl, hlength⟩ := exists_inside a narrow c cs hw
      rw [hlength]
      exact wordWidth_longest a wide content rest hne fun d hd => hsub d (hall d hd)

/-- A word of the wider class under way does not end within one of the narrower class. -/
theorem within_covers {n : ℕ} {c : Char} {cs : List Char}
    (h : Within a.closing (wide.holds {} · = true) n (c :: cs)) :
    wordWidth a narrow (c :: cs) ≤ n := by
  by_cases hw : wordWidth a narrow (c :: cs) = 0
  · rw [hw]
    exact Nat.zero_le _
  · obtain ⟨rfl, content, rest, hne, hall, rfl, hlength⟩ := exists_inside a narrow c cs hw
    obtain ⟨before, after, hbefore, hsplit, _⟩ := h.ends
    -- The opening brace does not end the word under way, so it is one of its characters.
    have hopening : wide.holds {} a.opening = true := by
      cases before with
      | nil => exact absurd (List.cons.inj hsplit).1 a.opening_ne_closing
      | cons d ds =>
        rw [(List.cons.inj hsplit).1]
        exact hbefore d (by simp)
    have hon := h.longest (a.opening :: content) rest
      (List.forall_mem_cons.mpr ⟨hopening, fun d hd => hsub d (hall d hd)⟩) rfl
    rw [hlength]
    exact hon

/-- A search for words of a wider class replaces what one for the narrower class replaces. -/
theorem rewriteBy_wider (f : Char → Char) (less more : ℕ) (text : List Char)
    (hle : less ≤ more)
    (hwithin : more ≠ 0 → Within a.closing (wide.holds {} · = true) more text) :
    RewritesMore text (rewriteBy (wordWidth a narrow) f less text)
      (rewriteBy (wordWidth a wide) f more text) := by
  induction text generalizing less more with
  | nil =>
    cases less <;> cases more <;> exact .nil
  | cons c cs ih =>
    cases more with
    | zero =>
      obtain rfl : less = 0 := Nat.le_zero.mp hle
      have hmono := wordWidth_mono a hsub (c :: cs)
      rw [rewriteBy, rewriteBy]
      cases hw : wordWidth a wide (c :: cs) with
      | zero =>
        rw [hw] at hmono
        rw [Nat.le_zero.mp hmono]
        exact .cons (.inl rfl) (ih 0 0 (le_refl 0) (absurd rfl))
      | succ n =>
        have hnext := wordWidth_within a wide n c cs hw
        rw [hw] at hmono
        cases hv : wordWidth a narrow (c :: cs) with
        | zero => exact .cons (.inl rfl) (ih 0 n n.zero_le fun _ => hnext)
        | succ m =>
          exact .cons (.inr rfl) (ih m n (by omega) fun _ => hnext)
    | succ n =>
      have hhere := hwithin n.succ_ne_zero
      cases less with
      | succ m => exact .cons (.inr rfl) (ih m n (Nat.le_of_succ_le_succ hle) hhere.next)
      | zero =>
        have hcovers := within_covers a hsub hhere
        rw [rewriteBy, rewriteBy]
        cases hv : wordWidth a narrow (c :: cs) with
        | zero => exact .cons (.inl rfl) (ih 0 n n.zero_le hhere.next)
        | succ m => exact .cons (.inr rfl) (ih m n (by omega) hhere.next)

end

namespace Codec

theorem single_rewrite_by {k : Codec} {cls : CharClass} (hk : k.Uses cls) (f : Char → Char)
    (text : List Char) : k.single.rewrite f text = rewriteBy (wordWidth k.ascii cls) f 0 text := by
  refine rewrite_eq_by (spanAt_wordWidth hk) (fun text hw => ?_) f text
  have hleast : k.single.leastLength = 3 := by
    rw [hk]
    rfl
  obtain ⟨word, rest, ⟨content, hne, _, rfl⟩, rfl, _⟩ := exists_braced k.ascii cls text hw
  have hpos := List.length_pos_iff.mpr hne
  simp only [hleast, List.length_append, List.length_cons, List.length_nil]
  omega

section

variable {k wider : Codec} {cls widerClass : CharClass} (hascii : wider.ascii = k.ascii)
  (hsubstitute : wider.substitute = k.substitute) (hk : k.Uses cls) (hw : wider.Uses widerClass)
  (hsub : ∀ c, cls.holds {} c = true → widerClass.holds {} c = true)

include hascii hsubstitute in
theorem swapChar_same : wider.swapChar = k.swapChar := by
  rw [swapChar, swapChar, hascii, hsubstitute]

include hascii hsubstitute hk hw hsub

theorem sanitizeProse_wider (line : List Char) :
    RewritesMore line (k.sanitizeProse line) (wider.sanitizeProse line) := by
  have hswap := swapChar_same hascii hsubstitute
  have hsame : (doublePlaceholder wider.ascii).rewrite wider.swapChar
      (wider.sanitizeInlineCode line) =
        (doublePlaceholder k.ascii).rewrite k.swapChar (k.sanitizeInlineCode line) := by
    rw [hascii, hswap, sanitizeInlineCode, sanitizeInlineCode, hswap]
  rw [sanitizeProse, sanitizeProse, hsame, hswap]
  have hstages := stays_trans k.swapChar k.swapChar_swapChar _ _ _
    (mapInlineCodeFrom_stays k.swapChar 0 line)
    (rewriteFrom_stays (doublePlaceholder k.ascii) k.swapChar [] .fresh _)
  have hmore := rewriteFrom_stays wider.single k.swapChar [] .fresh
    ((doublePlaceholder k.ascii).rewrite k.swapChar (k.sanitizeInlineCode line))
  refine RewritesMore.earlier k.swapChar_swapChar ?_ hstages hmore
  rw [single_rewrite_by hk, single_rewrite_by hw, hascii]
  exact rewriteBy_wider k.ascii hsub k.swapChar 0 0 _ (le_refl 0) (absurd rfl)

theorem sanitizeLine_wider (m : LineMode) (line : List Char) :
    RewritesMore line (k.sanitizeLine m line) (wider.sanitizeLine m line) := by
  have hswap : wider.swap line = k.swap line := by
    rw [swap, swap, swapChar_same hascii hsubstitute]
  rw [sanitizeLine_kind, sanitizeLine_kind, hswap]
  cases m.kind line with
  | delimiter => exact .same (stays_refl k.swapChar line)
  | fenced => exact .same (stays_map k.swapChar line)
  | indented => exact .same (stays_map k.swapChar line)
  | prose => exact sanitizeProse_wider hascii hsubstitute hk hw hsub line

theorem sanitizeLines_wider (m : LineMode) (ls : List (List Char)) :
    RewritesMore (joinLines ls) (joinLines (k.sanitizeLines m ls))
      (joinLines (wider.sanitizeLines m ls)) := by
  induction ls generalizing m with
  | nil => exact .nil
  | cons l ls ih =>
    have hline := sanitizeLine_wider hascii hsubstitute hk hw hsub m l
    by_cases hls : ls = []
    · subst hls
      exact hline
    · rw [sanitizeLines, sanitizeLines, joinLines_cons _ _ hls,
        joinLines_cons _ _ (k.sanitizeLines_ne_nil _ _ hls),
        joinLines_cons _ _ (wider.sanitizeLines_ne_nil _ _ hls)]
      exact hline.append (.cons (.inl rfl) (ih (m.next l)))

end

/-- Of two codecs for the same braces, the one whose placeholders are made of more characters
replaces at every place where the other one does, by the same character. -/
theorem widening_keeps (k wider : Codec) (cls widerClass : CharClass)
    (hascii : wider.ascii = k.ascii) (hsubstitute : wider.substitute = k.substitute)
    (hk : k.Uses cls) (hw : wider.Uses widerClass)
    (hsub : ∀ c, cls.holds {} c = true → widerClass.holds {} c = true) (text : List Char) (i : ℕ)
    (h : (k.sanitize text)[i]? ≠ text[i]?) :
    (wider.sanitize text)[i]? = (k.sanitize text)[i]? := by
  have hlines := sanitizeLines_wider hascii hsubstitute hk hw hsub .prose (splitLines text)
  rw [joinLines_splitLines] at hlines
  exact hlines.getElem i h

/-- The codec whose placeholders are made of everything but spaces. -/
def ofUnspaced : Codec where
  ascii := .ascii
  substitute := .fullwidth
  disjoint := Codec.default.disjoint
  placeholder := "^ "
  single := .seq (.seq (exactly '\x7b') (.rounds .greedy 1 none (.one {} (.excluding [' ']))))
    (exactly '\x7d')

/-- Where spaces alone are left out, a placeholder begins at an earlier brace and ends at a
later one, and the one of the default codec lies within it. -/
theorem widening_keeps_unspaced :
    build .ascii .fullwidth "^ " = .ok ofUnspaced ∧
    Codec.default.Uses defaultClass ∧ ofUnspaced.Uses (.excluding [' ']) ∧
    (∀ c, defaultClass.holds {} c = true → (CharClass.excluding [' ']).holds {} c = true) ∧
    (Codec.default.sanitize "\x7bx\x7bab\x7d\x7d".toList)[2]? ≠
      "\x7bx\x7bab\x7d\x7d".toList[2]? ∧
    (ofUnspaced.sanitize "\x7bx\x7bab\x7d\x7d".toList)[2]? =
      (Codec.default.sanitize "\x7bx\x7bab\x7d\x7d".toList)[2]? := by
  have hparse : parse (placeholderText .ascii "^ ") = .ok ofUnspaced.single := by
    decide +kernel
  have hapart : Alphabet.ascii.isApart .fullwidth = true := by decide
  have hbuild : build .ascii .fullwidth "^ " = .ok ofUnspaced := by
    simp only [build, hapart, dif_pos, hparse]
    rfl
  have hsub (c : Char) (hc : defaultClass.holds {} c = true) :
      (CharClass.excluding [' ']).holds {} c = true := by
    have hspace : c ≠ ' ' := by
      rintro rfl
      revert hc
      decide
    simpa [Placeholder.holds_excluding] using hspace
  have hchanged : (Codec.default.sanitize "\x7bx\x7bab\x7d\x7d".toList)[2]? ≠
      "\x7bx\x7bab\x7d\x7d".toList[2]? := by decide +kernel
  exact ⟨hbuild, rfl, rfl, hsub, hchanged,
    widening_keeps Codec.default ofUnspaced _ _ rfl rfl rfl rfl hsub _ 2 hchanged⟩

end Codec

end DocBraces
