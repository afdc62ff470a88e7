import DocBraces.Proofs.Braces.DefaultPattern
import Mathlib.Logic.Equiv.Basic

/-!
# Renaming braces

Nothing but the four braces, backticks, blanks and the characters of placeholders counts
for a codec. A renaming that takes braces to braces and keeps the others commutes with
sanitizing and restoring, whatever the new braces mean in a pattern.
-/

set_option autoImplicit false

namespace DocBraces

open DocBraces.Text DocBraces.Pattern

section

variable {p : Char → Char} (hp : Function.Injective p)

include hp in
theorem renamed_iff {c d e : Char} (h : p d = e) : p c = e ↔ c = d := by
  rw [← h, hp.eq_iff]

include hp in
theorem splitLines_map (hline : p '\n' = '\n') (text : List Char) :
    splitLines (text.map p) = (splitLines text).map (·.map p) := by
  induction text with
  | nil => rfl
  | cons c cs ih =>
    have hc : p c = '\n' ↔ c = '\n' := renamed_iff hp hline
    rw [List.map_cons, splitLines, splitLines, ih]
    by_cases h : c = '\n'
    · rw [if_pos h, if_pos (hc.mpr h)]
      rfl
    · rw [if_neg h, if_neg (mt hc.mp h)]
      cases splitLines cs <;> rfl

theorem joinLines_map (hline : p '\n' = '\n') (ls : List (List Char)) :
    joinLines (ls.map (·.map p)) = (joinLines ls).map p := by
  induction ls with
  | nil => rfl
  | cons l ls ih =>
    cases ls with
    | nil => rfl
    | cons m ms =>
      rw [List.map_cons, joinLines_cons _ _ (by simp), joinLines_cons _ _ (by simp), ih,
        List.map_append, List.map_cons, hline]

include hp in
theorem mapInlineCode_map (htick : p tick = tick) (f g : Char → Char)
    (hfg : ∀ c, g (p c) = p (f c)) (row : List Char) :
    mapInlineCode g (row.map p) = (mapInlineCode f row).map p := by
  have hc (c : Char) : p c = tick ↔ c = tick := renamed_iff hp htick
  have hfrom (n : ℕ) : mapInlineCodeFrom g n (row.map p) = (mapInlineCodeFrom f n row).map p := by
    induction row generalizing n with
    | nil => cases n <;> rfl
    | cons c cs ih =>
      have hlength : contentLength (cs.map p) = contentLength cs :=
        contentLength_alike _ _ (by
          rw [List.forall₂_map_left_iff]
          exact List.forall₂_same.mpr fun c _ => hc c)
      cases n with
      | succ n =>
        rw [List.map_cons, mapInlineCodeFrom, mapInlineCodeFrom, List.map_cons, ih]
        by_cases h : c = tick
        · rw [if_pos h, if_pos ((hc c).mpr h)]
        · rw [if_neg h, if_neg (mt (hc c).mp h), hfg]
      | zero =>
        rw [List.map_cons, mapInlineCodeFrom, mapInlineCodeFrom, hlength]
        by_cases h : c = tick
        · rw [if_pos h, if_pos ((hc c).mpr h), List.map_cons]
          cases contentLength cs <;> simp only [ih]
        · rw [if_neg h, if_neg (mt (hc c).mp h), List.map_cons, ih]
  exact hfrom 0

end

namespace Placeholder

structure Renamed (p : Char → Char) (b b' : Placeholder) : Prop where
  injective : Function.Injective p
  opening : p b.braces.opening = b'.braces.opening
  closing : p b.braces.closing = b'.braces.closing
  depth : b'.depth = b.depth
  inside : ∀ c, b'.inside (p c) = b.inside c

variable {p : Char → Char} {b b' : Placeholder} (h : Renamed p b b')

include h in
theorem word_map (content : List Char) : b'.word (content.map p) = (b.word content).map p := by
  simp [word, h.depth, h.opening, h.closing]

include h in
theorem admits_map (content : List Char) : b'.Admits (content.map p) ↔ b.Admits content := by
  simp [Admits, h.inside]

include h in
theorem width_map (text : List Char) (hw : b.width text = 0) : b'.width (text.map p) = 0 := by
  by_contra hne
  obtain ⟨content, rest, hc, heq⟩ := b'.exists_word _ hne
  obtain ⟨front, back, rfl, hfront, -⟩ := List.map_eq_append_iff.mp heq
  have hword : ∃ inner, front = b.word inner ∧ inner.map p = content := by
    have hmap := List.map_injective_iff.mpr h.injective
    obtain ⟨opened, closings, rfl, hopened, hclosings⟩ := List.map_eq_append_iff.mp hfront
    obtain ⟨openings, inner, rfl, hopenings, rfl⟩ := List.map_eq_append_iff.mp hopened
    refine ⟨inner, ?_, rfl⟩
    rw [h.depth, ← h.opening, ← List.map_replicate] at hopenings
    rw [h.depth, ← h.closing, ← List.map_replicate] at hclosings
    rw [word, hmap hopenings, hmap hclosings]
  obtain ⟨inner, rfl, rfl⟩ := hword
  have hinner := (admits_map h inner).mp hc
  have hpos := b.word_pos inner
  rw [b.width_word inner back hinner] at hw
  omega

include h in
theorem rewrite_map (f g : Char → Char) (hfg : ∀ c, g (p c) = p (f c)) (row : List Char) :
    b'.rewrite g (row.map p) = (b.rewrite f row).map p := by
  induction row using b.scan_induction with
  | nil => rfl
  | word content rest hc ih =>
    rw [List.map_append, ← word_map h, b'.rewrite_word g _ _ ((admits_map h content).mpr hc), ih,
      b.rewrite_word f content rest hc, List.map_append, word_map h, List.map_map, List.map_map]
    congr 2
    funext c
    exact hfg c
  | keep c cs hw ih =>
    have hw' := width_map h (c :: cs) hw
    rw [List.map_cons] at hw' ⊢
    rw [b'.rewrite_keep g _ _ hw', ih, b.rewrite_keep f c cs hw, List.map_cons]

end Placeholder

/-- A renaming of characters that takes the default braces to those of two alphabets, and
keeps backticks, blanks and the characters of the default placeholders. So none of the new
braces is one of these, and no two of them are the same. -/
structure Renames (p : Char → Char) (a b : Alphabet) : Prop where
  injective : Function.Injective p
  opening : p '\x7b' = a.opening
  closing : p '\x7d' = a.closing
  opening_substitute : p '\uff5b' = b.opening
  closing_substitute : p '\uff5d' = b.closing
  tick : p tick = tick
  blank : ∀ c, isBlank c = true → p c = c
  placeholder : ∀ c, Codec.defaultClass.holds {} c = true → p c = c

namespace Renames

theorem default_spares : Codec.default.Spares Codec.defaultClass := by decide

section

variable {p : Char → Char} {a b : Alphabet} (h : Renames p a b)

include h in
theorem newline : p '\n' = '\n' := h.blank '\n' (by decide)

include h in
theorem alike (c : Char) : Alike c (p c) := by
  by_cases hc : c = DocBraces.tick ∨ isBlank c = true
  · rcases hc with rfl | hc
    · exact .inl h.tick.symm
    · exact .inl (h.blank c hc).symm
  · rw [not_or] at hc
    refine .inr ⟨⟨hc.1, Bool.eq_false_iff.mpr hc.2⟩, mt (renamed_iff h.injective h.tick).mp hc.1, ?_⟩
    refine Bool.eq_false_iff.mpr fun hblank => hc.2 ?_
    rwa [← h.injective (h.blank _ hblank)]

include h in
theorem class_holds (c : Char) :
    Codec.defaultClass.holds {} (p c) = Codec.defaultClass.holds {} c := by
  by_cases hc : Codec.defaultClass.holds {} c = true
  · rw [h.placeholder c hc]
  · rw [Bool.eq_false_iff.mpr hc]
    refine Bool.eq_false_iff.mpr fun hrenamed => hc ?_
    rwa [← h.injective (h.placeholder _ hrenamed)]

include h in
theorem apart : ∀ c ∈ a.chars, c ∉ b.chars := by
  intro c hc
  simp only [Alphabet.chars, ← h.opening, ← h.closing, ← h.opening_substitute,
    ← h.closing_substitute, List.mem_cons, List.not_mem_nil, or_false] at hc ⊢
  rcases hc with rfl | rfl <;> simp [h.injective.eq_iff]

include h in
theorem row_alike (row : List Char) : List.Forall₂ Alike row (row.map p) := by
  rw [List.forall₂_map_right_iff]
  exact List.forall₂_same.mpr fun c _ => h.alike c

end

theorem exchange_map {p : Char → Char} (hp : Function.Injective p) {a b a' b' : Alphabet}
    (hao : p a.opening = a'.opening) (hac : p a.closing = a'.closing)
    (hbo : p b.opening = b'.opening) (hbc : p b.closing = b'.closing) (c : Char) :
    Alphabet.exchange a' b' (p c) = p (Alphabet.exchange a b c) := by
  simp only [Alphabet.exchange, renamed_iff hp hao, renamed_iff hp hac]
  split
  · exact hbo.symm
  · split
    · exact hbc.symm
    · rfl

section

variable {p : Char → Char} {k : Codec} (h : Renames p k.ascii k.substitute)

include h in
theorem swapChar_map (c : Char) : k.swapChar (p c) = p (Codec.default.swapChar c) := by
  exact exchange_map h.injective h.opening h.closing h.opening_substitute h.closing_substitute c

include h in
theorem restore_map (text : List Char) :
    k.restore (text.map p) = (Codec.default.restore text).map p := by
  rw [Codec.restore, Codec.restore, List.map_map, List.map_map]
  congr 1
  funext c
  exact exchange_map h.injective h.opening_substitute h.closing_substitute h.opening h.closing c

include h in
theorem spares : k.Spares Codec.defaultClass := by
  intro c hc
  have hbrace : ∃ d ∈ Codec.default.ascii.chars ++ Codec.default.substitute.chars, p d = c := by
    simpa [Alphabet.chars, Codec.default, Alphabet.ascii, Alphabet.fullwidth, h.opening, h.closing,
      h.opening_substitute, h.closing_substitute, eq_comm] using hc
  obtain ⟨d, hd, rfl⟩ := hbrace
  rw [h.class_holds, default_spares d hd]

include h in
theorem sanitizeProse_map (hk : k.Uses Codec.defaultClass) (row : List Char) :
    k.sanitizeProse (row.map p) = (Codec.default.sanitizeProse row).map p := by
  have hspares := h.spares
  have hswap := h.swapChar_map
  have hdoubled : Placeholder.Renamed p (.doubled Codec.default.ascii) (.doubled k.ascii) :=
    { injective := h.injective
      opening := h.opening
      closing := h.closing
      depth := rfl
      inside := by
        intro c
        simp [Placeholder.doubled, Placeholder.holds_excluding, Alphabet.chars, ← h.opening,
          ← h.closing, h.injective.eq_iff, Codec.default, Alphabet.ascii] }
  have hsingle : Placeholder.Renamed p
      (Codec.default.singles Codec.defaultClass default_spares)
      (k.singles Codec.defaultClass hspares) :=
    { injective := h.injective
      opening := h.opening
      closing := h.closing
      depth := rfl
      inside := h.class_holds }
  rw [k.sanitizeProse_stages _ hk hspares,
    Codec.default.sanitizeProse_stages Codec.defaultClass rfl default_spares,
    Codec.doublesDone, Codec.doublesDone, Codec.sanitizeInlineCode, Codec.sanitizeInlineCode,
    mapInlineCode_map h.injective h.tick _ _ hswap, Placeholder.rewrite_map hdoubled _ _ hswap,
    Placeholder.rewrite_map hsingle _ _ hswap]

include h in
theorem sanitizeLine_map (hk : k.Uses Codec.defaultClass) (m : LineMode) (row : List Char) :
    k.sanitizeLine m (row.map p) = (Codec.default.sanitizeLine m row).map p := by
  have hswap : k.swap (row.map p) = (Codec.default.swap row).map p := by
    rw [Codec.swap, Codec.swap, List.map_map, List.map_map]
    congr 1
    funext c
    exact h.swapChar_map c
  rw [Codec.sanitizeLine_kind, Codec.sanitizeLine_kind, ← kind_alike m _ _ (h.row_alike row)]
  cases m.kind row with
  | delimiter => rfl
  | fenced => exact hswap
  | indented => exact hswap
  | prose => exact h.sanitizeProse_map hk row

include h in
theorem sanitizeLines_map (hk : k.Uses Codec.defaultClass) (m : LineMode) (ls : List (List Char)) :
    k.sanitizeLines m (ls.map (·.map p)) =
      (Codec.default.sanitizeLines m ls).map (·.map p) := by
  induction ls generalizing m with
  | nil => rfl
  | cons l ls ih =>
    rw [List.map_cons, Codec.sanitizeLines, Codec.sanitizeLines, List.map_cons,
      h.sanitizeLine_map hk, ← next_alike m _ _ (h.row_alike l), ih]

include h in
theorem sanitize_map (hk : k.Uses Codec.defaultClass) (text : List Char) :
    k.sanitize (text.map p) = (Codec.default.sanitize text).map p := by
  rw [Codec.sanitize, Codec.sanitize, splitLines_map h.injective h.newline,
    h.sanitizeLines_map hk, joinLines_map h.newline]

end

end Renames

namespace Codec

/-- Whatever four braces a codec is built for, it does to a renamed text what the default
codec does to the text, and then renames. -/
theorem renaming_commutes (a b : Alphabet) (p : Char → Char) (h : Renames p a b) :
    ∃ k, build a b defaultPlaceholder = .ok k ∧ ∀ text,
      k.sanitize (text.map p) = (Codec.default.sanitize text).map p ∧
      k.restore (text.map p) = (Codec.default.restore text).map p := by
  obtain ⟨k, hbuild, rfl, rfl, hk⟩ := build_of_apart a b h.apart
  exact ⟨k, hbuild, fun text => ⟨h.sanitize_map hk text, h.restore_map text⟩⟩

/-- Exchanges the default braces with four characters that are signs in a pattern. -/
def toSigns : Equiv.Perm Char :=
  (((Equiv.swap '\x7b' '[').trans (Equiv.swap '\x7d' ']')).trans
    (Equiv.swap '\uff5b' '^')).trans (Equiv.swap '\uff5d' '$')

theorem toSigns_keeps (c : Char)
    (h : c ∉ ['\x7b', '[', '\x7d', ']', '\uff5b', '^', '\uff5d', '$']) : toSigns c = c := by
  simp only [List.mem_cons, List.not_mem_nil, or_false, not_or] at h
  obtain ⟨h1, h2, h3, h4, h5, h6, h7, h8⟩ := h
  simp only [toSigns, Equiv.trans_apply]
  rw [Equiv.swap_apply_of_ne_of_ne h1 h2, Equiv.swap_apply_of_ne_of_ne h3 h4,
    Equiv.swap_apply_of_ne_of_ne h5 h6, Equiv.swap_apply_of_ne_of_ne h7 h8]

theorem toSigns_renames : Renames toSigns ⟨'[', ']', by decide⟩ ⟨'^', '$', by decide⟩ where
  injective := toSigns.injective
  opening := by decide
  closing := by decide
  opening_substitute := by decide
  closing_substitute := by decide
  tick := by decide
  blank c hc := by
    refine toSigns_keeps c fun hmem => ?_
    simp only [List.mem_cons, List.not_mem_nil, or_false] at hmem
    rcases hmem with rfl | rfl | rfl | rfl | rfl | rfl | rfl | rfl <;> revert hc <;> decide
  placeholder c hc := by
    refine toSigns_keeps c fun hmem => ?_
    simp only [List.mem_cons, List.not_mem_nil, or_false] at hmem
    rcases hmem with rfl | rfl | rfl | rfl | rfl | rfl | rfl | rfl <;> revert hc <;> decide

/-- Brackets, a caret and a dollar sign serve as braces as well as braces do. -/
theorem renaming_commutes_signs :
    Renames toSigns ⟨'[', ']', by decide⟩ ⟨'^', '$', by decide⟩ ∧
    ∃ k, build ⟨'[', ']', by decide⟩ ⟨'^', '$', by decide⟩ defaultPlaceholder = .ok k ∧
      k.sanitize "[a] [[x y]] [".toList = "^a$ ^^x y$$ [".toList ∧
      k.restore "^a$ ^".toList = "[a] [".toList := by
  obtain ⟨k, hbuild, hk⟩ := renaming_commutes _ _ toSigns toSigns_renames
  refine ⟨toSigns_renames, k, hbuild, ?_, ?_⟩
  · have hsource : "\x7ba\x7d \x7b\x7bx y\x7d\x7d \x7b".toList.map toSigns =
        "[a] [[x y]] [".toList := by decide +kernel
    have htarget : (Codec.default.sanitize "\x7ba\x7d \x7b\x7bx y\x7d\x7d \x7b".toList).map
        toSigns = "^a$ ^^x y$$ [".toList := by decide +kernel
    rw [← hsource, (hk _).1, htarget]
  · have hsource : "\uff5ba\uff5d \uff5b".toList.map toSigns = "^a$ ^".toList := by
      decide +kernel
    have htarget : (Codec.default.restore "\uff5ba\uff5d \uff5b".toList).map toSigns =
        "[a] [".toList := by decide +kernel
    rw [← hsource, (hk _).2, htarget]

end Codec

end DocBraces
