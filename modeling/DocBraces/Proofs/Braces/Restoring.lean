import DocBraces.Braces.Codec
import Mathlib.Data.List.Forall2

/-!
# Sanitizing and restoring

Sanitizing moves no character. Each one stays, or it is an ASCII brace and gives way to
its substitute, whatever the alphabets are and whatever a placeholder matches. So a
text and its sanitized form are restored alike.
-/

set_option autoImplicit false

namespace DocBraces

open DocBraces.Text DocBraces.Pattern

def StaysOr (f : Char → Char) (c d : Char) : Prop := d = c ∨ d = f c

theorem stays_refl (f : Char → Char) (cs : List Char) : List.Forall₂ (StaysOr f) cs cs :=
  List.forall₂_same.mpr fun _ _ => .inl rfl

theorem stays_map (f : Char → Char) (cs : List Char) :
    List.Forall₂ (StaysOr f) cs (cs.map f) :=
  List.forall₂_map_right_iff.mpr (List.forall₂_same.mpr fun _ _ => .inr rfl)

theorem stays_trans (f : Char → Char) (hf : ∀ c, f (f c) = f c) (cs ds es : List Char)
    (hd : List.Forall₂ (StaysOr f) cs ds) (he : List.Forall₂ (StaysOr f) ds es) :
    List.Forall₂ (StaysOr f) cs es := by
  induction hd generalizing es with
  | nil => exact he
  | cons hcd _ ih =>
    obtain ⟨e, es, hde, hrest, rfl⟩ := List.forall₂_cons_left_iff.mp he
    refine List.Forall₂.cons ?_ (ih es hrest)
    rcases hcd with rfl | rfl
    · exact hde
    · rcases hde with rfl | rfl
      · exact .inr rfl
      · exact .inr (hf _)

theorem rewriteFrom_stays (e : Expr) (f : Char → Char) (before : List Char) (stage : Stage)
    (text : List Char) : List.Forall₂ (StaysOr f) text (e.rewriteFrom f before stage text) := by
  induction text generalizing before stage with
  | nil => exact List.Forall₂.nil
  | cons c cs ih =>
    simp only [Expr.rewriteFrom]
    split
    · exact .cons (.inr rfl) (ih _ _)
    · exact .cons (.inl rfl) (ih _ _)
    · split
      · exact .cons (.inl rfl) (ih _ _)
      · exact .cons (.inr rfl) (ih _ _)

theorem mapInlineCodeFrom_stays (f : Char → Char) (n : Nat) (line : List Char) :
    List.Forall₂ (StaysOr f) line (mapInlineCodeFrom f n line) := by
  induction line generalizing n with
  | nil => cases n <;> exact List.Forall₂.nil
  | cons c cs ih =>
    cases n with
    | succ n =>
      refine .cons ?_ (ih n)
      split
      · exact .inl rfl
      · exact .inr rfl
    | zero =>
      simp only [mapInlineCodeFrom]
      split
      · refine .cons (.inl rfl) ?_
        split <;> exact ih _
      · exact .cons (.inl rfl) (ih 0)

theorem joinLines_stays (f : Char → Char) (ls ms : List (List Char))
    (h : List.Forall₂ (List.Forall₂ (StaysOr f)) ls ms) :
    List.Forall₂ (StaysOr f) (joinLines ls) (joinLines ms) := by
  induction h with
  | nil => exact List.Forall₂.nil
  | @cons l m ls ms hlm hrest ih =>
    cases hrest with
    | nil => exact hlm
    | cons _ _ => exact List.rel_append hlm (.cons (.inl rfl) ih)

namespace Alphabet

theorem exchange_exchange (a b : Alphabet) (h : ∀ c ∈ a.chars, c ∉ b.chars) (c : Char) :
    exchange a b (exchange a b c) = exchange a b c := by
  have ho := exchange_of_not_mem a b b.opening fun hm => h _ hm (by simp [chars])
  have hc := exchange_of_not_mem a b b.closing fun hm => h _ hm (by simp [chars])
  by_cases h1 : c = a.opening
  · rw [h1, exchange_opening, ho]
  · by_cases h2 : c = a.closing
    · rw [h2, exchange_closing, hc]
    · have hk : exchange a b c = c := exchange_of_not_mem a b c (by simp [chars, h1, h2])
      rw [hk, hk]

/-- Braces of the first alphabet go, and those of the second come back to the first. -/
theorem exchange_back (a b : Alphabet) (h : ∀ c ∈ a.chars, c ∉ b.chars) (c : Char) :
    exchange b a (exchange a b c) = exchange b a c := by
  by_cases h1 : c = a.opening
  · rw [h1, exchange_opening, exchange_opening,
      exchange_of_not_mem b a a.opening (h _ (by simp [chars]))]
  · by_cases h2 : c = a.closing
    · rw [h2, exchange_closing, exchange_closing,
        exchange_of_not_mem b a a.closing (h _ (by simp [chars]))]
    · rw [exchange_of_not_mem a b c (by simp [chars, h1, h2])]

theorem exchange_not_mem (a b : Alphabet) (h : ∀ c ∈ a.chars, c ∉ b.chars) (c : Char) :
    exchange a b c ∉ a.chars := by
  by_cases h1 : c = a.opening
  · rw [h1, exchange_opening]
    exact fun hm => h _ hm (by simp [chars])
  · by_cases h2 : c = a.closing
    · rw [h2, exchange_closing]
      exact fun hm => h _ hm (by simp [chars])
    · have hn : c ∉ a.chars := by simp [chars, h1, h2]
      rwa [exchange_of_not_mem a b c hn]

theorem exchange_eq_self_iff (a b : Alphabet) (h : ∀ c ∈ a.chars, c ∉ b.chars) (c : Char) :
    exchange a b c = c ↔ c ∉ a.chars :=
  ⟨fun he => he ▸ exchange_not_mem a b h c, exchange_of_not_mem a b c⟩

end Alphabet

namespace Codec

theorem disjoint_symm (k : Codec) : ∀ c ∈ k.substitute.chars, c ∉ k.ascii.chars :=
  fun c hs ha => k.disjoint c ha hs

theorem swapChar_swapChar (k : Codec) (c : Char) : k.swapChar (k.swapChar c) = k.swapChar c :=
  Alphabet.exchange_exchange k.ascii k.substitute k.disjoint c

theorem sanitizeProse_stays (k : Codec) (line : List Char) :
    List.Forall₂ (StaysOr k.swapChar) line (k.sanitizeProse line) := by
  have hi := mapInlineCodeFrom_stays k.swapChar 0 line
  have hd := rewriteFrom_stays (doublePlaceholder k.ascii) k.swapChar [] .fresh
    (k.sanitizeInlineCode line)
  have hs := rewriteFrom_stays k.single k.swapChar [] .fresh
    ((doublePlaceholder k.ascii).rewrite k.swapChar (k.sanitizeInlineCode line))
  have htrans := stays_trans k.swapChar k.swapChar_swapChar
  exact htrans _ _ _ (htrans _ _ _ hi hd) hs

theorem sanitizeLine_stays (k : Codec) (m : LineMode) (line : List Char) :
    List.Forall₂ (StaysOr k.swapChar) line (k.sanitizeLine m line) := by
  unfold sanitizeLine
  split
  · exact stays_refl _ _
  · split
    · exact stays_map _ _
    · split
      · exact stays_map _ _
      · exact k.sanitizeProse_stays line

theorem sanitizeLines_stays (k : Codec) (m : LineMode) (ls : List (List Char)) :
    List.Forall₂ (List.Forall₂ (StaysOr k.swapChar)) ls (k.sanitizeLines m ls) := by
  induction ls generalizing m with
  | nil => exact List.Forall₂.nil
  | cons l ls ih => exact .cons (k.sanitizeLine_stays m l) (ih _)

theorem sanitize_stays (k : Codec) (text : List Char) :
    List.Forall₂ (StaysOr k.swapChar) text (k.sanitize text) := by
  have h := joinLines_stays _ _ _ (k.sanitizeLines_stays .prose (splitLines text))
  rwa [joinLines_splitLines] at h

/-- The character stays, or it is an ASCII brace and its substitute takes the place. -/
def Replaced (k : Codec) (c d : Char) : Prop :=
  d = c ∨ (c = k.ascii.opening ∧ d = k.substitute.opening) ∨
    (c = k.ascii.closing ∧ d = k.substitute.closing)

theorem replaced_of_stays (k : Codec) (c d : Char) (h : StaysOr k.swapChar c d) :
    k.Replaced c d := by
  rcases h with h | h
  · exact .inl h
  · by_cases ho : c = k.ascii.opening
    · subst ho
      exact .inr (.inl ⟨rfl, h.trans (Alphabet.exchange_opening _ _)⟩)
    · by_cases hc : c = k.ascii.closing
      · subst hc
        exact .inr (.inr ⟨rfl, h.trans (Alphabet.exchange_closing _ _)⟩)
      · exact .inl (h.trans (Alphabet.exchange_of_not_mem _ _ c (by simp [Alphabet.chars, ho, hc])))

theorem restore_of_stays (k : Codec) (cs ds : List Char)
    (h : List.Forall₂ (StaysOr k.swapChar) cs ds) : k.restore ds = k.restore cs := by
  induction h with
  | nil => rfl
  | cons hcd _ ih =>
    simp only [restore, List.map_cons] at ih ⊢
    rw [ih]
    congr 1
    rcases hcd with rfl | rfl
    · rfl
    · exact Alphabet.exchange_back k.ascii k.substitute k.disjoint _

theorem restore_eq_self_iff (k : Codec) (text : List Char) :
    k.restore text = text ↔ ∀ c ∈ k.substitute.chars, c ∉ text := by
  have hchar := Alphabet.exchange_eq_self_iff k.substitute k.ascii k.disjoint_symm
  constructor
  · intro h c hc hm
    have hid : text.map (k.substitute.exchange k.ascii) = text.map id := by simpa [restore] using h
    exact (hchar c).mp (List.map_inj_left.mp hid c hm) hc
  · intro h
    refine (List.map_congr_left fun c hc => ?_).trans (List.map_id text)
    exact (hchar c).mpr fun hm => h c hm hc

theorem restore_free (k : Codec) (text : List Char) :
    ∀ c ∈ k.substitute.chars, c ∉ k.restore text := by
  intro c hc hm
  obtain ⟨d, _, rfl⟩ := List.mem_map.mp hm
  exact Alphabet.exchange_not_mem k.substitute k.ascii k.disjoint_symm d hc

/-- Sanitizing keeps every place and replaces nothing but ASCII braces, each by its
substitute. Restoring undoes it on texts without substitutes, leaves no substitute, and
changes nothing the second time. -/
theorem restoring_undoes_sanitizing (k : Codec) (text : List Char) :
    (k.sanitize text).length = text.length ∧
    List.Forall₂ k.Replaced text (k.sanitize text) ∧
    k.restore (k.sanitize text) = k.restore text ∧
    (k.restore (k.sanitize text) = text ↔ ∀ c ∈ k.substitute.chars, c ∉ text) ∧
    (∀ c ∈ k.substitute.chars, c ∉ k.restore text) ∧
    k.restore (k.restore text) = k.restore text := by
  have hstays := k.sanitize_stays text
  have hrestore := k.restore_of_stays _ _ hstays
  refine ⟨hstays.length_eq.symm, hstays.imp fun c d => k.replaced_of_stays c d, hrestore, ?_,
    k.restore_free text, ?_⟩
  · rw [hrestore]
    exact k.restore_eq_self_iff text
  · exact (k.restore_eq_self_iff _).mpr (k.restore_free text)

end Codec

end DocBraces
