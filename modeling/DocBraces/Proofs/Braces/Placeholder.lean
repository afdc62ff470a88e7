import DocBraces.Proofs.Pattern.Leftover

/-!
# Placeholders

A placeholder is a text between braces that holds none of them. Two placeholders of one
kind never overlap, so that rewriting them from the left rewrites all of them. The
patterns for doubled and for single braces take placeholders and nothing else.
-/

set_option autoImplicit false

namespace DocBraces

open DocBraces.Text DocBraces.Pattern

/-- Braces on both sides of a text of which each character passes a test. -/
structure Placeholder where
  braces : Alphabet
  /-- Number of braces on each side. -/
  depth : ℕ
  inside : Char → Bool
  depth_pos : 0 < depth
  opening_outside : inside braces.opening = false
  closing_outside : inside braces.closing = false

namespace Placeholder

variable (b : Placeholder)

def word (content : List Char) : List Char :=
  List.replicate b.depth b.braces.opening ++ content ++ List.replicate b.depth b.braces.closing

def Admits (content : List Char) : Prop := content ≠ [] ∧ ∀ c ∈ content, b.inside c = true

theorem word_length (content : List Char) :
    (b.word content).length = b.depth + content.length + b.depth := by
  simp [word, Nat.add_assoc]

theorem word_pos (content : List Char) : 0 < (b.word content).length := by
  have hd := b.depth_pos
  rw [word_length]
  omega

def leftover (g : Leftover) : Leftover :=
  (Leftover.char b.braces.opening)^[b.depth]
    (((Leftover.char b.braces.closing)^[b.depth] g).rounds b.inside)

theorem leftover_some (text rest : List Char) :
    b.leftover some text = some rest ↔
      ∃ content, b.Admits content ∧ text = b.word content ++ rest := by
  obtain ⟨d, hd⟩ := Nat.exists_eq_succ_of_ne_zero b.depth_pos.ne'
  have hrounds := rounds_some b.inside b.braces.closing b.closing_outside
    ((Leftover.char b.braces.closing)^[d] some)
  rw [← Function.iterate_succ_apply' (Leftover.char b.braces.closing), ← hd] at hrounds
  rw [leftover, char_iterate_some]
  constructor
  · rintro ⟨more, rfl, hmore⟩
    obtain ⟨content, last, hne, hall, rfl, hlast⟩ := (hrounds more rest).mp hmore
    obtain ⟨final, rfl, hfinal⟩ := (char_iterate_some _ _ _ _ _).mp hlast
    obtain rfl : final = rest := Option.some.inj hfinal
    exact ⟨content, ⟨hne, hall⟩, by simp [word]⟩
  · rintro ⟨content, ⟨hne, hall⟩, rfl⟩
    refine ⟨content ++ (List.replicate b.depth b.braces.closing ++ rest), by simp [word], ?_⟩
    refine (hrounds _ rest).mpr ⟨content, _, hne, hall, rfl, ?_⟩
    exact (char_iterate_some _ _ _ _ _).mpr ⟨rest, rfl, rfl⟩

/-- Length of the placeholder with which a text begins, zero if there is none. -/
def width (text : List Char) : ℕ :=
  match b.leftover some text with
  | none => 0
  | some rest => text.length - rest.length

theorem width_word (content rest : List Char) (h : b.Admits content) :
    b.width (b.word content ++ rest) = (b.word content).length := by
  have hl := (b.leftover_some (b.word content ++ rest) rest).mpr ⟨content, h, rfl⟩
  rw [width, hl]
  simp

theorem exists_word (text : List Char) (h : b.width text ≠ 0) :
    ∃ content rest, b.Admits content ∧ text = b.word content ++ rest := by
  cases hl : b.leftover some text with
  | none => simp [width, hl] at h
  | some rest =>
    obtain ⟨content, hc, ht⟩ := (b.leftover_some text rest).mp hl
    exact ⟨content, rest, hc, ht⟩

/-- Applies `f` to placeholders from the left; `left` counts what is still to come of the
one under way. -/
def rewriteFrom (f : Char → Char) : (left : ℕ) → List Char → List Char
  | _, [] => []
  | n + 1, c :: cs => f c :: rewriteFrom f n cs
  | 0, c :: cs => match b.width (c :: cs) with
    | 0 => c :: rewriteFrom f 0 cs
    | n + 1 => f c :: rewriteFrom f n cs

def rewrite (f : Char → Char) (text : List Char) : List Char := b.rewriteFrom f 0 text

theorem rewriteFrom_length (f : Char → Char) (covered rest : List Char) :
    b.rewriteFrom f covered.length (covered ++ rest) = covered.map f ++ b.rewrite f rest := by
  induction covered with
  | nil => rfl
  | cons c cs ih => simp [rewriteFrom, ih]

theorem rewrite_word (f : Char → Char) (content rest : List Char) (h : b.Admits content) :
    b.rewrite f (b.word content ++ rest) = (b.word content).map f ++ b.rewrite f rest := by
  have hw := b.width_word content rest h
  have hpos := b.word_pos content
  cases hword : b.word content with
  | nil => simp [hword] at hpos
  | cons c cs =>
    rw [hword] at hw
    rw [rewrite, List.cons_append, rewriteFrom]
    rw [List.cons_append] at hw
    simp only [hw, List.length_cons, List.map_cons, List.cons_append]
    rw [b.rewriteFrom_length f cs rest]

theorem rewrite_keep (f : Char → Char) (c : Char) (cs : List Char) (h : b.width (c :: cs) = 0) :
    b.rewrite f (c :: cs) = c :: b.rewrite f cs := by
  simp [rewrite, rewriteFrom, h]

/-- A line is read from the left as placeholders and characters between them. -/
theorem scan_induction {motive : List Char → Prop} (nil : motive [])
    (word : ∀ content rest, b.Admits content → motive rest → motive (b.word content ++ rest))
    (keep : ∀ c cs, b.width (c :: cs) = 0 → motive cs → motive (c :: cs))
    (text : List Char) : motive text := by
  induction h : text.length using Nat.strong_induction_on generalizing text with
  | _ n ih =>
    cases text with
    | nil => exact nil
    | cons c cs =>
      by_cases hw : b.width (c :: cs) = 0
      · exact keep c cs hw (ih cs.length (by simp [← h]) cs rfl)
      · obtain ⟨content, rest, hc, ht⟩ := b.exists_word _ hw
        have hpos := b.word_pos content
        have hlen : (c :: cs).length = (b.word content).length + rest.length := by simp [ht]
        rw [ht]
        exact word content rest hc (ih rest.length (by omega) rest rfl)

/-- A placeholder stands at a place of a line. -/
def Occurs (text : List Char) (start : ℕ) (content : List Char) : Prop :=
  b.Admits content ∧ ∃ before after, before.length = start ∧
    text = before ++ b.word content ++ after

def Covers (text : List Char) (i : ℕ) : Prop :=
  ∃ start content, b.Occurs text start content ∧ start ≤ i ∧ i < start + (b.word content).length

theorem occurs_opening (text : List Char) (start : ℕ) (content : List Char)
    (h : b.Occurs text start content) (i : ℕ) (hi : i < b.depth) :
    text[start + i]? = some b.braces.opening := by
  obtain ⟨_, before, after, rfl, rfl⟩ := h
  simp [word, List.getElem?_append_right, List.getElem?_append_left, hi]

theorem occurs_content (text : List Char) (start : ℕ) (content : List Char)
    (h : b.Occurs text start content) (i : ℕ) (hi : i < content.length) :
    text[start + b.depth + i]? = content[i]? := by
  obtain ⟨_, before, after, rfl, rfl⟩ := h
  rw [word, List.append_assoc, List.append_assoc, List.getElem?_append_right (by omega),
    List.append_assoc, List.getElem?_append_right (by simp; omega),
    List.getElem?_append_left (by simp; omega)]
  congr 1
  simp
  omega

theorem occurs_closing (text : List Char) (start : ℕ) (content : List Char)
    (h : b.Occurs text start content) (i : ℕ) (hi : i < b.depth) :
    text[start + b.depth + content.length + i]? = some b.braces.closing := by
  obtain ⟨_, before, after, rfl, rfl⟩ := h
  rw [word, List.append_assoc, List.append_assoc, List.getElem?_append_right (by omega),
    List.append_assoc, List.getElem?_append_right (by simp; omega),
    List.getElem?_append_right (by simp; omega), List.getElem?_append_left (by simp; omega),
    List.getElem?_replicate, if_pos (by simp; omega)]

theorem occurs_inside (text : List Char) (start : ℕ) (content : List Char)
    (h : b.Occurs text start content) (i : ℕ) (hi : i < content.length) (c : Char)
    (hc : text[start + b.depth + i]? = some c) : b.inside c = true := by
  rw [b.occurs_content text start content h i hi] at hc
  exact h.1.2 c (List.mem_of_getElem? hc)

theorem occurs_apart (text : List Char) (p q : ℕ) (x y : List Char)
    (hp : b.Occurs text p x) (hq : b.Occurs text q y) (h : p < q) :
    p + (b.word x).length ≤ q := by
  by_contra hlt
  rw [word_length] at hlt
  have hx : 0 < x.length := List.length_pos_iff.mpr hp.1.1
  have hopen := b.occurs_opening text q y hq
  have hinside := b.occurs_inside text p x hp
  by_cases h1 : q < p + b.depth
  · have ho := hopen (p + b.depth - q) (by omega)
    rw [show q + (p + b.depth - q) = p + b.depth + 0 by omega] at ho
    exact absurd (hinside 0 hx _ ho) (by simp [b.opening_outside])
  · have ho := hopen 0 b.depth_pos
    by_cases h2 : q < p + b.depth + x.length
    · rw [show q + 0 = p + b.depth + (q - p - b.depth) by omega] at ho
      exact absurd (hinside _ (by omega) _ ho) (by simp [b.opening_outside])
    · have hc := b.occurs_closing text p x hp (q - p - b.depth - x.length) (by omega)
      rw [show p + b.depth + x.length + (q - p - b.depth - x.length) = q + 0 by omega, ho] at hc
      exact b.braces.opening_ne_closing (Option.some.inj hc)

theorem occurs_append (before text : List Char) (start : ℕ) (content : List Char) :
    b.Occurs (before ++ text) (before.length + start) content ↔ b.Occurs text start content := by
  constructor
  · rintro ⟨hc, first, after, hlen, heq⟩
    refine ⟨hc, first.drop before.length, after, by simp [hlen], ?_⟩
    have hdrop := congrArg (List.drop before.length) heq
    rwa [List.drop_left, List.append_assoc, List.drop_append_of_le_length (by omega),
      ← List.append_assoc] at hdrop
  · rintro ⟨hc, first, after, hlen, rfl⟩
    exact ⟨hc, before ++ first, after, by simp [hlen], by simp⟩

theorem width_of_occurs (text content : List Char) (h : b.Occurs text 0 content) :
    b.width text = (b.word content).length := by
  obtain ⟨hc, before, after, hlen, rfl⟩ := h
  rw [List.length_eq_zero_iff.mp hlen]
  exact b.width_word content after hc

theorem occurs_word (content rest : List Char) (h : b.Admits content) :
    b.Occurs (b.word content ++ rest) 0 content :=
  ⟨h, [], rest, rfl, rfl⟩

theorem covers_word (content rest : List Char) (h : b.Admits content) (i : ℕ)
    (hi : (b.word content).length ≤ i) :
    b.Covers (b.word content ++ rest) i ↔ b.Covers rest (i - (b.word content).length) := by
  have hfirst := b.occurs_word content rest h
  constructor
  · rintro ⟨start, other, ho, hs, he⟩
    by_cases h0 : start = 0
    · subst h0
      have hw := b.width_of_occurs _ _ ho
      rw [b.width_of_occurs _ _ hfirst] at hw
      omega
    · have hle := b.occurs_apart _ _ _ _ _ hfirst ho (by omega)
      obtain ⟨d, rfl⟩ := Nat.exists_eq_add_of_le hle
      rw [Nat.zero_add, b.occurs_append] at ho
      exact ⟨d, other, ho, by omega, by omega⟩
  · rintro ⟨start, other, ho, hs, he⟩
    exact ⟨_, other, (b.occurs_append (b.word content) rest start other).mpr ho, by omega, by omega⟩

theorem covers_keep (c : Char) (cs : List Char) (h : b.width (c :: cs) = 0) (i : ℕ) :
    b.Covers (c :: cs) i ↔ ∃ j, i = j + 1 ∧ b.Covers cs j := by
  have hshift := b.occurs_append [c] cs
  simp only [List.singleton_append, List.length_singleton] at hshift
  constructor
  · rintro ⟨start, other, ho, hs, he⟩
    obtain _ | start := start
    · have hw := b.width_of_occurs _ _ ho
      have hpos := b.word_pos other
      omega
    · rw [Nat.add_comm, hshift] at ho
      exact ⟨i - 1, by omega, start, other, ho, by omega, by omega⟩
  · rintro ⟨j, rfl, start, other, ho, hs, he⟩
    exact ⟨1 + start, other, (hshift start other).mpr ho, by omega, by omega⟩

theorem rewrite_uncovered (f : Char → Char) (text : List Char) (i : ℕ)
    (h : ¬b.Covers text i) : (b.rewrite f text)[i]? = text[i]? := by
  induction text using b.scan_induction generalizing i with
  | nil => rfl
  | word content rest hc ih =>
    rw [b.rewrite_word f content rest hc]
    by_cases hi : i < (b.word content).length
    · exact absurd ⟨0, content, b.occurs_word content rest hc, by omega, by omega⟩ h
    · have hle := Nat.le_of_not_lt hi
      rw [List.getElem?_append_right (by simpa using hle), List.getElem?_append_right hle,
        List.length_map]
      exact ih _ ((b.covers_word content rest hc i hle).not.mp h)
  | keep c cs hw ih =>
    rw [b.rewrite_keep f c cs hw]
    cases i with
    | zero => rfl
    | succ i => exact ih i fun hcov => h ((b.covers_keep c cs hw _).mpr ⟨i, rfl, hcov⟩)

theorem rewrite_covered (f : Char → Char) (text : List Char) (i : ℕ)
    (h : b.Covers text i) : (b.rewrite f text)[i]? = text[i]?.map f := by
  induction text using b.scan_induction generalizing i with
  | nil => simp [rewrite, rewriteFrom]
  | word content rest hc ih =>
    rw [b.rewrite_word f content rest hc]
    by_cases hi : i < (b.word content).length
    · rw [List.getElem?_append_left (by simpa using hi), List.getElem?_append_left hi,
        List.getElem?_map]
    · have hle := Nat.le_of_not_lt hi
      rw [List.getElem?_append_right (by simpa using hle), List.getElem?_append_right hle,
        List.length_map]
      exact ih _ ((b.covers_word content rest hc i hle).mp h)
  | keep c cs hw ih =>
    obtain ⟨j, rfl, hj⟩ := (b.covers_keep c cs hw i).mp h
    rw [b.rewrite_keep f c cs hw]
    exact ih j hj

theorem covers_of_occurs (text : List Char) (start : ℕ) (content : List Char)
    (h : b.Occurs text start content) : b.Covers text start :=
  ⟨start, content, h, le_refl _, by have := b.word_pos content; omega⟩

theorem rewrite_eq_self (f : Char → Char) (text : List Char)
    (h : ∀ start content, ¬b.Occurs text start content) : b.rewrite f text = text :=
  List.ext_getElem? fun i => b.rewrite_uncovered f text i fun ⟨start, content, ho, _⟩ =>
    h start content ho

end Placeholder

end DocBraces
