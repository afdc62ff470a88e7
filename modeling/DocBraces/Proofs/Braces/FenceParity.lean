import DocBraces.Braces.Codec
import DocBraces.Proofs.Text.Lines
import Mathlib.Algebra.Ring.Parity
import Mathlib.Data.List.TakeWhile

/-!
# Fences by parity

The scanner carries a mode from line to line. Only one bit of it matters: whether the
number of fence delimiters so far is odd. So every line can be rewritten from the lines
before it without a scanner, and a text can be cut wherever that number is even.
-/

set_option autoImplicit false

namespace DocBraces

open DocBraces.Text

/-- Three backticks stand at the start, or after blanks only. -/
def Delimits (line : List Char) : Prop :=
  ∃ blanks rest, (∀ c ∈ blanks, isBlank c = true) ∧ line = blanks ++ tick :: tick :: tick :: rest

/-- Four or more spaces stand directly before a character that is not blank. -/
def Indents (line : List Char) : Prop :=
  ∃ n c rest, 4 ≤ n ∧ isBlank c = false ∧ line = List.replicate n ' ' ++ c :: rest

theorem isBlank_tick : isBlank tick = false := by decide

theorem isFence_iff (line : List Char) : isFence line = true ↔ Delimits line := by
  constructor
  · intro h
    obtain ⟨rest, hrest⟩ : ∃ rest, trimStart line = tick :: tick :: tick :: rest := by
      refine ⟨(trimStart line).drop 3, ?_⟩
      have ht : (trimStart line).take 3 = [tick, tick, tick] := by simpa [isFence] using h
      rw [← List.take_append_drop 3 (trimStart line), ht]
      simp
    refine ⟨line.takeWhile isBlank, rest, fun c hc => List.mem_takeWhile_imp hc, ?_⟩
    rw [← hrest, trimStart, List.takeWhile_append_dropWhile]
  · rintro ⟨blanks, rest, hb, rfl⟩
    have ht : trimStart (blanks ++ tick :: tick :: tick :: rest) = tick :: tick :: tick :: rest := by
      rw [trimStart, List.dropWhile_append_of_pos hb]
      simp [isBlank_tick]
    simp [isFence, ht]

theorem isIndented_iff (line : List Char) : isIndented line = true ↔ Indents line := by
  have hcut := List.takeWhile_append_dropWhile (p := (· == ' ')) (l := line)
  have hspaces : line.takeWhile (· == ' ') =
      List.replicate (line.takeWhile (· == ' ')).length ' ' :=
    List.eq_replicate_of_mem fun c hc => by simpa using List.mem_takeWhile_imp hc
  constructor
  · intro h
    simp only [isIndented, Bool.and_eq_true, decide_eq_true_eq] at h
    cases hd : line.dropWhile (· == ' ') with
    | nil => simp [hd] at h
    | cons c rest =>
      refine ⟨(line.takeWhile (· == ' ')).length, c, rest, ?_, ?_, ?_⟩
      · have hlen := congrArg List.length hcut
        rw [List.length_append] at hlen
        omega
      · simpa [hd] using h.2
      · rw [← hspaces, ← hd, hcut]
  · rintro ⟨n, c, rest, hn, hc, rfl⟩
    have hne : (c == ' ') = false := by
      by_contra hs
      have : c = ' ' := by simpa using hs
      rw [this, isBlank_space] at hc
      exact Bool.noConfusion hc
    have hd : (List.replicate n ' ' ++ c :: rest).dropWhile (· == ' ') = c :: rest := by
      rw [List.dropWhile_append_of_pos (by simp)]
      simp [hne]
    simp [isIndented, hd, hc]
    omega

instance : DecidablePred Delimits := fun line => decidable_of_iff _ (isFence_iff line)

instance : DecidablePred Indents := fun line => decidable_of_iff _ (isIndented_iff line)

def delimiters (ls : List (List Char)) : ℕ := ls.countP fun l => Delimits l

theorem delimiters_snoc (ls : List (List Char)) (l : List Char) :
    delimiters (ls ++ [l]) = delimiters ls + if Delimits l then 1 else 0 := by
  simp [delimiters, List.countP_append, List.countP_singleton]

def Counts (m : LineMode) (n : ℕ) : Prop := m = .fencedCode ↔ Odd n

theorem next_counts (m : LineMode) (earlier : List (List Char)) (line : List Char)
    (h : Counts m (delimiters earlier)) :
    Counts (m.next line) (delimiters (earlier ++ [line])) := by
  rw [Counts] at h ⊢
  rw [delimiters_snoc]
  by_cases hf : Delimits line
  · have hb := (isFence_iff line).mpr hf
    by_cases hm : m = .fencedCode
    · have ho := h.mp hm
      simp [LineMode.next, hb, hm, hf, Nat.odd_add_one, ho]
    · have ho : ¬Odd (delimiters earlier) := fun ho => hm (h.mpr ho)
      simp [LineMode.next, hb, hm, hf, Nat.odd_add_one, ho]
  · have hb : isFence line = false := by simpa using fun hb => hf ((isFence_iff line).mp hb)
    have hnext : m.next line = .fencedCode ↔ m = .fencedCode := by
      simp only [LineMode.next, hb, Bool.false_eq_true, if_false]
      split
      · simp_all
      · split <;> simp_all
    rw [hnext, if_neg hf, Nat.add_zero, h]

theorem modes_count (m : LineMode) (earlier ls : List (List Char))
    (h : Counts m (delimiters earlier)) :
    Counts (ls.foldl LineMode.next m) (delimiters (earlier ++ ls)) := by
  induction ls generalizing m earlier with
  | nil => simpa using h
  | cons l ls ih =>
    have hl := ih (m.next l) (earlier ++ [l]) (next_counts m earlier l h)
    simpa using hl

theorem prose_counts : Counts .prose (delimiters []) := by
  simp [Counts, delimiters]

namespace Codec

/-- A line as it is written out, given the lines before it. -/
def lineByParity (k : Codec) (earlier : List (List Char)) (line : List Char) : List Char :=
  if Delimits line then line
  else if Odd (delimiters earlier) then k.swap line
  else if Indents line then k.swap line
  else k.sanitizeProse line

theorem sanitizeLine_parity (k : Codec) (m : LineMode) (earlier : List (List Char))
    (line : List Char) (h : Counts m (delimiters earlier)) :
    k.sanitizeLine m line = k.lineByParity earlier line := by
  simp only [sanitizeLine, lineByParity, isFence_iff, isIndented_iff, h.eq]

theorem sanitizeLines_parity (k : Codec) (m : LineMode) (earlier ls : List (List Char))
    (h : Counts m (delimiters earlier)) :
    k.sanitizeLines m ls = ls.mapIdx fun i l => k.lineByParity (earlier ++ ls.take i) l := by
  induction ls generalizing m earlier with
  | nil => rfl
  | cons l ls ih =>
    rw [sanitizeLines, ih (m.next l) (earlier ++ [l]) (next_counts m earlier l h),
      k.sanitizeLine_parity m earlier l h]
    simp [List.mapIdx_cons]

theorem step_indented (k : Codec) (line : List Char) :
    k.step .indentedCode line = k.step .prose line := by
  simp [step, LineMode.next, sanitizeLine]

theorem sanitizeLines_append (k : Codec) (m : LineMode) (ls ms : List (List Char)) :
    k.sanitizeLines m (ls ++ ms) =
      k.sanitizeLines m ls ++ k.sanitizeLines (ls.foldl LineMode.next m) ms := by
  induction ls generalizing m with
  | nil => rfl
  | cons l ls ih => simp [sanitizeLines, ih]

theorem sanitizeLines_unfenced (k : Codec) (m : LineMode) (ls : List (List Char))
    (h : m ≠ .fencedCode) : k.sanitizeLines m ls = k.sanitizeLines .prose ls := by
  cases m with
  | prose => rfl
  | fencedCode => exact absurd rfl h
  | indentedCode =>
    cases ls with
    | nil => rfl
    | cons l ls =>
      have hs := k.step_indented l
      simp only [step, Prod.mk.injEq] at hs
      simp only [sanitizeLines, hs.1, hs.2]

theorem sanitizeLines_take (k : Codec) (m : LineMode) (n : ℕ) (ls : List (List Char)) :
    (k.sanitizeLines m ls).take n = k.sanitizeLines m (ls.take n) := by
  induction ls generalizing m n with
  | nil => simp [sanitizeLines]
  | cons l ls ih =>
    cases n with
    | zero => rfl
    | succ n => simp [sanitizeLines, ih]

theorem sanitizeLines_ne_nil (k : Codec) (m : LineMode) (ls : List (List Char)) (h : ls ≠ []) :
    k.sanitizeLines m ls ≠ [] := by
  cases ls with
  | nil => exact absurd rfl h
  | cons l ls => simp [sanitizeLines]

theorem sanitize_append (k : Codec) (a b : List Char)
    (h : Even (delimiters (splitLines a))) :
    k.sanitize (a ++ '\n' :: b) = k.sanitize a ++ '\n' :: k.sanitize b := by
  have hcount := modes_count .prose [] (splitLines a) prose_counts
  have hmode : (splitLines a).foldl LineMode.next .prose ≠ .fencedCode := fun hm =>
    Nat.not_odd_iff_even.mpr h (hcount.mp hm)
  have hne := splitLines_ne_nil
  rw [sanitize, splitLines_append, sanitizeLines_append, k.sanitizeLines_unfenced _ _ hmode,
    joinLines_append _ _ (k.sanitizeLines_ne_nil _ _ (hne a)) (k.sanitizeLines_ne_nil _ _ (hne b))]
  rfl

/-- The scanner writes every line as the parity of the delimiters before it demands. Its
two modes outside of fences cannot be told apart, what it writes for the first lines is
settled by these lines, and it starts afresh after an even number of delimiters. -/
theorem sanitizing_by_parity (k : Codec) :
    (∀ text, k.sanitize text =
      joinLines ((splitLines text).mapIdx fun i l => k.lineByParity ((splitLines text).take i) l)) ∧
    (∀ line, k.step .indentedCode line = k.step .prose line) ∧
    (∀ n ls, (k.sanitizeLines .prose ls).take n = k.sanitizeLines .prose (ls.take n)) ∧
    (∀ a b, Even (delimiters (splitLines a)) →
      k.sanitize (a ++ '\n' :: b) = k.sanitize a ++ '\n' :: k.sanitize b) := by
  refine ⟨fun text => ?_, k.step_indented, k.sanitizeLines_take .prose, k.sanitize_append⟩
  rw [sanitize, k.sanitizeLines_parity .prose [] _ prose_counts]
  rfl

end Codec

end DocBraces
