import DocBraces.Proofs.Braces.Restoring
import DocBraces.Proofs.Text.Lines

/-!
# Kinds of lines

The mode in which a line comes and its backticks and blanks decide what it is. Braces
that are neither backticks nor blanks can be exchanged without a change of the modes and
of the kinds of lines.
-/

set_option autoImplicit false

namespace DocBraces

open DocBraces.Text

inductive LineKind where
  | delimiter
  | fenced
  | indented
  | prose
  deriving DecidableEq, Repr

def LineMode.kind (m : LineMode) (line : List Char) : LineKind :=
  if isFence line then .delimiter
  else if m = .fencedCode then .fenced
  else if isIndented line then .indented
  else .prose

/-- The modes in which lines come, and the mode after the last one. -/
def modes : LineMode → List (List Char) → List LineMode
  | m, [] => [m]
  | m, l :: ls => m :: modes (m.next l) ls

theorem modes_length (m : LineMode) (ls : List (List Char)) :
    (modes m ls).length = ls.length + 1 := by
  induction ls generalizing m with
  | nil => rfl
  | cons l ls ih => simp [modes, ih]

namespace Codec

theorem sanitizeLine_kind (k : Codec) (m : LineMode) (line : List Char) :
    k.sanitizeLine m line = match m.kind line with
      | .delimiter => line
      | .fenced => k.swap line
      | .indented => k.swap line
      | .prose => k.sanitizeProse line := by
  simp only [sanitizeLine, LineMode.kind]
  split
  · rfl
  · split
    · rfl
    · split <;> rfl

theorem sanitizeLines_modes (k : Codec) (m : LineMode) (ls : List (List Char)) :
    k.sanitizeLines m ls = List.zipWith k.sanitizeLine (modes m ls) ls := by
  induction ls generalizing m with
  | nil => simp [sanitizeLines]
  | cons l ls ih => rw [sanitizeLines, modes, List.zipWith_cons_cons, ih]

end Codec

/-- The characters are the same, or neither is a backtick or a blank. -/
def Alike (c d : Char) : Prop :=
  c = d ∨ ((c ≠ tick ∧ isBlank c = false) ∧ d ≠ tick ∧ isBlank d = false)

theorem alike_tick (c d : Char) (h : Alike c d) : c = tick ↔ d = tick := by
  rcases h with rfl | ⟨hc, hd⟩
  · rfl
  · exact iff_of_false hc.1 hd.1

theorem alike_blank (c d : Char) (h : Alike c d) : isBlank c = isBlank d := by
  rcases h with rfl | ⟨hc, hd⟩
  · rfl
  · rw [hc.2, hd.2]

theorem alike_space (c d : Char) (h : Alike c d) : (c == ' ') = (d == ' ') := by
  rcases h with rfl | ⟨hc, hd⟩
  · rfl
  · have hne (e : Char) (he : isBlank e = false) : (e == ' ') = false := by
      rw [beq_eq_false_iff_ne]
      rintro rfl
      simp [isBlank_space] at he
    rw [hne c hc.2, hne d hd.2]

theorem dropWhile_alike (p : Char → Bool) (hp : ∀ c d, Alike c d → p c = p d)
    (cs ds : List Char) (h : List.Forall₂ Alike cs ds) :
    List.Forall₂ Alike (cs.dropWhile p) (ds.dropWhile p) := by
  induction h with
  | nil => exact .nil
  | @cons c d cs ds hcd hrest ih =>
    rw [List.dropWhile_cons, List.dropWhile_cons, hp c d hcd]
    split
    · exact ih
    · exact .cons hcd hrest

theorem ticks_alike (cs ds : List Char) (h : List.Forall₂ Alike cs ds) (n : ℕ) :
    cs = List.replicate n tick ↔ ds = List.replicate n tick := by
  induction h generalizing n with
  | nil => rfl
  | @cons c d cs ds hcd _ ih =>
    cases n with
    | zero => simp
    | succ n => simp [List.replicate_succ, alike_tick c d hcd, ih n]

theorem isFence_alike (line other : List Char) (h : List.Forall₂ Alike line other) :
    isFence line = isFence other := by
  have htrim := dropWhile_alike isBlank alike_blank line other h
  have hticks := ticks_alike _ _ (List.forall₂_take 3 htrim) 3
  rw [Bool.eq_iff_iff]
  simpa [isFence, trimStart] using hticks

theorem head_alike (cs ds : List Char) (h : List.Forall₂ Alike cs ds) :
    cs.head?.any (!isBlank ·) = ds.head?.any (!isBlank ·) := by
  cases h with
  | nil => rfl
  | cons hcd _ => simp [alike_blank _ _ hcd]

theorem isIndented_alike (line other : List Char) (h : List.Forall₂ Alike line other) :
    isIndented line = isIndented other := by
  have hdrop := dropWhile_alike (· == ' ') alike_space line other h
  simp only [isIndented, h.length_eq, hdrop.length_eq, head_alike _ _ hdrop]

theorem next_alike (m : LineMode) (line other : List Char) (h : List.Forall₂ Alike line other) :
    m.next line = m.next other := by
  simp only [LineMode.next, isFence_alike line other h, isIndented_alike line other h]

theorem kind_alike (m : LineMode) (line other : List Char) (h : List.Forall₂ Alike line other) :
    m.kind line = m.kind other := by
  simp only [LineMode.kind, isFence_alike line other h, isIndented_alike line other h]

theorem modes_alike (m : LineMode) (ls ms : List (List Char))
    (h : List.Forall₂ (List.Forall₂ Alike) ls ms) : modes m ls = modes m ms := by
  induction h generalizing m with
  | nil => rfl
  | @cons l l' ls ms hl _ ih => rw [modes, modes, next_alike m l l' hl, ih]

theorem newline_alike (cs ds : List Char) (h : List.Forall₂ Alike cs ds) (hn : '\n' ∉ cs) :
    '\n' ∉ ds := by
  induction h with
  | nil => exact hn
  | @cons c d cs ds hcd _ ih =>
    simp only [List.mem_cons, not_or] at hn ⊢
    refine ⟨?_, ih hn.2⟩
    rintro rfl
    rcases hcd with rfl | ⟨_, _, hd⟩
    · exact hn.1 rfl
    · exact absurd hd (by decide)

theorem newlines_alike (ls ms : List (List Char)) (h : List.Forall₂ (List.Forall₂ Alike) ls ms)
    (hn : ∀ l ∈ ls, '\n' ∉ l) : ∀ m ∈ ms, '\n' ∉ m := by
  induction h with
  | nil => exact hn
  | @cons l m ls ms hlm _ ih =>
    simp only [List.forall_mem_cons] at hn ⊢
    exact ⟨newline_alike l m hlm hn.1, ih hn.2⟩

namespace Codec

def Legible (k : Codec) : Prop :=
  ∀ c ∈ k.ascii.chars ++ k.substitute.chars, c ≠ tick ∧ isBlank c = false

theorem swapChar_mem (k : Codec) (c : Char) (h : c ∈ k.ascii.chars) :
    k.swapChar c ∈ k.substitute.chars := by
  simp only [Alphabet.chars, List.mem_cons, List.not_mem_nil, or_false] at h
  rcases h with rfl | rfl
  · simp [swapChar, Alphabet.exchange_opening, Alphabet.chars]
  · simp [swapChar, Alphabet.exchange_closing, Alphabet.chars]

theorem swapChar_eq_self_iff (k : Codec) (c : Char) : k.swapChar c = c ↔ c ∉ k.ascii.chars :=
  Alphabet.exchange_eq_self_iff k.ascii k.substitute k.disjoint c

theorem swapChar_not_mem (k : Codec) (c : Char) : k.swapChar c ∉ k.ascii.chars :=
  Alphabet.exchange_not_mem k.ascii k.substitute k.disjoint c

theorem alike_of_stays (k : Codec) (hk : k.Legible) (c d : Char)
    (h : StaysOr k.swapChar c d) : Alike c d := by
  rcases h with rfl | rfl
  · exact .inl rfl
  · by_cases hc : c ∈ k.ascii.chars
    · have hs := k.swapChar_mem c hc
      exact .inr ⟨hk c (by simp [hc]), hk _ (by simp [hs])⟩
    · exact .inl ((k.swapChar_eq_self_iff c).mpr hc).symm

theorem sanitizeLine_alike (k : Codec) (hk : k.Legible) (m : LineMode) (line : List Char) :
    List.Forall₂ Alike line (k.sanitizeLine m line) :=
  (k.sanitizeLine_stays m line).imp fun c d => k.alike_of_stays hk c d

theorem sanitizeLines_alike (k : Codec) (hk : k.Legible) (m : LineMode)
    (ls : List (List Char)) : List.Forall₂ (List.Forall₂ Alike) ls (k.sanitizeLines m ls) :=
  (k.sanitizeLines_stays m ls).imp fun _ _ h => h.imp fun c d => k.alike_of_stays hk c d

end Codec

namespace Codec

theorem splitLines_sanitize (k : Codec) (hk : k.Legible) (text : List Char) :
    splitLines (k.sanitize text) = k.sanitizeLines .prose (splitLines text) := by
  have halike := k.sanitizeLines_alike hk .prose (splitLines text)
  refine splitLines_joinLines _ (fun hnil => ?_)
    (newlines_alike _ _ halike (newline_not_mem_splitLines text))
  rw [hnil] at halike
  exact splitLines_ne_nil text (List.forall₂_nil_right_iff.mp halike)

end Codec

end DocBraces
