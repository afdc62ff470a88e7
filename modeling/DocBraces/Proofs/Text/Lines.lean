import DocBraces.Text.Lines

/-!
# Cutting and joining lines

Cutting a joined text gives the lines back, and both go along with a cut of the text at
a line feed.
-/

set_option autoImplicit false

namespace DocBraces.Text

theorem splitLines_append (a b : List Char) :
    splitLines (a ++ '\n' :: b) = splitLines a ++ splitLines b := by
  induction a with
  | nil => simp [splitLines]
  | cons c a ih =>
    simp only [List.cons_append, splitLines, ih]
    split
    · simp
    · cases hs : splitLines a with
      | nil => exact absurd hs (splitLines_ne_nil a)
      | cons l ls => simp

theorem joinLines_append (ls ms : List (List Char)) (hl : ls ≠ []) (hm : ms ≠ []) :
    joinLines (ls ++ ms) = joinLines ls ++ '\n' :: joinLines ms := by
  induction ls with
  | nil => exact absurd rfl hl
  | cons l ls ih =>
    cases ls with
    | nil => exact joinLines_cons l ms hm
    | cons n ns =>
      rw [List.cons_append, joinLines_cons l _ (by simp), ih (by simp),
        joinLines_cons l _ (by simp)]
      simp

theorem newline_not_mem_splitLines (cs : List Char) : ∀ l ∈ splitLines cs, '\n' ∉ l := by
  induction cs with
  | nil => simp [splitLines]
  | cons c cs ih =>
    rw [splitLines]
    split
    · intro l hl
      rcases List.mem_cons.mp hl with rfl | hl
      · simp
      · exact ih l hl
    · next hc =>
      cases hs : splitLines cs with
      | nil => exact absurd hs (splitLines_ne_nil cs)
      | cons l ls =>
        rw [hs] at ih
        intro m hm
        rcases List.mem_cons.mp hm with rfl | hm
        · simp [ih l (by simp), Ne.symm hc]
        · exact ih m (by simp [hm])

theorem splitLines_plain (l : List Char) (h : '\n' ∉ l) : splitLines l = [l] := by
  induction l with
  | nil => rfl
  | cons c cs ih =>
    simp only [List.mem_cons, not_or] at h
    simp [splitLines, Ne.symm h.1, ih h.2]

theorem splitLines_joinLines (ls : List (List Char)) (hne : ls ≠ []) (h : ∀ l ∈ ls, '\n' ∉ l) :
    splitLines (joinLines ls) = ls := by
  induction ls with
  | nil => exact absurd rfl hne
  | cons l ls ih =>
    have hl := h l (by simp)
    cases ls with
    | nil => exact splitLines_plain l hl
    | cons m ms =>
      rw [joinLines_cons l _ (by simp), splitLines_append, splitLines_plain l hl,
        ih (by simp) fun n hn => h n (by simp [hn])]
      rfl

end DocBraces.Text
