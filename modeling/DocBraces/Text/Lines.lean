/-!
# Lines

Cutting text at line feeds and joining it again, and reading every line ending as
a line feed.
-/

set_option autoImplicit false

namespace DocBraces.Text

def splitLines : List Char → List (List Char)
  | [] => [[]]
  | c :: cs =>
    if c = '\n' then [] :: splitLines cs
    else match splitLines cs with
      | [] => [[c]]
      | l :: ls => (c :: l) :: ls

def joinLines : List (List Char) → List Char
  | [] => []
  | [l] => l
  | l :: ls => l ++ '\n' :: joinLines ls

theorem splitLines_ne_nil (cs : List Char) : splitLines cs ≠ [] := by
  cases cs with
  | nil => simp [splitLines]
  | cons c cs =>
    simp only [splitLines]
    split
    · simp
    · split <;> simp

theorem joinLines_cons (l : List Char) (ls : List (List Char)) (h : ls ≠ []) :
    joinLines (l :: ls) = l ++ '\n' :: joinLines ls := by
  cases ls with
  | nil => exact absurd rfl h
  | cons m ms => rfl

theorem joinLines_splitLines (cs : List Char) : joinLines (splitLines cs) = cs := by
  induction cs with
  | nil => rfl
  | cons c cs ih =>
    have hne := splitLines_ne_nil cs
    simp only [splitLines]
    split
    · next h => rw [joinLines_cons _ _ hne, ih, h]; rfl
    · split
      · next h => exact absurd h hne
      · next l ls h =>
        rw [h] at ih
        cases ls with
        | nil => simpa [joinLines] using ih
        | cons m ms => simpa [joinLines] using ih

def unifyNewlines : List Char → List Char
  | [] => []
  | '\r' :: '\n' :: cs => '\n' :: unifyNewlines cs
  | c :: cs => (if c = '\r' then '\n' else c) :: unifyNewlines cs

end DocBraces.Text
