import DocBraces.Pattern.Expr

/-!
# Places of a text

A place in a text, what stands around it, and what a match under way has noted down:
the place it looked at last, and the borders of the groups it has passed.
-/

set_option autoImplicit false

namespace DocBraces.Pattern

open DocBraces.Text

/-- A place in a text: the characters before it, nearest first, and those after it. -/
structure Cursor where
  before : List Char
  after : List Char
  deriving DecidableEq, Repr

namespace Cursor

def advance : Nat → Cursor → Cursor
  | 0, p => p
  | n + 1, p => match p.after with
    | [] => p
    | c :: cs => advance n ⟨c :: p.before, cs⟩

def retreat? : Nat → Cursor → Option Cursor
  | 0, p => some p
  | n + 1, p => match p.before with
    | [] => none
    | c :: cs => retreat? n ⟨cs, c :: p.after⟩

def meets (p q : Cursor) : Bool := p.after.length == q.after.length

def atBoundary (asciiOnly : Bool) (p : Cursor) : Bool :=
  let inWord := fun c => if asciiOnly then isAsciiWord c else isWord c
  (p.before.head?.any inWord) != (p.after.head?.any inWord)

def satisfies (p : Cursor) : Anchor → Bool
  | .textStart => p.before.isEmpty
  | .lineStart => p.before.isEmpty || p.before.head? == some '\n'
  | .textEnd => p.after.isEmpty
  | .lastLineEnd => p.after.isEmpty || p.after == ['\n']
  | .lineEnd => p.after.isEmpty || p.after.head? == some '\n'
  | .boundary asciiOnly negated =>
    if p.before.isEmpty && p.after.isEmpty then false
    else p.atBoundary asciiOnly != negated

/-- The places reached by moving over characters that pass a test, at most so many, the
furthest first; the place itself is the last. -/
def reach (test : Char → Bool) :
    (most : Option Nat) → (before after : List Char) → List Cursor → List Cursor
  | _, before, [], found => ⟨before, []⟩ :: found
  | most, before, c :: cs, found =>
    if most != some 0 && test c then
      reach test (most.map (· - 1)) (c :: before) cs (⟨before, c :: cs⟩ :: found)
    else ⟨before, c :: cs⟩ :: found

def reaches (test : Char → Bool) (most : Option Nat) (p : Cursor) : List Cursor :=
  reach test most p.before p.after []

def hasAhead (n : Nat) (p : Cursor) : Bool := (p.after.take n).length == n

end Cursor

/-- What a match under way has noted: the place looked at last, and the borders of
groups. Group `n` begins at border `2n - 2` and ends at border `2n - 1`. -/
structure Notes where
  place : Cursor
  borders : List (Option Cursor) := []
  deriving DecidableEq, Repr

namespace Notes

def lookAt (s : Notes) (p : Cursor) : Notes := { s with place := p }

def mark (i : Nat) (p : Cursor) (s : Notes) : Notes :=
  { s with borders :=
      if i < s.borders.length then s.borders.set i (some p)
      else s.borders ++ List.replicate (i - s.borders.length) none ++ [some p] }

/-- Gives up what was noted since `saved`. Inside of a repetition all borders are put
back; elsewhere later ones are forgotten, and older ones stay as they were noted last. -/
def backTo (s : Notes) (inRounds : Bool) (saved : Notes) : Notes :=
  { s with borders :=
      if inRounds then saved.borders else s.borders.take saved.borders.length }

def groupText? (s : Notes) (n : Nat) : Option (List Char) :=
  match s.borders[2 * n - 2]?, s.borders[2 * n - 1]? with
  | some (some p), some (some q) =>
    if q.after.length ≤ p.after.length then some (p.after.take (p.after.length - q.after.length))
    else none
  | _, _ => none

end Notes

end DocBraces.Pattern
