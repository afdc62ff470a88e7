import DocBraces.Text.Numeral

/-!
# Source texts

The text that is still to be read, with the place reached in it. Past the end there
is a NUL, which no text contains.
-/

set_option autoImplicit false

namespace DocBraces.Yaml

open DocBraces.Text

def isAllowed (c : Char) : Bool :=
  let n := c.toNat
  n == 9 || n == 10 || n == 13 || (0x20 ≤ n && n ≤ 0x7E) || n == 0x85 ||
    (0xA0 ≤ n && n ≤ 0xD7FF) || (0xE000 ≤ n && n ≤ 0xFFFD) || 0x10000 ≤ n

def isEnd (c : Char) : Bool := c == '\x00'

def isBreak (c : Char) : Bool :=
  c == '\n' || c == '\r' || c == '\x85' || c == '\u2028' || c == '\u2029'

def endsLine (c : Char) : Bool := isEnd c || isBreak c

def endsField (c : Char) : Bool := endsLine c || c == ' '

def endsWord (c : Char) : Bool := endsField c || c == '\t'

def byteOrderMark : Char := '\ufeff'

structure Source where
  rest : List Char
  index : Nat := 0
  line : Nat := 0
  column : Nat := 0

namespace Source

def peek (s : Source) (n : Nat := 0) : Char := (s.rest[n]?).getD '\x00'

def step (s : Source) : Source :=
  match s.rest with
  | [] => s
  | c :: cs =>
    let index := s.index + 1
    if c == '\r' && cs.head? == some '\n' then { s with rest := cs, index, column := s.column + 1 }
    else if isBreak c then { rest := cs, index, line := s.line + 1, column := 0 }
    else if c == byteOrderMark then { s with rest := cs, index }
    else { s with rest := cs, index, column := s.column + 1 }

def forward : Nat → Source → Source
  | 0, s => s
  | n + 1, s => forward n s.step

def takeWhile (s : Source) (test : Char → Bool) : List Char × Source :=
  let taken := s.rest.takeWhile test
  (taken, s.forward taken.length)

def skipWhile (s : Source) (test : Char → Bool) : Source := (s.takeWhile test).2

def skipSpaces (s : Source) : Source := s.skipWhile (· == ' ')

def skipSpacesTo (s : Source) (column : Nat) : Source :=
  s.forward ((s.rest.takeWhile (· == ' ')).take (column - s.column)).length

/-- Reads a line break; every kind but the two separators counts as a line feed. -/
def lineBreak? (s : Source) : Option (Char × Source) :=
  match s.rest with
  | '\r' :: '\n' :: _ => some ('\n', s.forward 2)
  | c :: _ =>
    if isBreak c then
      some (if c == '\u2028' || c == '\u2029' then c else '\n', s.step)
    else none
  | [] => none

def atMarker (s : Source) : Bool :=
  (s.rest.take 3 == ['-', '-', '-'] || s.rest.take 3 == ['.', '.', '.']) && endsWord (s.peek 3)

end Source

/-- The text of a scalar. Escapes may spell code points that are no characters. -/
inductive Content where
  | chars (cs : List Char)
  | codes (ns : List Nat)
  deriving DecidableEq, Repr

def Content.toCodes : Content → List Nat
  | .chars cs => cs.map Char.toNat
  | .codes ns => ns

def Content.ofCodes (ns : List Nat) : Content :=
  match ns.mapM char? with
  | some cs => .chars cs
  | none => .codes ns

end DocBraces.Yaml
