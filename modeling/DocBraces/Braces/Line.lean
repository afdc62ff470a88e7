import DocBraces.Text.Blank

/-!
# Lines of a Markdown text

What a line is when it is looked at alone, and what the scanner is in between lines.
-/

set_option autoImplicit false

namespace DocBraces

open DocBraces.Text

def tick : Char := '\x60'

inductive LineMode where
  | prose
  | fencedCode
  | indentedCode
  deriving DecidableEq, Repr

def LineMode.name : LineMode → String
  | .prose => "prose"
  | .fencedCode => "fenced_code"
  | .indentedCode => "indented_code"

def isFence (line : List Char) : Bool :=
  (trimStart line).take 3 == [tick, tick, tick]

def isIndented (line : List Char) : Bool :=
  let rest := line.dropWhile (· == ' ')
  4 ≤ line.length - rest.length && rest.head?.any (!isBlank ·)

def LineMode.next (m : LineMode) (line : List Char) : LineMode :=
  if isFence line then (if m = .fencedCode then .prose else .fencedCode)
  else if m = .fencedCode then .fencedCode
  else if isIndented line then .indentedCode
  else .prose

end DocBraces
