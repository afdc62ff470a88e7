import DocBraces.Braces.Line

/-!
# Inline code

A span is a non-empty text without backticks between two backticks. Spans are
taken from the left and share no backtick.
-/

set_option autoImplicit false

namespace DocBraces

/-- Length of the span's content that a backtick begins, given what follows it; zero
if it begins none. -/
def contentLength (rest : List Char) : Nat :=
  let content := rest.takeWhile (· != tick)
  if content.length < rest.length then content.length else 0

/-- Applies `f` to the content of spans; `left` counts what is still to come of the
span under way, its closing backtick included. -/
def mapInlineCodeFrom (f : Char → Char) : (left : Nat) → List Char → List Char
  | _, [] => []
  | n + 1, c :: cs => (if c = tick then c else f c) :: mapInlineCodeFrom f n cs
  | 0, c :: cs =>
    if c = tick then
      c :: match contentLength cs with
        | 0 => mapInlineCodeFrom f 0 cs
        | n + 1 => mapInlineCodeFrom f (n + 2) cs
    else c :: mapInlineCodeFrom f 0 cs

def mapInlineCode (f : Char → Char) (line : List Char) : List Char := mapInlineCodeFrom f 0 line

end DocBraces
