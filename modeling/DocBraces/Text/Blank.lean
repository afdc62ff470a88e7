import DocBraces.Text.Range

/-!
# Blank characters

White space in the sense of the Unicode standard, together with the four
separator controls. Core's `Char.isWhitespace` knows four characters only.
-/

set_option autoImplicit false

namespace DocBraces.Text

def blankRanges : Ranges :=
  [(9, 13), (28, 32), (133, 133), (160, 160), (5760, 5760), (8192, 8202), (8232, 8233),
   (8239, 8239), (8287, 8287), (12288, 12288)]

def isBlank (c : Char) : Bool := blankRanges.holds c.toNat

def trimStart (cs : List Char) : List Char := cs.dropWhile isBlank

def trimEnd (cs : List Char) : List Char := (cs.reverse.dropWhile isBlank).reverse

def trim (cs : List Char) : List Char := trimEnd (trimStart cs)

theorem isBlank_space : isBlank ' ' = true := by decide

end DocBraces.Text
