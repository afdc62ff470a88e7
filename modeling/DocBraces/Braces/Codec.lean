import DocBraces.Braces.Alphabet
import DocBraces.Braces.InlineCode
import DocBraces.Pattern.Matching
import DocBraces.Pattern.Parse
import DocBraces.Text.Lines

/-!
# Codecs

A codec replaces ASCII braces by substitutes where a documentation generator would
read them as links, and puts them back everywhere. Sanitizing replaces braces in
fenced and indented code, in inline code, and in placeholders of prose; fence lines
and other braces of prose stay.
-/

set_option autoImplicit false

namespace DocBraces

open DocBraces.Text DocBraces.Pattern

def defaultPlaceholder : String := "A-Za-z0-9_:\\-"

def isPatternSign (c : Char) : Bool :=
  ['(', ')', '[', ']', '\x7b', '\x7d', '?', '*', '+', '-', '|', '^', '$', '\\', '.', '&', '~',
   '#', ' ', '\t', '\n', '\r', '\x0b', '\x0c'].contains c

def literally (c : Char) : List Char := if isPatternSign c then ['\\', c] else [c]

def placeholderText (a : Alphabet) (placeholder : String) : List Char :=
  literally a.opening ++ '[' :: placeholder.toList ++ ']' :: '+' :: literally a.closing

def exactly (c : Char) : Expr := .one {} (.ofChar c)

def doublePlaceholder (a : Alphabet) : Expr :=
  .seq (exactly a.opening) <| .seq (exactly a.opening) <|
    .seq (.rounds .greedy 1 none (.one {} (.excluding a.chars))) <|
      .seq (exactly a.closing) (exactly a.closing)

structure Codec where
  ascii : Alphabet
  substitute : Alphabet
  disjoint : ∀ c ∈ ascii.chars, c ∉ substitute.chars
  placeholder : String
  /-- What a placeholder in single braces matches. -/
  single : Expr

namespace Codec

inductive Fault where
  | overlap (shared : List Char)
  | badPlaceholder (placeholder : String) (pattern : List Char) (fault : Pattern.Fault)
  | excess (excess : Pattern.Excess)

def Fault.message : Fault → String
  | .overlap cs => "ASCII braces must not overlap the substitute braces (shared: " ++
      String.ofList (quotedChars cs) ++ ")"
  | .badPlaceholder p text f =>
    "Invalid placeholder character class " ++ quoted p ++ ": " ++ f.message text
  | .excess e => e.message

/-- Builds a codec. The alphabets must be disjoint, and the placeholder's characters
must read as the inside of a class when they are put between brackets. -/
def build (ascii substitute : Alphabet) (placeholder : String) : Except Fault Codec :=
  if h : ascii.isApart substitute then
    let text := placeholderText ascii placeholder
    match parse text with
    | .ok single =>
      .ok { ascii, substitute, disjoint := (ascii.isApart_iff substitute).1 h, placeholder, single }
    | .error (.fault f) => .error (.badPlaceholder placeholder text f)
    | .error (.excess e) => .error (.excess e)
  else .error (.overlap (ascii.shared substitute))

def swapChar (k : Codec) : Char → Char := k.ascii.exchange k.substitute

def swap (k : Codec) (text : List Char) : List Char := text.map k.swapChar

def sanitizeInlineCode (k : Codec) (line : List Char) : List Char := mapInlineCode k.swapChar line

/-- Inline code first, then placeholders in doubled braces, then those in single
braces. -/
def sanitizeProse (k : Codec) (line : List Char) : List Char :=
  k.single.rewrite k.swapChar <|
    (doublePlaceholder k.ascii).rewrite k.swapChar <| k.sanitizeInlineCode line

def sanitizeLine (k : Codec) (m : LineMode) (line : List Char) : List Char :=
  if isFence line then line
  else if m = .fencedCode then k.swap line
  else if isIndented line then k.swap line
  else k.sanitizeProse line

def step (k : Codec) (m : LineMode) (line : List Char) : LineMode × List Char :=
  (m.next line, k.sanitizeLine m line)

def sanitizeLines (k : Codec) : LineMode → List (List Char) → List (List Char)
  | _, [] => []
  | m, l :: ls => k.sanitizeLine m l :: k.sanitizeLines (m.next l) ls

def sanitize (k : Codec) (text : List Char) : List Char :=
  joinLines (k.sanitizeLines .prose (splitLines text))

def endsInFence (text : List Char) : Bool :=
  (splitLines text).foldl LineMode.next .prose == .fencedCode

def restore (k : Codec) (text : List Char) : List Char :=
  text.map (k.substitute.exchange k.ascii)

/-- Letters, digits, underscore, colon or hyphen, one or more, between braces. -/
def defaultSingle : Expr :=
  .seq (.seq (exactly '\x7b') (.rounds .greedy 1 none (.one {} { items :=
    [.range 65 90, .range 97 122, .range 48 57, .single 95, .single 58, .single 45] })))
    (exactly '\x7d')

protected def default : Codec where
  ascii := .ascii
  substitute := .fullwidth
  disjoint := by simp [Alphabet.chars, Alphabet.ascii, Alphabet.fullwidth]
  placeholder := defaultPlaceholder
  single := defaultSingle

end Codec

end DocBraces
