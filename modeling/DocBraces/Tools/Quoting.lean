import DocBraces.Text.Numeral
import DocBraces.Tools.Basic

/-!
# Quoting

Words of others inside of complaints: in curved quotes with escapes, or in the form in
which a shell would read them back.
-/

set_option autoImplicit false

namespace DocBraces.Tools

open DocBraces.Text

def controlLetter? : Char → Option Char
  | '\x07' => some 'a'
  | '\x08' => some 'b'
  | '\x09' => some 't'
  | '\x0a' => some 'n'
  | '\x0b' => some 'v'
  | '\x0c' => some 'f'
  | '\x0d' => some 'r'
  | _ => none

def isVisible (c : Char) : Bool :=
  32 ≤ c.toNat && c.toNat ≠ 127 && !(128 ≤ c.toNat && c.toNat < 160)

def octalEscape (b : UInt8) : List Char := '\\' :: padLeft 3 '0' (digits 8 b.toNat)

def escapeOf? : Char ⊕ UInt8 → Option (List Char)
  | .inr b => some (octalEscape b)
  | .inl c => match controlLetter? c with
    | some l => some ['\\', l]
    | none => if isVisible c then none else some ((Utf8.encodeChar c).flatMap octalEscape)

def charOf? : Char ⊕ UInt8 → Option Char := Sum.getLeft?

def quoted (bs : Bytes) : String :=
  let shown := fun (x : Char ⊕ UInt8) => match escapeOf? x, x with
    | some cs, _ => cs
    | none, .inl '\\' => ['\\', '\\']
    | none, .inl '’' => ['\\', '’']
    | none, .inl c => [c]
    | none, .inr _ => []
  "‘" ++ String.ofList ((charsOf 0 bs).flatMap shown) ++ "’"

def quotedText (s : String) : String := quoted (bytes s)

def isShellSign (c : Char) : Bool := " !\"$&()*;<=>?[^\x60|\\'".toList.contains c

def isFrontSign (cs : List Char) : Bool :=
  match cs with
  | [c] => ['\x7b', '\x7d', '#', '~'].contains c
  | c :: _ => c == '#' || c == '~'
  | [] => true

def suitsDoubleQuotes (cs : List Char) : Bool :=
  let isPlain := fun (c : Char) => c == ' ' || c == '\'' ||
    (!isShellSign c && !(['#', '~', '\x7b', '\x7d'].contains c))
  let front := cs.head? == some '#' || cs.head? == some '~'
  (if front then cs.drop 1 else cs).all isPlain

def singleQuoted : (inEscape : Bool) → List (Char ⊕ UInt8) → List Char
  | _, [] => ['\'']
  | inEscape, x :: xs => match escapeOf? x with
    | some cs => (if inEscape then [] else "'$'".toList) ++ cs ++ singleQuoted true xs
    | none =>
      if x == .inl '\'' then "'\\''".toList ++ singleQuoted false xs
      else (if inEscape then ['\'', '\''] else []) ++ (charOf? x).toList ++ singleQuoted false xs

/-- Octets as a shell would read them back, always in quotes or only where they need
them; further signs may need them too. -/
def shellForm (always : Bool) (further : List Char) (bs : Bytes) : String :=
  let parts := charsOf 0 bs
  let cs := parts.filterMap charOf?
  let hidden := parts.any fun x => (escapeOf? x).isSome
  let needs := hidden || isFrontSign cs || cs.any fun c => isShellSign c || further.contains c
  if !always && !needs then String.ofList cs
  else if !hidden && cs.contains '\'' && suitsDoubleQuotes cs then
    "\"" ++ String.ofList cs ++ "\""
  else String.ofList ('\'' :: singleQuoted false parts)

def fileName (n : Bytes) : String := shellForm false [':'] n

def inQuotes (n : Bytes) : String := shellForm true [] n

end DocBraces.Tools
