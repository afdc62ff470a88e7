import DocBraces.Text.Numeral
import DocBraces.Text.Printable

/-!
# Quoted text

Text between quotes, as messages show it. Single quotes, unless the text holds
single quotes and no double ones; what has no visible form is written as an escape.
-/

set_option autoImplicit false

namespace DocBraces.Text

def quoteFor (cs : List Char) : Char :=
  if cs.contains '\'' && !cs.contains '"' then '"' else '\''

def escapeChar (quote c : Char) : List Char :=
  if c = quote ∨ c = '\\' then ['\\', c]
  else if c = '\n' then ['\\', 'n']
  else if c = '\r' then ['\\', 'r']
  else if c = '\t' then ['\\', 't']
  else if isPrintable c then [c]
  else if c.toNat < 0x100 then '\\' :: 'x' :: hex 2 c.toNat
  else if c.toNat < 0x10000 then '\\' :: 'u' :: hex 4 c.toNat
  else '\\' :: 'U' :: hex 8 c.toNat

def quotedChars (cs : List Char) : List Char :=
  let q := quoteFor cs
  q :: cs.flatMap (escapeChar q) ++ [q]

def quoted (s : String) : String := String.ofList (quotedChars s.toList)

end DocBraces.Text
