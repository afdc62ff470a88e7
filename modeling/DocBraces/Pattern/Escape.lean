import DocBraces.Pattern.Reading
import DocBraces.Text.CharName

/-!
# Escapes

What a backslash and the character after it stand for, inside and outside of
classes.
-/

set_option autoImplicit false

namespace DocBraces.Pattern

open DocBraces.Text

namespace Reading

def controlOf? : Char → Option Nat
  | 'a' => some 7
  | 'b' => some 8
  | 'f' => some 12
  | 'n' => some 10
  | 'r' => some 13
  | 't' => some 9
  | 'v' => some 11
  | '\\' => some 92
  | _ => none

def categoryOf? : Char → Option ClassItem
  | 'd' => some (.category .digit false)
  | 'D' => some (.category .digit true)
  | 's' => some (.category .space false)
  | 'S' => some (.category .space true)
  | 'w' => some (.category .word false)
  | 'W' => some (.category .word true)
  | _ => none

def escapeText (c : Char) (digits : List Char) : String := String.ofList ('\\' :: c :: digits)

def hexCode (c : Char) (width : Nat) : Reading Nat := do
  let ds ← plainWhile width isHexDigit
  if ds.length < width then
    fail (.incompleteEscape (escapeText c ds)) (2 + ds.length)
  let n := ofDigits 16 ds
  if n < 0x110000 then return n
  else if 0x80000000 ≤ n then throw (.excess .code)
  else fail (.badEscape (escapeText c ds)) (2 + ds.length)

def namedCode : Reading Nat := do
  unless ← accept '\x7b' do fail .missingNameBrace
  let name ← nameUntil '\x7d' "character name"
  match charOfName? name with
  | some n => return n
  | none => fail (.unknownCharacter (String.ofList name)) (name.length + 4)

def octalCode (c : Char) : Reading Nat := do
  let ds ← plainWhile 2 isOctalDigit
  let n := ofDigits 8 (c :: ds)
  if 0xFF < n then fail (.octalTooLarge (escapeText c ds)) (2 + ds.length)
  else return n

/-- Escapes that mean the same inside and outside of classes; a letter or digit
without a meaning is a fault, anything else stands for itself. -/
def plainEscape (c : Char) : Reading Nat := do
  match c with
  | 'x' => hexCode c 2
  | 'u' => hexCode c 4
  | 'U' => hexCode c 8
  | 'N' => namedCode
  | _ =>
    if c.isAlphanum then fail (.badEscape (escapeText c [])) 2
    else return c.toNat

def classEscape (c : Char) : Reading ClassItem := do
  match controlOf? c, categoryOf? c with
  | some n, _ => return .single n
  | none, some item => return item
  | none, none =>
    if isOctalDigit c then return .single (← octalCode c)
    else return .single (← plainEscape c)

def anchorOf? (m : Mode) : Char → Option Anchor
  | 'A' => some .textStart
  | 'Z' => some .textEnd
  | 'b' => some (.boundary m.asciiOnly false)
  | 'B' => some (.boundary m.asciiOnly true)
  | _ => none

def oneOf (m : Mode) (code : Nat) : Expr := .one m { items := [.single code] }

def backReference (m : Mode) (c : Char) : Reading Expr := do
  let second ← plainWhile 1 Char.isDigit
  if isOctalDigit c && second.all isOctalDigit && !second.isEmpty then
    let third ← plainWhile 1 isOctalDigit
    unless third.isEmpty do
      let ds := second ++ third
      let n := ofDigits 8 (c :: ds)
      if 0xFF < n then fail (.octalTooLarge (escapeText c ds)) (2 + ds.length)
      return oneOf m n
  let n := ofDigits 10 (c :: second)
  if n < (← groupCount) then
    unless ← isClosed n do fail .openGroup (2 + second.length)
    checkBehind n
    return .again m n
  else fail (.noSuchGroup n) (1 + second.length)

def escape (m : Mode) (c : Char) : Reading Expr := do
  match anchorOf? m c, categoryOf? c, controlOf? c with
  | some a, _, _ => return .anchor a
  | none, some item, _ => return .one m { items := [item] }
  | none, none, some n => return oneOf m n
  | none, none, none =>
    if c = '0' then
      let ds ← plainWhile 2 isOctalDigit
      return oneOf m (ofDigits 8 ds)
    else if c.isDigit then backReference m c
    else return oneOf m (← plainEscape c)

end Reading

end DocBraces.Pattern
