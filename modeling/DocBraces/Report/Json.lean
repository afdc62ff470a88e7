import DocBraces.Text.Numeral

/-!
# JSON reports

Values laid out over several lines, two blanks for each level, in ASCII.
-/

set_option autoImplicit false

namespace DocBraces.Report

open DocBraces.Text

inductive Json where
  | null
  | bool (b : Bool)
  | number (n : Nat)
  | text (s : String)
  | list (items : List Json)
  | object (fields : List (String × Json))
  deriving Inhabited

namespace Json

def ofOption (s : Option String) : Json :=
  match s with
  | some s => text s
  | none => null

def texts (ss : List String) : Json := list (ss.map text)

def unit16 (n : Nat) : List Char := '\\' :: 'u' :: hex 4 n

def escape (c : Char) : List Char :=
  let n := c.toNat
  if c = '"' ∨ c = '\\' then ['\\', c]
  else if c = '\n' then ['\\', 'n']
  else if c = '\r' then ['\\', 'r']
  else if c = '\t' then ['\\', 't']
  else if c = '\x08' then ['\\', 'b']
  else if c = '\x0c' then ['\\', 'f']
  else if 32 ≤ n ∧ n < 127 then [c]
  else if n < 0x10000 then unit16 n
  else unit16 (0xD800 + (n - 0x10000) / 1024) ++ unit16 (0xDC00 + (n - 0x10000) % 1024)

def quote (s : String) : String := String.ofList ('"' :: s.toList.flatMap escape ++ ['"'])

def newline (level : Nat) : String := String.ofList ('\n' :: List.replicate (2 * level) ' ')

def bracket (level : Nat) (opening closing : String) (items : List String) : String :=
  if items.isEmpty then opening ++ closing
  else opening ++ ",".intercalate (items.map (newline (level + 1) ++ ·)) ++ newline level ++ closing

mutual

def renderAt (level : Nat) : Json → String
  | null => "null"
  | bool b => if b then "true" else "false"
  | number n => toString n
  | text s => quote s
  | list items => bracket level "[" "]" (renderItems (level + 1) items)
  | object fields => bracket level "\x7b" "\x7d" (renderFields (level + 1) fields)

def renderItems (level : Nat) : List Json → List String
  | [] => []
  | j :: js => renderAt level j :: renderItems level js

def renderFields (level : Nat) : List (String × Json) → List String
  | [] => []
  | (k, j) :: fs => (quote k ++ ": " ++ renderAt level j) :: renderFields level fs

end

def render (j : Json) : String := renderAt 0 j

end Json

end DocBraces.Report
