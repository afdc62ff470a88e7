import DocBraces.Yaml.Source

/-!
# Tags

The tag of a node names the kind of its value. Plain scalars without a tag get one
from their text.
-/

set_option autoImplicit false

namespace DocBraces.Yaml

open DocBraces.Text

inductive Tag where
  | null
  | bool
  | int
  | float
  | binary
  | timestamp
  | omap
  | pairs
  | set
  | str
  | seq
  | map
  | merge
  | value
  | other
  deriving DecidableEq, Repr

namespace Tag

def standardLead : List Char := "tag:yaml.org,2002:".toList

def ofName : String → Tag
  | "null" => null
  | "bool" => bool
  | "int" => int
  | "float" => float
  | "binary" => binary
  | "timestamp" => timestamp
  | "omap" => omap
  | "pairs" => pairs
  | "set" => set
  | "str" => str
  | "seq" => seq
  | "map" => map
  | "merge" => merge
  | "value" => value
  | _ => other

def ofFull (cs : List Char) : Tag :=
  if standardLead.isPrefixOf cs then ofName (String.ofList (cs.drop standardLead.length)) else other

def dropSign : List Char → List Char
  | c :: cs => if c == '-' || c == '+' then cs else c :: cs
  | [] => []

def isDigitOrMark (c : Char) : Bool := c.isDigit || c == '_'

def isSixtieths : List Char → Bool
  | ':' :: a :: b :: cs =>
    if b.isDigit then ('0' ≤ a && a ≤ '5') && (cs.isEmpty || isSixtieths cs)
    else a.isDigit && isSixtieths (b :: cs)
  | [':', a] => a.isDigit
  | _ => false

def startsDecimal (cs : List Char) : Bool := cs.head?.any fun c => c.isDigit && c != '0'

def isIntText (cs : List Char) : Bool :=
  let body := dropSign cs
  let tail := body.dropWhile isDigitOrMark
  match body with
  | ['0'] => true
  | '0' :: 'b' :: ds => !ds.isEmpty && ds.all fun c => c == '0' || c == '1' || c == '_'
  | '0' :: 'x' :: ds => !ds.isEmpty && ds.all fun c => isHexDigit c || c == '_'
  | '0' :: ds => !ds.isEmpty && ds.all fun c => isOctalDigit c || c == '_'
  | _ => startsDecimal body && (tail.isEmpty || isSixtieths tail)

def isExponent : List Char → Bool
  | [] => true
  | e :: s :: ds => (e == 'e' || e == 'E') && (s == '-' || s == '+') && !ds.isEmpty &&
      ds.all Char.isDigit
  | _ => false

def sixtiethsLength (cs : List Char) : Nat := (cs.takeWhile fun c => c.isDigit || c == ':').length

def isFloatText (cs : List Char) : Bool :=
  let body := dropSign cs
  let whole := body.takeWhile isDigitOrMark
  let rest := body.drop whole.length
  let isWord := fun (ws : List String) (cs : List Char) => ws.any fun w => cs == w.toList
  let plain := match rest with
    | '.' :: more => isExponent (more.dropWhile isDigitOrMark)
    | ':' :: _ =>
      let groups := rest.take (sixtiethsLength rest)
      match rest.drop groups.length with
      | '.' :: more => isSixtieths groups && more.all isDigitOrMark
      | _ => false
    | _ => false
  let fraction := match cs with
    | '.' :: d :: more => d.isDigit && isExponent (more.dropWhile isDigitOrMark)
    | _ => false
  (whole.head?.any Char.isDigit && plain) || fraction ||
    isWord [".inf", ".Inf", ".INF"] body || isWord [".nan", ".NaN", ".NAN"] cs

def takeDigits (least most : Nat) (cs : List Char) : Option (List Char × List Char) :=
  let ds := (cs.take most).takeWhile Char.isDigit
  if least ≤ ds.length then some (ds, cs.drop ds.length) else none

def takeMark (c : Char) : List Char → Option (List Char)
  | d :: ds => if c == d then some ds else none
  | [] => none

def boolWords : List String :=
  ["yes", "Yes", "YES", "no", "No", "NO", "true", "True", "TRUE", "false", "False", "FALSE",
   "on", "On", "ON", "off", "Off", "OFF"]

def nullWords : List String := ["", "~", "null", "Null", "NULL"]

end Tag

structure Stamp where
  year : Nat
  month : Nat
  day : Nat
  time : Option (Nat × Nat × Nat) := none
  fraction : List Char := []
  /-- Sign, hours and minutes; universal time has none. -/
  zone : Option (Option (Bool × Nat × Nat)) := none

namespace Stamp

def isBlank (c : Char) : Bool := c == ' ' || c == '\t'

def zone? (cs : List Char) : Option (Option (Option (Bool × Nat × Nat))) :=
  match cs.dropWhile isBlank with
  | [] => if cs.isEmpty then some none else none
  | 'Z' :: rest => if rest.isEmpty then some (some none) else none
  | s :: rest => do
    unless s == '-' || s == '+' do none
    let (hours, rest) ← Tag.takeDigits 1 2 rest
    let minutes ← match rest with
      | [] => some []
      | c :: more => do
        unless c == ':' do none
        let (ds, rest) ← Tag.takeDigits 2 2 more
        unless rest.isEmpty do none
        pure ds
    return some (some (s == '-', ofDigits 10 hours, ofDigits 10 minutes))

def read? (cs : List Char) : Option Stamp := do
  let (year, cs) ← Tag.takeDigits 4 4 cs
  let (month, cs) ← Tag.takeDigits 1 2 (← Tag.takeMark '-' cs)
  let (day, cs) ← Tag.takeDigits 1 2 (← Tag.takeMark '-' cs)
  let date : Stamp := ⟨ofDigits 10 year, ofDigits 10 month, ofDigits 10 day, none, [], none⟩
  match cs with
  | [] => return date
  | c :: rest =>
    unless c == 'T' || c == 't' || isBlank c do none
    let rest := if isBlank c then rest.dropWhile isBlank else rest
    let (hour, cs) ← Tag.takeDigits 1 2 rest
    let (minute, cs) ← Tag.takeDigits 2 2 (← Tag.takeMark ':' cs)
    let (second, cs) ← Tag.takeDigits 2 2 (← Tag.takeMark ':' cs)
    let (fraction, cs) := match cs with
      | '.' :: more => (more.takeWhile Char.isDigit, more.dropWhile Char.isDigit)
      | _ => ([], cs)
    let zone ← zone? cs
    return { date with
      time := some (ofDigits 10 hour, ofDigits 10 minute, ofDigits 10 second), fraction, zone }

end Stamp

namespace Tag

def isStampText (cs : List Char) : Bool :=
  match Stamp.read? cs with
  | some s => s.time.isSome || cs.length == 10
  | none => false

def ofPlain (cs : List Char) : Tag :=
  let word := String.ofList cs
  if boolWords.contains word then bool
  else if isFloatText cs then float
  else if isIntText cs then int
  else if cs == ['<', '<'] then merge
  else if nullWords.contains word then null
  else if isStampText cs then timestamp
  else if cs == ['='] then value
  else if cs == ['!'] || cs == ['&'] || cs == ['*'] then other
  else str

/-- The tag of a scalar that leaves the choice open, in any style. A line feed at the end
does not count, unless it is the whole text. -/
def ofOpen (cs : List Char) : Tag :=
  if cs.getLast? == some '\n' && cs != ['\n'] then ofPlain cs.dropLast else ofPlain cs

end Tag

end DocBraces.Yaml
