import DocBraces.Text.Base64
import DocBraces.Text.Integer
import DocBraces.Text.Lowercase
import DocBraces.Yaml.Fault
import DocBraces.Yaml.Tag

/-!
# Scalar values

The text of a scalar read as the kind of value that its tag names. An explicit tag
can ask for any kind, so that every reading can fail.
-/

set_option autoImplicit false

namespace DocBraces.Yaml

open DocBraces.Text DocBraces.Data

/-- The characters of a text; a code that is none becomes one that no number contains. -/
def charsOf (codes : List Nat) : List Char := codes.map fun n => (char? n).getD '\ufffd'

def readWhole (base : Nat) (codes : List Nat) : Except Failure Int :=
  match readInteger base (charsOf codes) with
  | .ok n => .ok n
  | .error .notNumber => .error (.badInteger base codes)
  | .error (.tooLong n) => .error (.tooManyDigits n)

def dropUnderscores (codes : List Nat) : List Nat := codes.filter (· != 95)

def signed : List Nat → Except Failure (Bool × List Nat)
  | [] => .error .emptyNumber
  | n :: ns => .ok (n == 45, if n == 45 || n == 43 then ns else n :: ns)

def placesOf (codes : List Nat) : List (List Nat) := codes.splitOn 58

def ofSixtieths (places : List Int) : Int := places.foldl (fun n d => n * 60 + d) 0

def readInt (text : List Nat) : Except Failure Int := do
  let (negative, ns) ← signed (dropUnderscores text)
  let n : Int ← match ns with
    | [48] => pure 0
    | 48 :: 98 :: ds => readWhole 2 ds
    | 48 :: 120 :: ds => readWhole 16 ds
    | 48 :: _ => readWhole 8 ns
    | [] => throw .emptyNumber
    | _ =>
      if ns.contains 58 then ofSixtieths <$> (placesOf ns).mapM (readWhole 10)
      else readWhole 10 ns
  return if negative then -n else n

def infinity : Float := 1.0 / 0.0

def notANumber : Float := 0.0 / 0.0

def readDecimal (codes : List Nat) : Except Failure Float :=
  let (negative, cs) := cutSign ((trimNumber (charsOf codes)).map plainDigit)
  let isWord := fun (w : String) => cs == w.toList
  let size := if isWord "inf" || isWord "infinity" then some infinity
    else if isWord "nan" then some notANumber
    else Number.readFloat? cs
  match size with
  | some x => .ok (if negative then -x else x)
  | none => .error (.badFloat codes)

/-- The value of places with a weight of sixty each, summed from the last one. -/
def ofSixtiethsFrom : Float → Float → List Float → Float
  | sum, _, [] => sum
  | sum, weight, d :: ds => ofSixtiethsFrom (sum + d * weight) (weight * 60.0) ds

def codesOf (s : String) : List Nat := s.toList.map Char.toNat

/-- A float; the word for a result that is no number always means the same one. -/
def readFloat (text : List Nat) : Except Failure Scalar := do
  let (negative, ns) ← signed (lowerCodes (dropUnderscores text))
  if ns == codesOf ".nan" then return .nan 0
  let x ← if ns == codesOf ".inf" then pure infinity
    else if ns.contains 58 then do
      let places ← (placesOf ns).mapM readDecimal
      pure (ofSixtiethsFrom 0.0 1.0 places.reverse)
    else readDecimal ns
  return if x.isNaN then .nan 1 else .float (if negative then -x else x)

def readBool (text : List Nat) : Except Failure Bool :=
  let word := lowerCodes text
  if (["yes", "true", "on"].map codesOf).contains word then .ok true
  else if (["no", "false", "off"].map codesOf).contains word then .ok false
  else .error (.badBool word)

def Stamp.date (s : Stamp) : Except CalendarFault Date :=
  if s.year < 1 ∨ 9999 < s.year then .error (.year s.year)
  else if s.month < 1 ∨ 12 < s.month then .error .month
  else if s.day < 1 ∨ Date.monthDays s.year s.month < s.day then .error .day
  else .ok ⟨s.year, s.month, s.day⟩

def Stamp.offset (s : Stamp) : Except CalendarFault (Option Int) :=
  match s.zone with
  | none => .ok none
  | some none => .ok (some 0)
  | some (some (behind, hours, minutes)) =>
    let size : Int := hours * 3600 + minutes * 60
    let seconds := if behind then -size else size
    if size < secondsPerDay then .ok (some seconds) else .error (.offset seconds)

def Stamp.micro (s : Stamp) : Nat :=
  let ds := s.fraction.take 6
  ofDigits 10 (ds ++ List.replicate (6 - ds.length) '0')

def Stamp.value (s : Stamp) : Except CalendarFault Scalar := do
  match s.time with
  | none => return .date (← s.date)
  | some (hour, minute, second) =>
    let offset ← s.offset
    let date ← s.date
    if 23 < hour then throw .hour
    if 59 < minute then throw .minute
    if 59 < second then throw .second
    return .moment ⟨date, hour, minute, second, s.micro, offset⟩

def readStamp (text : List Char) : Except Failure Scalar :=
  let cs := if text.getLast? == some '\n' then text.dropLast else text
  match Stamp.read? cs with
  | some s => s.value.mapError .calendar
  | none => .error .badTimestamp

def Content.value (tag : Tag) (content : Content) : Except Failure Scalar :=
  match tag with
  | .null => .ok .null
  | .bool => .bool <$> readBool content.toCodes
  | .int => .int <$> readInt content.toCodes
  | .float => readFloat content.toCodes
  | .timestamp => match content with
    | .chars cs => readStamp cs
    | .codes _ => .error .badTimestamp
  | .str => match content with
    | .chars cs => .ok (.text (String.ofList cs))
    | .codes ns => .ok (.broken ns)
  | .binary => match content with
    | .chars cs =>
      if cs.all (·.toNat < 128) then match Base64.decode? cs with
        | some bs => .ok (.bytes bs)
        | none => .error .malformed
      else .error .malformed
    | .codes _ => .error .malformed
  | _ => .error .malformed

end DocBraces.Yaml
