import DocBraces.Data.Scalar

/-!
# Faults of YAML texts

A text that is no YAML at all, and values that do not fit their tag.
-/

set_option autoImplicit false

namespace DocBraces.Yaml

open DocBraces.Text

inductive CalendarFault where
  | year (n : Nat)
  | month
  | day
  | hour
  | minute
  | second
  | offset (seconds : Int)
  deriving DecidableEq, Repr

def CalendarFault.message : CalendarFault → String
  | .year n => s!"year {n} is out of range"
  | .month => "month must be in 1..12"
  | .day => "day is out of range for month"
  | .hour => "hour must be in 0..23"
  | .minute => "minute must be in 0..59"
  | .second => "second must be in 0..59"
  | .offset n => "offset must be a timedelta strictly between -timedelta(hours=24) and " ++
      "timedelta(hours=24), not " ++ Data.spanText n ++ "."

def stackLevels : Nat := 970

def nestingLimit : Nat := 486

inductive Failure where
  | malformed
  | tooDeep
  /-- An escape names a number beyond the last code point. -/
  | codeTooLarge (beyondWord : Bool)
  | badInteger (base : Nat) (codes : List Nat)
  | tooManyDigits (count : Nat)
  | badFloat (codes : List Nat)
  | badBool (codes : List Nat)
  | emptyNumber
  | badTimestamp
  /-- A mapping stands where the text of a timestamp is read. -/
  | timestampOfMapping
  | calendar (fault : CalendarFault)
  deriving DecidableEq, Repr

/-- The parser's own text on what is malformed is not modelled; `<yaml error>` stands for it. -/
def Failure.message : Failure → String
  | .malformed => "<yaml error>"
  | .tooDeep => "maximum recursion depth exceeded"
  | .codeTooLarge beyondWord =>
    if beyondWord then "Python int too large to convert to C int"
    else "chr() arg not in range(0x110000)"
  | .badInteger base t =>
    s!"invalid literal for int() with base {base}: {String.ofList (Data.quotedCodes t)}"
  | .tooManyDigits n =>
    "Exceeds the limit (4300 digits) for integer string conversion: value has " ++
      s!"{n} digits; use sys.set_int_max_str_digits() to increase the limit"
  | .badFloat t => "could not convert string to float: " ++ String.ofList (Data.quotedCodes t)
  | .badBool t => String.ofList (Data.quotedCodes t)
  | .emptyNumber => "string index out of range"
  | .badTimestamp => "'NoneType' object has no attribute 'groupdict'"
  | .timestampOfMapping => "expected string or bytes-like object, got 'list'"
  | .calendar f => f.message

end DocBraces.Yaml
