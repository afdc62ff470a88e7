import DocBraces.Number.Shortest
import DocBraces.Text.Quoted

/-!
# Scalars

Plain data without parts, with the text that messages show for it and the equality
by which mapping keys are told apart: truth values and numbers count as equal when
their values are, and moments with an offset when they are the same instant.
-/

set_option autoImplicit false

namespace DocBraces.Data

open DocBraces.Text DocBraces.Number

structure Date where
  year : Nat
  month : Nat
  day : Nat
  deriving DecidableEq, Repr, Inhabited

namespace Date

def isLeap (year : Nat) : Bool := year % 4 == 0 && (year % 100 != 0 || year % 400 == 0)

def monthDays (year month : Nat) : Nat :=
  if month = 2 then (if isLeap year then 29 else 28)
  else if month = 4 ∨ month = 6 ∨ month = 9 ∨ month = 11 then 30 else 31

def dayNumber (d : Date) : Nat :=
  let past := d.year - 1
  past * 365 + past / 4 - past / 100 + past / 400 +
    (List.range (d.month - 1)).foldl (fun n m => n + monthDays d.year (m + 1)) 0 + d.day

end Date

structure Moment where
  date : Date
  hour : Nat
  minute : Nat
  second : Nat
  micro : Nat
  /-- Seconds ahead of universal time. -/
  offset : Option Int
  deriving DecidableEq, Repr, Inhabited

inductive Scalar where
  | null
  | bool (b : Bool)
  | int (n : Int)
  | float (x : Float)
  /-- A result that is no number. Two of them are equal only as the same result, which
  its number tells. -/
  | nan (identity : Nat)
  | text (s : String)
  /-- Text with code points that are no characters. -/
  | broken (codes : List Nat)
  | bytes (bs : List UInt8)
  | date (d : Date)
  | moment (m : Moment)
  deriving Inhabited

def codeText (quote : Char) (n : Nat) : List Char :=
  match char? n with
  | some c => escapeChar quote c
  | none => '\\' :: 'u' :: hex 4 n

def quotedCodes (codes : List Nat) : List Char :=
  let q := quoteFor (codes.filterMap char?)
  q :: codes.flatMap (codeText q) ++ [q]

def byteText (quote : Char) (b : UInt8) : List Char :=
  let n := b.toNat
  if n < 128 ∧ 31 < n ∧ n ≠ 127 ∨ n = 9 ∨ n = 10 ∨ n = 13 then escapeChar quote (Char.ofNat n)
  else '\\' :: 'x' :: hex 2 n

def quotedBytes (bs : List UInt8) : List Char :=
  let q := quoteFor (bs.map fun b => Char.ofNat b.toNat)
  'b' :: q :: bs.flatMap (byteText q) ++ [q]

def secondsPerDay : Int := 86400

def spanText (seconds : Int) : String :=
  let days := Int.fdiv seconds secondsPerDay
  let rest := Int.fmod seconds secondsPerDay
  let items := (if days = 0 then [] else [s!"days={days}"]) ++
    (if rest = 0 then [] else [s!"seconds={rest}"])
  "datetime.timedelta(" ++ (if items.isEmpty then "0" else ", ".intercalate items) ++ ")"

def zoneText (offset : Int) : String :=
  if offset = 0 then "datetime.timezone.utc"
  else "datetime.timezone(" ++ spanText offset ++ ")"

def Date.shown (d : Date) : String := s!"datetime.date({d.year}, {d.month}, {d.day})"

def Moment.shown (m : Moment) : String :=
  let head := [m.date.year, m.date.month, m.date.day, m.hour, m.minute]
  let tail := if m.micro ≠ 0 then [m.second, m.micro] else if m.second ≠ 0 then [m.second] else []
  let zone := match m.offset with
    | none => []
    | some n => ["tzinfo=" ++ zoneText n]
  "datetime.datetime(" ++ ", ".intercalate ((head ++ tail).map toString ++ zone) ++ ")"

def Moment.instant? (m : Moment) : Option Int :=
  m.offset.map fun n =>
    ((m.date.dayNumber * 86400 + m.hour * 3600 + m.minute * 60 + m.second : Nat) - n) * 1000000 +
      (m.micro : Int)

/-- Moments are equal as instants, or as they are written where none has an offset. -/
def Moment.same (m n : Moment) : Bool :=
  match m.instant?, n.instant? with
  | some a, some b => a = b
  | none, none => m = n
  | _, _ => false

namespace Scalar

def shownDigits : Nat := 4300

def isShown : Scalar → Bool
  | int n => n.natAbs < Nat.pow 10 shownDigits
  | _ => true

def shown : Scalar → String
  | null => "None"
  | bool b => if b then "True" else "False"
  | int n => toString n
  | float x => floatText x
  | nan _ => "nan"
  | text s => quoted s
  | broken codes => String.ofList (quotedCodes codes)
  | bytes bs => String.ofList (quotedBytes bs)
  | date d => d.shown
  | moment m => m.shown

def typeName : Scalar → String
  | null => "NoneType"
  | bool _ => "bool"
  | int _ => "int"
  | float _ => "float"
  | nan _ => "float"
  | text _ => "str"
  | broken _ => "str"
  | bytes _ => "bytes"
  | date _ => "date"
  | moment _ => "datetime"

/-- A new result that is no number is told from all others by the place of its cell. -/
def toldBy (place : Nat) : Scalar → Scalar
  | nan (_ + 1) => nan (place + 1)
  | s => s

def whole? : Scalar → Option Int
  | bool b => some (if b then 1 else 0)
  | int n => some n
  | float x => match parts x with
    | .finite negative m e =>
      let n : Option Nat := if 0 ≤ e then some (m * Nat.pow 2 e.toNat)
        else if m % Nat.pow 2 (-e).toNat = 0 then some (m / Nat.pow 2 (-e).toNat) else none
      n.map fun k => if negative then -(k : Int) else k
    | _ => none
  | _ => none

def sameKey (a b : Scalar) : Bool :=
  match a.whole?, b.whole? with
  | some m, some n => m = n
  | none, none => match a, b with
    | null, null => true
    | float x, float y => x.toBits = y.toBits
    | nan i, nan j => i = j
    | text s, text t => s = t
    | broken s, broken t => s = t
    | bytes s, bytes t => s = t
    | date d, date e => d = e
    | moment m, moment n => m.same n
    | _, _ => false
  | _, _ => false

end Scalar

end DocBraces.Data
