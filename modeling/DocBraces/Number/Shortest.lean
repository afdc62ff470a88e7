import DocBraces.Text.Numeral

/-!
# Shortest decimal text of a binary floating-point number

A finite number is `mantissa · 2 ^ exponent`. Of the decimals that round to it, the
text has the fewest digits, and among those it is the nearest. Powers of two cover
less on their lower side, and the ends of the interval belong to it when the
mantissa is even.
-/

set_option autoImplicit false

namespace DocBraces.Number

open DocBraces.Text

inductive Parts where
  | notANumber
  | infinite (negative : Bool)
  | finite (negative : Bool) (mantissa : Nat) (exponent : Int)
  deriving DecidableEq, Repr

def parts (x : Float) : Parts :=
  let bits : Nat := x.toBits.toNat
  let negative : Bool := Nat.pow 2 63 ≤ bits
  let biased : Nat := bits / Nat.pow 2 52 % Nat.pow 2 11
  let low : Nat := bits % Nat.pow 2 52
  if biased = 2047 then (if low = 0 then .infinite negative else .notANumber)
  else if biased = 0 then .finite negative low (-1074)
  else .finite negative (low + Nat.pow 2 52) ((biased : Int) - 1075)

structure Fraction where
  num : Nat
  den : Nat
  deriving DecidableEq, Repr

def Fraction.ofBinary (n : Nat) (e : Int) : Fraction :=
  if 0 ≤ e then ⟨n * Nat.pow 2 e.toNat, 1⟩ else ⟨n, Nat.pow 2 (-e).toNat⟩

def Fraction.ofDecimal (n : Nat) (e : Int) : Fraction :=
  if 0 ≤ e then ⟨n * Nat.pow 10 e.toNat, 1⟩ else ⟨n, Nat.pow 10 (-e).toNat⟩

def Fraction.le (a b : Fraction) : Bool := a.num * b.den ≤ b.num * a.den

def Fraction.lt (a b : Fraction) : Bool := a.num * b.den < b.num * a.den

def Fraction.count (a : Fraction) (e : Int) : Nat :=
  if 0 ≤ e then a.num / (a.den * Nat.pow 10 e.toNat) else a.num * Nat.pow 10 (-e).toNat / a.den

structure Interval where
  low : Fraction
  value : Fraction
  high : Fraction
  closed : Bool

def interval (m : Nat) (e : Int) : Interval where
  low := .ofBinary (if m = Nat.pow 2 52 ∧ -1074 < e then 4 * m - 1 else 4 * m - 2) (e - 2)
  value := .ofBinary (4 * m) (e - 2)
  high := .ofBinary (4 * m + 2) (e - 2)
  closed := m % 2 = 0

def Interval.holds (i : Interval) (a : Fraction) : Bool :=
  if i.closed then i.low.le a && a.le i.high else i.low.lt a && a.lt i.high

def Interval.prefersLow (i : Interval) (n : Nat) (e : Int) : Bool :=
  let middle := Fraction.ofDecimal (2 * n + 1) e
  let twice : Fraction := ⟨2 * i.value.num, i.value.den⟩
  twice.lt middle || (!middle.lt twice && n % 2 = 0)

/-- The neighbour of the value on the grid of multiples of `10 ^ e` that rounds to it. -/
def Interval.onGrid? (i : Interval) (e : Int) : Option Nat :=
  let n := i.value.count e
  let low := 0 < n && i.holds (.ofDecimal n e)
  let high := i.holds (.ofDecimal (n + 1) e)
  if low && high then some (if i.prefersLow n e then n else n + 1)
  else if low then some n
  else if high then some (n + 1)
  else none

/-- How many digits stand before the point; zero or less for numbers below one. -/
def leadingPlaces (v : Fraction) : Int :=
  if v.den ≤ v.num then (digits 10 (v.num / v.den)).length
  else
    let zeros : Nat := ((List.range 400).find? fun t => v.den ≤ v.num * Nat.pow 10 (t + 1)).getD 400
    Int.negOfNat zeros

def shortest (m : Nat) (e : Int) : Nat × Int :=
  let i := interval m e
  let places := leadingPlaces i.value
  let grids := (List.range 17).map fun (n : Nat) => places - (n + 1 : Int)
  (grids.findSome? fun g => (i.onGrid? g).map (·, g)).getD (0, 0)

structure Style where
  /-- Greatest number of places before the point. -/
  most : Int
  /-- Least position of the first digit, zero being right after the point. -/
  least : Int

def plainStyle : Style := ⟨16, -3⟩

def exponentText (e : Int) : List Char :=
  (if e < 0 then '-' else '+') :: padLeft 2 '0' (digits 10 e.natAbs)

def dropZeros (ds : List Char) : List Char := (ds.reverse.dropWhile (· == '0')).reverse

def layOut (s : Style) (ds : List Char) (point : Int) : List Char :=
  if s.least ≤ point ∧ point ≤ s.most then
    if point ≤ 0 then '0' :: '.' :: List.replicate (-point).toNat '0' ++ ds
    else
      let n := point.toNat
      if ds.length ≤ n then ds ++ List.replicate (n - ds.length) '0' ++ ['.', '0']
      else ds.take n ++ '.' :: ds.drop n
  else
    let head := match ds with
      | [d] => [d]
      | d :: rest => d :: '.' :: rest
      | [] => []
    head ++ 'e' :: exponentText (point - 1)

def floatText (x : Float) : String :=
  match parts x with
  | .notANumber => "nan"
  | .infinite negative => if negative then "-inf" else "inf"
  | .finite negative m e =>
    let body := if m = 0 then ['0', '.', '0'] else
      let (n, g) := shortest m e
      let ds := digits 10 n
      layOut plainStyle (dropZeros ds) (g + ds.length)
    String.ofList (if negative then '-' :: body else body)

def ofDecimal (n : Nat) (e : Int) : Float :=
  let size : Int := (digits 10 n).length
  if n = 0 then 0.0
  else if 400 < size + e then 1.0 / 0.0
  else if size + e < -400 then 0.0
  else if e < 0 then Float.ofScientific n true (-e).toNat
  else Float.ofScientific n false e.toNat

def readFloat? (cs : List Char) : Option Float :=
  let whole := cs.takeWhile Char.isDigit
  let rest := cs.dropWhile Char.isDigit
  let (part, rest) := match rest with
    | '.' :: more => (more.takeWhile Char.isDigit, more.dropWhile Char.isDigit)
    | _ => ([], rest)
  if whole.isEmpty && part.isEmpty then none
  else
    let n := ofDigits 10 (whole ++ part)
    let places : Int := part.length
    match rest with
    | [] => some (ofDecimal n (-places))
    | c :: more =>
      if c = 'e' ∨ c = 'E' then
        let (negative, ds) := match more with
          | '-' :: ds => (true, ds)
          | '+' :: ds => (false, ds)
          | ds => (false, ds)
        if ds.isEmpty || !ds.all Char.isDigit then none
        else
          let e : Int := ofDigits 10 ds
          some (ofDecimal n ((if negative then -e else e) - places))
      else none

end DocBraces.Number
