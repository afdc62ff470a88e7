import DocBraces.Text.Numeral

/-!
# Reals

Numbers with fractions as they are read and written: exact quotients, rounded to so many
binary places, and written with a fixed point, with an exponent, or the shorter way.
A half goes to the even neighbour.
-/

set_option autoImplicit false

namespace DocBraces.Tools

open DocBraces.Text

inductive Real where
  | finite (negative : Bool) (num den : Nat)
  | infinite (negative : Bool)
  | nan (negative : Bool)
  deriving DecidableEq, Repr

def roundQuotient (num den : Nat) : Nat :=
  let q := num / den
  let twice := 2 * (num % den)
  if den < twice || (twice = den && q % 2 = 1) then q + 1 else q

def bitLength (n : Nat) : Nat := if n = 0 then 0 else n.log2 + 1

def roundBits (bits num den : Nat) : Nat × Nat :=
  if num = 0 then (0, 1)
  else
    let up := bits + bitLength den - bitLength num
    let down := bitLength num - (bits + bitLength den)
    let m := roundQuotient (num * Nat.pow 2 up) (den * Nat.pow 2 down)
    let (m, up, down) := if bits < bitLength m then
        (if up = 0 then (roundQuotient num (den * Nat.pow 2 (down + 1)), 0, down + 1)
          else (roundQuotient (num * Nat.pow 2 (up - 1)) den, up - 1, down))
      else (m, up, down)
    (m * Nat.pow 2 down, Nat.pow 2 up)

def Real.round (bits : Nat) : Real → Real
  | .finite s n d =>
    let (n, d) := roundBits bits n d
    .finite s n d
  | r => r

def readReal (cs : List Char) : Option (Real × List Char) :=
  let negative := cs.head? == some '-'
  let body := if negative || cs.head? == some '+' then cs.drop 1 else cs
  let lower := body.map Char.toLower
  if "infinity".toList.isPrefixOf lower then some (.infinite negative, body.drop 8)
  else if "inf".toList.isPrefixOf lower then some (.infinite negative, body.drop 3)
  else if "nan".toList.isPrefixOf lower then some (.nan negative, body.drop 3)
  else
    let whole := body.takeWhile Char.isDigit
    let rest := body.drop whole.length
    let part := match rest with
      | '.' :: more => more.takeWhile Char.isDigit
      | _ => []
    if whole.isEmpty && part.isEmpty then none
    else
      let rest := match rest with
        | '.' :: more => more.drop part.length
        | rest => rest
      let n := ofDigits 10 (whole ++ part)
      let d := Nat.pow 10 part.length
      let scaled := fun (down : Bool) (ds : List Char) (rest : List Char) =>
        let e := min (ofDigits 10 ds) 5000
        some (if down then .finite negative n (d * Nat.pow 10 e)
          else .finite negative (n * Nat.pow 10 e) d, rest)
      let asIs := some (Real.finite negative n d, rest)
      match rest with
      | e :: more =>
        if e == 'e' || e == 'E' then
          let down := more.head? == some '-'
          let signed := down || more.head? == some '+'
          let ds := (if signed then more.drop 1 else more).takeWhile Char.isDigit
          if ds.isEmpty then asIs
          else scaled down ds (more.drop (ds.length + if signed then 1 else 0))
        else asIs
      | [] => asIs

def pointed (places : Nat) (keepPoint : Bool) (n : Nat) : List Char :=
  let ds := padLeft (places + 1) '0' (digits 10 n)
  let whole := ds.take (ds.length - places)
  if places = 0 then (if keepPoint then whole ++ ['.'] else whole)
  else whole ++ '.' :: ds.drop (ds.length - places)

def fixedText (places : Nat) (keepPoint : Bool) (num den : Nat) : List Char :=
  pointed places keepPoint (roundQuotient (num * Nat.pow 10 places) den)

def decimalExponent (num den : Nat) : Int :=
  if num = 0 then 0
  else if den ≤ num then ((digits 10 (num / den)).length : Int) - 1
  else
    let e := (digits 10 (den / num)).length
    -- the first candidate may be one too low
    if den ≤ num * Nat.pow 10 (e - 1) then -((e : Int) - 1) else -(e : Int)

def scientific (places : Nat) (num den : Nat) : Nat × Int :=
  let e := decimalExponent num den
  let shift : Int := places - e
  let m := if 0 ≤ shift then roundQuotient (num * Nat.pow 10 shift.toNat) den
    else roundQuotient num (den * Nat.pow 10 (-shift).toNat)
  if Nat.pow 10 (places + 1) ≤ m then (m / 10, e + 1) else (m, e)

def exponentText (upper : Bool) (e : Int) : List Char :=
  (if upper then 'E' else 'e') :: (if e < 0 then '-' else '+') :: padLeft 2 '0' (digits 10 e.natAbs)

def scientificText (places : Nat) (keepPoint upper : Bool) (num den : Nat) : List Char :=
  let (m, e) := scientific places num den
  pointed places keepPoint m ++ exponentText upper e

def dropZeros (cs : List Char) : List Char :=
  if cs.contains '.' then
    let kept := cs.reverse.dropWhile (· == '0')
    (if kept.head? == some '.' then kept.drop 1 else kept).reverse
  else cs

def shorterText (significant : Nat) (keepZeros upper : Bool) (num den : Nat) : List Char :=
  let p := max significant 1
  let (m, e) := scientific (p - 1) num den
  let trim := fun cs => if keepZeros then cs else dropZeros cs
  if -4 ≤ e && e < p then trim (fixedText (p - 1 - e).toNat keepZeros num den)
  else trim (pointed (p - 1) keepZeros m) ++ exponentText upper e

end DocBraces.Tools
