import DocBraces.Text.Blank
import DocBraces.Text.Digit
import DocBraces.Text.Numeral

/-!
# Whole numbers in text

A number in a given base with an optional sign, in digits of any script, with blanks
around it and single underscores between its digits.
-/

set_option autoImplicit false

namespace DocBraces.Text

def plainDigit (c : Char) : Char :=
  match digitRanges.find? fun r => r.1 ≤ c.toNat && c.toNat ≤ r.2 with
  | some r => digitChar ((c.toNat - r.1) % 10)
  | none => c

def isNumberBlank (c : Char) : Bool := isBlank c && !(28 ≤ c.toNat && c.toNat ≤ 31)

def trimNumber (cs : List Char) : List Char :=
  ((cs.dropWhile isNumberBlank).reverse.dropWhile isNumberBlank).reverse

def cutSign : List Char → Bool × List Char
  | '-' :: cs => (true, cs)
  | '+' :: cs => (false, cs)
  | cs => (false, cs)

def baseMark : Nat → Option Char
  | 2 => some 'b'
  | 8 => some 'o'
  | 16 => some 'x'
  | _ => none

def dropBaseMark (base : Nat) : List Char → List Char
  | '0' :: c :: cs =>
    if (baseMark base).any fun m => m == c || m.toNat == c.toNat + 32 then
      match cs with
      | '_' :: ds => ds
      | _ => cs
    else '0' :: c :: cs
  | cs => cs

/-- Digits at the start of a text and what follows them. Inside a run an underscore may
stand before a digit. -/
def digitRun (isOf : Char → Bool) : (inRun : Bool) → List Char → List Char × List Char
  | _, [] => ([], [])
  | inRun, c :: cs =>
    if isOf c then
      let (ds, rest) := digitRun isOf true cs
      (c :: ds, rest)
    else if inRun && c == '_' && cs.head?.any isOf then digitRun isOf true cs
    else ([], c :: cs)

inductive IntegerFault where
  | notNumber
  | tooLong (digits : Nat)
  deriving DecidableEq, Repr

def digitLimit : Nat := 4300

def readInteger (base : Nat) (text : List Char) : Except IntegerFault Int :=
  let (negative, cs) := cutSign ((trimNumber text).map plainDigit)
  let (ds, rest) := digitRun (fun c => (digitValue? c).any (· < base)) false (dropBaseMark base cs)
  if ds.isEmpty || rest.head? == some '_' then .error .notNumber
  else if base = 10 ∧ digitLimit < ds.length then .error (.tooLong ds.length)
  else if !rest.isEmpty then .error .notNumber
  else
    let n : Int := ofDigits base ds
    .ok (if negative then -n else n)

end DocBraces.Text
