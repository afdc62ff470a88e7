/-!
# Numerals

Numbers written in a base with a least width, and read back.
-/

set_option autoImplicit false

namespace DocBraces.Text

def digitChar (d : Nat) : Char :=
  if d < 10 then Char.ofNat (48 + d) else Char.ofNat (87 + d)

def digitsAux (base : Nat) : Nat → Nat → List Char → List Char
  | 0, _, acc => acc
  | fuel + 1, n, acc =>
    if n < base then digitChar n :: acc
    else digitsAux base fuel (n / base) (digitChar (n % base) :: acc)

def digits (base n : Nat) : List Char := digitsAux base (n + 1) n []

def padLeft (width : Nat) (fill : Char) (cs : List Char) : List Char :=
  List.replicate (width - cs.length) fill ++ cs

def padRight (width : Nat) (cs : List Char) : List Char :=
  cs ++ List.replicate (width - cs.length) ' '

def hex (width n : Nat) : List Char := padLeft width '0' (digits 16 n)

def digitValue? (c : Char) : Option Nat :=
  if '0' ≤ c ∧ c ≤ '9' then some (c.toNat - 48)
  else if 'a' ≤ c ∧ c ≤ 'f' then some (c.toNat - 87)
  else if 'A' ≤ c ∧ c ≤ 'F' then some (c.toNat - 55)
  else none

def isHexDigit (c : Char) : Bool := (digitValue? c).isSome

def isOctalDigit (c : Char) : Bool := '0' ≤ c && c ≤ '7'

def ofDigits (base : Nat) (cs : List Char) : Nat :=
  cs.foldl (fun n c => n * base + (digitValue? c).getD 0) 0

def char? (n : Nat) : Option Char :=
  if n.isValidChar then some (Char.ofNat n) else none

end DocBraces.Text
