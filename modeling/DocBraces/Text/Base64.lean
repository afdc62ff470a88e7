import DocBraces.Text.Numeral

/-!
# Base64

Octets written as characters of six bits each. Reading passes over characters that
are not of the alphabet and ends at the padding of a group.
-/

set_option autoImplicit false

namespace DocBraces.Text.Base64

def sextet? (c : Char) : Option Nat :=
  if 'A' ≤ c ∧ c ≤ 'Z' then some (c.toNat - 65)
  else if 'a' ≤ c ∧ c ≤ 'z' then some (c.toNat - 71)
  else if '0' ≤ c ∧ c ≤ '9' then some (c.toNat + 4)
  else if c = '+' then some 62
  else if c = '/' then some 63
  else none

structure Group where
  count : Nat := 0
  /-- Bits that belong to the next octet. -/
  carry : Nat := 0
  pads : Nat := 0

def Group.push (g : Group) (bits : Nat) : Option UInt8 × Group :=
  match g.count with
  | 0 => (none, ⟨1, bits, 0⟩)
  | 1 => (some (UInt8.ofNat (g.carry * 4 + bits / 16)), ⟨2, bits % 16, 0⟩)
  | 2 => (some (UInt8.ofNat (g.carry * 16 + bits / 4)), ⟨3, bits % 4, 0⟩)
  | _ => (some (UInt8.ofNat (g.carry * 64 + bits)), {})

def decodeFrom : Group → List Char → Option (List UInt8)
  | g, [] => if g.count = 0 then some [] else none
  | g, c :: cs =>
    if c = '=' then
      if g.count < 2 then decodeFrom g cs
      else if 4 ≤ g.count + g.pads + 1 then some []
      else decodeFrom { g with pads := g.pads + 1 } cs
    else match sextet? c with
      | none => decodeFrom g cs
      | some bits =>
        let (octet, g) := g.push bits
        (decodeFrom g cs).map (octet.toList ++ ·)

def decode? (cs : List Char) : Option (List UInt8) := decodeFrom {} cs

end DocBraces.Text.Base64
