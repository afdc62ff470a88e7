import DocBraces.Text.Numeral

/-!
# UTF-8

Strict decoding of octets with an exact report of the first fault, and encoding.
A fault names the ill-formed run: the longest start of a sequence that could
still have become a character, and at least one octet.
-/

set_option autoImplicit false

namespace DocBraces.Text.Utf8

inductive Reason where
  | start
  | continuation
  | truncated
  deriving DecidableEq, Repr

def Reason.text : Reason → String
  | .start => "invalid start byte"
  | .continuation => "invalid continuation byte"
  | .truncated => "unexpected end of data"

structure Fault where
  position : Nat
  run : List UInt8
  reason : Reason
  deriving DecidableEq, Repr

def Fault.message (f : Fault) : String :=
  let place := match f.run with
    | [b] => "byte 0x" ++ String.ofList (hex 2 b.toNat) ++ s!" in position {f.position}"
    | bs => s!"bytes in position {f.position}-{f.position + bs.length - 1}"
  s!"'utf-8' codec can't decode {place}: {f.reason.text}"

/-- A sequence under way: what it has read, how many octets it still owes, the
range that the next of them must lie in, and its value so far. -/
structure Pending where
  seen : List UInt8
  owed : Nat
  low : Nat
  high : Nat
  value : Nat
  deriving DecidableEq, Repr

def lead? (b : UInt8) : Option Pending :=
  let n := b.toNat
  if n < 0xC2 then none
  else if n < 0xE0 then some ⟨[b], 1, 0x80, 0xBF, n - 0xC0⟩
  else if n = 0xE0 then some ⟨[b], 2, 0xA0, 0xBF, 0⟩
  else if n = 0xED then some ⟨[b], 2, 0x80, 0x9F, 0xD⟩
  else if n < 0xF0 then some ⟨[b], 2, 0x80, 0xBF, n - 0xE0⟩
  else if n = 0xF0 then some ⟨[b], 3, 0x90, 0xBF, 0⟩
  else if n < 0xF4 then some ⟨[b], 3, 0x80, 0xBF, n - 0xF0⟩
  else if n = 0xF4 then some ⟨[b], 3, 0x80, 0x8F, 4⟩
  else none

def decodeFrom : Nat → Option Pending → List UInt8 → Except Fault (List Char)
  | _, none, [] => .ok []
  | n, some p, [] => .error ⟨n - p.seen.length, p.seen, .truncated⟩
  | n, none, b :: bs =>
    if b.toNat < 0x80 then (decodeFrom (n + 1) none bs).map (Char.ofNat b.toNat :: ·)
    else match lead? b with
      | some p => decodeFrom (n + 1) (some p) bs
      | none => .error ⟨n, [b], .start⟩
  | n, some p, b :: bs =>
    if p.low ≤ b.toNat ∧ b.toNat ≤ p.high then
      let v := p.value * 64 + (b.toNat - 0x80)
      if p.owed = 1 then (decodeFrom (n + 1) none bs).map (Char.ofNat v :: ·)
      else decodeFrom (n + 1) (some ⟨p.seen ++ [b], p.owed - 1, 0x80, 0xBF, v⟩) bs
    else .error ⟨n - p.seen.length, p.seen, .continuation⟩

def decode (bs : List UInt8) : Except Fault (List Char) := decodeFrom 0 none bs

def encodeChar (c : Char) : List UInt8 :=
  let n := c.toNat
  if n < 0x80 then [UInt8.ofNat n]
  else if n < 0x800 then [UInt8.ofNat (0xC0 + n / 64), UInt8.ofNat (0x80 + n % 64)]
  else if n < 0x10000 then
    [UInt8.ofNat (0xE0 + n / 4096), UInt8.ofNat (0x80 + n / 64 % 64), UInt8.ofNat (0x80 + n % 64)]
  else
    [UInt8.ofNat (0xF0 + n / 262144), UInt8.ofNat (0x80 + n / 4096 % 64),
     UInt8.ofNat (0x80 + n / 64 % 64), UInt8.ofNat (0x80 + n % 64)]

def encode (cs : List Char) : List UInt8 := cs.flatMap encodeChar

theorem encode_cons (c : Char) (cs : List Char) : encode (c :: cs) = encodeChar c ++ encode cs := by
  simp [encode]

end DocBraces.Text.Utf8
