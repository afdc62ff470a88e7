import DocBraces.Tools.Script

/-!
# Arithmetic

Expressions over whole numbers of 64 bits, with the operators and their order known
from C, as scripts write them.
-/

set_option autoImplicit false

namespace DocBraces.Tools

open DocBraces.Text

inductive Operator where
  | times
  | divided
  | rest
  | plus
  | minus
  | shiftLeft
  | shiftRight
  | less
  | lessOrEqual
  | greater
  | greaterOrEqual
  | equal
  | different
  | bitAnd
  | bitXor
  | bitOr
  deriving DecidableEq, Repr

namespace Operator

def rank : Operator → Nat
  | times => 0
  | divided => 0
  | rest => 0
  | plus => 1
  | minus => 1
  | shiftLeft => 2
  | shiftRight => 2
  | less => 3
  | lessOrEqual => 3
  | greater => 3
  | greaterOrEqual => 3
  | equal => 4
  | different => 4
  | bitAnd => 5
  | bitXor => 6
  | bitOr => 7

def ranks : Nat := 8

end Operator

inductive Sum where
  | number (n : Int)
  | name (s : String)
  | negated (e : Sum)
  | complement (e : Sum)
  | inverted (e : Sum)
  | apply (op : Operator) (a b : Sum)
  | both (a b : Sum)
  | either (a b : Sum)
  | choose (test a b : Sum)
  | assign (name : String) (op : Option Operator) (e : Sum)
  deriving Repr

inductive SumFault where
  | expected (what : String)
  | divisionByZero
  | badNumber (text : Octets)
  deriving DecidableEq, Repr

def wrap (n : Int) : Int := Int.bmod n 0x10000000000000000

def clamp (n : Int) : Int :=
  if n < -0x8000000000000000 then -0x8000000000000000
  else if 0x7fffffffffffffff < n then 0x7fffffffffffffff
  else n

def unsigned (n : Int) : Nat := (n % 0x10000000000000000).toNat

def truth (b : Bool) : Int := if b then 1 else 0

def literal (cs : Octets) : Int × Octets :=
  let take := fun (base : Nat) (cs : Octets) =>
    let ds := cs.takeWhile fun c => (digitValue? c).any (· < base)
    (clamp (ofDigits base ds), cs.drop ds.length)
  match cs with
  | '0' :: x :: d :: more =>
    if (x == 'x' || x == 'X') && isHexDigit d then take 16 (d :: more) else take 8 cs
  | '0' :: _ => take 8 cs
  | _ => take 10 cs

def isGap (c : Char) : Bool := c == ' ' || ('\t' ≤ c && c ≤ '\r')

def numberOf (cs : Octets) : Except SumFault Int :=
  let body := cs.dropWhile isGap
  let negative := body.head? == some '-'
  let digits := if negative || body.head? == some '+' then body.drop 1 else body
  let (n, rest) := literal digits
  let read := !digits.isEmpty && rest.length < digits.length
  let rest := if read then rest else cs
  if rest.all isGap then .ok (if negative then -n else n) else .error (.badNumber cs)

inductive SumToken where
  | ended
  | number (n : Int)
  | name (s : String)
  | sign (s : String)
  deriving DecidableEq, Repr

def sumSigns : List String :=
  ["<<=", ">>=", "&&", "||", "==", "!=", "<=", ">=", "<<", ">>", "+=", "-=", "*=", "/=",
   "%=", "&=", "|=", "^=", "+", "-", "*", "/", "%", "<", ">", "=", "!", "~", "&", "|", "^",
   "?", ":", "(", ")"]

def nextSumToken (cs : Octets) : SumToken × Octets :=
  let cs := cs.dropWhile fun c => c == ' ' || c == '\t' || c == '\n'
  match cs with
  | [] => (.ended, [])
  | c :: rest =>
    if c.isDigit then
      let (n, rest) := literal cs
      (.number n, rest)
    else if startsName c then
      let name := cs.takeWhile isNameChar
      (.name (String.ofList name), cs.drop name.length)
    else match sumSigns.find? fun s => s.toList.isPrefixOf cs with
      | some s => (.sign s, cs.drop s.length)
      | none => (.sign c.toString, rest)

def operator? (s : String) : Option Operator :=
  match s with
  | "*" => some .times
  | "/" => some .divided
  | "%" => some .rest
  | "+" => some .plus
  | "-" => some .minus
  | "<<" => some .shiftLeft
  | ">>" => some .shiftRight
  | "<" => some .less
  | "<=" => some .lessOrEqual
  | ">" => some .greater
  | ">=" => some .greaterOrEqual
  | "==" => some .equal
  | "!=" => some .different
  | "&" => some .bitAnd
  | "^" => some .bitXor
  | "|" => some .bitOr
  | _ => none

def assigning? (s : String) : Option (Option Operator) :=
  if s == "=" then some none
  else if s.toList.getLast? == some '=' then
    (operator? (String.ofList s.toList.dropLast)).bind fun op =>
      if 3 ≤ op.rank && op.rank ≤ 4 then none else some (some op)
  else none

mutual

def readAssignment : Nat → Octets → Except SumFault (Sum × Octets)
  | 0, _ => .error (.expected "expecting primary")
  | fuel + 1, cs => do
    match nextSumToken cs with
    | (.name s, rest) => match nextSumToken rest with
      | (.sign t, more) => match assigning? t with
        | some op =>
          let (e, rest) ← readAssignment fuel more
          return (.assign s op e, rest)
        | none => readCondition fuel cs
      | _ => readCondition fuel cs
    | _ => readCondition fuel cs

def readCondition : Nat → Octets → Except SumFault (Sum × Octets)
  | 0, _ => .error (.expected "expecting primary")
  | fuel + 1, cs => do
    let (test, rest) ← readEither fuel cs
    match nextSumToken rest with
    | (.sign "?", rest) =>
      let (a, rest) ← readAssignment fuel rest
      match nextSumToken rest with
      | (.sign ":", rest) =>
        let (b, rest) ← readCondition fuel rest
        return (.choose test a b, rest)
      | _ => throw (.expected "expecting ':'")
    | _ => return (test, rest)

def readEither : Nat → Octets → Except SumFault (Sum × Octets)
  | 0, _ => .error (.expected "expecting primary")
  | fuel + 1, cs => do
    let (a, rest) ← readBoth fuel cs
    match nextSumToken rest with
    | (.sign "||", rest) =>
      let (b, rest) ← readEither fuel rest
      return (.either a b, rest)
    | _ => return (a, rest)

def readBoth : Nat → Octets → Except SumFault (Sum × Octets)
  | 0, _ => .error (.expected "expecting primary")
  | fuel + 1, cs => do
    let (a, rest) ← readApplied fuel Operator.ranks cs
    match nextSumToken rest with
    | (.sign "&&", rest) =>
      let (b, rest) ← readBoth fuel rest
      return (.both a b, rest)
    | _ => return (a, rest)

def readApplied : Nat → Nat → Octets → Except SumFault (Sum × Octets)
  | 0, _, _ => .error (.expected "expecting primary")
  | fuel + 1, rank, cs => do
    let (a, rest) ← readOperand fuel cs
    readMore fuel rank a rest

def readMore : Nat → Nat → Sum → Octets → Except SumFault (Sum × Octets)
  | 0, _, _, _ => .error (.expected "expecting primary")
  | fuel + 1, rank, a, cs => do
    match nextSumToken cs with
    | (.sign s, rest) => match operator? s with
      | some op =>
        if op.rank < rank then
          let (b, rest) ← readApplied fuel op.rank rest
          readMore fuel rank (.apply op a b) rest
        else return (a, cs)
      | none => return (a, cs)
    | _ => return (a, cs)

def readOperand : Nat → Octets → Except SumFault (Sum × Octets)
  | 0, _ => .error (.expected "expecting primary")
  | fuel + 1, cs => do
    let under := fun (wrapped : Sum → Sum) (rest : Octets) => do
      let (e, rest) ← readOperand fuel rest
      return (wrapped e, rest)
    match nextSumToken cs with
    | (.number n, rest) => return (.number n, rest)
    | (.name s, rest) => return (.name s, rest)
    | (.sign "(", rest) =>
      let (e, rest) ← readAssignment fuel rest
      match nextSumToken rest with
      | (.sign ")", rest) => return (e, rest)
      | _ => throw (.expected "expecting ')'")
    | (.sign "+", rest) => readOperand fuel rest
    | (.sign "-", rest) => under .negated rest
    | (.sign "!", rest) => under .inverted rest
    | (.sign "~", rest) => under .complement rest
    | _ => throw (.expected "expecting primary")

end

def Sum.ofText (cs : Octets) : Except SumFault Sum := do
  let (e, rest) ← readAssignment (8 * cs.length + 16) cs
  match nextSumToken rest with
  | (.ended, _) => return e
  | _ => throw (.expected "expecting EOF")

def bitwise (f : Nat → Nat → Nat) (a b : Int) : Int := wrap (f (unsigned a) (unsigned b))

def Operator.apply (a b : Int) : Operator → Except SumFault Int
  | .times => .ok (wrap (a * b))
  | .divided => if b = 0 then .error .divisionByZero else .ok (wrap (a.tdiv b))
  | .rest => if b = 0 then .error .divisionByZero else .ok (a.tmod b)
  | .plus => .ok (wrap (a + b))
  | .minus => .ok (wrap (a - b))
  | .shiftLeft => .ok (wrap (a * Nat.pow 2 (unsigned b % 64)))
  | .shiftRight => .ok (a / Nat.pow 2 (unsigned b % 64))
  | .less => .ok (truth (a < b))
  | .lessOrEqual => .ok (truth (a ≤ b))
  | .greater => .ok (truth (b < a))
  | .greaterOrEqual => .ok (truth (b ≤ a))
  | .equal => .ok (truth (a = b))
  | .different => .ok (truth (a ≠ b))
  | .bitAnd => .ok (bitwise (· &&& ·) a b)
  | .bitXor => .ok (bitwise (· ^^^ ·) a b)
  | .bitOr => .ok (bitwise (· ||| ·) a b)

abbrev Assigned := List (String × Int)

def Sum.value (lookup : String → Octets) : Sum → Assigned → Except SumFault (Int × Assigned)
  | .number n, s => .ok (n, s)
  | .name x, s => match s.lookup x with
    | some n => .ok (n, s)
    | none => (numberOf (lookup x)).map (·, s)
  | .negated e, s => do
    let (n, s) ← e.value lookup s
    return (wrap (-n), s)
  | .complement e, s => do
    let (n, s) ← e.value lookup s
    return (-n - 1, s)
  | .inverted e, s => do
    let (n, s) ← e.value lookup s
    return (truth (n = 0), s)
  | .apply op a b, s => do
    let (m, s) ← a.value lookup s
    let (n, s) ← b.value lookup s
    return (← op.apply m n, s)
  | .both a b, s => do
    let (m, s) ← a.value lookup s
    if m = 0 then return (0, s)
    let (n, s) ← b.value lookup s
    return (truth (n ≠ 0), s)
  | .either a b, s => do
    let (m, s) ← a.value lookup s
    if m ≠ 0 then return (1, s)
    let (n, s) ← b.value lookup s
    return (truth (n ≠ 0), s)
  | .choose test a b, s => do
    let (m, s) ← test.value lookup s
    if m ≠ 0 then a.value lookup s else b.value lookup s
  | .assign x op e, s => do
    let (n, s) ← e.value lookup s
    match op with
    | none => return (n, (x, n) :: s)
    | some op =>
      let m ← match s.lookup x with
        | some m => pure m
        | none => numberOf (lookup x)
      let n ← op.apply m n
      return (n, (x, n) :: s)

end DocBraces.Tools
