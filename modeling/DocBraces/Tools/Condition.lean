import DocBraces.Tools.Script

/-!
# Conditions

Tests of texts, numbers and files, joined and negated, as a row of arguments spells them.
-/

set_option autoImplicit false

namespace DocBraces.Tools

open DocBraces.Text DocBraces.Files

namespace Condition

inductive Kind where
  | unary
  | binary
  | other
  deriving DecidableEq, Repr

def unaryNames : List String :=
  ["-r", "-w", "-x", "-e", "-f", "-d", "-c", "-b", "-p", "-u", "-g", "-k", "-s", "-t", "-z",
   "-n", "-h", "-L", "-O", "-G", "-S"]

def binaryNames : List String :=
  ["=", "!=", "<", ">", "-eq", "-ne", "-ge", "-gt", "-le", "-lt", "-nt", "-ot", "-ef"]

def kind? (w : String) : Option Kind :=
  if unaryNames.contains w then some .unary
  else if binaryNames.contains w then some .binary
  else if ["!", "-a", "-o", "(", ")"].contains w then some .other
  else none

def operator? (ws : List Octets) : Option (String × Kind) :=
  match ws with
  | [] => none
  | w :: rest =>
    let name := w.text
    match kind? name with
    | none => none
    | some k =>
      let asOperand := match rest with
        | [] => true
        | [_] => false
        | next :: _ => kind? next.text == some .binary
      if (k = .unary && asOperand) || (name == "(" && rest.isEmpty) then none
      else some (name, k)

def number (w : Octets) : Except Octets Int :=
  let body := w.dropWhile fun c => c == ' ' || ('\t' ≤ c && c ≤ '\r')
  let ds := if body.head? == some '-' || body.head? == some '+' then body.drop 1 else body
  let digits := ds.takeWhile Char.isDigit
  let rest := (ds.drop digits.length).dropWhile fun c => c == ' ' || ('\t' ≤ c && c ≤ '\r')
  if digits.isEmpty || !rest.isEmpty then .error ("Illegal number: ".toList ++ w)
  else
    let n : Int := ofDigits 10 digits
    .ok (if body.head? == some '-' then -n else n)

def fileHolds (v : View) (op : String) (w : Octets) : Bool :=
  let follow := !(op == "-h" || op == "-L")
  match v.tree.resolve follow v.here w.text with
  | .ok (.present place node) => match op, node with
    | "-f", .file _ => place != ["dev", "null"]
    | "-c", .file _ => place == ["dev", "null"]
    | "-d", .folder => true
    | "-x", .folder => true
    | "-s", .file bs => !bs.isEmpty
    | "-s", .folder => true
    | "-h", .link _ => true
    | "-L", .link _ => true
    | op, _ => ["-e", "-r", "-w", "-O", "-G"].contains op
  | _ => false

def unary (v : View) (op : String) (w : Octets) : Except Octets Bool :=
  match op with
  | "-z" => .ok w.isEmpty
  | "-n" => .ok (!w.isEmpty)
  | "-t" => (number w).map fun _ => false
  | op => .ok (fileHolds v op w)

def before : Octets → Octets → Bool
  | [], [] => false
  | [], _ :: _ => true
  | _ :: _, [] => false
  | a :: as, b :: bs => if a == b then before as bs else a < b

def binary (v : View) (a : Octets) (op : String) (b : Octets) : Except Octets Bool := do
  let numbers := fun (test : Int → Int → Bool) => do
    let m ← number a
    let n ← number b
    return test m n
  match op with
  | "=" => return a == b
  | "!=" => return a != b
  | "<" => return before a b
  | ">" => return before b a
  | "-eq" => numbers fun m n => m = n
  | "-ne" => numbers fun m n => m ≠ n
  | "-ge" => numbers fun m n => n ≤ m
  | "-gt" => numbers fun m n => n < m
  | "-le" => numbers fun m n => m ≤ n
  | "-lt" => numbers fun m n => m < n
  | "-ef" =>
    let place := fun (w : Octets) => match v.tree.resolve true v.here w.text with
      | .ok (.present p _) => some p
      | _ => none
    return (place a).isSome && place a == place b
  | _ => return false

mutual

def readEither (v : View) : Nat → List Octets → Except Octets (Bool × List Octets)
  | 0, ws => .ok (false, ws)
  | fuel + 1, ws => do
    let (a, ws) ← readBoth v fuel ws
    match operator? (ws.drop 1) with
    | some ("-o", _) =>
      let (b, ws) ← readEither v fuel (ws.drop 2)
      return (a || b, ws)
    | _ => return (a, ws)

def readBoth (v : View) : Nat → List Octets → Except Octets (Bool × List Octets)
  | 0, ws => .ok (false, ws)
  | fuel + 1, ws => do
    let (a, ws) ← readNegated v fuel ws
    match operator? (ws.drop 1) with
    | some ("-a", _) =>
      let (b, ws) ← readBoth v fuel (ws.drop 2)
      return (a && b, ws)
    | _ => return (a, ws)

def readNegated (v : View) : Nat → List Octets → Except Octets (Bool × List Octets)
  | 0, ws => .ok (false, ws)
  | fuel + 1, ws => do
    match operator? ws with
    | some ("!", _) =>
      let (a, ws) ← readNegated v fuel (if ws.length < 2 then ws.drop 2 else ws.drop 1)
      return (!a, ws)
    | _ => readPlain v fuel ws

def readPlain (v : View) : Nat → List Octets → Except Octets (Bool × List Octets)
  | 0, ws => .ok (false, ws)
  | fuel + 1, ws => do
    match ws with
    | [] => return (false, [])
    | w :: rest =>
      match operator? ws with
      | some ("(", _) =>
        match operator? rest with
        | some (")", _) => return (false, rest)
        | _ =>
          let (a, ws) ← readEither v fuel rest
          match operator? (ws.drop 1) with
          | some (")", _) => return (a, ws.drop 1)
          | _ => throw "closing paren expected".toList
      | some (op, .unary) =>
        match rest with
        | [] => throw (op.toList ++ ": argument expected".toList)
        | x :: _ => return (← unary v op x, rest)
      | _ =>
        match operator? rest with
        | some (op, .binary) =>
          match rest.drop 1 with
          | [] => throw (op.toList ++ ": argument expected".toList)
          | x :: more => return (← binary v w op x, x :: more)
        | _ => return (!w.isEmpty, ws)

end

def holds (v : View) : List Octets → Except Octets Bool := holdsUnder v false 4
where
  holdsUnder (v : View) (negated : Bool) : Nat → List Octets → Except Octets Bool
    | 0, _ => .ok false
    | fuel + 1, ws => do
      if ws.isEmpty then return negated
      let isBinary := match ws with
        | [_, op, _] => kind? op.text == some .binary
        | _ => false
      let few := ws.length = 3 || ws.length = 4
      if few && !isBinary && ws.head? == some ['!'] then
        return (← holdsUnder v (!negated) fuel (ws.drop 1))
      let ws := if few && !isBinary && ws.head? == some ['('] && ws.getLast? == some [')'] then
        (ws.drop 1).dropLast else ws
      let (a, left) ← if isBinary then readBinary v ws
        else readEither v (4 * ws.length + 8) ws
      if 2 ≤ left.length then throw ((left.headD []) ++ ": unexpected operator".toList)
      return a != negated
  readBinary (v : View) (ws : List Octets) : Except Octets (Bool × List Octets) :=
    match ws with
    | [a, op, b] => (binary v a op.text b).map (·, [b])
    | _ => .ok (false, [])

end Condition

end DocBraces.Tools
