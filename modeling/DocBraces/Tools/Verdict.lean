import DocBraces.Tools.Condition
import DocBraces.Tools.Flag

/-!
# Verdicts

Conditions as a program of its own reads them: up to four words are told apart by their
number, longer rows are choices of rows of negated terms.
-/

set_option autoImplicit false

namespace DocBraces.Tools

open DocBraces.Text DocBraces.Files

namespace Verdict

inductive Fault where
  | missing (last : Octets)
  | notBinary (word : Octets)
  | notUnary (word : Octets)
  | notNumber (word : Octets)
  | extra (word : Octets)
  | unclosed (found : Option Octets)

def Fault.message : Fault → String
  | .missing w => s!"missing argument after {quoted w.toBytes}"
  | .notBinary w => s!"{quoted w.toBytes}: binary operator expected"
  | .notUnary w => s!"{quoted w.toBytes}: unary operator expected"
  | .notNumber w => s!"invalid integer {quoted w.toBytes}"
  | .extra w => s!"extra argument {quoted w.toBytes}"
  | .unclosed none => "‘)’ expected"
  | .unclosed (some w) => s!"‘)’ expected, found {quoted w.toBytes}"

structure Court where
  view : View
  last : Octets
  /-- The word behind the last one. -/
  beyond : Option Octets := none

abbrev Reads := List Octets → Except Fault (Bool × List Octets)

def isBinary (w : Octets) : Bool :=
  ["=", "==", "!=", "-nt", "-ot", "-ef", "-eq", "-ne", "-lt", "-le", "-gt", "-ge"].contains w.text

def isUnary (w : Octets) : Bool :=
  match w with
  | ['-', _] => true
  | _ => false

def Court.demand (k : Court) (ws : List Octets) : Except Fault (List Octets) :=
  if ws.isEmpty then .error (.missing k.last) else .ok ws

def single : Reads
  | [] => .ok (false, [])
  | w :: ws => .ok (!w.isEmpty, ws)

def Court.unary (k : Court) (op : Octets) (ws : List Octets) :
    Except Fault (Bool × List Octets) := do
  let tests := ["-r", "-w", "-x", "-e", "-N", "-f", "-d", "-c", "-b", "-p", "-u", "-g",
    "-k", "-s", "-t", "-z", "-n", "-h", "-L", "-O", "-G", "-S"]
  if !tests.contains op.text then throw (.notUnary op)
  match ← k.demand ws with
  | [] => return (false, [])
  | w :: rest =>
    match Condition.unary k.view op.text w with
    | .ok v => return (v, rest)
    | .error _ => throw (.notNumber w)

def Court.compare (k : Court) (left : Octets) (op right : Octets) : Except Fault Bool :=
  let name := if op.text == "==" then "=" else op.text
  match Condition.number left, Condition.binary k.view left name right with
  | _, .ok v => .ok v
  | .error _, .error _ => .error (.notNumber left)
  | .ok _, .error _ => .error (.notNumber right)

def lengthWord (w : Octets) : Octets := digits 10 w.length

def Court.pair (k : Court) : Reads
  | [a, b] =>
    if a == ['!'] then .ok (b.isEmpty, [])
    else if isUnary a then k.unary a [b]
    else .error (.missing k.last)
  | ws => .ok (false, ws)

mutual

def Court.words (k : Court) : Nat → (count : Nat) → Reads
  | 0, _, ws => .ok (false, ws)
  | fuel + 1, count, ws =>
    let rest := ws.drop count
    let onward := fun (r : Except Fault (Bool × List Octets)) =>
      r.map fun (v, left) => (v, left ++ rest)
    match ws.take count with
    | [_] => single ws
    | [a, b] => onward (k.pair [a, b])
    | [a, op, b] =>
      if isBinary op then (k.compare a op b).map (·, rest)
      else if a == ['!'] then onward ((k.pair [op, b]).map fun (v, left) => (!v, left))
      else if a == ['('] && b == [')'] then .ok (!op.isEmpty, rest)
      else if op.text == "-a" || op.text == "-o" then k.choices fuel ws
      else .error (.notBinary op)
    | [a, b, op, d] =>
      if a == ['!'] then (k.words fuel 3 (ws.drop 1)).map fun (v, left) => (!v, left)
      else if a == ['('] && d == [')'] then (k.pair [b, op]).map fun (v, _) => (v, rest)
      else k.choices fuel ws
    | _ => k.choices fuel ws

def Court.choices (k : Court) : Nat → Reads
  | 0, ws => .ok (false, ws)
  | fuel + 1, ws => do
    let (a, ws) ← k.row fuel (← k.demand ws)
    match ws with
    | ['-', 'o'] :: ws =>
      let (b, ws) ← k.choices fuel ws
      return (a || b, ws)
    | _ => return (a, ws)

def Court.row (k : Court) : Nat → Reads
  | 0, ws => .ok (false, ws)
  | fuel + 1, ws => do
    let (a, ws) ← k.term fuel ws
    match ws with
    | ['-', 'a'] :: ws =>
      let (b, ws) ← k.row fuel ws
      return (a && b, ws)
    | _ => return (a, ws)

def Court.term (k : Court) : Nat → Reads
  | 0, ws => .ok (false, ws)
  | fuel + 1, ws => do
    match ← k.demand ws with
    | ['!'] :: ws =>
      let (a, ws) ← k.term fuel (← k.demand ws)
      return (!a, ws)
    | ['('] :: ws =>
      let ws ← k.demand ws
      let inside := ((ws.drop 1).takeWhile (· != [')'])).length + 1
      let (a, ws) ← k.words fuel (if 4 < inside then ws.length else inside) ws
      match ws with
      | [')'] :: ws => return (a, ws)
      | w :: _ => throw (.unclosed (some w))
      | [] => throw (.unclosed k.beyond)
    | a :: op :: b :: ws =>
      match a.text, ws with
      | "-l", c :: rest =>
        if isBinary b then
          let isNumeric := b.head? == some '-'
          return (← k.compare (if isNumeric then lengthWord op else op) b c, rest)
        else if isBinary op then return (← k.compare a op b, ws)
        else k.unary a (op :: b :: ws)
      | _, _ =>
        if isBinary op then return (← k.compare a op b, ws)
        else if isUnary a then k.unary a (op :: b :: ws)
        else return (!a.isEmpty, op :: b :: ws)
    | a :: ws => if isUnary a then k.unary a ws else return (!a.isEmpty, ws)
    | [] => return (false, [])

end

def holds (v : View) (beyond : Option Octets) (ws : List Octets) : Except Fault Bool := do
  if ws.isEmpty then return false
  let k : Court := ⟨v, ws.getLast?.getD [], beyond⟩
  match ← k.words (4 * ws.length + 8) ws.length ws with
  | (a, []) => return a
  | (_, w :: _) => throw (.extra w)

end Verdict

def testCondition (bracket : Bool) : Tool := Work.tool fun c => do
  let words := c.args.map Octets.ofBytes
  if bracket && words.getLast? != some [']'] then Work.die 2 s!"{c.name}: missing ‘]’"
  let inner := if bracket then words.dropLast else words
  match Verdict.holds c.view (if bracket then some [']'] else none) inner with
  | .ok true => pure ()
  | .ok false => Work.setStatus 1
  | .error f => Work.die 2 s!"{c.name}: {f.message}"

end DocBraces.Tools
