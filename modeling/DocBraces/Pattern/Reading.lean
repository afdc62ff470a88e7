import DocBraces.Pattern.Fault
import DocBraces.Pattern.Width
import DocBraces.Text.Identifier

/-!
# Reading a pattern: tokens

A pattern is read as a row of tokens, each a single character or a backslash with
the character after it. The reader looks one token ahead, and keeps the groups
seen so far.
-/

set_option autoImplicit false

namespace DocBraces.Pattern

open DocBraces.Text

structure Token where
  text : List Char
  position : Nat
  deriving DecidableEq, Repr

def tokensFrom : Nat → List Char → List Token
  | _, [] => []
  | n, '\\' :: c :: cs => ⟨['\\', c], n⟩ :: tokensFrom (n + 2) cs
  | n, c :: cs => ⟨[c], n⟩ :: tokensFrom (n + 1) cs

def Token.dangles (t : Token) : Bool := t.text == ['\\']

structure Reader where
  rest : List Token
  size : Nat
  /-- Number of groups opened, the whole match among them. -/
  groups : Nat := 1
  /-- Widths of the groups closed. -/
  widths : Width.Groups := []
  names : List (String × Nat) := []
  /-- Number of groups before the outermost look-behind under way. -/
  behindFrom : Option Nat := none
  /-- Groups asked for by a condition, with the place of the first such condition. -/
  asked : List (Nat × Nat) := []
  /-- A look-behind of more than one length was read. -/
  loose : Bool := false
  /-- A look-behind too wide to be laid down was read. -/
  wide : Bool := false

abbrev Reading := StateT Reader (Except Failure)

namespace Reading

def position : Reading Nat := do
  let r ← get
  return match r.rest with
    | [] => r.size
    | t :: _ => t.position

def failAt {α : Type} (n : Nat) (reason : Reason) : Reading α :=
  throw (.fault ⟨reason, some n⟩)

def fail {α : Type} (reason : Reason) (back : Nat := 0) : Reading α := do
  failAt ((← position) - back) reason

def continueWith (rest : List Token) : Reading Unit := do
  match rest with
  | t :: _ => if t.dangles then failAt t.position .danglingEscape
  | [] => pure ()
  modify fun r => { r with rest }

def peek : Reading (Option (List Char)) := do
  return (← get).rest.head?.map (·.text)

def next : Reading (Option (List Char)) := do
  match (← get).rest with
  | [] => return none
  | t :: ts =>
    continueWith ts
    return some t.text

def accept (c : Char) : Reading Bool := do
  if (← peek) == some [c] then
    let _ ← next
    return true
  else return false

def plainWhile (limit : Nat) (test : Char → Bool) : Reading (List Char) := do
  let r ← get
  let taken := (r.rest.take limit).takeWhile fun t =>
    match t.text with
    | [c] => test c
    | _ => false
  continueWith (r.rest.drop taken.length)
  return taken.flatMap (·.text)

def nameUntil (closing : Char) (what : String) : Reading (List Char) := do
  let r ← get
  let body := r.rest.takeWhile fun t => t.text != [closing]
  for t in body do
    if t.dangles then failAt t.position .danglingEscape
  let name := body.flatMap (·.text)
  match r.rest.drop body.length with
  | [] =>
    continueWith []
    if name.isEmpty then fail (.missingName what)
    else fail (.unterminatedName closing) name.length
  | _ :: ts =>
    continueWith ts
    if name.isEmpty then fail (.missingName what) 1
    else return name

def groupCount : Reading Nat := do return (← get).groups

def isClosed (n : Nat) : Reading Bool := do return ((← get).widths.lookup n).isSome

def groupNamed? (name : List Char) : Reading (Option Nat) := do
  return (← get).names.lookup (String.ofList name)

def openGroup (name : Option (List Char)) : Reading Nat := do
  let n ← groupCount
  modify fun r => { r with groups := r.groups + 1 }
  match name with
  | none => pure ()
  | some cs =>
    let name := String.ofList cs
    match (← get).names.lookup name with
    | some old => fail (.duplicateGroup name n old) (cs.length + 1)
    | none => modify fun r => { r with names := (name, n) :: r.names }
  return n

def widthOf (e : Expr) : Reading Width := do return (e.widthAfter (← get).widths).1

def closeGroup (n : Nat) (e : Expr) : Reading Unit := do
  let w ← widthOf e
  modify fun r => { r with widths := (n, w) :: r.widths }

def checkBehind (n : Nat) : Reading Unit := do
  match (← get).behindFrom with
  | none => pure ()
  | some first =>
    unless ← isClosed n do fail .openGroup
    if first ≤ n then fail .groupOfSameLookBehind

def checkGroupName (name : List Char) : Reading Unit := do
  unless isIdentifier name do fail (.badGroupName (String.ofList name)) (name.length + 1)

end Reading

end DocBraces.Pattern
