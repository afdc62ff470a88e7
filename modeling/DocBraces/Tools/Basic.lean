import DocBraces.Files.View
import DocBraces.Text.Utf8

/-!
# Tools

Small programs that read octets, write octets and change files. They are known by name,
and commands call them.
-/

set_option autoImplicit false

namespace DocBraces.Tools

open DocBraces.Text DocBraces.Files

abbrev Bytes := List UInt8

def bytes (s : String) : Bytes := Utf8.encode s.toList

def newline : UInt8 := 10

def textOf (bs : Bytes) : List Char :=
  match Utf8.decode bs with
  | .ok cs => cs
  | .error _ => bs.map fun b => Char.ofNat b.toNat

def stringOf (bs : Bytes) : String := String.ofList (textOf bs)

def firstChar? (bs : Bytes) : Option (Char × Nat) :=
  [1, 2, 3, 4].findSome? fun n => match Utf8.decode (bs.take n) with
    | .ok [c] => some (c, n)
    | _ => none

def charsOf : (left : Nat) → Bytes → List (Char ⊕ UInt8)
  | _, [] => []
  | n + 1, _ :: bs => charsOf n bs
  | 0, b :: bs => match firstChar? (b :: bs) with
    | some (c, n) => .inl c :: charsOf (n - 1) bs
    | none => .inr b :: charsOf 0 bs

def partsAt (mark : UInt8) : Bytes → List Bytes
  | [] => []
  | b :: bs =>
    if b = mark then [b] :: partsAt mark bs
    else match partsAt mark bs with
      | [] => [[b]]
      | l :: ls => (b :: l) :: ls

def byteLines (bs : Bytes) : List Bytes := partsAt newline bs

def dropMark (mark : UInt8) (l : Bytes) : Bytes :=
  if l.getLast? == some mark then l.dropLast else l

def dropNewline (l : Bytes) : Bytes := dropMark newline l

def bareLines (bs : Bytes) : List Bytes := (byteLines bs).map dropNewline

def closeLine (l : Bytes) : Bytes := if l.getLast? == some newline then l else l ++ [newline]

def joinWords (args : List Bytes) : Bytes := (args.intersperse [32]).flatten

def bytesBefore : Bytes → Bytes → Bool
  | [], _ => true
  | _ :: _, [] => false
  | a :: as, b :: bs => if a = b then bytesBefore as bs else a < b

def number? (bs : Bytes) : Option Nat :=
  let cs := textOf bs
  if cs.isEmpty || !cs.all Char.isDigit then none else some (ofDigits 10 cs)

def integer? (bs : Bytes) : Option Int :=
  match bs with
  | 45 :: ds => (number? ds).map fun n => -(n : Int)
  | 43 :: ds => (number? ds).map fun n => (n : Int)
  | ds => (number? ds).map fun n => (n : Int)

def digitsOfInt (n : Int) : List Char :=
  if n < 0 then '-' :: digits 10 n.natAbs else digits 10 n.natAbs

structure Call where
  /-- The name under which the tool was called. -/
  name : String
  view : View
  input : Option Bytes
  /-- The input is a file. -/
  fromFile : Bool := false
  args : List Bytes
  environment : List (String × Bytes) := []

inductive Channel where
  | output
  | errors
  deriving DecidableEq, Repr

inductive Reads where
  | nothing
  /-- So many octets; a pipe may hand over the rest of a chunk along with them. -/
  | part (count : Nat) (chunked : Bool)
  | all
  deriving DecidableEq, Repr

def chunk : Nat := 8192

def wholeChunks (count : Nat) : Nat := (count + chunk - 1) / chunk * chunk

def Reads.left (fromFile : Bool) (bs : Bytes) : Reads → Bytes
  | .nothing => bs
  | .part n chunked => bs.drop (if chunked && !fromFile then wholeChunks n else n)
  | .all => []

structure Result where
  status : Nat := 0
  /-- What has been written, in order. -/
  writes : List (Channel × Bytes) := []
  reads : Reads := .nothing
  /-- Microseconds spent waiting. -/
  micros : Nat := 0
  /-- The output never ends. -/
  endless : Bool := false
  tree : Tree

def Result.written (r : Result) (ch : Channel) : Bytes :=
  r.writes.flatMap fun w => if w.1 = ch then w.2 else []

abbrev Tool := Call → Result

abbrev Work := ExceptT Unit (StateM Result)

namespace Work

def print (bs : Bytes) : Work Unit :=
  modify fun r => { r with writes := r.writes ++ [(.output, bs)] }

def complain (message : String) : Work Unit :=
  modify fun r => { r with writes := r.writes ++ [(.errors, bytes (message ++ "\n"))] }

def setStatus (status : Nat) : Work Unit := modify fun r => { r with status }

def fault (status : Nat) (message : String) : Work Unit := do
  complain message
  setStatus status

def leave {α : Type} (status : Nat) : Work α := do
  setStatus status
  throw ()

def die {α : Type} (status : Nat) (message : String) : Work α := do
  complain message
  leave status

def tree : Work Tree := return (← get).tree

def setTree (t : Tree) : Work Unit := modify fun r => { r with tree := t }

def tool (w : Call → Work Unit) : Tool := fun c => ((w c).run.run { tree := c.view.tree }).2

end Work

def Call.find (c : Call) (follow : Bool) (name : Bytes) : Work (Except Cause Tree.Target) :=
  return (← Work.tree).resolve follow c.view.here (stringOf name)

def readInput (c : Call) : Work (Except String Bytes) := do
  let reads := (← get).reads
  modify fun r => { r with reads := .all }
  return match c.input with
    | some bs => .ok (reads.left c.fromFile bs)
    | none => .error "Bad file descriptor"

def namesInput (name : Bytes) : Bool :=
  [bytes "/dev/stdin", bytes "/dev/fd/0", bytes "/proc/self/fd/0"].contains name

def readFile (c : Call) (name : Bytes) : Work (Except String Bytes) := do
  if namesInput name then readInput c
  else match ← c.find true name with
    | .ok (.present _ (.file bs)) => return .ok bs
    | .ok (.present _ _) => return .error Cause.isFolder.text
    | .ok (.absent _) => return .error Cause.notFound.text
    | .error cause => return .error cause.text

def readSource (c : Call) (name : Bytes) : Work (Except String Bytes) :=
  if name == bytes "-" then readInput c else readFile c name

def readSources (c : Call) (status : Nat) (complaint : Bytes → String → String)
    (names : List Bytes) : Work (List (Bytes × Bytes)) := do
  let names := if names.isEmpty then [bytes "-"] else names
  let found ← names.mapM fun n => do
    match ← readSource c n with
    | .ok bs => return some (n, bs)
    | .error why =>
      Work.fault status (complaint n why)
      return none
  return found.filterMap id

end DocBraces.Tools
