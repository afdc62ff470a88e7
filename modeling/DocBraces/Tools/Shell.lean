import DocBraces.Tools.Grammar

/-!
# Shells

What a script works on: files and the streams that lead to them, variables, functions,
arguments, and the time that has passed. What has been done before a script is left stays
done.
-/

set_option autoImplicit false

namespace DocBraces.Tools

open DocBraces.Text DocBraces.Files

inductive OpenFile where
  /-- Octets that have been written and not yet read. -/
  | pipe (held : Bytes) (endless : Bool)
  | file (place : Place) (position : Nat) (appends : Bool)
  | nowhere
  deriving DecidableEq, Repr

structure Variable where
  value : Option Octets := none
  exported : Bool := false
  locked : Bool := false

inductive Leaving where
  | exit (status : Nat)
  /-- A fault, which commands of the shell may survive. -/
  | fault (status : Nat)
  | signal (number : Nat)
  | break_ (levels : Nat)
  | continue_ (levels : Nat)
  | return_ (status : Nat)
  | timeout
  deriving DecidableEq, Repr

structure Shell where
  tree : Tree
  here : Place
  files : List (Nat × OpenFile) := []
  nextFile : Nat := 0
  /-- Streams by their numbers, with the files they lead to. -/
  streams : List (Nat × Nat) := []
  bindings : List (String × Variable) := []
  functions : List (String × Script) := []
  name : Octets
  args : List Octets := []
  status : Nat := 0
  /-- The letters of the options that are set. -/
  switches : List Char := []
  traps : List (String × Octets) := []
  texts : List HereText := []
  nextText : Nat := 0
  line : Nat := 1
  /-- The command of the shell itself that is under way. -/
  command : Option String := none
  /-- Microseconds since the start. -/
  clock : Nat := 0
  /-- When commands in the background are over. -/
  busyUntil : Nat := 0
  patience : Int
  loops : Nat := 0
  /-- Calls under way, each with the variables it hides. -/
  hidden : List (List (String × Option Variable)) := []
  /-- The status of the last command whose result was used in a word. -/
  resultStatus : Option Nat := none
  /-- Commands in the background by their numbers, latest first, with their statuses. -/
  jobs : List (Nat × Nat) := []
  aliases : List (String × Octets) := []
  /-- The name of the shell as a program. -/
  program : String := "sh"

abbrev Action := ExceptT Leaving (StateM Shell)

namespace Shell

def file? (sh : Shell) (stream : Nat) : Option (Nat × OpenFile) :=
  (sh.streams.lookup stream).bind fun n => (sh.files.lookup n).map (n, ·)

def setFile (sh : Shell) (n : Nat) (f : OpenFile) : Shell :=
  { sh with files := (n, f) :: sh.files.filter (·.1 ≠ n) }

def addFile (sh : Shell) (f : OpenFile) : Nat × Shell :=
  (sh.nextFile, { sh with files := (sh.nextFile, f) :: sh.files, nextFile := sh.nextFile + 1 })

def pointStream (sh : Shell) (stream n : Nat) : Shell :=
  { sh with streams := (stream, n) :: sh.streams.filter (·.1 ≠ stream) }

def closeStream (sh : Shell) (stream : Nat) : Shell :=
  { sh with streams := sh.streams.filter (·.1 ≠ stream) }

def overlay (old : Bytes) (position : Nat) (new : Bytes) : Bytes :=
  old.take position ++ List.replicate (position - old.length) 0 ++ new ++
    old.drop (position + new.length)

def bytesAt (t : Tree) (place : Place) : Option Bytes :=
  match t.node? place with
  | some (.file bs) => some bs
  | _ => none

def writeFile (sh : Shell) (n : Nat) (bs : Bytes) : Shell :=
  match sh.files.lookup n with
  | some (.pipe held endless) => sh.setFile n (.pipe (held ++ bs) endless)
  | some (.file place position appends) => match bytesAt sh.tree place with
    | some old =>
      let position := if appends then old.length else position
      { sh.setFile n (.file place (position + bs.length) appends) with
        tree := sh.tree.put place (.file (overlay old position bs)) }
    | none => sh
  | _ => sh

def ahead? (sh : Shell) (stream : Nat) : Option Bytes :=
  (sh.file? stream).map fun (_, f) => match f with
    | .pipe held _ => held
    | .file place position _ => ((bytesAt sh.tree place).getD []).drop position
    | .nowhere => []

/-- Takes octets from a stream. A pipe hands over whole chunks unless it is read octet by
octet. -/
def consume (sh : Shell) (stream count : Nat) (octetwise : Bool) : Shell :=
  match sh.file? stream with
  | some (n, .pipe held endless) =>
    let taken := if octetwise then count else wholeChunks count
    sh.setFile n (.pipe (held.drop taken) endless)
  | some (n, .file place position appends) => sh.setFile n (.file place (position + count) appends)
  | _ => sh

def lookup? (sh : Shell) (name : String) : Option Variable := sh.bindings.lookup name

def putVariable (sh : Shell) (name : String) (v : Variable) : Shell :=
  { sh with bindings := (name, v) :: sh.bindings.filter (·.1 != name) }

def dropVariable (sh : Shell) (name : String) : Shell :=
  { sh with bindings := sh.bindings.filter (·.1 != name) }

def value? (sh : Shell) (name : String) : Option Octets := (sh.lookup? name).bind (·.value)

def has (sh : Shell) (switch : Char) : Bool := sh.switches.contains switch

def environment (sh : Shell) : List (String × Bytes) :=
  sh.bindings.filterMap fun (name, v) =>
    if v.exported then v.value.map fun cs => (name, cs.toBytes) else none

def separators (sh : Shell) : Octets := (sh.value? "IFS").getD [' ', '\t', '\n']

def ownNumber : Nat := 4242

end Shell

namespace Action

def setStatus (n : Nat) : Action Unit := modify fun sh => { sh with status := n }

def write (stream : Nat) (bs : Bytes) : Action Unit := modify fun sh =>
  match sh.streams.lookup stream with
  | some n => sh.writeFile n bs
  | none => sh

def print (cs : Octets) : Action Unit := write 1 cs.toBytes

def lead : Action Octets := do
  let sh ← get
  let line := (digits 10 sh.line)
  let start := if sh.program == "bash" then "bash: line ".toList ++ line
    else sh.name ++ ": ".toList ++ line
  return start ++ match sh.command with
    | some c => ": ".toList ++ Octets.ofString c
    | none => []

def complain (message : Octets) : Action Unit := do
  write 2 ((← lead) ++ ": ".toList ++ message ++ ['\n']).toBytes

def complainText (message : String) : Action Unit := complain (Octets.ofString message)

def die {α : Type} (status : Nat) (message : Octets) : Action α := do
  complain message
  throw (.fault status)

def dieText {α : Type} (message : String) : Action α := die 2 (Octets.ofString message)

def named {α : Type} (command : Option String) (act : Action α) : Action α := do
  let old := (← get).command
  modify fun sh => { sh with command }
  let result ← act
  modify fun sh => { sh with command := old }
  return result

def setVariable (name : String) (value : Octets) : Action Unit := do
  let v := ((← get).lookup? name).getD {}
  if v.locked then die 2 (Octets.ofString (name ++ ": is read only"))
  let exported := v.exported || (← get).has 'a'
  modify fun sh => sh.putVariable name { v with value := some value, exported }

def attempt {α : Type} (act : Action α) : Action (Except Leaving α) := fun sh =>
  let (r, sh) := act.run.run sh
  (.ok r, sh)

def finally_ {α : Type} (act : Action α) (after : Action Unit) : Action α := do
  match ← attempt act with
  | .ok a =>
    after
    return a
  | .error l =>
    after
    throw l

def wait (micros : Nat) : Action Unit := do
  modify fun sh => { sh with clock := sh.clock + micros }
  let sh ← get
  if sh.patience ≤ sh.clock then throw .timeout

def rejoin (old inner : Shell) : Shell :=
  { old with tree := inner.tree, files := inner.files, nextFile := inner.nextFile,
             clock := inner.clock, busyUntil := inner.busyUntil, nextText := inner.nextText,
             texts := inner.texts }

end Action

end DocBraces.Tools
