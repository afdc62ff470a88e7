import DocBraces.CommandLine.Help
import DocBraces.Session.Files
import DocBraces.Text.Digit

/-!
# Acting on a command line

An act is an activity that can end early with an exit status. Printed text loses
terminal controls, since the streams are no terminals.
-/

set_option autoImplicit false

namespace DocBraces.CommandLine

open DocBraces.Files

abbrev Act := ExceptT Nat Run

def run {α : Type} (r : Run α) : Act α := ExceptT.lift r

def exit {α : Type} (status : Nat) : Act α := throw status

/-- Length of a terminal control behind an escape character: a bracket, parameters,
further signs, and the letter or sign that ends it. -/
def controlLength? : List Char → Option Nat
  | '[' :: cs =>
    let parameters := cs.takeWhile fun c => '0' ≤ c && c ≤ '?'
    let rest := cs.drop parameters.length
    let signs := rest.takeWhile fun c => ' ' ≤ c && c ≤ '/'
    if (rest.drop signs.length).head?.any fun c => '@' ≤ c && c ≤ '~' then
      some (parameters.length + signs.length + 2)
    else none
  | _ => none

/-- Drops terminal controls; `left` counts characters of one that is being dropped. -/
def plainFrom : (left : Nat) → List Char → List Char
  | _, [] => []
  | n + 1, _ :: cs => plainFrom n cs
  | 0, c :: cs =>
    if c = '\x1b' then match controlLength? cs with
      | some n => plainFrom n cs
      | none => c :: plainFrom 0 cs
    else c :: plainFrom 0 cs

def plain (s : String) : String := String.ofList (plainFrom 0 s.toList)

def say (text : String) : Act Unit := run (Session.print (plain text))

def sayLine (text : String) : Act Unit := say (text ++ "\n")

def complain (text : String) : Act Unit := run (Session.complain (plain text))

def refuse {α : Type} (s : CommandSpec) (takesCommand : Bool) (f : Fault) : Act α := do
  complain (complaint s takesCommand f)
  exit 2

def answerFirst (page : List String) : Givens → Act Unit
  | [] => pure ()
  | (.help, _) :: _ => do
    say (linesText page)
    exit 0
  | (.version, _) :: _ => do
    sayLine s!"{programName}, version {versionNumber}"
    exit 0
  | _ :: gs => answerFirst page gs

/-- A value that names a path holds no NUL, and what is there under it can be read. -/
def checkPath (c : CommandSpec) (takesCommand : Bool) (o : OptionSpec) (value : String) :
    Act Unit := do
  if hasNul value then run (throw .embeddedNul)
  let session ← run get
  match session.tree.resolve true session.here value with
  | .ok (.present place _) =>
    if session.unreadable.contains place then
      refuse c takesCommand (.badOption o.names s!"Path {Text.quoted value} is not readable.")
  | _ => return

def checkPathValues (c : CommandSpec) (takesCommand : Bool) (gs : Givens) : Act Unit := do
  for o in c.options.filter (·.takesValue) do
    if let some v := Givens.value? gs o.switch then checkPath c takesCommand o v

def readGivens (s : CommandSpec) (takesCommand : Bool) (page : List String)
    (words : List String) : Act (Givens × List String) := do
  match readWords s.options (!takesCommand) none words with
  | .error f => refuse s takesCommand f
  | .ok (gs, rest) =>
    answerFirst page gs
    checkPathValues s takesCommand gs
    return (gs, rest)

def readGroup (g : Group) (words : List String) : Act (Givens × List String) := do
  if words.isEmpty then
    complain (linesText g.page)
    exit 2
  readGivens g.spec true g.page words

def startsWithSign (word : String) : Bool :=
  match word.toList with
  | c :: _ => c == '_' || !Text.isWord c
  | [] => false

/-- The command that a word names. A word that looks like an option is read as one
first. -/
def findCommand (g : Group) : List String → Act (Command × List String)
  | [] => refuse g.spec true .commandMissing
  | w :: ws => do
    match g.commands.lookup w with
    | some c => return (c, ws)
    | none =>
      if startsWithSign w then
        let _ ← readGroup g (w :: ws)
      refuse g.spec true (.unknownCommand w)

/-- The argument has to be a file that is there; a hyphen stands for the standard
input. -/
def checkSource (s : CommandSpec) (source : String) : Act Unit := do
  if source = "-" then return
  if hasNul source then run (throw .embeddedNul)
  let session ← run get
  let bad := fun (reason : String) =>
    refuse s false (.badArgument "SOURCE" s!"File {Text.quoted source} {reason}")
  match session.tree.resolve true session.here source with
  | .ok (.present _ .folder) => bad "is a directory."
  | .ok (.present place _) => if session.unreadable.contains place then bad "is not readable."
  | _ => bad "does not exist."

def readAction (a : Action) (words : List String) : Act (Givens × String) := do
  let s := a.spec
  let (gs, rest) ← readGivens s false a.page words
  let (source, extra) ← match s.argument, rest with
    | none, ws => pure ("", ws)
    | some name, [] => refuse s false (.argumentMissing name)
    | some _, w :: ws => do
      checkSource s w
      pure (w, ws)
  unless extra.isEmpty do refuse s false (.extraArguments extra)
  return (gs, source)

end DocBraces.CommandLine
