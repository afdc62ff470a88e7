import DocBraces.Files.View
import DocBraces.Log.Setup
import DocBraces.Session.Failure

/-!
# Sessions

What an activity works on: a file tree seen from a folder, the environment, the
programs at hand, the log, and the three standard streams. What has been done before a
failure stays done.
-/

set_option autoImplicit false

namespace DocBraces

open DocBraces.Files

/-- What a file is opened for. -/
inductive Access where
  | reading
  | writing
  deriving DecidableEq, Repr

def walkLevels : Nat := 983

structure Session where
  tree : Tree
  here : Place
  /-- Places that cannot be opened under their own names. -/
  locked : Access → List Place := fun _ => []
  /-- Places of which the permissions say that they cannot be read. -/
  unreadable : List Place := []
  /-- Levels of folders that a walk can go down before the stack is full. -/
  levels : Nat := walkLevels
  environment : Environment := []
  /-- How a command ends that is started in a view, and what becomes of the files. -/
  programs : View → Environment → Render.Command → Render.Ending × Tree
  clock : Log.Clock
  logging : Option Log.Logging := none
  logFile : Option Place := none
  input : List UInt8 := []
  output : String := ""
  errors : String := ""

abbrev Run := ExceptT Session.Failure (StateM Session)

namespace Session

def view (s : Session) : View := ⟨s.tree, s.here⟩

def start (s : Session) (t : Tree) (c : Render.Command) : Render.Ending × Tree :=
  s.programs ⟨t, s.here⟩ s.environment c

def setTree (t : Tree) : Run Unit := modify fun s => { s with tree := t }

def print (text : String) : Run Unit := modify fun s => { s with output := s.output ++ text }

def complain (text : String) : Run Unit := modify fun s => { s with errors := s.errors ++ text }

def appendTo (t : Tree) (place : Place) (bytes : List UInt8) : Tree :=
  match t.node? place with
  | some (.file old) => t.put place (.file (old ++ bytes))
  | _ => t

/-- Writes a record wherever the logging sends it. Without logging a warning is still
said. -/
def record (s : Session) (r : Log.Record) : Session :=
  match s.logging with
  | none =>
    if r.level < Log.warningLevel then s else { s with errors := s.errors ++ r.message ++ "\n" }
  | some l =>
    let tree := match s.logFile with
      | some place => appendTo s.tree place (Text.Utf8.encode (l.fileText s.clock r).toList)
      | none => s.tree
    { s with tree, errors := s.errors ++ l.consoleText s.clock r }

/-- Runs a command where the files are. What it makes of them stays, and a log file that
it has taken away is logged to no more. -/
def runCommand (c : Render.Command) : StateM Session Render.Ending := fun s =>
  let (ending, tree) := s.start s.tree c
  (ending, { s with tree, logFile := s.logFile.filter fun place => (tree.node? place).isSome })

def log (logger : String) (level : Nat) (message : String) : Run Unit :=
  modify fun s => s.record { logger, level, message }

end Session

end DocBraces
