import DocBraces.Config.Environment
import DocBraces.Log.Record

/-!
# Logging

Where records go: to the console, and to a file if one is named, each from its own
level on. A setup replaces the one before it, except that the loggers of the YAML
reader and of the schema stay held at warnings once they are.
-/

set_option autoImplicit false

namespace DocBraces.Log

structure Sink where
  level : Nat
  layout : Layout
  deriving DecidableEq, Repr

structure Logging where
  console : Sink
  file : Option Sink := none
  rootLevel : Nat
  /-- Loggers of libraries are held at warnings. -/
  held : Bool
  deriving DecidableEq, Repr

def consoleLayout (level : Nat) : Layout :=
  if level ≤ debugLevel then .detailed else if level ≤ infoLevel then .named else .plain

/-- What a caller asks for. -/
structure Request where
  level : Option String := some "WARNING"
  file : Option String := none
  fileLevel : Option String := none
  holdLibraries : Bool := true

def nonempty? (s : Option String) : Option String := s.filter (!·.isEmpty)

def Request.filePath? (r : Request) : Option String := nonempty? r.file

namespace Logging

def setup (held : Bool) (r : Request) : Logging :=
  let level := levelOf (nonempty? r.level)
  let held := held || (r.holdLibraries && debugLevel < level)
  let console : Sink := ⟨level, consoleLayout level⟩
  match r.filePath? with
  | none => { console, rootLevel := level, held }
  | some _ =>
    let fileLevel := match nonempty? r.fileLevel with
      | some name => levelOf (some name)
      | none => level
    { console, file := some ⟨fileLevel, .dated⟩, rootLevel := min level fileLevel, held }

def libraryLoggers : List String := ["yaml", "pydantic"]

def isUnder (logger ancestor : String) : Bool :=
  logger == ancestor || (ancestor ++ ".").toList.isPrefixOf logger.toList

def threshold (s : Logging) (logger : String) : Nat :=
  if s.held && libraryLoggers.any (isUnder logger) then warningLevel else s.rootLevel

def rootName (logger : String) : String := if logger.isEmpty then "root" else logger

def passes (s : Logging) (r : Record) : Bool := 0 < r.level && s.threshold r.logger ≤ r.level

def reachesConsole (s : Logging) (r : Record) : Bool := s.passes r && s.console.level ≤ r.level

def reachesFile (s : Logging) (r : Record) : Bool :=
  s.passes r && s.file.any fun f => f.level ≤ r.level

def consoleText (s : Logging) (clock : Clock) (r : Record) : String :=
  if s.reachesConsole r then s.console.layout.render clock r ++ "\n" else ""

def fileText (s : Logging) (clock : Clock) (r : Record) : String :=
  match s.file with
  | some f => if s.reachesFile r then f.layout.render clock r ++ "\n" else ""
  | none => ""

end Logging

/-- The level that the flags of a command line ask for, else the environment's. -/
def resolveLevel (debug verbose quiet : Bool) (e : Environment) : String :=
  if debug then "DEBUG"
  else if verbose then "INFO"
  else if quiet then "ERROR"
  else (e.get? logLevelVariable).getD "WARNING"

end DocBraces.Log
