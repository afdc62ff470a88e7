import DocBraces.Text.LetterCase
import DocBraces.Text.Numeral

/-!
# Log records

A record has a logger, a numeric level and a message. Layouts say how a record is
written out.
-/

set_option autoImplicit false

namespace DocBraces.Log

open DocBraces.Text

structure Record where
  logger : String
  level : Nat
  message : String
  line : Nat := 0
  deriving DecidableEq, Repr

def debugLevel : Nat := 10
def infoLevel : Nat := 20
def warningLevel : Nat := 30
def errorLevel : Nat := 40
def criticalLevel : Nat := 50

/-- Upper case as far as level names need it: two letters outside ASCII have an ASCII
letter as their upper case. -/
def upperLevelChar (c : Char) : Char :=
  if c = '\u0131' then 'I' else if c = '\u017f' then 'S' else upperAscii c

def levelNumber? (name : String) : Option Nat :=
  match String.ofList (name.toList.map upperLevelChar) with
  | "CRITICAL" => some criticalLevel
  | "FATAL" => some criticalLevel
  | "ERROR" => some errorLevel
  | "WARNING" => some warningLevel
  | "WARN" => some warningLevel
  | "INFO" => some infoLevel
  | "DEBUG" => some debugLevel
  | "NOTSET" => some 0
  | _ => none

def levelOf (name : Option String) : Nat := ((name.bind levelNumber?)).getD warningLevel

def levelName : Nat → String
  | 50 => "CRITICAL"
  | 40 => "ERROR"
  | 30 => "WARNING"
  | 20 => "INFO"
  | 10 => "DEBUG"
  | 0 => "NOTSET"
  | n => s!"Level {n}"

structure Clock where
  date : String
  time : String
  deriving DecidableEq, Repr

inductive Layout where
  | plain
  | named
  | detailed
  | dated
  deriving DecidableEq, Repr

namespace Layout

def detailedFormat : String := "%(asctime)s %(levelname)-5s %(name)s:%(lineno)d — %(message)s"

def format : Layout → String
  | plain => "%(message)s"
  | named => "%(asctime)s [%(name)s] %(message)s"
  | detailed => detailedFormat
  | dated => detailedFormat

def timeFormat : Layout → Option String
  | plain => none
  | named => some "%H:%M:%S"
  | detailed => some "%H:%M:%S"
  | dated => some "%Y-%m-%d %H:%M:%S"

def paddedLevel (n : Nat) : String := String.ofList (padRight 5 (levelName n).toList)

def details (stamp : String) (r : Record) : String :=
  s!"{stamp} {paddedLevel r.level} {r.logger}:{r.line} — {r.message}"

def render (l : Layout) (clock : Clock) (r : Record) : String :=
  match l with
  | plain => r.message
  | named => s!"{clock.time} [{r.logger}] {r.message}"
  | detailed => details clock.time r
  | dated => details s!"{clock.date} {clock.time}" r

end Layout

end DocBraces.Log
