import DocBraces.Files.Tree
import DocBraces.Render.Fallback
import DocBraces.Text.Blank
import DocBraces.Text.Lines
import DocBraces.Text.Utf8

/-!
# Commands as renderers

A command renders when it reads Markdown and writes HTML. What it wrote counts only
if it ended with status zero; every other ending is a failure, as is output that is no
UTF-8.
-/

set_option autoImplicit false

namespace DocBraces.Render

open DocBraces.Text

/-- A program with its arguments and its input. -/
structure Command where
  words : List String
  input : List UInt8
  /-- Microseconds to wait for the end. -/
  patience : Int

/-- How the attempt to run a command ends. -/
inductive Ending where
  | missing
  | refused (fault : Files.Fault)
  | embeddedNul
  | timedOut
  /-- Death by a signal is a negative status. -/
  | exited (status : Int) (output errors : List UInt8)

/-- Why no page comes out of a command. -/
inductive Fault where
  | noCommand
  | missing (program : String)
  | timedOut (program limit : String)
  | exited (program : String) (status : Int) (note : List Char)
  deriving DecidableEq, Repr

def Fault.message : Fault → String
  | .noCommand => "Renderer command is empty"
  | .missing p => s!"Renderer not found: {p}"
  | .timedOut p limit => s!"Renderer timed out after {limit}s: {p}"
  | .exited p status note =>
    s!"Renderer {p} exited {status}" ++
      if note.isEmpty then "" else ": " ++ String.ofList note

inductive Failure where
  | fault (f : Fault)
  | refused (f : Files.Fault)
  | embeddedNul
  | undecodable (f : Utf8.Fault)
  deriving DecidableEq, Repr

def Failure.message : Failure → String
  | .fault f => f.message
  | .refused f => f.message
  | .embeddedNul => "embedded null byte"
  | .undecodable f => f.message

/-- How long a command may take, and the text shown for that. -/
structure Limit where
  micros : Int
  shown : String

def Limit.default : Limit := ⟨60000000, "60"⟩

def decodeOutput (bs : List UInt8) : Except Failure (List Char) :=
  match Utf8.decode bs with
  | .ok cs => .ok (unifyNewlines cs)
  | .error f => .error (.undecodable f)

/-- The page that an ending stands for. Both streams are read before the status is
looked at. -/
def Ending.page (program : String) (limit : Limit) : Ending → Except Failure (List Char)
  | .missing => .error (.fault (.missing program))
  | .refused f => .error (.refused f)
  | .embeddedNul => .error .embeddedNul
  | .timedOut => .error (.fault (.timedOut program limit.shown))
  | .exited status output errors => do
    let html ← decodeOutput output
    let note ← decodeOutput errors
    if status = 0 then .ok html else .error (.fault (.exited program status (trim note)))

def Command.of (words : List String) (limit : Limit) (source : List Char) : Command :=
  { words, input := Utf8.encode source, patience := limit.micros }

/-- A command as a renderer, given how commands are run in a world; no words are no
command. -/
def rendererOf {ω : Type} (run : Command → StateM ω Ending) (words : List String)
    (limit : Limit) : Except Failure (ActiveRenderer ω Failure) :=
  match words with
  | [] => .error (.fault .noCommand)
  | program :: _ => .ok fun source => ExceptT.mk do
    return (← run (.of words limit source)).page program limit

def commandRenderer (run : Command → Ending) (words : List String) (limit : Limit) :
    Except Failure (Renderer Failure) :=
  (rendererOf (ω := Unit) (fun c => pure (run c)) words limit).map fun r source =>
    ((r source).run ()).1

end DocBraces.Render
