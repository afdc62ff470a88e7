import DocBraces.Config.Environment
import DocBraces.Render.Command
import DocBraces.Tools.Running

/-!
# Starting tools

Commands name tools, by themselves or in the folders of the system. A path that
leads to anything else cannot be started.
-/

set_option autoImplicit false

namespace DocBraces.Tools

open DocBraces.Files DocBraces.Render

def nesting : Nat := 2000

def startingTime : Nat := 1000

def commonVariables : Environment := [
  ("PATH", "/usr/local/sbin:/usr/local/bin:/usr/sbin:/usr/bin:/sbin:/bin"),
  ("HOME", "/root"), ("LANG", "C.UTF-8")]

def exportedVariables (e : Environment) : List (String × Variable) :=
  let own := commonVariables.filter fun v => (e.lookup v.1).isNone
  (own ++ e).map fun (n, v) => (n, { value := some (Octets.ofString v), exported := true })

def surroundings (v : View) (e : Environment) (c : Command) : Shell :=
  { tree := v.tree, here := v.here, name := [], patience := c.patience, clock := startingTime
    files := [(0, .pipe c.input false), (1, .pipe [] false), (2, .pipe [] false)], nextFile := 3
    streams := [(0, 0), (1, 1), (2, 2)], bindings := exportedVariables e }

def refusal (v : View) (program : String) : Ending :=
  let denied := Ending.refused ⟨.denied, program⟩
  if program.isEmpty || program = "." || program = ".." then denied
  else if !program.toList.contains '/' then
    if isTooLong program then .refused ⟨.nameTooLong, program⟩ else .missing
  else match v.tree.resolve true v.here program with
    | .ok (.present _ _) => denied
    | .ok (.absent _) => .missing
    | .error .notFound => .missing
    | .error cause => .refused ⟨cause, program⟩

def canStart (sh : Shell) (program : String) : Bool :=
  Running.isProgram program && (program.toList.contains '/' || Running.searches sh)

def launch (program : String) (args : List Octets) : Action (Option Nat) := do
  let run := Running.runWithin nesting
  if ["sh", "dash", "bash"].contains (Running.systemName program) then
    Running.shellProgram run program args
  else
    Running.runExternal run (Octets.ofString program) args
    return none

def endingOf (sh : Shell) (ended : Except Leaving (Option Nat)) : Ending :=
  let held := fun (stream : Nat) => match sh.files.lookup stream with
    | some (.pipe bs endless) => (bs, endless)
    | _ => ([], false)
  let isLate := sh.patience ≤ (max sh.clock sh.busyUntil : Nat) || (held 1).2 || (held 2).2
  match ended with
  | .error .timeout => .timedOut
  | .error (.signal n) => if isLate then .timedOut else .exited (-n) (held 1).1 (held 2).1
  | .ok (some n) => if isLate then .timedOut else .exited (-n) (held 1).1 (held 2).1
  | _ => if isLate then .timedOut else .exited sh.status (held 1).1 (held 2).1

/-- Runs a command, and gives back what it has made of the files. Words with a NUL cannot
be handed over. -/
def start (v : View) (e : Environment) (c : Command) : Ending × Tree :=
  if c.words.any hasNul then (.embeddedNul, v.tree)
  else match c.words with
    | [] => (.missing, v.tree)
    | program :: args =>
      let sh := surroundings v e c
      if !canStart sh program then (refusal v program, v.tree)
      else
        let (ended, sh) := (launch program (args.map Octets.ofString)).run.run sh
        (endingOf sh ended, sh.tree)

end DocBraces.Tools
