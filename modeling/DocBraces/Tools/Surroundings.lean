import DocBraces.Tools.Flag

/-!
# Surroundings

Tools that say who runs them and where, or only how they end.
-/

set_option autoImplicit false

namespace DocBraces.Tools

open DocBraces.Text DocBraces.Files

def endWith (status : Nat) : Tool := Work.tool fun _ => Work.setStatus status

def say (text : String) : Work Unit := Work.print (bytes (text ++ "\n"))

def answer (text : String) : Tool := Work.tool fun c => do
  let fs ← flagsOf c.name 1 [] c.args
  match fs.operands with
  | [] => say text
  | x :: _ => misused c.name 1 s!"extra operand {quoted x}"

def showEnvironment : Tool := Work.tool fun c => do
  let fs ← flagsOf c.name 2 [.switch '0' "null"] c.args
  let ending : UInt8 := if fs.has "null" then 0 else newline
  if fs.operands.isEmpty then
    Work.print (c.environment.flatMap fun (n, v) => bytes n ++ 61 :: v ++ [ending])
  else fs.operands.forM fun n => do
    match c.environment.lookup (stringOf n) with
    | some v => Work.print (v ++ [ending])
    | none => Work.setStatus 1

def describeSystem : Tool := Work.tool fun c => do
  let fs ← flagsOf c.name 1
    [.switch 'a' "all", .switch 's' "kernel-name", .switch 'n' "nodename",
     .switch 'r' "kernel-release", .switch 'v' "kernel-version", .switch 'm' "machine",
     .switch 'p' "processor", .switch 'i' "hardware-platform", .switch 'o' "operating-system"]
    c.args
  match fs.operands with
  | x :: _ => misused c.name 1 s!"extra operand {quoted x}"
  | [] =>
    let parts := [("kernel-name", "Linux"), ("machine", "x86_64"), ("processor", "unknown"),
      ("hardware-platform", "unknown"), ("operating-system", "GNU/Linux")]
    let asked := parts.filter fun p =>
      fs.has p.1 || (fs.has "all" && p.2 != "unknown") || (fs.given.isEmpty && p.1 == "kernel-name")
    say (" ".intercalate (asked.map (·.2)))

def describeUser : Tool := Work.tool fun c => do
  let fs ← flagsOf c.name 1
    [.switch 'u' "user", .switch 'g' "group", .switch 'G' "groups", .switch 'n' "name",
     .switch 'r' "real", .switch 'z' "zero", .switch 'a' "a"] c.args
  let single := fs.has "user" || fs.has "group" || fs.has "groups"
  if single then say (if fs.has "name" then "root" else "0")
  else say "uid=0(root) gid=0(root) groups=0(root)"

def describeTerminal : Tool := Work.tool fun c => do
  let fs ← flagsOf c.name 2 [.switch 's' "silent", .long "quiet"] c.args
  if !fs.has "silent" && !fs.has "quiet" then say "not a tty"
  Work.setStatus 1

def locate (isProgram : String → Bool) : Tool := Work.tool fun c => do
  let fs ← flagsOf c.name 2 [.switch 'a' "all", .switch 's' "s"] c.args
  if fs.operands.isEmpty then Work.leave 1
  fs.operands.forM fun n => do
    let name := stringOf n
    if isProgram name then
      if !fs.has "s" then say s!"/usr/bin/{name}"
    else Work.setStatus 1

def setRights (what : String) : Tool := Work.tool fun c => do
  let fs ← flagsOf c.name 1
    [.switch 'R' "recursive", .switch 'v' "verbose", .switch 'f' "silent",
     .switch 'c' "changes"] c.args
  match fs.operands with
  | [] => misused c.name 1 "missing operand"
  | [x] => misused c.name 1 s!"missing operand after {quoted x}"
  | _ :: names => names.forM fun n => do
    match ← c.find true n with
    | .ok (.present _ _) => pure ()
    | .ok (.absent _) => Work.fault 1 s!"{c.name}: {what} {inQuotes n}: {Cause.notFound.text}"
    | .error cause => Work.fault 1 s!"{c.name}: {what} {inQuotes n}: {cause.text}"

def setLength : Tool := Work.tool fun c => do
  let fs ← flagsOf c.name 1
    [.switch 'c' "no-create", .valued 's' "size", .valued 'r' "reference"] c.args
  match (fs.value? "size").bind number? with
  | none =>
    if (fs.value? "size").isNone && (fs.value? "reference").isNone then
      misused c.name 1 "you must specify either ‘--size’ or ‘--reference’"
    else
      let given := stringOf ((fs.value? "size").getD [])
      Work.die 1 s!"{c.name}: Invalid number: {quotedText given}"
  | some size =>
    if fs.operands.isEmpty then misused c.name 1 "missing file operand"
    fs.operands.forM fun n => do
      match ← c.find true n with
      | .ok (.present p (.file bs)) =>
        let new := bs.take size ++ List.replicate (size - bs.length) 0
        Work.setTree ((← Work.tree).put p (.file new))
      | .ok (.absent p) =>
        if !fs.has "no-create" then
          Work.setTree ((← Work.tree).put p (.file (List.replicate size 0)))
      | .ok (.present _ _) =>
        Work.fault 1 s!"{c.name}: cannot open {inQuotes n} for writing: Is a directory"
      | .error cause =>
        Work.fault 1 s!"{c.name}: cannot open {inQuotes n} for writing: {cause.text}"

end DocBraces.Tools
