import DocBraces.Tools.Builtin
import DocBraces.Tools.Table

/-!
# Running scripts

Scripts run command by command. Each step hands what is nested in it to a runner, so
that a bound on the steps is all that their recursion needs.
-/

set_option autoImplicit false

namespace DocBraces.Tools

open DocBraces.Text DocBraces.Files

namespace Running

def systemFolders : List String := ["/usr/local/bin", "/usr/bin", "/bin"]

def systemName (name : String) : String :=
  let cs := name.toList
  let strip := fun (folder : String) =>
    if folder.toList.isPrefixOf cs then some (String.ofList (cs.drop folder.length)) else none
  ((strip "/bin/").or (strip "/usr/bin/")).getD name

def isProgram (name : String) : Bool :=
  let plain := systemName name
  !plain.toList.contains '/' && ((tool? plain).isSome || starters.contains plain)

def searches (sh : Shell) : Bool :=
  match sh.value? "PATH" with
  | none => false
  | some path => (path.splitOn ':').any fun p => systemFolders.contains (String.ofList p)

def refusal (sh : Shell) (name : String) : String × Nat :=
  if !name.toList.contains '/' then
    (if name.isEmpty then (Cause.denied.text, 127)
      else if isTooLong name then (Cause.nameTooLong.text, 127) else ("not found", 127))
  else match sh.tree.resolve true sh.here name with
    | .ok (.present _ _) => (Cause.denied.text, 126)
    | .ok (.absent _) => ("not found", 127)
    | .error .notFound => ("not found", 127)
    | .error .notFolder => ("not found", 127)
    | .error cause => (cause.text, 126)

def callTool (t : Tool) (name : String) (args : List Octets) : Action Unit := do
  let sh ← get
  let input := sh.ahead? 0
  let fromFile := match sh.file? 0 with
    | some (_, .file _ _ _) => true
    | _ => false
  let r := t { name, view := ⟨sh.tree, sh.here⟩, input, fromFile
               args := args.map Octets.toBytes, environment := sh.environment }
  match r.reads with
  | .nothing => pure ()
  | .part n chunked => modify (·.consume 0 n (!chunked))
  | .all =>
    match sh.file? 0 with
    | some (_, .pipe _ true) => throw .timeout
    | _ => modify (·.consume 0 (input.getD []).length true)
  modify fun sh => { sh with tree := r.tree, status := r.status }
  r.writes.forM fun (ch, bs) => Action.write (if ch = .output then 1 else 2) bs
  if (sh.streams.lookup 1).isNone && !(r.written .output).isEmpty then
    Action.write 2 (bytes s!"{name}: write error: Bad file descriptor\n")
    Action.setStatus 1
  if r.endless then
    match sh.file? 1 with
    | some (n, .pipe _ _) => modify fun sh => match sh.files.lookup n with
      | some (.pipe held _) => sh.setFile n (.pipe held true)
      | _ => sh
    | _ => throw .timeout
  Action.wait r.micros

def runLines (run : Runner) (tested : Bool) : Nat → ScriptReader → Action Unit
  | 0, _ => pure ()
  | fuel + 1, r => do
    let aliases := (← get).aliases
    match readCommands.run { r with aliases } with
    | .error f =>
      modify fun sh => { sh with line := f.line }
      Action.dieText f.message
    | .ok (none, _) => pure ()
    | .ok (some s, r) =>
      modify fun sh => { sh with texts := r.texts ++ sh.texts, nextText := r.nextText }
      if !(← get).has 'n' then run tested s
      runLines run tested fuel { r with texts := [] }

def runText (run : Runner) (tested : Bool) (text : Octets) (line : Nat) : Action Unit := do
  let sh ← get
  runLines run tested (text.length + 2) { rest := text, line, nextText := sh.nextText }

/-- What the end of a script means for the one who waits for it: its status, or the
signal or the time that ended it all. The script's last wish is carried out. -/
def conclude (run : Runner) (ended : Except Leaving Unit) : Action Nat := do
  let status ← match ended with
    | .ok () => pure (← get).status
    | .error (.exit s) => pure s
    | .error (.fault s) => pure s
    | .error (.return_ s) => pure s
    | .error .timeout => throw .timeout
    | .error (.signal n) => throw (.signal n)
    | .error _ => pure (← get).status
  match (← get).traps.lookup "EXIT" with
  | none => return status
  | some act =>
    modify fun sh => { sh with status, traps := sh.traps.filter (·.1 != "EXIT") }
    match ← Action.attempt (runText run false act (← get).line) with
    | .error (.exit s) => return s
    | .error (.fault s) => return s
    | .error .timeout => throw .timeout
    | .error (.signal n) => throw (.signal n)
    | _ => return status

def isolated (run : Runner) (act : Action Unit) : Action Unit := do
  let old ← get
  set { old with traps := old.traps.filter (·.2.isEmpty) }
  let ended ← Action.attempt (do
    let r ← Action.attempt act
    conclude run r)
  let inner ← get
  match ended with
  | .ok status => set { Action.rejoin old inner with status }
  | .error l =>
    set (Action.rejoin old inner)
    throw l

inductive Special where
  | nowhere
  | stream (n : Nat)
  deriving DecidableEq, Repr

def special? (path : String) : Option Special :=
  match path with
  | "/dev/null" => some .nowhere
  | "/dev/stdin" => some (.stream 0)
  | "/dev/stdout" => some (.stream 1)
  | "/dev/stderr" => some (.stream 2)
  | _ => match path.toList with
    | '/' :: 'd' :: 'e' :: 'v' :: '/' :: 'f' :: 'd' :: '/' :: [d] =>
      if d.isDigit then some (.stream (d.toNat - 48)) else none
    | _ => none

def redirectFault {α : Type} (message : String) : Action α := Action.dieText message

def pointTo (stream : Nat) (f : OpenFile) : Action Unit := modify fun sh =>
  let (n, sh) := sh.addFile f
  sh.pointStream stream n

def openFault {α : Type} (writing : Bool) (name : String) (cause : Cause) : Action α :=
  let why := if cause = .notFound || cause = .notFolder then
      (if writing then "Directory nonexistent" else "No such file")
    else cause.text
  let deed := if writing then "create" else "open"
  redirectFault s!"cannot {deed} {name}: {why}"

def openFile (stream : Nat) (how : Opens) (name : String) : Action Unit := do
  let sh ← get
  match special? name with
  | some .nowhere => pointTo stream .nowhere
  | some (.stream n) => match sh.streams.lookup n with
    | some f => modify (·.pointStream stream f)
    | none => openFault (how ≠ .reading) name .notFound
  | none =>
    match how, sh.tree.resolve true sh.here name with
    | .reading, .ok (.present place (.file _)) => pointTo stream (.file place 0 false)
    | .reading, .ok (.present _ _) => pointTo stream .nowhere
    | .reading, .ok (.absent _) => openFault false name .notFound
    | .reading, .error cause => openFault false name cause
    | _, .ok (.present _ .folder) => openFault true name .isFolder
    | .both, .ok (.present place _) => pointTo stream (.file place 0 false)
    | .appending, .ok (.present place _) => pointTo stream (.file place 0 true)
    | _, .ok (.present place _) =>
      if how = .writing && sh.has 'C' then openFault true name .exists
      modify fun sh => { sh with tree := sh.tree.put place (.file []) }
      pointTo stream (.file place 0 false)
    | _, .ok (.absent place) =>
      modify fun sh => { sh with tree := sh.tree.put place (.file []) }
      pointTo stream (.file place 0 (how = .appending))
    | _, .error cause => openFault true name cause

inductive Redirected where
  | file (stream : Nat) (how : Opens) (name : String)
  | copy (stream source : Nat)
  | close (stream : Nat)
  | here (stream : Nat) (text : Octets)

def readRedirection (run : Runner) (r : Redirection) : Action Redirected := do
  match r with
  | .file stream how w => return .file stream how (← Expansion.text run w).text
  | .copy stream w => match ← Expansion.text run w with
    | ['-'] => return .close stream
    | [d] =>
      if d.isDigit then return .copy stream (d.toNat - 48)
      else Action.dieText "Syntax error: Bad fd number"
    | _ => Action.dieText "Syntax error: Bad fd number"
  | .here stream n =>
    let sh ← get
    let body := ((sh.texts.find? (·.number = n)).map (·.body)).getD []
    let as ← Expansion.expandParts run false Expansion.depth body
    return .here stream (Expansion.textOfAtoms as)

def Redirected.apply : Redirected → Action Unit
  | .file stream how name => openFile stream how name
  | .copy stream source => do
    match (← get).streams.lookup source with
    | some f => modify (·.pointStream stream f)
    | none => redirectFault s!"{source}: Bad file descriptor"
  | .close stream => modify (·.closeStream stream)
  | .here stream text => pointTo stream (.pipe (Octets.toBytes text) false)

def redirect (run : Runner) (rs : List Redirection) : Action Bool := do
  let read ← rs.mapM (readRedirection run)
  match ← Action.attempt (read.forM Redirected.apply) with
  | .ok () => return true
  | .error (.fault s) =>
    Action.setStatus s
    return false
  | .error l => throw l

def redirecting (run : Runner) (rs : List Redirection) (failing : Action Unit)
    (act : Action Unit) : Action Unit := do
  let old := (← get).streams
  Action.finally_ (do if ← redirect run rs then act else failing)
    (modify fun sh => { sh with streams := old })

def usualPath : Octets :=
  "/usr/local/sbin:/usr/local/bin:/usr/sbin:/usr/bin:/sbin:/bin".toList

structure ShellCall where
  switches : List Char := []
  fromArgument : Bool := false
  fromInput : Bool := false
  operands : List Octets := []

def readShellCall : List Octets → ShellCall → Except String ShellCall
  | [], c => .ok c
  | w :: rest, c =>
    match w with
    | ['-', '-'] => .ok { c with operands := rest }
    | ['-'] => .ok { c with operands := rest }
    | ['-', 'o'] => match rest with
      | name :: rest => match Builtin.switchNames.lookup (String.ofList name) with
        | some s => readShellCall rest { c with switches := s :: c.switches }
        | none => .error s!"Illegal option -o {Octets.text name}"
      | [] => .ok c
    | '-' :: cs =>
      let known := ['c', 's', 'i', 'l'] ++ Builtin.switchNames.map (·.2)
      match cs.find? (!known.contains ·) with
      | some bad => .error s!"Illegal option -{bad}"
      | none =>
        let plain := cs.filter fun s => s != 'c' && s != 's' && s != 'l'
        readShellCall rest { c with
          switches := plain.reverse ++ c.switches
          fromArgument := c.fromArgument || cs.contains 'c'
          fromInput := c.fromInput || cs.contains 's' }
    | _ => .ok { c with operands := w :: rest }

/-- The shell that a program starts in. It looks for programs in the usual folders if it
is not told where. -/
def freshShell (sh : Shell) (program : String) (c : ShellCall) : Shell :=
  let given := sh.bindings.filter fun v => v.2.exported &&
    !(["IFS", "PWD", "OPTIND"].contains v.1)
  let path := if (given.lookup "PATH").isSome then []
    else [("PATH", ({ value := some usualPath } : Variable))]
  { tree := sh.tree, here := sh.here, files := sh.files, nextFile := sh.nextFile,
    streams := sh.streams, clock := sh.clock, busyUntil := sh.busyUntil,
    patience := sh.patience, texts := sh.texts, nextText := sh.nextText
    name := program.toList, program, switches := c.switches
    bindings := [("OPTIND", { value := some ['1'] }),
      ("PWD", { value := some (Builtin.placeText sh.here), exported := true }),
      ("PPID", { value := some (digits 10 (Shell.ownNumber - 1)) }),
      ("PS1", { value := some "# ".toList }), ("PS2", { value := some "> ".toList }),
      ("PS4", { value := some "+ ".toList }),
      ("IFS", { value := some [' ', '\t', '\n'] })] ++ path ++ given }

def scriptOf (c : ShellCall) : Action (Except String (Octets × Octets × List Octets)) := do
  let sh ← get
  if c.fromArgument then
    match c.operands with
    | [] => return .error "-c requires an argument"
    | text :: rest => return .ok (text, rest.headD sh.name, rest.drop 1)
  else match c.fromInput, c.operands with
    | false, file :: rest =>
      match sh.tree.resolve true sh.here file.text with
      | .ok (.present _ (.file bs)) => return .ok (Octets.ofBytes bs, file, rest)
      | .ok (.present _ _) => return .ok ([], file, rest)
      | _ => return .error s!"cannot open {file.text}: No such file"
    | _, operands =>
      let text := (sh.ahead? 0).getD []
      modify (·.consume 0 text.length true)
      return .ok (Octets.ofBytes text, sh.name, operands)

def shellProgram (run : Runner) (program : String) (args : List Octets) : Action (Option Nat) := do
  let old ← get
  let fail := fun (message : String) => do
    Action.write 2 (bytes s!"{program}: 0: {message}\n")
    Action.setStatus 2
    return none
  match readShellCall args {} with
  | .error message => fail message
  | .ok c =>
    set (freshShell old program c)
    match ← scriptOf c with
    | .error message =>
      modify (Action.rejoin old)
      fail message
    | .ok (text, name, args) =>
      modify fun sh => { sh with name, args }
      let ended ← Action.attempt (do
        let r ← Action.attempt (runText run false text 1)
        conclude run r)
      let inner ← get
      set (Action.rejoin old inner)
      match ended with
      | .ok status =>
        Action.setStatus status
        return none
      | .error (.signal n) =>
        Action.setStatus (128 + n)
        return some n
      | .error l => throw l

def deathText (n : Nat) : String :=
  match n with
  | 1 => "Hangup"
  | 3 => "Quit"
  | 4 => "Illegal instruction"
  | 5 => "Trace/breakpoint trap"
  | 6 => "Aborted"
  | 7 => "Bus error"
  | 8 => "Floating point exception"
  | 9 => "Killed"
  | 10 => "User defined signal 1"
  | 11 => "Segmentation fault"
  | 12 => "User defined signal 2"
  | 14 => "Alarm clock"
  | 15 => "Terminated"
  | _ => ""

/-- Words of an input, split at blanks, with quotes and backslashes resolved; a quote that
is never closed is a fault. -/
def inputWords (isEnd : Char → Bool) : Nat → Octets → Except Char (List Octets)
  | 0, _ => .ok []
  | fuel + 1, cs =>
    let cs := cs.dropWhile fun c => c == ' ' || c == '\t' || c == '\n'
    if cs.isEmpty then .ok []
    else do
      let (w, rest) ← word none cs
      return w :: (← inputWords isEnd fuel rest)
where
  word : Option Char → Octets → Except Char (Octets × Octets)
    | none, [] => .ok ([], [])
    | some q, [] => .error q
    | none, '\\' :: c :: cs => do
      let (w, rest) ← word none cs
      return (c :: w, rest)
    | none, c :: cs =>
      if isEnd c then .ok ([], c :: cs)
      else if c == '"' || c == '\'' then word (some c) cs
      else do
        let (w, rest) ← word none cs
        return (c :: w, rest)
    | some q, c :: cs =>
      if c == q then word none cs
      else if c == '\n' then .error q
      else do
        let (w, rest) ← word (some q) cs
        return (c :: w, rest)

def shellWord (cs : Octets) : Octets :=
  let isSign := fun (c : Char) => "!\"$&()*;<=>?[^\x60| \t\n\\'".toList.contains c
  let alone := match cs with
    | [c] => c == '\x7b' || c == '\x7d'
    | c :: _ => c == '#' || c == '~'
    | [] => true
  if alone || cs.any isSign then
    '\'' :: (cs.flatMap fun c => if c == '\'' then "'\\''".toList else [c]) ++ ['\'']
  else cs

def groupsOf {α : Type} (size : Nat) : Nat → List α → List (List α)
  | 0, _ => []
  | fuel + 1, ws =>
    if ws.isEmpty then [] else ws.take size :: groupsOf size fuel (ws.drop size)

def inputRows (fs : Flags) (hasMark : Bool) (text : Octets) : Except Char (List (List Octets)) :=
  let divided := fun (d : Char) =>
    if text.isEmpty then []
    else ((if text.getLast? == some d then text.dropLast else text).splitOn d).map fun w => [w]
  let delimiter := (fs.value? "delimiter").bind fun v => match Octets.ofBytes v with
    | [d] => some d
    | ['\\', 'n'] => some '\n'
    | ['\\', 't'] => some '\t'
    | ['\\', '0'] => some '\x00'
    | _ => none
  let blank := fun (c : Char) => c == ' ' || c == '\t' || c == '\n'
  let single := fun (ws : List Octets) => ws.map fun w => [w]
  match if fs.has "null" then some '\x00' else delimiter with
  | some d => .ok (divided d)
  | none =>
    if hasMark then (inputWords (· == '\n') (text.length + 1) text).map single
    else if fs.has "max-lines" then do
      let rows ← (bareLines text.toBytes).mapM fun (l : Bytes) =>
        inputWords blank (l.length + 1) (Octets.ofBytes l)
      return rows.filter (!·.isEmpty)
    else (inputWords blank (text.length + 1) text).map single

def callEach (start : List Octets → Action Unit) (name : String) (verbose : Bool) :
    (worst : Nat) → List (List Octets) → Action Nat
  | worst, [] => return worst
  | worst, words :: more => do
    if verbose then
      Action.write 2 (Octets.toBytes (((words.map shellWord).intersperse [' ']).flatten ++ ['\n']))
    start words
    match (← get).status with
    | 0 => callEach start name verbose worst more
    | 126 => return 126
    | 127 => return 127
    | 255 =>
      let program := ((words.head?.map Octets.text).getD "")
      Action.write 2 (bytes s!"{name}: {program}: exited with status 255; aborting\n")
      return 124
    | _ => callEach start name verbose 123 more

def replaceMark (mark word : Octets) : Nat → Octets → Octets
  | 0, cs => cs
  | _ + 1, [] => []
  | fuel + 1, c :: cs =>
    if mark.isPrefixOf (c :: cs) && !mark.isEmpty then
      word ++ replaceMark mark word fuel ((c :: cs).drop mark.length)
    else c :: replaceMark mark word fuel cs

def settleEnvironment : List Octets → Action (List Octets)
  | [] => return []
  | w :: rest => do
    match Builtin.splitSetting w with
    | (n, some v) =>
      let set := (n.text, ({ value := some v, exported := true } : Variable))
      modify fun sh =>
        { sh with bindings := if (sh.lookup? n.text).isSome then
            sh.bindings.map fun e => if e.1 == n.text then set else e
          else sh.bindings ++ [set] }
      settleEnvironment rest
    | (_, none) => return w :: rest

def startComplaint (plain : String) (w : Octets) (why : String) : String :=
  match plain with
  | "xargs" => s!"{w.text}: {why}"
  | "timeout" => s!"failed to run command {quoted w.toBytes}: {why}"
  | "nohup" => s!"failed to run command {inQuotes w.toBytes}: {why}"
  | _ => s!"{quoted w.toBytes}: {why}"

def starterFault (name message : String) : Action Unit := do
  Action.write 2 (bytes (if message.isEmpty then "" else s!"{name}: {message}\n"))
  Action.setStatus 125

def spellAdjustment : List Octets → List Octets
  | w :: rest =>
    let digitsOf := fun (cs : Octets) => !cs.isEmpty && cs.all Char.isDigit
    match w with
    | '-' :: '-' :: ds => if digitsOf ds then ['-', 'n'] :: ('-' :: ds) :: rest else w :: rest
    | '-' :: '+' :: ds => if digitsOf ds then ['-', 'n'] :: ds :: rest else w :: rest
    | '-' :: ds => if digitsOf ds then ['-', 'n'] :: ds :: rest else w :: rest
    | _ => w :: rest
  | [] => []

def isBare (fs : Flags) : Bool :=
  fs.has "ignore-environment" || fs.operands.head? == some (bytes "-")

mutual

def runProgram (run : Runner) : Nat → Octets → List Octets → Action Unit
  | 0, _, _ => pure ()
  | fuel + 1, word, args => do
    let sh ← get
    let name := word.text
    let plain := systemName name
    let isFound := isProgram name && (name.toList.contains '/' || searches sh)
    if !isFound then
      let (why, status) := refusal sh name
      if sh.program == "bash" && why == "not found" then
        Action.complainText (if name.toList.contains '/' then s!"{name}: No such file or directory"
          else s!"{name}: command not found")
      else Action.complain (word ++ ": ".toList ++ why.toList)
      Action.setStatus status
    else match tool? plain with
      | some t => callTool t name args
      | none => runStarter run fuel name plain args

def runStarter (run : Runner) : Nat → String → String → List Octets → Action Unit
  | 0, _, _, _ => pure ()
  | fuel + 1, name, plain, args => do
    match plain with
    | "env" => runEnv run fuel name args
    | "xargs" => runForWords run fuel name args
    | "nice" => runNice run fuel name args
    | "nohup" =>
      match readFlags [] false (args.map Octets.toBytes) with
      | .error message => starterFault name s!"{message}\n{tryHelp name}"
      | .ok fs =>
        if fs.operands.isEmpty then starterFault name s!"missing operand\n{tryHelp name}"
        else startOther run fuel name (fs.operands.map Octets.ofBytes)
    | "timeout" => runLimited run fuel name args
    | _ =>
      match ← shellProgram run name args with
      | none => pure ()
      | some n => Action.write 2 (bytes (deathText n ++ "\n"))

def startOther (run : Runner) : Nat → String → List Octets → Action Unit
  | 0, _, _ => pure ()
  | fuel + 1, name, words => do
    match words with
    | [] => pure ()
    | w :: args =>
      let sh ← get
      let finds := w.contains '/' || searches sh || (sh.value? "PATH").isNone
      if isProgram w.text && finds then
        let plain := systemName w.text
        match tool? plain with
        | some t => callTool t w.text args
        | none => runStarter run fuel w.text plain args
      else
        let (why, status) := refusal sh w.text
        let why := if why == "not found" then Cause.notFound.text else why
        Action.write 2 (bytes s!"{name}: {startComplaint (systemName name) w why}\n")
        Action.setStatus status

def runNice (run : Runner) : Nat → String → List Octets → Action Unit
  | 0, _, _ => pure ()
  | fuel + 1, name, args => do
    match readFlags [.valued 'n' "adjustment"] false
        ((spellAdjustment args).map Octets.toBytes) with
    | .error message => starterFault name s!"{message}\n{tryHelp name}"
    | .ok fs =>
      match fs.value? "adjustment", fs.operands with
      | some v, ws =>
        if (integer? v).isNone then starterFault name s!"invalid adjustment {quoted v}"
        else if ws.isEmpty then
          starterFault name s!"a command must be given with an adjustment\n{tryHelp name}"
        else startOther run fuel name (ws.map Octets.ofBytes)
      | none, [] =>
        Action.print ['0', '\n']
        Action.setStatus 0
      | none, ws => startOther run fuel name (ws.map Octets.ofBytes)

def runLimited (run : Runner) : Nat → String → List Octets → Action Unit
  | 0, _, _ => pure ()
  | fuel + 1, name, args => do
    let known : List Flag :=
      [.valued 'k' "kill-after", .valued 's' "signal", .long "foreground",
       .long "preserve-status", .switch 'v' "verbose"]
    let badTime := fun (v : Bytes) =>
      starterFault name s!"invalid time interval {quoted v}\n{tryHelp name}"
    match readFlags known false (args.map Octets.toBytes) with
    | .error message => starterFault name s!"{message}\n{tryHelp name}"
    | .ok fs =>
      let badSignal := (fs.values "signal").find? fun v =>
        (Builtin.signal? (Octets.ofBytes v)).isNone
      if let some v := badSignal then
        starterFault name s!"{quoted v}: invalid signal\n{tryHelp name}"
      else match fs.operands, (fs.values "kill-after").find? fun v => (waitingTime? v).isNone with
      | _, some v => badTime v
      | limit :: word :: words, none =>
        match waitingTime? limit with
        | none => badTime limit
        | some micros =>
          let old ← get
          let isLimited := micros ≠ 0
          let patience := if isLimited then min old.patience (old.clock + micros : Nat)
            else old.patience
          set { old with patience }
          let kills := (fs.value? "signal").any fun v =>
            ["KILL", "SIGKILL", "9"].contains (stringOf v)
          let late := if kills then 137 else if fs.has "preserve-status" then 143 else 124
          let all := (word :: words).map Octets.ofBytes
          match ← Action.attempt (startOther run fuel name all) with
          | .error .timeout =>
            if !isLimited then throw .timeout
            modify fun sh => { sh with patience := old.patience, clock := old.clock + micros }
            if old.patience ≤ (← get).clock then throw .timeout
            Action.setStatus late
          | .error l => throw l
          | .ok () => modify fun sh => { sh with patience := old.patience }
      | _, none =>
        Action.write 2 (bytes (tryHelp name ++ "\n"))
        Action.setStatus 125

def runEnv (run : Runner) : Nat → String → List Octets → Action Unit
  | 0, _, _ => pure ()
  | fuel + 1, name, args => do
    let known : List Flag :=
      [.switch 'i' "ignore-environment", .switch '0' "null", .valued 'u' "unset",
       .valued 'C' "chdir", .switch 'v' "debug"]
    let old ← get
    let back : Action Unit := modify fun sh =>
      { sh with bindings := old.bindings, here := old.here }
    match readFlags known false (args.map Octets.toBytes) with
    | .error message => starterFault name s!"{message}\n{tryHelp name}"
    | .ok fs =>
      let operands := if fs.operands.head? == some (bytes "-") then fs.operands.drop 1
        else fs.operands
      if isBare fs then
        modify fun sh => { sh with bindings := sh.bindings.filter fun v => !v.2.exported }
      (fs.values "unset").forM fun n => modify (·.dropVariable (stringOf n))
      let words ← settleEnvironment (operands.map Octets.ofBytes)
      let place := (fs.value? "chdir").map fun n => old.tree.resolve true old.here (stringOf n)
      match (fs.values "unset").find? fun n => n.isEmpty || n.contains 61 with
      | some n => starterFault name s!"cannot unset {quoted n}: Invalid argument"
      | none =>
        if fs.has "null" && !words.isEmpty then
          starterFault name s!"cannot specify --null (-0) with command\n{tryHelp name}"
        else if words.isEmpty then
          let ending := if fs.has "null" then '\x00' else '\n'
          Action.print ((← get).environment.flatMap fun (n, v) =>
            Octets.ofString n ++ '=' :: Octets.ofBytes v ++ [ending])
          Action.setStatus 0
        else
          let folder := (fs.value? "chdir").getD []
          let fail := fun (why : String) =>
            starterFault name s!"cannot change directory to {inQuotes folder}: {why}"
          match place with
          | none => startOther run fuel name words
          | some (.ok (.present here .folder)) =>
            modify fun sh => { sh with here }
            startOther run fuel name words
          | some (.ok (.present _ _)) => fail Cause.notFolder.text
          | some (.ok (.absent _)) => fail Cause.notFound.text
          | some (.error cause) => fail cause.text
      back

def runForWords (run : Runner) : Nat → String → List Octets → Action Unit
  | 0, _, _ => pure ()
  | fuel + 1, name, args => do
    let known : List Flag :=
      [.valued 'n' "max-args", .valued 'I' "I", .switch '0' "null", .switch 'r' "no-run-if-empty",
       .switch 't' "verbose", .valued 'd' "delimiter", .valued 'L' "max-lines",
       .valued 'P' "max-procs", .valued 's' "max-chars", ⟨"replace", some 'i', .mayTake⟩,
       .switch 'x' "exit"]
    let fail := fun (message : String) => do
      Action.write 2 (bytes s!"{name}: {message}\n")
      Action.setStatus 1
    match readFlags known false (args.map Octets.toBytes) with
    | .error message => fail s!"{message}\n{tryHelp name}"
    | .ok fs =>
      let command := fs.operands.map Octets.ofBytes
      let command := if command.isEmpty then ["echo".toList] else command
      let sh ← get
      let text := Octets.ofBytes ((sh.ahead? 0).getD [])
      modify (·.consume 0 text.length true)
      let mark := (fs.value? "I").or ((fs.value? "replace").map fun v =>
        if v.isEmpty then bytes "\x7b\x7d" else v)
      let rows := inputRows fs mark.isSome text
      let count := fs.value? "max-args"
      match rows, count.map number? with
      | .error q, _ =>
        let kind := if q == '"' then "double" else "single"
        fail (s!"unmatched {kind} quote; by default quotes are special to xargs " ++
          "unless you use the -0 option")
      | _, some none =>
        fail s!"invalid number \"{stringOf (count.getD [])}\" for -n option\n{tryHelp name}"
      | _, some (some 0) =>
        fail s!"value 0 for -n option should be >= 1\n{tryHelp name}"
      | .ok rows, size =>
        if text.contains '\x00' && !fs.has "null" && !fs.has "delimiter" then
          Action.write 2 (bytes (s!"{name}: WARNING: a NUL character occurred in the input.  It " ++
            "cannot be passed through in the argument list.  Did you mean to use the --null " ++
            "option?\n"))
        let rows := rows.map fun ws => ws.map fun w => w.takeWhile (· != '\x00')
        let calls := match mark with
          | some mark => rows.flatten.map fun w =>
            command.map fun (a : Octets) => replaceMark (Octets.ofBytes mark) w (a.length + 1) a
          | none =>
            let perCall := (size.bind id).getD
              ((((fs.value? "max-lines").bind number?)).getD rows.length)
            let groups := groupsOf (max 1 perCall) (rows.length + 1) rows
            let groups := if groups.isEmpty && !fs.has "no-run-if-empty" then [[]] else groups
            groups.map (command ++ ·.flatten)
        let streams := (← get).streams
        let (n, inner) := (← get).addFile .nowhere
        set (inner.pointStream 0 n)
        let worst ← callEach (startOther run fuel name) name (fs.has "verbose") 0 calls
        modify fun sh => { sh with streams }
        Action.setStatus worst

end

def startDepth : Nat := 40

def runExternal (run : Runner) (word : Octets) (args : List Octets) : Action Unit :=
  runProgram run startDepth word args

def describe (sh : Shell) (name : String) : Option String :=
  if keywords.contains name then some s!"{name} is a shell keyword"
  else if (sh.functions.lookup name).isSome then some s!"{name} is a shell function"
  else if Builtin.isSpecial name then some s!"{name} is a special shell builtin"
  else if Builtin.isBuiltin name then some s!"{name} is a shell builtin"
  else if isProgram name then
    some (if name.toList.contains '/' then s!"{name} is {name}" else s!"{name} is /usr/bin/{name}")
  else none

def short (sh : Shell) (name : String) : Option String :=
  if keywords.contains name || (sh.functions.lookup name).isSome || Builtin.isBuiltin name then
    some name
  else if isProgram name then
    some (if name.toList.contains '/' then name else s!"/usr/bin/{name}")
  else none

def describeAll (names : List Octets) : Action Unit := do
  Action.setStatus 0
  names.forM fun w => do
    match describe (← get) w.text with
    | some line => Action.print (Octets.ofString (line ++ "\n"))
    | none =>
      Action.print (w ++ ": not found\n".toList)
      Action.setStatus 127

def callFunction (run : Runner) (tested : Bool) (body : Script) (args : List Octets) :
    Action Unit := do
  let old ← get
  set { old with args, loops := 0, hidden := [] :: old.hidden }
  let back : Action Unit := modify fun sh =>
    let top := sh.hidden.headD []
    let sh := top.foldl (fun sh (name, v) => match v with
      | some v => sh.putVariable name v
      | none => sh.dropVariable name) sh
    { sh with args := old.args, loops := old.loops, hidden := sh.hidden.drop 1 }
  match ← Action.attempt (run tested body) with
  | .ok () => back
  | .error (.return_ s) =>
    back
    Action.setStatus s
  | .error l =>
    back
    throw l

def includeFile (run : Runner) (args : List Octets) : Action Unit := do
  match args with
  | [] => pure ()
  | w :: _ =>
    let sh ← get
    if !w.contains '/' then Action.die 2 (w ++ ": not found".toList)
    match sh.tree.resolve true sh.here w.text with
    | .ok (.present _ (.file bs)) =>
      let line := sh.line
      Action.setStatus 0
      match ← Action.attempt (runText run false (Octets.ofBytes bs) 1) with
      | .error (.return_ s) =>
        modify fun sh => { sh with line }
        Action.setStatus s
      | .error l => throw l
      | .ok () => modify fun sh => { sh with line }
    | _ => Action.die 2 ("cannot open ".toList ++ w ++ ": No such file".toList)

/-- Runs a command by name; functions and what is special about commands of the shell
count only if `plainly` is not set. -/
def runNamed (run : Runner) (tested plainly : Bool) : Nat → Octets → List Octets → Action Unit
  | 0, _, _ => pure ()
  | fuel + 1, word, args => do
    let name := word.text
    let surviving := fun (act : Action Unit) => do
      let command := (← get).command
      match ← Action.attempt act with
      | .error (.fault s) =>
        modify fun sh => { sh with command }
        Action.setStatus s
      | .error l =>
        modify fun sh => { sh with command }
        throw l
      | .ok () => modify fun sh => { sh with command }
    let builtin := fun (act : Action Unit) =>
      let named := do
        Action.setStatus 0
        Action.named (some name) act
      if Builtin.isSpecial name && !plainly then named else surviving named
    let keeping := fun (act : Action Unit) => surviving do
      Action.named (some name) act
    let trap := fun act => do runText run false act (← get).line
    let remember := do
      args.forM fun w => do
        let found := Builtin.isBuiltin w.text || isProgram w.text
        if !found && w != "-r".toList then
          Action.complain (w ++ ": not found".toList)
          Action.setStatus 1
    let shell ← get
    let function? := if plainly || Builtin.isSpecial name then none
      else shell.functions.lookup name
    match function? with
    | some body => callFunction run tested body args
    | none =>
      match name with
      | "eval" =>
        let text := (args.intersperse [' ']).flatten
        let line := (← get).line
        if args.isEmpty then Action.setStatus 0
        else builtin do
          runText run tested text line
          modify fun sh => { sh with line }
      | "." => builtin (includeFile run args)
      | "kill" => builtin (Builtin.kill trap args)
      | "type" => builtin (describeAll args)
      | "hash" => builtin remember
      | "return" =>
        let status := (← get).status
        builtin do
          Action.setStatus status
          Builtin.leaving .return_ args
      | "exit" =>
        let status := (← get).status
        builtin do
          Action.setStatus status
          Builtin.leaving .exit args
      | "exec" =>
        match args with
        | [] => Action.setStatus 0
        | w :: args =>
          Action.named (some "exec") do
            runExternal run w args
            throw (.exit (← get).status)
      | "command" =>
        match args.dropWhile (· == "-p".toList) with
        | [] => Action.setStatus 0
        | ['-', 'v'] :: names =>
          Action.setStatus 0
          (names.take 1).forM fun w => do
            match short (← get) (Octets.text w) with
            | some line => Action.print (Octets.ofString (line ++ "\n"))
            | none => Action.setStatus 127
        | ['-', 'V'] :: names => describeAll (names.take 1)
        | ['-', '-'] :: w :: args => runNamed run tested true fuel w args
        | w :: args => runNamed run tested true fuel w args
      | _ =>
        match Builtin.plain? name with
        | some act =>
          if name == "." then keeping (act args) else builtin (act args)
        | none => runExternal run word args

def trace (settings : List (String × Octets)) (fields : List Octets) : Action Unit := do
  let sh ← get
  if sh.has 'x' then
    let words := settings.map (fun (n, v) => n.toList ++ '=' :: v) ++ fields
    let lead := (sh.value? "PS4").getD []
    Action.write 2 (Octets.toBytes (lead ++ (words.intersperse [' ']).flatten ++ ['\n']))

def temporarily (settings : List (String × Octets)) (act : Action Unit) : Action Unit := do
  let old := settings.map fun (n, _) => n
  let sh ← get
  let before := old.map fun n => (n, sh.lookup? n)
  settings.forM fun (n, v) => do
    Action.setVariable n v
    modify fun sh => sh.putVariable n { (sh.lookup? n).getD {} with exported := true }
  Action.finally_ act do
    before.forM fun (n, v) => modify fun sh => match v with
      | some v => sh.putVariable n v
      | none => sh.dropVariable n

def runSimple (run : Runner) (tested : Bool) (line : Nat) (settings : List (String × Word))
    (words : List Word) (rs : List Redirection) : Action Unit := do
  modify fun sh => { sh with line, resultStatus := none }
  let fields := (← words.mapM (Expansion.fields run)).flatten
  let valued := settings.mapM fun (n, w) => do
    return (n, ← Expansion.text run (Expansion.homesFor (← get) w))
  match fields with
  | [] =>
    redirecting run rs (pure ()) do
      let values ← valued
      trace values []
      let status := (← get).resultStatus.getD 0
      values.forM fun (n, v) => Action.setVariable n v
      Action.setStatus status
  | word :: args =>
    let name := word.text
    let isSpecial := Builtin.isSpecial name
    let failing : Action Unit := if isSpecial then throw (.fault 2) else pure ()
    let act := do
      let values ← valued
      trace values fields
      if isSpecial then
        values.forM fun (n, v) => Action.setVariable n v
        runNamed run tested false startDepth word args
      else if values.isEmpty then runNamed run tested false startDepth word args
      else temporarily values (runNamed run tested false startDepth word args)
    if name == "exec" then
      if ← redirect run rs then act else failing
    else redirecting run rs failing act

def roundsLimit : Nat := 20000

def runRounds (test : Action Bool) (body : Action Unit) : Nat → Nat → Action Nat
  | 0, _ => throw .timeout
  | fuel + 1, status => do
    let once : Action (Option Nat) := do
      if ← test then
        body
        return some (← get).status
      else return none
    match ← Action.attempt once with
    | .ok (some s) => runRounds test body fuel s
    | .ok none => return status
    | .error (.break_ 1) => return 0
    | .error (.break_ n) => throw (.break_ (n - 1))
    | .error (.continue_ 1) => runRounds test body fuel 0
    | .error (.continue_ n) => throw (.continue_ (n - 1))
    | .error l => throw l

def inLoop (act : Action Nat) : Action Unit := do
  let loops := (← get).loops
  modify fun sh => { sh with loops := loops + 1 }
  Action.finally_ (do Action.setStatus (← act)) (modify fun sh => { sh with loops })

def runEach (name : String) (body : Action Unit) : List Octets → Nat → Action Nat
  | [], status => return status
  | v :: vs, _ => do
    Action.setVariable name v
    match ← Action.attempt body with
    | .ok () => runEach name body vs (← get).status
    | .error (.break_ 1) => return 0
    | .error (.break_ n) => throw (.break_ (n - 1))
    | .error (.continue_ 1) => runEach name body vs 0
    | .error (.continue_ n) => throw (.continue_ (n - 1))
    | .error l => throw l

/-- The stages of a pipe, each reading what the one before it wrote; all begin at the
same time. -/
def runStages (run : Runner) (clock : Nat) : List Script → Action Unit
  | [] => pure ()
  | [s] => do
    let before := (← get).clock
    modify fun sh => { sh with clock }
    isolated run (run false s)
    modify fun sh => { sh with clock := max before sh.clock }
  | s :: rest => do
    let old ← get
    let (n, inner) := old.addFile (.pipe [] false)
    set { inner.pointStream 1 n with clock }
    isolated run (run false s)
    let sh ← get
    set { sh.pointStream 0 n with clock := max old.clock sh.clock }
    modify fun sh => match old.streams.lookup 1 with
      | some f => sh.pointStream 1 f
      | none => sh.closeStream 1
    runStages run clock rest

def chooseArm (run : Runner) (v : Octets) : List (List Word × Script) → Action (Option Script)
  | [] => return none
  | (patterns, body) :: rest => do
    let fits ← patterns.anyM fun w => do
      return fitsWild (← Expansion.pattern run w) v
    if fits then return some body else chooseArm run v rest

def check (tested : Bool) : Action Unit := do
  let sh ← get
  if !tested && sh.has 'e' && sh.status ≠ 0 then throw (.exit sh.status)

def step (run : Runner) (tested : Bool) (s : Script) : Action Unit := do
  if !(← get).has 'n' then perform s
where
  perform : Script → Action Unit
  | .nothing => pure ()
  | .simple line settings words rs => do
    runSimple run tested line settings words rs
    check tested
  | .redirected line body rs => do
    modify fun sh => { sh with line }
    redirecting run rs (pure ()) (run tested body)
  | .apart body => do
    isolated run (run tested body)
    check tested
  | .background body => do
    let old ← get
    let (n, inner) := old.addFile .nowhere
    set (inner.pointStream 0 n)
    isolated run (run tested body)
    modify fun sh => { sh with
      streams := old.streams, clock := old.clock, busyUntil := max old.busyUntil sh.clock
      jobs := (Shell.ownNumber + 1 + sh.jobs.length, sh.status) :: sh.jobs, status := 0 }
  | .pipe stages => do
    let old ← get
    runStages run old.clock stages
    modify fun sh => { sh with streams := old.streams }
    let sh ← get
    if sh.patience ≤ sh.clock then throw .timeout
    check tested
  | .inverted body => do
    run true body
    modify fun sh => { sh with status := if sh.status = 0 then 1 else 0 }
  | .chain a link b => do
    run (tested || link ≠ .always) a
    let good := (← get).status == 0
    match link with
    | .always => run tested b
    | .ifGood => if good then run tested b
    | .ifBad => if !good then run tested b
  | .branch test yes no => do
    run true test
    if (← get).status = 0 then run tested yes
    else
      Action.setStatus 0
      run tested no
  | .loop wanted test body => inLoop do
    let holds := do
      run true test
      return ((← get).status == 0) == wanted
    runRounds holds (run tested body) roundsLimit 0
  | .each line name words body => do
    modify fun sh => { sh with line }
    let values := (← words.mapM (Expansion.fields run)).flatten
    inLoop (runEach name (run tested body) values 0)
  | .choice line word arms => do
    modify fun sh => { sh with line }
    let v ← Expansion.text run word
    Action.setStatus 0
    match ← chooseArm run v arms with
    | some body => run tested body
    | none => pure ()
  | .function name body => do
    modify fun sh => { sh with functions := (name, body) :: sh.functions.filter (·.1 != name),
                               status := 0 }

def runWithin : Nat → Runner
  | 0, _, _ => throw .timeout
  | fuel + 1, tested, s => step (runWithin fuel) tested s

end Running

end DocBraces.Tools
