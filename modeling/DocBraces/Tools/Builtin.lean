import DocBraces.Tools.Condition
import DocBraces.Tools.Expansion
import DocBraces.Tools.Printing

/-!
# Commands of the shell itself

Commands that work on the shell's own variables, arguments, folder, traps and streams.
-/

set_option autoImplicit false

namespace DocBraces.Tools

open DocBraces.Text DocBraces.Files

namespace Builtin

def ofNat (n : Nat) : Octets := digits 10 n

def illegalNumber {α : Type} (w : Octets) : Action α :=
  Action.die 2 ("Illegal number: ".toList ++ w)

def countOf (w : Octets) : Action Nat :=
  if w.isEmpty || !w.all Char.isDigit then illegalNumber w else pure (ofDigits 10 w)

def illegalOption {α : Type} (c : Char) : Action α :=
  Action.die 2 ("Illegal option -".toList ++ [c])

def letters (known : List Char) : List Octets → Action (List Char × List Octets)
  | [] => return ([], [])
  | w :: rest => do
    match w with
    | ['-', '-'] => return ([], rest)
    | '-' :: c :: cs =>
      match (c :: cs).find? (!known.contains ·) with
      | some bad => illegalOption bad
      | none =>
        let (more, rest) ← letters known rest
        return (c :: cs ++ more, rest)
    | _ => return ([], w :: rest)

def quotedText (cs : Octets) : Octets :=
  ['\''] ++ cs.flatMap (fun c => if c == '\'' then "'\"'\"'".toList else [c]) ++ ['\'']

def breaking (leave : Nat → Leaving) (args : List Octets) : Action Unit := do
  let n ← match args with
    | [] => pure 1
    | w :: _ => countOf w
  if n = 0 then illegalNumber ['0']
  let n := min n (← get).loops
  if n ≠ 0 then throw (leave n)

def leaving (leave : Nat → Leaving) (args : List Octets) : Action Unit := do
  let n ← match args with
    | [] => pure (← get).status
    | w :: _ => countOf w
  throw (leave (n % 256))

def shift (args : List Octets) : Action Unit := do
  let n ← match args with
    | [] => pure 1
    | w :: _ => countOf w
  if (← get).args.length < n then Action.dieText "can't shift that many"
  modify fun sh => { sh with args := sh.args.drop n }

def placeText (p : Place) : Octets := Octets.ofString ("/" ++ "/".intercalate p)

def currentFolder (sh : Shell) : Octets := (sh.value? "PWD").getD (placeText sh.here)

def changeFolder (args : List Octets) : Action Unit := do
  let (flags, args) ← letters ['L', 'P'] args
  let sh ← get
  let old := currentFolder sh
  let (target, shown) := match args with
    | [] => ((sh.value? "HOME").getD [], false)
    | ['-'] :: _ => ((sh.value? "OLDPWD").getD old, true)
    | w :: _ => (w, false)
  let target : Octets := if target.isEmpty then ['.'] else target
  match sh.tree.resolve true sh.here target.text with
  | .ok (.present place .folder) =>
    let names := Tree.plainNames (if target.head? == some '/' then []
      else (Path.ofString old.text).names) (Path.ofString (Octets.text target)).names
    let pwd := placeText (if flags.contains 'P' then place else names)
    modify fun sh => { sh with here := place }
    let exported := (← get).lookup? "PWD" |>.any (·.exported)
    modify fun sh => (sh.putVariable "OLDPWD" { value := some old, exported }).putVariable "PWD"
      { value := some pwd, exported }
    if shown then Action.print (pwd ++ ['\n'])
  | _ => Action.die 2 ("can't cd to ".toList ++ target)

def printFolder (args : List Octets) : Action Unit := do
  let (flags, _) ← letters ['L', 'P'] args
  let sh ← get
  Action.print ((if flags.contains 'P' then placeText sh.here else currentFolder sh) ++ ['\n'])

def splitSetting (w : Octets) : Octets × Option Octets :=
  let name := w.takeWhile (· != '=')
  match w.drop name.length with
  | _ :: value => (name, some value)
  | [] => (name, none)

def goodName (name : Octets) : Action String := do
  if isGoodName name then return String.ofList name
  Action.die 2 (name ++ ": bad variable name".toList)

def sortedVariables (sh : Shell) : List (String × Variable) :=
  sh.bindings.mergeSort fun a b => a.1 ≤ b.1

def marking (word : String) (has : Variable → Bool) (mark : Variable → Variable)
    (args : List Octets) : Action Unit := do
  let (_, args) ← letters ['p'] args
  if args.isEmpty then
    let lines := (sortedVariables (← get)).flatMap fun (name, v) =>
      if has v then
        (word ++ " " ++ name).toList ++ (match v.value with
          | some cs => '=' :: quotedText cs
          | none => []) ++ ['\n']
      else []
    Action.print lines
  else args.forM fun w => do
    let (name, value) := splitSetting w
    let name ← goodName name
    match value with
    | some v => Action.setVariable name v
    | none => pure ()
    modify fun sh => sh.putVariable name (mark ((sh.lookup? name).getD {}))

def unset (args : List Octets) : Action Unit := do
  let (flags, args) ← letters ['f', 'v'] args
  args.forM fun w => do
    if flags.contains 'f' then
      modify fun sh => { sh with functions := sh.functions.filter (·.1 != String.ofList w) }
    else
      let name ← goodName w
      let sh ← get
      if (sh.lookup? name).any (·.locked) then Action.dieText (name ++ ": is read only")
      if (sh.lookup? name).isNone && flags.isEmpty then
        modify fun sh => { sh with functions := sh.functions.filter (·.1 != name) }
      modify (·.dropVariable name)

def hide (w : Octets) : Action Unit := do
  let (name, value) := splitSetting w
  let name ← goodName name
  let sh ← get
  match sh.hidden with
  | [] => Action.dieText "not in a function"
  | top :: rest =>
    if !top.any (·.1 == name) then
      set { sh with hidden := ((name, sh.lookup? name) :: top) :: rest }
    match value with
    | some v => Action.setVariable name v
    | none => pure ()

def localize (args : List Octets) : Action Unit := do
  if (← get).hidden.isEmpty then Action.dieText "not in a function"
  args.forM hide

def switchNames : List (String × Char) :=
  [("errexit", 'e'), ("noglob", 'f'), ("ignoreeof", 'I'), ("interactive", 'i'),
   ("monitor", 'm'), ("noexec", 'n'), ("stdin", 's'), ("xtrace", 'x'), ("verbose", 'v'),
   ("vi", 'V'), ("emacs", 'E'), ("noclobber", 'C'), ("allexport", 'a'), ("notify", 'b'),
   ("nounset", 'u'), ("nolog", ' '), ("debug", ' ')]

def turn (on : Bool) (c : Char) : Action Unit := modify fun sh =>
  let others := sh.switches.filter (· != c)
  { sh with switches := if on then c :: others else others }

def showSwitches (plain : Bool) : Action Unit := do
  let sh ← get
  let line := fun (name : String) (on : Bool) =>
    let state := if on then "on" else "off"
    let sign := if on then "-" else "+"
    if plain then s!"{String.ofList (padRight 15 name.toList)} {state}\n"
    else s!"set {sign}o {name}\n"
  Action.print (((if plain then "Current option settings\n" else "") ++
    String.join (switchNames.map fun (n, c) => line n (sh.has c))).toList)

def setOptions : List Octets → Action Unit
  | [] => pure ()
  | w :: rest => do
    let each := fun (on : Bool) (cs : Octets) => cs.forM fun c =>
      if (switchNames.map (·.2)).contains c && c != ' ' then turn on c else illegalOption c
    match w with
    | ['-', '-'] => modify fun sh => { sh with args := rest }
    | ['-'] =>
      turn false 'x'
      turn false 'v'
      if !rest.isEmpty then modify fun sh => { sh with args := rest }
    | s :: 'o' :: [] =>
      if s == '-' || s == '+' then
        match rest with
        | [] => showSwitches (s == '-')
        | name :: more =>
          match switchNames.lookup (String.ofList name) with
          | some c =>
            turn (s == '-') c
            setOptions more
          | none => Action.die 2 ("Illegal option -o ".toList ++ name)
      else modify fun sh => { sh with args := w :: rest }
    | '-' :: cs =>
      each true cs
      setOptions rest
    | '+' :: cs =>
      each false cs
      setOptions rest
    | _ => modify fun sh => { sh with args := w :: rest }

def setting (args : List Octets) : Action Unit := do
  if args.isEmpty then
    Action.print ((sortedVariables (← get)).flatMap fun (name, v) => match v.value with
      | some cs => name.toList ++ '=' :: quotedText cs ++ ['\n']
      | none => [])
  else setOptions args

def nextOption (args : List Octets) : Action Unit := do
  match args with
  | known :: target :: given =>
    let sh ← get
    let name ← goodName target
    let words := if given.isEmpty then sh.args else given
    let number := fun (v : String) (default : Nat) =>
      ((sh.value? v).bind fun cs => number? cs.toBytes).getD default
    let index := number "OPTIND" 1
    let inner := number "OPTPOS" 0
    let finish := fun (index : Nat) => do
      Action.setVariable "OPTIND" (ofNat index)
      modify (·.dropVariable "OPTPOS")
      Action.setVariable name ['?']
      Action.setStatus 1
    match words[index - 1]? with
    | none => finish index
    | some w =>
      let cs := if inner = 0 then w.drop 1 else w.drop inner
      if inner = 0 && w == ['-', '-'] then finish (index + 1)
      else match (if inner = 0 && w.head? != some '-' then [] else cs) with
        | [] => finish index
        | c :: rest =>
          let silent := known.head? == some ':'
          let behind := (known.dropWhile (· != c)).drop 1
          let after := fun (atEnd : Bool) => do
            if rest.isEmpty || atEnd then
              modify (·.dropVariable "OPTPOS")
            else
              modify fun sh => sh.putVariable "OPTPOS"
                { value := some (ofNat (w.length - rest.length)) }
          let wrong := fun (message : String) (result : Char) => do
            if silent then
              Action.setVariable "OPTARG" [c]
            else
              Action.write 2 (bytes (message ++ s!" -{c}\n"))
              modify (·.dropVariable "OPTARG")
            Action.setVariable name [if silent then result else '?']
          if !(known.contains c) || c == ':' then
            after false
            Action.setVariable "OPTIND" (ofNat (if rest.isEmpty then index + 1 else index))
            wrong "Illegal option" '?'
          else if behind.head? == some ':' then
            after true
            if !rest.isEmpty then
              Action.setVariable "OPTARG" rest
              Action.setVariable "OPTIND" (ofNat (index + 1))
              Action.setVariable name [c]
            else match words[index]? with
              | some v =>
                Action.setVariable "OPTARG" v
                Action.setVariable "OPTIND" (ofNat (index + 2))
                Action.setVariable name [c]
              | none =>
                Action.setVariable "OPTIND" (ofNat (index + 1))
                wrong "No arg for" ':'
          else
            after false
            Action.setVariable "OPTIND" (ofNat (if rest.isEmpty then index + 1 else index))
            Action.setVariable "OPTARG" []
            Action.setVariable name [c]
  | _ => Action.dieText "Usage: getopts optstring var [arg...]"

/-- Characters of a line with backslashes resolved, those behind one being quoted; and
whether the line came to its end, and how many octets it took. -/
def inputLine (raw : Bool) : Octets → List Mark × Bool × Nat
  | [] => ([], false, 0)
  | '\n' :: _ => ([], true, 1)
  | '\\' :: c :: cs =>
    if raw then
      let (ms, ended, n) := inputLine raw (c :: cs)
      (('\\', false) :: ms, ended, n + 1)
    else
      let (ms, ended, n) := inputLine raw cs
      (if c == '\n' then ms else (c, true) :: ms, ended, n + 2)
  | c :: cs =>
    let (ms, ended, n) := inputLine raw cs
    (if c == '\x00' || (c == '\\' && !raw) then ms else (c, false) :: ms, ended, n + 1)

def isSeparator (separators : Octets) (m : Mark) : Bool := !m.2 && separators.contains m.1

def isBlankMark (separators : Octets) (m : Mark) : Bool :=
  isSeparator separators m && isBlankSeparatorChar m.1
where isBlankSeparatorChar (c : Char) : Bool := c == ' ' || c == '\t' || c == '\n'

def firstField (separators : Octets) (ms : List Mark) : List Mark × List Mark :=
  let ms := ms.dropWhile (isBlankMark separators)
  let field := ms.takeWhile (!isSeparator separators ·)
  let rest := (ms.drop field.length).dropWhile (isBlankMark separators)
  let rest := match rest with
    | m :: more =>
      if isSeparator separators m then more.dropWhile (isBlankMark separators) else rest
    | [] => []
  (field, rest)

def inputFields (separators : Octets) : Nat → List Mark → List Octets
  | 0, _ => []
  | 1, ms =>
    let body := ms.dropWhile (isBlankMark separators)
    let body := (body.reverse.dropWhile (isBlankMark separators)).reverse
    let (field, rest) := firstField separators body
    [(if rest.isEmpty then field else body).map (·.1)]
  | n + 1, ms =>
    let (field, rest) := firstField separators ms
    field.map (·.1) :: inputFields separators n rest

def readInput (args : List Octets) : Action Unit := do
  let withPrompt := args.dropWhile fun w => w == "-r".toList
  let raw := args.contains "-r".toList
  let names ← match withPrompt with
    | ['-', 'p'] :: _ :: more => pure (more.filter (· != "-r".toList))
    | ('-' :: c :: _) :: _ => if c == 'p' then pure (withPrompt.drop 1) else illegalOption c
    | ws => pure ws
  if names.isEmpty then Action.dieText "arg count"
  let names ← names.mapM goodName
  let sh ← get
  match sh.ahead? 0 with
  | none =>
    names.forM fun n => Action.setVariable n []
    Action.setStatus 1
  | some bs =>
    let (ms, ended, count) := inputLine raw (Octets.ofBytes bs)
    modify (·.consume 0 count true)
    let values := inputFields sh.separators names.length ms
    (names.zip values).forM fun (n, v) => Action.setVariable n v
    Action.setStatus (if ended then 0 else 1)

def signals : List (String × Nat) :=
  [("EXIT", 0), ("HUP", 1), ("INT", 2), ("QUIT", 3), ("ILL", 4), ("TRAP", 5), ("ABRT", 6),
   ("BUS", 7), ("FPE", 8), ("KILL", 9), ("USR1", 10), ("SEGV", 11), ("USR2", 12),
   ("PIPE", 13), ("ALRM", 14), ("TERM", 15), ("STKFLT", 16), ("CHLD", 17), ("CONT", 18),
   ("STOP", 19), ("TSTP", 20), ("TTIN", 21), ("TTOU", 22), ("URG", 23), ("XCPU", 24),
   ("XFSZ", 25), ("VTALRM", 26), ("PROF", 27), ("WINCH", 28), ("IO", 29), ("PWR", 30),
   ("SYS", 31)]

def signal? (cs : Octets) : Option Nat :=
  if cs.all Char.isDigit && !cs.isEmpty then
    (if ofDigits 10 cs ≤ 64 then some (ofDigits 10 cs) else none)
  else
    let upper := cs.map Char.toUpper
    signals.lookup (String.ofList (if "SIG".toList.isPrefixOf upper then upper.drop 3 else upper))

def signalName (n : Nat) : String := ((signals.find? (·.2 = n)).map (·.1)).getD (toString n)

def isHarmless (n : Nat) : Bool := [0, 17, 18, 23, 28].contains n

def receive (trap : Octets → Action Unit) (n : Nat) : Action Unit := do
  match (← get).traps.lookup (signalName n) with
  | some act =>
    if n = 9 || n = 19 then throw (.signal n)
    let status := (← get).status
    if !act.isEmpty then trap act
    Action.setStatus status
  | none => if isHarmless n then pure () else throw (.signal n)

def killUsage : String :=
  "Usage: kill [-s sigspec | -signum | -sigspec] [pid | job]... or\nkill -l [exitstatus]"

def kill (trap : Octets → Action Unit) (args : List Octets) : Action Unit := do
  let sendAll := fun (n : Nat) (targets : List Octets) => do
    if targets.isEmpty then Action.dieText killUsage
    targets.forM fun t => do
      let body := if t.head? == some '-' then t.drop 1 else t
      if t.head? == some '%' then Action.die 2 ("No such job: ".toList ++ t)
      if body.isEmpty || !body.all Char.isDigit then illegalNumber t
      if t == digits 10 Shell.ownNumber || t == ['0'] then receive trap n
      else
        Action.complainText "No such process\n"
        Action.setStatus 1
  match args with
  | ['-', 'l'] :: rest =>
    match rest with
    | [] => Action.print ((signals.drop 1).flatMap fun (name, _) => name.toList ++ ['\n'])
    | w :: _ =>
      let n ← countOf w
      Action.print ((signalName (if 128 < n then n - 128 else n)).toList ++ ['\n'])
  | ['-', 's'] :: name :: rest =>
    match signal? name with
    | some n => sendAll n rest
    | none => Action.die 2 ("invalid signal number or name: ".toList ++ name)
  | ['-', '-'] :: rest => sendAll 15 rest
  | ('-' :: cs) :: rest =>
    match signal? cs with
    | some n => sendAll n rest
    | none => illegalOption (cs.headD '-')
  | rest => sendAll 15 rest

def trapping (args : List Octets) : Action Unit := do
  let args := if args.head? == some "--".toList then args.drop 1 else args
  match args with
  | [] =>
    let traps := (← get).traps
    Action.print (signals.flatMap fun (name, _) => match traps.lookup name with
      | some act => "trap -- ".toList ++ quotedText act ++ ' ' :: name.toList ++ ['\n']
      | none => [])
  | act :: names =>
    let (act, names) := if names.isEmpty then (['-'], [act])
      else if (signal? act).isSome && act.all Char.isDigit then (['-'], act :: names)
      else (act, names)
    names.forM fun w => do
      match signal? w with
      | none =>
        Action.write 2 (bytes s!"trap: {w.text}: bad trap\n")
        Action.setStatus 1
      | some n =>
        let name := signalName n
        modify fun sh =>
          let others := sh.traps.filter (·.1 != name)
          { sh with traps := if act == ['-'] then others else (name, act) :: others }

def printing (name : String) (cs : Octets) : Action Unit := do
  if ((← get).streams.lookup 1).isNone && !cs.isEmpty then
    Action.complainText s!"{name}: I/O error"
    Action.setStatus 1
  else Action.print cs

def printFormat (args : List Octets) : Action Unit := do
  let args ← match args with
    | ['-', '-'] :: rest => pure rest
    | ('-' :: c :: _) :: _ => illegalOption c
    | ws => pure ws
  match args with
  | [] => Action.dieText "usage: printf format [arg ...]"
  | text :: rest =>
    let p := Printing.run { name := "printf", builtin := true } text rest
    p.complaints.forM Action.complainText
    Action.setStatus p.status
    printing "printf" p.output

def testing (bracket : Bool) (args : List Octets) : Action Unit := do
  if bracket && args.getLast? != some [']'] then Action.dieText "missing ]"
  let sh ← get
  match Condition.holds ⟨sh.tree, sh.here⟩ (if bracket then args.dropLast else args) with
  | .ok b => Action.setStatus (if b then 0 else 1)
  | .error message => Action.die 2 message

def maskLetters (cs : Octets) : Octets :=
  let part := fun (who : Char) (d : Char) =>
    let n := d.toNat - 48
    who :: '=' :: ((if n / 4 % 2 = 0 then ['r'] else []) ++ (if n / 2 % 2 = 0 then ['w'] else []) ++
      if n % 2 = 0 then ['x'] else [])
  let ds := (padLeft 4 '0' cs).drop 1
  ((List.zipWith part ['u', 'g', 'o'] ds).intersperse [',']).flatten

def mask (args : List Octets) : Action Unit := do
  let current := ((← get).value? "UMASK").getD "0022".toList
  match args with
  | [] => Action.print (current ++ ['\n'])
  | ['-', 'S'] :: _ => Action.print (maskLetters current ++ ['\n'])
  | w :: _ =>
    if w.all fun c => '0' ≤ c && c ≤ '7' then
      modify (·.putVariable "UMASK" { value := some (padLeft 4 '0' w) })
    else if w.all Char.isDigit then Action.die 2 ("Illegal number: ".toList ++ w)

def aliasing (args : List Octets) : Action Unit := do
  let shown := fun (a : String × Octets) => a.1.toList ++ '=' :: quotedText a.2 ++ ['\n']
  if args.isEmpty then
    let sorted := (← get).aliases.mergeSort fun a b => a.1 < b.1 || a.1 == b.1
    Action.print (sorted.flatMap shown)
  args.forM fun w => do
    let name : Octets := w.takeWhile (· != '=')
    if name.length < w.length && !name.isEmpty then
      modify fun sh => { sh with
        aliases := (name.text, w.drop (name.length + 1)) :: sh.aliases.filter (·.1 != name.text) }
    else match (← get).aliases.lookup w.text with
      | some text => Action.print (shown (w.text, text))
      | none =>
        Action.write 2 (Octets.toBytes ("alias: ".toList ++ w ++ " not found\n".toList))
        Action.setStatus 1

def unaliasing (args : List Octets) : Action Unit := do
  args.forM fun w => do
    if w == "-a".toList then modify fun sh => { sh with aliases := [] }
    else if ((← get).aliases.lookup w.text).isSome then
      modify fun sh => { sh with aliases := sh.aliases.filter (·.1 != w.text) }
    else
      Action.write 2 (Octets.toBytes ("unalias: ".toList ++ w ++ " not found\n".toList))
      Action.setStatus 1

def waiting (args : List Octets) : Action Unit := do
  let sh ← get
  args.forM fun w => do
    if w.head? == some '%' then Action.die 2 ("No such job: ".toList ++ w)
    else if !w.all Char.isDigit || w.isEmpty then Action.die 2 ("Illegal number: ".toList ++ w)
    else Action.setStatus ((sh.jobs.lookup (ofDigits 10 w)).getD 127)
  Action.wait (sh.busyUntil - sh.clock)

def isSpecial (name : String) : Bool := specialCommands.contains name

def plain? (name : String) : Option (List Octets → Action Unit) :=
  match name with
  | ":" => some fun _ => pure ()
  | "true" => some fun _ => pure ()
  | "false" => some fun _ => Action.setStatus 1
  | "break" => some (breaking .break_)
  | "continue" => some (breaking .continue_)
  | "exit" => some (leaving .exit)
  | "return" => some (leaving .return_)
  | "shift" => some shift
  | "cd" => some changeFolder
  | "chdir" => some changeFolder
  | "pwd" => some printFolder
  | "export" => some (marking "export" (·.exported) fun v => { v with exported := true })
  | "readonly" => some (marking "readonly" (·.locked) fun v => { v with locked := true })
  | "unset" => some unset
  | "local" => some localize
  | "set" => some setting
  | "getopts" => some nextOption
  | "read" => some readInput
  | "trap" => some trapping
  | "echo" => some fun args => printing "echo" (echoed { name := "echo", builtin := true } args)
  | "printf" => some printFormat
  | "test" => some (testing false)
  | "[" => some (testing true)
  | "umask" => some mask
  | "ulimit" => some fun _ => Action.print "unlimited\n".toList
  | "times" => some fun _ =>
    Action.print "0m0.000000s 0m0.000000s\n0m0.000000s 0m0.000000s\n".toList
  | "alias" => some aliasing
  | "unalias" => some unaliasing
  | "jobs" => some fun _ => pure ()
  | "bg" => some fun _ => Action.dieText "No current job"
  | "fg" => some fun _ => Action.dieText "No current job"
  | "wait" => some waiting
  | _ => none

def running : List String := [".", "command", "eval", "exec", "hash", "kill", "type"]

def isBuiltin (name : String) : Bool := (plain? name).isSome || running.contains name

end Builtin

end DocBraces.Tools
