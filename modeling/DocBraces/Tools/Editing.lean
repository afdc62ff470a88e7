import DocBraces.Tools.EditScript
import DocBraces.Tools.Flag

/-!
# Editing

Lines are read one after the other into a space, which commands work on, and what is in
the space in the end is printed.
-/

set_option autoImplicit false

namespace DocBraces.Tools

open DocBraces.Text DocBraces.Files

namespace Editing

structure InputLine where
  text : List Char
  closed : Bool := true

inductive Delayed where
  | text (cs : List Char)
  | file (name : String)
  | line (cs : List Char)

/-- What has been written to a sink: octets, latest first, and whether the last line
lacks its mark. -/
structure Written where
  parts : List Bytes := []
  unclosed : Bool := false

structure Source where
  name : String
  lines : List InputLine

structure Editor where
  space : InputLine := ⟨[], true⟩
  held : InputLine := ⟨[], true⟩
  number : Nat := 0
  name : String := "-"
  rest : List InputLine := []
  sources : List Source := []
  delayed : List Delayed := []
  changed : Bool := false
  /-- Ranges under way by their commands; some of them end at a line that is known. -/
  ranges : List (Nat × Option Nat) := []
  lastWanted : Option Wanted := none
  main : Written := {}
  sinks : List (Sink × Written) := []
  /-- How many lines have been read of files line by line. -/
  taken : List (String × Nat) := []

structure Setting where
  call : Call
  commands : Array Command
  mark : UInt8 := newline
  silent : Bool := false
  width : Nat := 70
  /-- Sources are edited one by one, so that each has a last line. -/
  separate : Bool := false

abbrev Edit := StateT Editor Work

inductive Next where
  | go (index : Nat)
  /-- The line is done with; the rest of the space is edited again if `again` is set. -/
  | done (prints again : Bool)
  | quit (status : Nat) (prints delayed : Bool)
  deriving DecidableEq, Repr

def Written.add (w : Written) (mark : UInt8) (bs : Bytes) (unclosed : Bool) : Written :=
  ⟨bs :: (if w.unclosed then [mark] :: w.parts else w.parts), unclosed⟩

def emit (s : Setting) (bs : Bytes) (unclosed : Bool) : Edit Unit :=
  modify fun e => { e with main := e.main.add s.mark bs unclosed }

def emitLine (s : Setting) (cs : List Char) (closed : Bool) : Edit Unit :=
  emit s (lineBytes cs ++ if closed then [s.mark] else []) !closed

def sinkLine (s : Setting) (sink : Sink) (cs : List Char) (closed : Bool) : Edit Unit := do
  let bs := lineBytes cs ++ if closed then [s.mark] else []
  match sink with
  | .output =>
    let old := ((← get).sinks.lookup sink).getD {}
    let new := Written.add { old with parts := [] } s.mark bs !closed
    modify fun e => { e with
      main := { e.main with parts := new.parts ++ e.main.parts }
      sinks := (sink, { new with parts := [] }) :: e.sinks.filter (·.1 ≠ sink) }
  | _ => modify fun e =>
    let old := (e.sinks.lookup sink).getD {}
    { e with sinks := (sink, old.add s.mark bs !closed) :: e.sinks.filter (·.1 ≠ sink) }

def settle (s : Setting) : Edit Unit := do
  let delayed := (← get).delayed.reverse
  modify fun e => { e with delayed := [] }
  delayed.forM fun d => match d with
    | .text cs => emit s (lineBytes cs) false
    | .line cs => emit s (lineBytes cs ++ [s.mark]) false
    | .file name => do
      match ← StateT.lift (readFile s.call (bytes name)) with
      | .ok bs => if !bs.isEmpty then emit s bs false
      | .error _ => pure ()

def nextSource (s : Setting) : List Source → Option (Source × List Source)
  | [] => none
  | src :: more =>
    if src.lines.isEmpty && !s.separate then nextSource s more else some (src, more)

def isLast (s : Setting) (e : Editor) : Bool :=
  e.rest.isEmpty && (s.separate || (nextSource s e.sources).isNone)

def takeLine (s : Setting) : Edit (Option InputLine) := do
  let e ← get
  match e.rest with
  | l :: rest =>
    set { e with rest, number := e.number + 1 }
    return some l
  | [] =>
    if s.separate then return none
    match nextSource s e.sources with
    | some (⟨name, l :: rest⟩, sources) =>
      set { e with rest, sources, name, number := e.number + 1 }
      return some l
    | _ => return none

def fetch (s : Setting) (append : Bool) : Edit Bool := do
  match ← takeLine s with
  | none => return false
  | some l =>
    settle s
    modify fun e => { e with
      changed := false
      space := if append then { l with text := e.space.text ++ Char.ofNat s.mark.toNat :: l.text }
        else l }
    return true

def wanted (c : Call) (w : Option Wanted) : Edit Wanted := do
  match w.or (← get).lastWanted with
  | some w =>
    modify fun e => { e with lastWanted := some w }
    return w
  | none => StateT.lift (Work.die 1
      s!"{c.name}: -e expression #1, char 0: no previous regular expression")

def fits (s : Setting) (w : Option Wanted) : Edit Bool := do
  let w ← wanted s.call w
  return (findMatch w.manner w.regex [] (← get).space.text).isSome

def Address.holds (s : Setting) : Address → Edit Bool
  | .line n => return n == (← get).number
  | .every first step => do
    let n := (← get).number
    return first ≤ n && (n - first) % step == 0
  | .last => return isLast s (← get)
  | .matching w => fits s w

def setRange (index : Nat) (r : Option (Option Nat)) : Edit Unit := modify fun e =>
  { e with ranges := (r.map (index, ·)).toList ++ e.ranges.filter (·.1 ≠ index) }

def begin_ (index : Nat) (stop : Stop) : Edit Unit := do
  let n := (← get).number
  let until_ := fun (last : Nat) => if n < last then setRange index (some (some last)) else pure ()
  match stop with
  | .line m => until_ m
  | .plus m => until_ (n + m)
  | .multiple m => if m = 0 then pure () else until_ ((n / m + 1) * m)
  | _ => setRange index (some none)

def Command.holds (s : Setting) (index : Nat) (cmd : Command) : Edit Bool := do
  match cmd.first, cmd.stop with
  | none, _ => return true
  | some a, none => a.holds s
  | some a, some stop =>
    match (← get).ranges.lookup index with
    | none =>
      if !(← a.holds s) then return false
      begin_ index stop
      return true
    | some (some last) =>
      let n := (← get).number
      if last ≤ n then setRange index none
      return n ≤ last
    | some none =>
      let isEnded ← match stop with
        | .last => pure (isLast s (← get))
        | .matching w => fits s w
        | _ => pure true
      if isEnded then setRange index none
      return true

def Case.put : Case → Char → Char
  | .kept, c => c
  | .lower, c => lowerChar c
  | .upper, c => upperChar c

def replacement (found : List Char) (groups : List (Nat × List Char)) :
    (all : Case) → (next : Option Case) → List Piece → List Char
  | _, _, [] => []
  | all, next, .char c :: ps => (next.getD all).put c :: replacement found groups all none ps
  | _, _, .all c :: ps => replacement found groups c none ps
  | all, _, .next c :: ps => replacement found groups all (some c) ps
  | all, next, .group n :: ps =>
    match if n = 0 then found else (groups.lookup n).getD [] with
    | [] => replacement found groups all next ps
    | c :: cs => (next.getD all).put c :: cs.map all.put ++ replacement found groups all none ps

/-- Replaces matches in a text behind what has been read of it; none if nothing changes.
An empty match right behind a match does not count. -/
def substituteFrom (sub : Substitution) (w : Wanted) :
    Nat → (count : Nat) → (tight : Bool) → (before cs : List Char) → Option (List Char)
  | 0, _, _, _, _ => none
  | fuel + 1, count, tight, before, cs =>
    match findMatch w.manner w.regex before cs with
    | none => none
    | some m =>
      let read := m.passed.reverse ++ before
      if m.text.isEmpty && tight && m.passed.isEmpty then
        match m.after with
        | [] => none
        | c :: rest =>
          (substituteFrom sub w fuel count false (c :: before) rest).map (c :: ·)
      else
        let counts := sub.nth ≤ count + 1
        let new := if counts then replacement m.text m.groups .kept none sub.pieces else m.text
        let result := if counts && !sub.everywhere then some m.after
          else
            let more :=
              if m.text.isEmpty then match m.after with
                | [] => none
                | c :: rest =>
                  (substituteFrom sub w fuel (count + 1) false (c :: read) rest).map (c :: ·)
              else substituteFrom sub w fuel (count + 1) true (m.text.reverse ++ read) m.after
            if counts then some (more.getD m.after) else more
        result.map fun rest => m.passed ++ new ++ rest

def substitute (s : Setting) (sub : Substitution) : Edit Unit := do
  let w ← wanted s.call sub.wanted
  let space := (← get).space
  match substituteFrom sub w (space.text.length + 2) 0 false [] space.text with
  | none => pure ()
  | some text =>
    modify fun e => { e with space := { e.space with text }, changed := true }
    if sub.prints then emitLine s text space.closed
    match sub.sink with
    | some sink => sinkLine s sink text space.closed
    | none => pure ()

def listed (b : UInt8) : List Char :=
  match b with
  | 7 => ['\\', 'a']
  | 8 => ['\\', 'b']
  | 9 => ['\\', 't']
  | 10 => ['\\', 'n']
  | 11 => ['\\', 'v']
  | 12 => ['\\', 'f']
  | 13 => ['\\', 'r']
  | 92 => ['\\', '\\']
  | _ =>
    if 32 ≤ b && b < 127 then [Char.ofNat b.toNat]
    else '\\' :: padLeft 3 '0' (digits 8 b.toNat)

def folded (width : Nat) : (used : Nat) → List (List Char) → List Char
  | _, [] => []
  | used, p :: ps =>
    if width ≠ 0 && width - 1 < used + p.length then
      '\\' :: '\n' :: p ++ folded width p.length ps
    else p ++ folded width (used + p.length) ps

def firstLine (cs : List Char) : List Char := cs.takeWhile (· != '\n')

def perform (s : Setting) (index : Nat) (cmd : Command) : Deed → Edit Next
  | .nothing => return .go (index + 1)
  | .enter _ => return .go (index + 1)
  | .append text => do
    modify fun e => { e with delayed := .text text :: e.delayed }
    return .go (index + 1)
  | .insert text => do
    emit s (lineBytes text) false
    return .go (index + 1)
  | .change text => do
    let under := ((← get).ranges.lookup index).isSome
    if !under || cmd.negated then emit s (lineBytes text) false
    return .done false false
  | .jump when_ target => do
    let changed := (← get).changed
    let jumps := match when_ with
      | .always => true
      | .ifChanged => changed
      | .ifUnchanged => !changed
    if when_ ≠ .always then modify fun e => { e with changed := false }
    return .go (if jumps then target else index + 1)
  | .delete => return .done false false
  | .deleteFirst => do
    let space := (← get).space
    if space.text.contains '\n' then
      modify fun e => { e with space := { e.space with
        text := e.space.text.drop ((firstLine e.space.text).length + 1) } }
      return .done false true
    else return .done false false
  | .print => do
    let space := (← get).space
    emitLine s space.text space.closed
    return .go (index + 1)
  | .printFirst => do
    let space := (← get).space
    emitLine s (firstLine space.text) (space.closed || space.text.contains '\n')
    return .go (index + 1)
  | .next => do
    let e ← get
    if isLast s e then return .done (!s.silent) false
    if !s.silent then emitLine s e.space.text e.space.closed
    let _ ← fetch s false
    return .go (index + 1)
  | .join => do
    if ← fetch s true then return .go (index + 1)
    else return .done (!s.silent) false
  | .get => do
    modify fun e => { e with space := e.held }
    return .go (index + 1)
  | .getMore => do
    modify fun e => { e with
      space := { e.held with text := e.space.text ++ '\n' :: e.held.text } }
    return .go (index + 1)
  | .hold => do
    modify fun e => { e with held := e.space }
    return .go (index + 1)
  | .holdMore => do
    modify fun e => { e with
      held := { e.space with text := e.held.text ++ '\n' :: e.space.text } }
    return .go (index + 1)
  | .exchange => do
    modify fun e => { e with held := e.space, space := e.held }
    return .go (index + 1)
  | .number => do
    emit s (bytes (String.ofList (digits 10 (← get).number)) ++ [newline]) false
    return .go (index + 1)
  | .list width => do
    let parts := (lineBytes (← get).space.text).map listed
    emit s (bytes (String.ofList (folded (width.getD s.width) 0 parts ++ ['$'])) ++ [s.mark]) false
    return .go (index + 1)
  | .quit status silently => return .quit status (!silently && !s.silent) (!silently)
  | .readFile name => do
    modify fun e => { e with delayed := .file name :: e.delayed }
    return .go (index + 1)
  | .readLine name => do
    let seen := ((← get).taken.lookup name).getD 0
    match ← StateT.lift (readFile s.call (bytes name)) with
    | .error _ => pure ()
    | .ok bs => match (partsAt s.mark bs)[seen]? with
      | none => pure ()
      | some l => modify fun e => { e with
          delayed := .line (lineChars (dropMark s.mark l)) :: e.delayed
          taken := (name, seen + 1) :: e.taken }
    return .go (index + 1)
  | .write sink => do
    let space := (← get).space
    sinkLine s sink space.text space.closed
    return .go (index + 1)
  | .writeFirst sink => do
    let space := (← get).space
    sinkLine s sink (firstLine space.text) (space.closed || space.text.contains '\n')
    return .go (index + 1)
  | .substitute sub => do
    substitute s sub
    return .go (index + 1)
  | .translate pairs => do
    modify fun e => { e with space := { e.space with
      text := e.space.text.map fun c => (pairs.lookup c).getD c } }
    return .go (index + 1)
  | .empty => do
    modify fun e => { e with space := { e.space with text := [] } }
    return .go (index + 1)
  | .name => do
    emit s (bytes (← get).name ++ [newline]) false
    return .go (index + 1)

def Command.run (s : Setting) (index : Nat) (cmd : Command) : Edit Next := do
  if (← cmd.holds s index) != cmd.negated then perform s index cmd cmd.deed
  else match cmd.deed with
    | .enter past => return .go past
    | _ => return .go (index + 1)

/-- Runs commands within so many steps, and says what is left of them. None are left if the
commands go on for ever. -/
def runFrom (s : Setting) : Nat → (index : Nat) → Edit (Next × Nat)
  | 0, _ => return (.quit 0 false false, 0)
  | fuel + 1, index => do
    match s.commands[index]? with
    | none => return (.done (!s.silent) false, fuel + 1)
    | some cmd => match ← cmd.run s index with
      | .go next => runFrom s fuel next
      | other => return (other, fuel)

def runLines (s : Setting) : Nat → (again : Bool) → Edit (Option Nat × Nat)
  | 0, _ => return (none, 0)
  | fuel + 1, again => do
    if !again then
      if !(← fetch s false) then return (none, fuel + 1)
    let (next, left) ← runFrom s fuel 0
    let finish := fun (prints delayed : Bool) => do
      let space := (← get).space
      if prints then emitLine s space.text space.closed
      if delayed then settle s
    match next with
    | .done prints again =>
      finish prints true
      if _h : left < fuel + 1 then runLines s left again else return (none, 0)
    | .quit status prints delayed =>
      finish prints delayed
      if delayed && (← get).main.unclosed then emit s [] false
      return (some status, left)
    | .go _ => return (none, 0)
termination_by fuel => fuel

def stepLimit : Nat := 3000000

def known : List Flag := [
  .switch 'n' "quiet", .long "silent", .valued 'e' "expression", .valued 'f' "file",
  .switch 'E' "regexp-extended", .switch 'r' "r", .switch 's' "separate",
  ⟨"in-place", some 'i', .mayTake⟩, .switch 'z' "null-data", .long "zero-terminated",
  .switch 'u' "unbuffered", .valued 'l' "line-length", .long "posix", .long "debug",
  .long "sandbox", .long "follow-symlinks", .switch 'b' "binary"]

def scriptsOf (c : Call) (fs : Flags) : Work (List (List Char × Option String) × List Bytes) := do
  let given ← (fs.given.filter fun g => g.1 == "expression" || g.1 == "file").mapM fun g => do
    if g.1 == "expression" then return (lineChars g.2, none)
    else match ← readSource c g.2 with
      | .ok bs => return (lineChars (dropNewline bs), some (stringOf g.2))
      | .error why => Work.die 4 s!"{c.name}: couldn't open file {stringOf g.2}: {why}"
  match given, fs.operands with
  | [], script :: rest => return ([(lineChars script, none)], rest)
  | [], [] => Work.leave 1
  | _, rest => return (given, rest)

def readScripts (c : Call) : (number : Nat) → List (List Char × Option String) → ScriptReader →
    Work ScriptReader
  | _, [], r => return r
  | number, (text, file) :: more, r => do
    let (result, r) := (readScript text).run.run r
    match result with
    | .ok () => readScripts c (if file.isSome then number else number + 1) more r
    | .error message =>
      let used := text.take (text.length - r.rest.length)
      let place := match file with
        | some name =>
          let line := (used.filter (· == '\n')).length + 1
          s!"file {name} line {String.ofList (digits 10 line)}"
        | none => s!"-e expression #{String.ofList (digits 10 number)}, " ++
            s!"char {String.ofList (digits 10 (lineBytes used).length)}"
      if message == RegexFault.misplacedClass.message then Work.die 4 s!"{c.name}: {message}"
      else Work.die 1 s!"{c.name}: {place}: {message}"

def sourceOf (mark : UInt8) (name : String) (bs : Bytes) : Source :=
  ⟨name, (partsAt mark bs).map fun l =>
    ⟨lineChars (dropMark mark l), l.getLast? == some mark⟩⟩

def putFile (c : Call) (name : String) (bs : Bytes) : Work Unit := do
  match ← c.find true (bytes name) with
  | .ok (.present p (.file _)) => Work.setTree ((← Work.tree).put p (.file bs))
  | .ok (.absent p) => Work.setTree ((← Work.tree).put p (.file bs))
  | .ok (.present _ _) => Work.die 4 s!"{c.name}: couldn't open file {name}: Is a directory"
  | .error cause => Work.die 4 s!"{c.name}: couldn't open file {name}: {cause.text}"

def editAll (s : Setting) (e : Editor) (sources : List Source) : Work (Editor × Option Nat) := do
  let start : Editor := { e with sources, rest := [], main := {} }
  let ((status, left), e) ← (runLines s stepLimit false).run start
  if left = 0 then modify fun r => { r with endless := true }
  return (e, status)

def editEach (s : Setting) (inPlace : Option Bytes) : Editor → List Source →
    Work (Editor × Option Nat)
  | e, [] => return (e, none)
  | e, src :: more => do
    let fresh := inPlace.isSome
    let number := if fresh then 0 else e.number
    let start : Editor := { e with
      rest := src.lines, name := src.name, sources := [], number
      main := if fresh then {} else e.main }
    let ((status, left), e) ← (runLines s stepLimit false).run start
    if left = 0 then modify fun r => { r with endless := true }
    match inPlace with
    | none => pure ()
    | some suffix =>
      let left := e.rest.flatMap fun l => lineBytes l.text ++ if l.closed then [s.mark] else []
      let old := src.lines.flatMap fun l => lineBytes l.text ++ if l.closed then [s.mark] else []
      if !suffix.isEmpty then putFile s.call (src.name ++ stringOf suffix) old
      putFile s.call src.name (e.main.parts.reverse.flatten ++ left)
    match status with
    | some n => return (e, some n)
    | none => editEach s inPlace e more

def rangesAtStart (cmds : Array Command) : List (Nat × Option Nat) :=
  cmds.toList.zipIdx.filterMap fun (cmd, i) => match cmd.first with
    | some (.line 0) => some (i, none)
    | _ => none

def readNamed (c : Call) (inPlace : Bool) (mark : UInt8) : List Bytes → Work (List Source)
  | [] => return []
  | n :: ns => do
    match ← readSource c n with
    | .ok bs => return sourceOf mark (stringOf n) bs :: (← readNamed c inPlace mark ns)
    | .error why =>
      if why == Cause.isFolder.text then
        if !inPlace then
          Work.fault 4 s!"{c.name}: read error on {stringOf n}: {why}"
          return []
        Work.fault 4 s!"{c.name}: couldn't edit {stringOf n}: not a regular file"
      else Work.fault 2 s!"{c.name}: can't read {stringOf n}: {why}"
      readNamed c inPlace mark ns

def run : Tool := Work.tool fun c => do
  let fs ← match readFlags known true c.args with
    | .ok fs => pure fs
    | .error message => Work.die 1 s!"{c.name}: {message}"
  let (scripts, names) ← scriptsOf c fs
  let extended := fs.has "regexp-extended" || fs.has "r"
  let zeros := fs.has "null-data" || fs.has "zero-terminated"
  let r ← readScripts c 1 scripts { extended, zeros }
  if !r.blocks.isEmpty then
    Work.die 1 s!"{c.name}: -e expression #1, char 0: unmatched \x60\x7b'"
  let commands ← match r.resolve with
    | .ok cmds => pure cmds
    | .error label =>
      Work.die 4 s!"{c.name}: can't find label for jump to \x60{String.ofList label}'"
  let mark := if zeros then 0 else newline
  let inPlace := fs.value? "in-place"
  let width := match fs.value? "line-length" with
    | some v => ofDigits 10 ((textOf v).takeWhile Char.isDigit)
    | none => 70
  let s : Setting := {
    call := c, commands, mark
    silent := fs.has "quiet" || fs.has "silent" || r.silent
    width, separate := fs.has "separate" || inPlace.isSome }
  r.sinks.reverse.forM fun name => putFile c name []
  if inPlace.isSome && names.isEmpty then Work.die 4 s!"{c.name}: no input files"
  let found ← readNamed c inPlace.isSome mark (if names.isEmpty then [bytes "-"] else names)
  let start : Editor := { ranges := rangesAtStart commands }
  let (e, status) ← if s.separate then editEach s inPlace start found
    else editAll s start found
  if inPlace.isNone then Work.print e.main.parts.reverse.flatten
  e.sinks.reverse.forM fun (sink, w) => match sink with
    | .output => pure ()
    | .errors => modify fun r => { r with
        writes := r.writes ++ [(.errors, w.parts.reverse.flatten)] }
    | .file name => putFile c name w.parts.reverse.flatten
  match status with
  | some n => Work.setStatus n
  | none => pure ()

end Editing

def edit : Tool := Editing.run

end DocBraces.Tools
