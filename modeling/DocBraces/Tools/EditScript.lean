import DocBraces.Tools.Regex

/-!
# Editing scripts

Rows of editing commands, with the lines they are meant for, as they are written in
scripts. Blocks and jumps are resolved to places in the row.
-/

set_option autoImplicit false

namespace DocBraces.Tools

open DocBraces.Text

namespace Editing

structure Wanted where
  regex : Regex
  manner : Manner
  groups : Nat

inductive Address where
  | line (n : Nat)
  | every (first step : Nat)
  | last
  | matching (w : Option Wanted)

inductive Stop where
  | line (n : Nat)
  | last
  | matching (w : Option Wanted)
  | plus (n : Nat)
  | multiple (n : Nat)

inductive Case where
  | kept
  | lower
  | upper
  deriving DecidableEq, Repr

inductive Piece where
  | char (c : Char)
  | group (n : Nat)
  | all (c : Case)
  | next (c : Case)

inductive Sink where
  | output
  | errors
  | file (name : String)
  deriving DecidableEq, Repr

structure Substitution where
  wanted : Option Wanted
  pieces : List Piece
  /-- The first match that is replaced. -/
  nth : Nat := 1
  everywhere : Bool := false
  prints : Bool := false
  sink : Option Sink := none

inductive Jump where
  | always
  | ifChanged
  | ifUnchanged
  deriving DecidableEq, Repr

inductive Deed where
  | nothing
  /-- Goes on behind the block unless the line is meant. -/
  | enter (past : Nat)
  | append (text : List Char)
  | insert (text : List Char)
  | change (text : List Char)
  | jump (when_ : Jump) (target : Nat)
  | delete
  | deleteFirst
  | print
  | printFirst
  | next
  | join
  | get
  | getMore
  | hold
  | holdMore
  | exchange
  | number
  | list (width : Option Nat)
  | quit (status : Nat) (silently : Bool)
  | readFile (name : String)
  | readLine (name : String)
  | write (s : Sink)
  | writeFirst (s : Sink)
  | substitute (s : Substitution)
  | translate (pairs : List (Char × Char))
  | empty
  | name

structure Command where
  first : Option Address := none
  stop : Option Stop := none
  negated : Bool := false
  deed : Deed := .nothing

structure OpenJump where
  index : Nat
  label : List Char
  when_ : Jump

structure ScriptReader where
  rest : List Char := []
  commands : Array Command := #[]
  blocks : List Nat := []
  labels : List (List Char × Nat) := []
  jumps : List OpenJump := []
  /-- A command whose text is still to come. -/
  pending : Option Nat := none
  sinks : List String := []
  extended : Bool := false
  /-- Lines end with a NUL, so that there are none within the space. -/
  zeros : Bool := false
  /-- The first line of the first script may say that nothing is printed by itself. -/
  isFirst : Bool := true
  whole : Nat := 0
  silent : Bool := false

abbrev Reading := ExceptT String (StateM ScriptReader)

def nextChar : Reading (Option Char) := do
  match (← get).rest with
  | [] => return none
  | c :: rest =>
    modify fun r => { r with rest }
    return some c

def putBack (c : Option Char) : Reading Unit :=
  modify fun r => { r with rest := c.toList ++ r.rest }

def isGap (c : Char) : Bool := c == ' ' || c == '\t'

def nextSolid : Reading (Option Char) := do
  modify fun r => { r with rest := r.rest.dropWhile isGap }
  nextChar

def takeWhile (p : Char → Bool) : Reading (List Char) := do
  let r ← get
  let taken := r.rest.takeWhile p
  set { r with rest := r.rest.drop taken.length }
  return taken

def numberFrom (c : Option Char) : Reading Nat := do
  putBack c
  return ofDigits 10 (← takeWhile Char.isDigit)

def bracketSpan (cs : List Char) : Nat :=
  let lead := match cs with
    | '^' :: ']' :: _ => 2
    | '^' :: _ => 1
    | ']' :: _ => 1
    | _ => 0
  lead + inner (cs.length + 1) (cs.drop lead)
where
  inner : Nat → List Char → Nat
    | 0, _ => 0
    | _ + 1, [] => 0
    | _ + 1, ']' :: _ => 1
    | fuel + 1, '[' :: k :: cs =>
      if k == ':' || k == '.' || k == '=' then
        let body := named k cs
        2 + body + inner fuel (cs.drop body)
      else 1 + inner fuel (k :: cs)
    | fuel + 1, _ :: cs => 1 + inner fuel cs
  named (k : Char) : List Char → Nat
    | [] => 0
    | [_] => 1
    | c :: d :: cs => if c == k && d == ']' then 2 else 1 + named k (d :: cs)

def delimited (regex : Bool) (d : Char) : Nat → List Char → List Char →
    Except (List Char) (List Char × List Char)
  | 0, _, cs => .error cs
  | fuel + 1, acc, cs =>
    match cs with
    | [] => .error []
    | '\n' :: cs => .error ('\n' :: cs)
    | c :: cs =>
      if c == d then .ok (acc.reverse, cs)
      else if c == '\\' then
        match cs with
        | [] => .error []
        | e :: cs =>
          if e == 'n' && regex && d != 'n' then delimited regex d fuel ('\n' :: acc) cs
          else if e == '\n' || (e == d && (regex || e != '&')) then
            delimited regex d fuel (e :: acc) cs
          else delimited regex d fuel (e :: '\\' :: acc) cs
      else if c == '[' && regex then
        let n := bracketSpan cs
        let inside := cs.take n
        if inside.contains '\n' then .error (cs.dropWhile (· != '\n'))
        else delimited regex d fuel (inside.reverse ++ '[' :: acc) (cs.drop n)
      else delimited regex d fuel (c :: acc) cs

def codedChar? : List Char → Option (Char × List Char)
  | 'a' :: cs => some ('\x07', cs)
  | 'f' :: cs => some ('\x0c', cs)
  | 'n' :: cs => some ('\n', cs)
  | 'r' :: cs => some ('\r', cs)
  | 't' :: cs => some ('\t', cs)
  | 'v' :: cs => some ('\x0b', cs)
  | 'c' :: c :: cs => some (Char.ofNat (Nat.xor c.toUpper.toNat 64), cs)
  | 'd' :: cs => coded 10 3 Char.isDigit cs
  | 'o' :: cs => coded 8 3 (fun c => '0' ≤ c && c ≤ '7') cs
  | 'x' :: cs => coded 16 2 isHexDigit cs
  | _ => none
where
  coded (base most : Nat) (p : Char → Bool) (cs : List Char) : Option (Char × List Char) :=
    let ds := (cs.take most).takeWhile p
    let n := ofDigits base ds % 256
    if ds.isEmpty then none
    else some (if n < 128 then Char.ofNat n else Char.ofNat (0x10FF00 + n), cs.drop ds.length)

def resolveCodes : Nat → List Char → List Char
  | 0, cs => cs
  | _ + 1, [] => []
  | fuel + 1, '\\' :: cs => match codedChar? cs with
    | some (c, rest) => c :: resolveCodes fuel rest
    | none => match cs with
      | [] => ['\\']
      | c :: rest => '\\' :: c :: resolveCodes fuel rest
  | fuel + 1, c :: cs => c :: resolveCodes fuel cs

def plainText : Nat → List Char → List Char
  | 0, cs => cs
  | _ + 1, [] => []
  | fuel + 1, '\\' :: cs => match codedChar? cs with
    | some (c, rest) => c :: plainText fuel rest
    | none => match cs with
      | [] => []
      | c :: rest => c :: plainText fuel rest
  | fuel + 1, c :: cs => c :: plainText fuel cs

def piecesOf : Nat → List Char → List Piece
  | 0, _ => []
  | _ + 1, [] => []
  | fuel + 1, '&' :: cs => .group 0 :: piecesOf fuel cs
  | fuel + 1, '\\' :: cs => match codedChar? cs with
    | some (c, rest) => .char c :: piecesOf fuel rest
    | none => match cs with
      | [] => [.char '\\']
      | 'L' :: rest => .all .lower :: piecesOf fuel rest
      | 'U' :: rest => .all .upper :: piecesOf fuel rest
      | 'E' :: rest => .all .kept :: piecesOf fuel rest
      | 'l' :: rest => .next .lower :: piecesOf fuel rest
      | 'u' :: rest => .next .upper :: piecesOf fuel rest
      | c :: rest =>
        (if c.isDigit then .group (c.toNat - 48) else .char c) :: piecesOf fuel rest
  | fuel + 1, c :: cs => .char c :: piecesOf fuel cs

def wantedOf (text : List Char) (anyCase multi : Bool) (references : Nat) :
    Reading (Option Wanted) := do
  if text.isEmpty then
    if anyCase || multi then throw "cannot specify modifiers on empty regexp"
    return none
  match readRegex { extended := (← get).extended, strict := true }
      (resolveCodes (text.length + 1) text) with
  | .error f => throw f.message
  | .ok (regex, groups) =>
    if groups < references then
      throw s!"invalid reference \\{references} on \x60s' command's RHS"
    let multi := multi && !(← get).zeros
    return some { regex, manner := { anyCase, multi, looksBack := regex.looksBack }, groups }

def slashed (regex : Bool) (d : Option Char) (message : String) : Reading (List Char) := do
  match d with
  | none => throw message
  | some d =>
    if 127 < d.toNat then
      let octets := (lineBytes [d]).drop 1
      let cs := octets.map fun b => Char.ofNat (0x10FF00 + b.toNat)
      modify fun r => { r with rest := cs ++ r.rest }
      throw "delimiter character is not a single-byte character"
    let r ← get
    match delimited regex d (r.rest.length + 1) [] r.rest with
    | .ok (text, rest) =>
      set { r with rest }
      return text
    | .error rest =>
      set { r with rest }
      throw message

def addressFlags (text : List Char) : Nat → (anyCase multi : Bool) → Reading (Option Wanted)
  | 0, _, _ => return none
  | fuel + 1, anyCase, multi => do
    match ← nextSolid with
    | some 'I' => addressFlags text fuel true multi
    | some 'M' => addressFlags text fuel anyCase true
    | c =>
      putBack c
      wantedOf text anyCase multi 0

inductive AnyAddress where
  | address (a : Address)
  | stop (s : Stop)

def readAddress (c : Option Char) : Reading (Option AnyAddress) := do
  let expression := fun (d : Option Char) => do
    let text ← slashed true d "unterminated address regex"
    let w ← addressFlags text ((← get).rest.length + 1) false false
    return some (AnyAddress.address (.matching w))
  match c with
  | some '/' => expression c
  | some '\\' => expression (← nextChar)
  | some '$' => return some (.address .last)
  | some '+' => return some (.stop (.plus (← numberFrom (← nextSolid))))
  | some '~' => return some (.stop (.multiple (← numberFrom (← nextSolid))))
  | _ =>
    if !c.any Char.isDigit then return none
    let n ← numberFrom c
    match ← nextSolid with
    | some '~' =>
      let step ← numberFrom (← nextSolid)
      return some (.address (if step = 0 then .line n else .every n step))
    | d =>
      putBack d
      return some (.address (.line n))

def endCommand : Reading Unit := do
  match ← nextSolid with
  | none => pure ()
  | some c =>
    if c == '}' || c == '#' then putBack (some c)
    else if c != '\n' && c != ';' then throw "extra characters after command"

def readLabel : Reading (List Char) := do
  putBack (← nextSolid)
  takeWhile fun c => !isSpaceChar c && c != ';' && c != '}'

def readName : Reading String := do
  putBack (← nextSolid)
  let cs ← takeWhile (· != '\n')
  let _ ← nextChar
  if cs.isEmpty then throw "missing filename in r/R/w/W commands"
  return String.ofList cs

def readSink : Reading Sink := do
  match ← readName with
  | "/dev/stdout" => return .output
  | "/dev/stderr" => return .errors
  | name =>
    modify fun r => { r with sinks := name :: r.sinks }
    return .file name

def textLines : Nat → List Char → List Char × List Char
  | 0, cs => ([], cs)
  | _ + 1, [] => ([], [])
  | _ + 1, '\n' :: cs => ([], cs)
  | _ + 1, ['\\'] => ([], [])
  | fuel + 1, '\\' :: c :: cs =>
    let (text, rest) := textLines fuel cs
    ('\\' :: c :: text, rest)
  | fuel + 1, c :: cs =>
    let (text, rest) := textLines fuel cs
    (c :: text, rest)

def readTextLines : Reading (List Char) := do
  let r ← get
  let (text, rest) := textLines (r.rest.length + 1) r.rest
  set { r with rest }
  return plainText (text.length + 1) (text ++ ['\n'])

def readText : Reading (Option (List Char)) := do
  match ← nextSolid with
  | none => throw "expected \\ after \x60a', \x60c' or \x60i'"
  | some '\\' =>
    match ← nextChar with
    | none => return none
    | some '\n' => readTextLines
    | c =>
      putBack c
      readTextLines
  | c =>
    putBack c
    readTextLines

def substitutionFlags (s : Substitution) (text : List Char) (references : Nat) :
    Nat → (anyCase multi : Bool) → (nth : Option Nat) → (everywhere prints : Bool) →
    Reading Substitution
  | 0, _, _, _, _, _ => return s
  | fuel + 1, anyCase, multi, nth, everywhere, prints => do
    let done := fun (sink : Option Sink) => do
      let wanted ← wantedOf text anyCase multi references
      return { s with wanted, nth := nth.getD 1, everywhere, prints, sink }
    let again := substitutionFlags s text references fuel
    match ← nextChar with
    | none => done none
    | some 'i' => again true multi nth everywhere prints
    | some 'I' => again true multi nth everywhere prints
    | some 'm' => again anyCase true nth everywhere prints
    | some 'M' => again anyCase true nth everywhere prints
    | some 'e' => again anyCase multi nth everywhere prints
    | some 'p' =>
      if prints then throw "multiple \x60p' options to \x60s' command"
      again anyCase multi nth everywhere true
    | some 'g' =>
      if everywhere then throw "multiple \x60g' options to \x60s' command"
      again anyCase multi nth true prints
    | some 'w' => done (some (← readSink))
    | some '\n' => done none
    | some ';' => done none
    | some '}' =>
      putBack (some '}')
      done none
    | some '#' =>
      putBack (some '#')
      done none
    | some c =>
      if isGap c then again anyCase multi nth everywhere prints
      else if !c.isDigit then throw "unknown option to \x60s'"
      else
        if nth.isSome then throw "multiple number options to \x60s' command"
        let n ← numberFrom (some c)
        if n = 0 then throw "number option to \x60s' command may not be zero"
        again anyCase multi (some n) everywhere prints

def readSubstitution : Reading Deed := do
  let d ← nextChar
  let message := "unterminated \x60s' command"
  let text ← slashed true d message
  let replacement ← slashed false d message
  let pieces := piecesOf (replacement.length + 1) replacement
  let references := pieces.foldl (fun n p => match p with
    | .group k => max n k
    | _ => n) 0
  let s ← substitutionFlags { wanted := none, pieces } text references
    ((← get).rest.length + 1) false false none false false
  return .substitute s

def readTranslation : Reading Deed := do
  let d ← nextChar
  let message := "unterminated \x60y' command"
  let source ← slashed false d message
  let target ← slashed false d message
  let source := plainText (source.length + 1) source
  let target := plainText (target.length + 1) target
  if source.length ≠ target.length then
    throw "strings for \x60y' command are different lengths"
  endCommand
  return .translate (source.zip target)

def readArgument : Reading (Option Nat) := do
  let c ← nextSolid
  let n ← if c.any Char.isDigit then some <$> numberFrom c else do
    putBack c
    pure none
  endCommand
  return n

def readDeed (a : Option Address) (stop : Option Stop) (index : Nat) (c : Char) :
    Reading Deed := do
  let plain := fun (d : Deed) => do
    endCommand
    return d
  let jump := fun (when_ : Jump) => do
    let label ← readLabel
    modify fun r => { r with jumps := ⟨index, label, when_⟩ :: r.jumps }
    return Deed.nothing
  let withText := fun (make : List Char → Deed) => do
    match ← readText with
    | some text => return make text
    | none =>
      modify fun r => { r with pending := some index }
      return make []
  let single := if stop.isSome then throw "command only uses one address" else pure ()
  match c with
  | '\x7b' =>
    modify fun r => { r with blocks := index :: r.blocks }
    return .enter 0
  | '\x7d' => do
    match (← get).blocks with
    | [] => throw "unexpected \x60\x7d'"
    | start :: blocks =>
      if a.isSome then throw "\x60\x7d' doesn't want any addresses"
      endCommand
      modify fun r => { r with
        blocks
        commands := r.commands.modify start fun cmd => { cmd with deed := .enter index } }
      return .nothing
  | ':' => do
    if a.isSome then throw ": doesn't want any addresses"
    let label ← readLabel
    if label.isEmpty then throw "\":\" lacks a label"
    modify fun r => { r with labels := (label, index) :: r.labels }
    return .nothing
  | 'a' => withText .append
  | 'i' => withText .insert
  | 'c' => withText .change
  | 'b' => jump .always
  | 't' => jump .ifChanged
  | 'T' => jump .ifUnchanged
  | 'q' => do
    single
    return .quit ((← readArgument).getD 0) false
  | 'Q' => do
    single
    return .quit ((← readArgument).getD 0) true
  | 'l' => do return .list (← readArgument)
  | '=' => plain .number
  | 'd' => plain .delete
  | 'D' => plain .deleteFirst
  | 'F' => plain .name
  | 'g' => plain .get
  | 'G' => plain .getMore
  | 'h' => plain .hold
  | 'H' => plain .holdMore
  | 'n' => plain .next
  | 'N' => plain .join
  | 'p' => plain .print
  | 'P' => plain .printFirst
  | 'x' => plain .exchange
  | 'z' => plain .empty
  | 'r' => do return .readFile (← readName)
  | 'R' => do return .readLine (← readName)
  | 'w' => do return .write (← readSink)
  | 'W' => do return .writeFirst (← readSink)
  | 's' => readSubstitution
  | 'y' => readTranslation
  | 'v' => do
    if (← readLabel).head?.any (fun c => '5' ≤ c && c ≤ '9') then
      throw "expected newer version of sed"
    return .nothing
  | c => throw s!"unknown command: \x60{c}'"

def skipRemark : Reading Unit := do
  let r ← get
  let text ← takeWhile (· != '\n')
  let _ ← nextChar
  if text == ['n'] && r.isFirst && r.rest.length + 1 = r.whole then
    modify fun r => { r with silent := true }

def readCommand (c : Char) : Reading Unit := do
  let index := (← get).commands.size
  let (first, stop, c) ← match ← readAddress (some c) with
    | none => pure (none, none, some c)
    | some (.stop _) => throw "invalid usage of +N or ~N as first address"
    | some (.address a) =>
      match ← nextSolid with
      | some ',' =>
        let stop ← match ← readAddress (← nextSolid) with
          | none => throw "unexpected \x60,'"
          | some (.stop s) => pure s
          | some (.address (.line n)) => pure (.line n)
          | some (.address (.every n _)) => pure (.line n)
          | some (.address .last) => pure .last
          | some (.address (.matching w)) => pure (.matching w)
        pure (some a, some stop, ← nextSolid)
      | d => pure (some a, none, d)
  match first, stop with
  | some (.line 0), some (.matching _) => pure ()
  | some (.line 0), _ => throw "invalid usage of line address 0"
  | _, _ => pure ()
  let (negated, c) ← if c == some '!' then do
      let d ← nextSolid
      if d == some '!' then throw "multiple \x60!'s"
      pure (true, d)
    else pure (false, c)
  match c with
  | none => throw "missing command"
  | some '#' =>
    if first.isSome then throw "comments don't accept any addresses"
    skipRemark
  | some c =>
    modify fun r => { r with commands := r.commands.push { first, stop, negated } }
    let deed ← readDeed first stop index c
    modify fun r => { r with
      commands := r.commands.modify index fun cmd => { cmd with deed } }

def readAll : Nat → Reading Unit
  | 0 => pure ()
  | fuel + 1 => do
    let _ ← takeWhile fun c => c == ';' || isSpaceChar c
    match ← nextChar with
    | none => pure ()
    | some c =>
      readCommand c
      readAll fuel

def Deed.withText (text : List Char) : Deed → Deed
  | .append _ => .append text
  | .insert _ => .insert text
  | .change _ => .change text
  | d => d

def readScript (text : List Char) : Reading Unit := do
  modify fun r => { r with rest := text, whole := text.length }
  match (← get).pending with
  | none => pure ()
  | some index =>
    let more ← readTextLines
    modify fun r => { r with
      pending := none
      commands := r.commands.modify index fun cmd => { cmd with deed := cmd.deed.withText more } }
  readAll (text.length + 1)
  modify fun r => { r with isFirst := false }

def ScriptReader.resolve (r : ScriptReader) : Except (List Char) (Array Command) :=
  r.jumps.foldlM (fun cmds j =>
    let put := fun (target : Nat) =>
      cmds.modify j.index fun cmd => { cmd with deed := .jump j.when_ target }
    if j.label.isEmpty then .ok (put cmds.size)
    else match r.labels.lookup j.label with
      | some target => .ok (put target)
      | none => .error j.label) r.commands

end Editing

end DocBraces.Tools
