import DocBraces.Yaml.Token

/-!
# Token streams

Gives the tokens of a text one by one, and reads no further than it must. Whether a word
is a mapping key shows only at the colon after it, so that possible keys are remembered,
one for each level of brackets, until their line ends or they grow too long; a token that
may begin a key is not given away before this is settled.
-/

set_option autoImplicit false

namespace DocBraces.Yaml

structure PossibleKey where
  position : Nat
  required : Bool
  index : Nat
  line : Nat
  column : Nat

structure Scanner where
  source : Source
  /-- Tokens read and not yet given away. -/
  tokens : List Token := []
  /-- Number of tokens given away. -/
  taken : Nat := 0
  /-- Brackets open. -/
  flow : Nat := 0
  indent : Int := -1
  indents : List Int := []
  keyAllowed : Bool := true
  keys : List (Nat × PossibleKey) := []
  done : Bool := false

abbrev Scanning := StateT Scanner (Except Failure)

namespace Scanning

def malformed {α : Type} : Scanning α := throw .malformed

def scan {α : Type} (x : Scan α) : Scanning α := fun s => do
  let (a, source) ← x.run s.source
  return (a, { s with source })

def emit (t : Token) : Scanning Unit := modify fun s => { s with tokens := s.tokens ++ [t] }

def insertAt (number : Nat) (t : Token) : Scanning Unit :=
  modify fun s =>
    let n := number - s.taken
    { s with tokens := s.tokens.take n ++ t :: s.tokens.drop n }

def allowKey (b : Bool) : Scanning Unit := modify fun s => { s with keyAllowed := b }

def inBlock : Scanning Bool := return (← get).flow == 0

def keyLimit : Nat := 1024

def PossibleKey.stale (s : Source) (k : PossibleKey) : Bool :=
  k.line != s.line || keyLimit < s.index - k.index

def dropStaleKeys : Scanning Unit := do
  let s ← get
  if s.keys.any fun e => PossibleKey.stale s.source e.2 && e.2.required then malformed
  set { s with keys := s.keys.filter fun e => !PossibleKey.stale s.source e.2 }

def removeKey : Scanning Unit := do
  let s ← get
  match s.keys.lookup s.flow with
  | some k =>
    if k.required then malformed
    set { s with keys := s.keys.filter (·.1 != s.flow) }
  | none => pure ()

def saveKey : Scanning Unit := do
  let s ← get
  if s.keyAllowed then
    removeKey
    modify fun s => { s with keys := (s.flow, {
      position := s.taken + s.tokens.length
      required := s.flow == 0 && s.indent == s.source.column
      index := s.source.index
      line := s.source.line
      column := s.source.column }) :: s.keys }

def unwindFrom : List Int → Int → Int → List Token → Int × List Int × List Token
  | [], indent, _, done => (indent, [], done)
  | i :: is, indent, column, done =>
    if column < indent then unwindFrom is i column (done ++ [.blockEnd])
    else (indent, i :: is, done)

def unwind (column : Int) : Scanning Unit :=
  modify fun s =>
    if s.flow != 0 then s
    else
      let (indent, indents, ends) := unwindFrom s.indents s.indent column []
      { s with indent, indents, tokens := s.tokens ++ ends }

def deepen (column : Nat) : Scanning Bool := do
  let s ← get
  if s.indent < column then
    set { s with indents := s.indent :: s.indents, indent := (column : Int) }
    return true
  else return false

def streamEnd : Scanning Unit := do
  unwind (-1)
  removeKey
  modify fun s => { s with keyAllowed := false, keys := [], done := true }
  emit .streamEnd

def directive : Scanning Unit := do
  unwind (-1)
  removeKey
  allowKey false
  emit (← scan Scan.directive)

def marker (t : Token) : Scanning Unit := do
  unwind (-1)
  removeKey
  allowKey false
  scan (Scan.forward 3)
  emit t

def flowStart (t : Token) : Scanning Unit := do
  saveKey
  modify fun s => { s with flow := s.flow + 1, keyAllowed := true }
  scan Scan.forward
  emit t

/-- A closing bracket outside of all brackets is left to the reader of tokens. -/
def flowEnd (t : Token) : Scanning Unit := do
  removeKey
  modify fun s => { s with flow := s.flow - 1, keyAllowed := false }
  scan Scan.forward
  emit t

def flowEntry : Scanning Unit := do
  allowKey true
  removeKey
  scan Scan.forward
  emit .flowEntry

def openBlock (t : Token) : Scanning Unit := do
  unless (← get).keyAllowed do malformed
  if ← deepen (← get).source.column then emit t

def blockEntry : Scanning Unit := do
  if ← inBlock then openBlock .blockSequenceStart
  allowKey true
  removeKey
  scan Scan.forward
  emit .blockEntry

def key : Scanning Unit := do
  if ← inBlock then openBlock .blockMappingStart
  allowKey (← inBlock)
  removeKey
  scan Scan.forward
  emit .key

def value : Scanning Unit := do
  let s ← get
  match s.keys.lookup s.flow with
  | some k =>
    set { s with keys := s.keys.filter (·.1 != s.flow) }
    insertAt k.position .key
    if ← inBlock then
      if ← deepen k.column then insertAt k.position .blockMappingStart
    allowKey false
  | none =>
    if ← inBlock then openBlock .blockMappingStart
    allowKey (← inBlock)
    removeKey
  scan Scan.forward
  emit .value

def word (x : Scan Token) : Scanning Unit := do
  saveKey
  allowKey false
  emit (← scan x)

def blockScalar (folded : Bool) : Scanning Unit := do
  allowKey true
  removeKey
  emit (← scan (Scan.blockScalar folded (← get).indent))

def plain : Scanning Unit := do
  saveKey
  let s ← get
  let fuel := s.source.rest.length + 1
  let (cs, broken) ← scan (Scan.plainWords (s.flow != 0) (s.indent + 1) fuel [] [] false)
  allowKey broken
  emit (.scalar (.chars cs) true)

def startsPlain (inFlow : Bool) (s : Source) : Bool :=
  let c := s.peek
  let signs := ['-', '?', ':', ',', '[', ']', '\x7b', '\x7d', '#', '&', '*', '!', '|', '>', '\'',
    '"', '%', '@', '\x60']
  (!endsWord c && !signs.contains c) ||
    (!endsWord (s.peek 1) && (c == '-' || (!inFlow && (c == '?' || c == ':'))))

def skipToToken : Nat → Scanning Unit
  | 0 => return
  | fuel + 1 => do
    scan Scan.skipSpaces
    if (← scan Scan.peek) == '#' then let _ ← scan (Scan.takeWhile (!endsLine ·))
    match ← scan Scan.lineBreak with
    | [] => return
    | _ =>
      if ← inBlock then allowKey true
      skipToToken fuel

def markerToken (c : Char) : Token := if c == '-' then .documentStart else .documentEnd

def token : Scanning Unit := do
  if (← get).source.index == 0 && (← scan Scan.peek) == byteOrderMark then scan Scan.forward
  skipToToken ((← get).source.rest.length + 1)
  dropStaleKeys
  unwind (← get).source.column
  let s ← get
  let c := s.source.peek
  let inFlow := s.flow != 0
  let spaced := endsWord (s.source.peek 1)
  if isEnd c then streamEnd
  else if c == '%' && s.source.column == 0 then directive
  else if s.source.column == 0 && s.source.atMarker then marker (markerToken c)
  else match c with
    | '[' => flowStart .flowSequenceStart
    | '\x7b' => flowStart .flowMappingStart
    | ']' => flowEnd .flowSequenceEnd
    | '\x7d' => flowEnd .flowMappingEnd
    | ',' => flowEntry
    | '*' => word (do return .reference (← Scan.anchorName))
    | '&' => word (do return .anchor (← Scan.anchorName))
    | '!' => word Scan.tag
    | '\'' => word (Scan.quotedScalar false)
    | '"' => word (Scan.quotedScalar true)
    | _ =>
      if c == '-' && spaced then blockEntry
      else if c == '?' && (inFlow || spaced) then key
      else if c == ':' && (inFlow || spaced) then value
      else if c == '|' && !inFlow then blockScalar false
      else if c == '>' && !inFlow then blockScalar true
      else if startsPlain inFlow s.source then plain
      else malformed

def isUnsettled : Scanning Bool := do
  let s ← get
  if s.done then return false
  if s.tokens.isEmpty then return true
  dropStaleKeys
  let s ← get
  return (s.keys.map fun e => e.2.position).min? == some s.taken

def settle : Nat → Scanning Unit
  | 0 => malformed
  | fuel + 1 => do
    if ← isUnsettled then
      token
      settle fuel

def next : Scanning Token := do
  settle ((← get).source.rest.length + 3)
  match (← get).tokens with
  | t :: _ => return t
  | [] => malformed

def drop : Scanning Unit :=
  modify fun s => { s with tokens := s.tokens.drop 1, taken := s.taken + 1 }

end Scanning

def Scanner.ofText (text : List Char) : Except Failure Scanner :=
  if text.all isAllowed then .ok { source := { rest := text } } else .error .malformed

end DocBraces.Yaml
