import DocBraces.Yaml.Fault
import DocBraces.Yaml.Source
import DocBraces.Text.Integer
import DocBraces.Text.Utf8

/-!
# Tokens

The signs that a YAML text is made of. Indentation shows as opening and closing
tokens of block collections.
-/

set_option autoImplicit false

namespace DocBraces.Yaml

open DocBraces.Text

inductive Directive where
  | version (major minor : Nat)
  | handle (name lead : List Char)
  | other
  deriving DecidableEq, Repr

inductive Token where
  | directive (d : Directive)
  | documentStart
  | documentEnd
  | streamEnd
  | blockSequenceStart
  | blockMappingStart
  | blockEnd
  | flowSequenceStart
  | flowSequenceEnd
  | flowMappingStart
  | flowMappingEnd
  | blockEntry
  | flowEntry
  | key
  | value
  | reference (name : List Char)
  | anchor (name : List Char)
  | tag (handle : Option (List Char)) (suffix : List Char)
  | scalar (content : Content) (plain : Bool)
  deriving DecidableEq, Repr

abbrev Scan := StateT Source (Except Failure)

namespace Scan

def malformed {α : Type} : Scan α := throw .malformed

def peek (n : Nat := 0) : Scan Char := return (← get).peek n

def forward (n : Nat := 1) : Scan Unit := modify (·.forward n)

def takeWhile (test : Char → Bool) : Scan (List Char) :=
  modifyGet fun s => s.takeWhile test

def skipSpaces : Scan Unit := modify (·.skipSpaces)

def lineBreak : Scan (List Char) := do
  match (← get).lineBreak? with
  | some (c, s) =>
    set s
    return [c]
  | none => return []

def ignoredLine : Scan Unit := do
  skipSpaces
  if (← peek) == '#' then let _ ← takeWhile (!endsLine ·)
  unless endsLine (← peek) do malformed
  let _ ← lineBreak

def isNameChar (c : Char) : Bool := c.isAlphanum || c == '-' || c == '_'

def name : Scan (List Char) := do
  let cs ← takeWhile isNameChar
  if cs.isEmpty then malformed
  return cs

def anchorName : Scan (List Char) := do
  forward
  let cs ← name
  let c ← peek
  unless endsWord c || ['?', ':', ',', ']', '\x7d', '%', '@', '\x60'].contains c do malformed
  return cs

def escapedOctets : Nat → List UInt8 → Scan (List UInt8)
  | 0, done => return done
  | fuel + 1, done => do
    if (← peek) == '%' then
      let ds := (← get).rest.drop 1 |>.take 2
      unless ds.length == 2 && ds.all isHexDigit do malformed
      forward 3
      escapedOctets fuel (done ++ [UInt8.ofNat (ofDigits 16 ds)])
    else return done

def isUriChar (c : Char) : Bool :=
  c.isAlphanum || ['-', ';', '/', '?', ':', '@', '&', '=', '+', '$', ',', '_', '.', '!', '~', '*',
    '\'', '(', ')', '[', ']'].contains c

def uriFrom : Nat → List Char → Scan (List Char)
  | 0, done => return done
  | fuel + 1, done => do
    let cs ← takeWhile isUriChar
    if (← peek) == '%' then
      match Utf8.decode (← escapedOctets fuel []) with
      | .ok decoded => uriFrom fuel (done ++ cs ++ decoded)
      | .error _ => malformed
    else return done ++ cs

def uri : Scan (List Char) := do
  let cs ← uriFrom ((← get).rest.length + 1) []
  if cs.isEmpty then malformed
  return cs

def handle : Scan (List Char) := do
  unless (← peek) == '!' do malformed
  forward
  if (← peek) == ' ' then return ['!']
  let cs ← takeWhile isNameChar
  if (← peek) == '!' then
    forward
    return '!' :: cs ++ ['!']
  else if cs.isEmpty then
    malformed
  else malformed

def hasSecondMark (s : Source) : Bool :=
  ((s.rest.drop 1).takeWhile fun c => !endsField c).contains '!'

def tag : Scan Token := do
  let c ← peek 1
  let t ← if c == '<' then do
      forward 2
      let suffix ← uri
      unless (← peek) == '>' do malformed
      forward
      pure (Token.tag none suffix)
    else if endsWord c then do
      forward
      pure (.tag none ['!'])
    else if hasSecondMark (← get) then do
      let h ← handle
      pure (.tag (some h) (← uri))
    else do
      forward
      pure (.tag (some ['!']) (← uri))
  unless endsField (← peek) do malformed
  return t

def versionNumber : Scan Nat := do
  let ds ← takeWhile Char.isDigit
  if ds.isEmpty then malformed
  if digitLimit < ds.length then throw (.tooManyDigits ds.length)
  return ofDigits 10 ds

def directive : Scan Token := do
  forward
  let kind ← name
  unless endsField (← peek) do malformed
  let d ← if kind == "YAML".toList then do
      skipSpaces
      let major ← versionNumber
      unless (← peek) == '.' do malformed
      forward
      let minor ← versionNumber
      unless endsField (← peek) do malformed
      pure (Directive.version major minor)
    else if kind == "TAG".toList then do
      skipSpaces
      let h ← handle
      unless (← peek) == ' ' do malformed
      skipSpaces
      let lead ← uri
      unless endsField (← peek) do malformed
      pure (.handle h lead)
    else do
      let _ ← takeWhile (!endsLine ·)
      pure .other
  ignoredLine
  return .directive d

inductive Chomping where
  | keep
  | strip
  | clip
  deriving DecidableEq

def chomping? : Char → Option Chomping
  | '+' => some .keep
  | '-' => some .strip
  | _ => none

def increment : Scan (Option Nat) := do
  let c ← peek
  if c.isDigit then
    if c == '0' then malformed
    forward
    return some (c.toNat - 48)
  else return none

def blockHeader : Scan (Chomping × Option Nat) := do
  let header ← match chomping? (← peek) with
    | some ch => do
      forward
      pure (ch, ← increment)
    | none => do
      match ← increment with
      | none => pure (.clip, none)
      | some n => match chomping? (← peek) with
        | some ch => do
          forward
          pure (ch, some n)
        | none => pure (.clip, some n)
  unless endsField (← peek) do malformed
  ignoredLine
  return header

def leadingBreaks : Nat → List Char → Nat → Scan (List Char × Nat)
  | 0, done, deepest => return (done, deepest)
  | fuel + 1, done, deepest => do
    if (← peek) == ' ' then
      forward
      leadingBreaks fuel done (max deepest (← get).column)
    else match ← lineBreak with
      | [] => return (done, deepest)
      | b => leadingBreaks fuel (done ++ b) deepest

def indentedBreaks (column : Nat) : Nat → List Char → Scan (List Char)
  | 0, done => return done
  | fuel + 1, done => do
    modify (·.skipSpacesTo column)
    match ← lineBreak with
    | [] => return done
    | b => indentedBreaks column fuel (done ++ b)

def isSpaceOrTab (c : Char) : Bool := c == ' ' || c == '\t'

/-- Lines of a block scalar: the text so far, the last line break and the empty lines
after it. -/
def blockLines (folded : Bool) (column : Nat) :
    Nat → List Char → List Char → List Char → Scan (List Char × List Char × List Char)
  | 0, done, last, breaks => return (done, last, breaks)
  | fuel + 1, done, last, breaks => do
    let s ← get
    if s.column == column && !isEnd s.peek then
      let leading := !isSpaceOrTab s.peek
      let line ← takeWhile (!endsLine ·)
      let done := done ++ breaks ++ line
      let last ← lineBreak
      let breaks ← indentedBreaks column fuel []
      let s ← get
      if s.column == column && !isEnd s.peek then
        let joint :=
          if folded && last == ['\n'] && leading && !isSpaceOrTab s.peek then
            (if breaks.isEmpty then [' '] else [])
          else last
        blockLines folded column fuel (done ++ joint) last breaks
      else return (done, last, breaks)
    else return (done, last, breaks)

def blockScalar (folded : Bool) (indent : Int) : Scan Token := do
  forward
  let (chomping, explicit) ← blockHeader
  let fuel := (← get).rest.length + 1
  let least := max 1 (indent + 1).toNat
  let (breaks, column) ← match explicit with
    | none => do
      let (breaks, deepest) ← leadingBreaks fuel [] 0
      pure (breaks, max least deepest)
    | some n => do
      let column := least + n - 1
      pure (← indentedBreaks column fuel [], column)
  let (done, last, breaks) ← blockLines folded column fuel [] [] breaks
  let ending := match chomping with
    | .keep => last ++ breaks
    | .strip => []
    | .clip => last
  return .scalar (.chars (done ++ ending)) false

def escapedControl? : Char → Option Nat
  | '0' => some 0
  | 'a' => some 7
  | 'b' => some 8
  | 't' => some 9
  | '\t' => some 9
  | 'n' => some 10
  | 'v' => some 11
  | 'f' => some 12
  | 'r' => some 13
  | 'e' => some 27
  | ' ' => some 32
  | '"' => some 34
  | '\\' => some 92
  | '/' => some 47
  | 'N' => some 0x85
  | '_' => some 0xA0
  | 'L' => some 0x2028
  | 'P' => some 0x2029
  | _ => none

def escapedWidth? : Char → Option Nat
  | 'x' => some 2
  | 'u' => some 4
  | 'U' => some 8
  | _ => none

def codes (cs : List Char) : List Nat := cs.map Char.toNat

def quotedBreaks : Nat → List Char → Scan (List Char)
  | 0, done => return done
  | fuel + 1, done => do
    if (← get).atMarker then malformed
    let _ ← takeWhile isSpaceOrTab
    match ← lineBreak with
    | [] => return done
    | b => quotedBreaks fuel (done ++ b)

def escapedCode : Scan Nat := do
  let c ← peek
  match escapedWidth? c with
  | none => malformed
  | some width =>
    forward
    let ds := (← get).rest.take width
    unless ds.length == width && ds.all isHexDigit do malformed
    let n := ofDigits 16 ds
    if 0x110000 ≤ n then throw (.codeTooLarge (0x7FFFFFFF < n))
    forward width
    return n

def isQuotedStop (c : Char) : Bool := c == '\'' || c == '"' || c == '\\' || endsWord c

def quotedWord (double : Bool) : Nat → List Nat → Scan (List Nat)
  | 0, done => return done
  | fuel + 1, done => do
    let done := done ++ codes (← takeWhile (!isQuotedStop ·))
    let c ← peek
    if !double && c == '\'' && (← peek 1) == '\'' then
      forward 2
      quotedWord double fuel (done ++ [39])
    else if (double && c == '\'') || (!double && (c == '"' || c == '\\')) then
      forward
      quotedWord double fuel (done ++ [c.toNat])
    else if double && c == '\\' then
      forward
      let e ← peek
      match escapedControl? e with
      | some n =>
        forward
        quotedWord double fuel (done ++ [n])
      | none =>
        if isBreak e then
          let _ ← lineBreak
          quotedWord double fuel (done ++ codes (← quotedBreaks fuel []))
        else quotedWord double fuel (done ++ [← escapedCode])
    else return done

def quotedBlanks (fuel : Nat) : Scan (List Nat) := do
  let blanks ← takeWhile isSpaceOrTab
  if isEnd (← peek) then malformed
  match ← lineBreak with
  | [] => return codes blanks
  | b =>
    let breaks ← quotedBreaks fuel []
    let joint := if b != ['\n'] then b else if breaks.isEmpty then [' '] else []
    return codes (joint ++ breaks)

def quotedText (double : Bool) (quote : Char) : Nat → List Nat → Scan (List Nat)
  | 0, _ => malformed
  | fuel + 1, done => do
    if (← peek) == quote then
      forward
      return done
    else
      let blanks ← quotedBlanks fuel
      let word ← quotedWord double fuel []
      quotedText double quote fuel (done ++ blanks ++ word)

def quotedScalar (double : Bool) : Scan Token := do
  let quote ← peek
  forward
  let fuel := (← get).rest.length + 2
  let word ← quotedWord double fuel []
  return .scalar (.ofCodes (← quotedText double quote fuel word)) false

def isFlowSign (c : Char) : Bool :=
  c == ',' || c == '[' || c == ']' || c == '\x7b' || c == '\x7d'

def plainLength (inFlow : Bool) : List Char → Nat
  | [] => 0
  | c :: cs =>
    let next := cs.head?.getD '\x00'
    if endsWord c || (c == ':' && (endsWord next || (inFlow && isFlowSign next))) ||
        (inFlow && (isFlowSign c || c == '?')) then 0
    else plainLength inFlow cs + 1

def plainBreaks : Nat → List Char → Scan (Option (List Char))
  | 0, done => return some done
  | fuel + 1, done => do
    skipSpaces
    match ← lineBreak with
    | [] => return some done
    | b =>
      if (← get).atMarker then return none
      else plainBreaks fuel (done ++ b)

/-- Blanks between words of a plain scalar, and whether they hold a line break. -/
def plainBlanks (fuel : Nat) : Scan (List Char × Bool) := do
  let blanks ← takeWhile (· == ' ')
  match ← lineBreak with
  | [] => return (blanks, false)
  | b =>
    if (← get).atMarker then return ([], true)
    match ← plainBreaks fuel [] with
    | none => return ([], true)
    | some breaks =>
      let joint := if b != ['\n'] then b else if breaks.isEmpty then [' '] else []
      return (joint ++ breaks, true)

/-- Words of a plain scalar, and whether a line break was read after one of them. -/
def plainWords (inFlow : Bool) (indent : Int) :
    Nat → List Char → List Char → Bool → Scan (List Char × Bool)
  | 0, done, _, broken => return (done, broken)
  | fuel + 1, done, blanks, broken => do
    let s ← get
    if s.peek == '#' then return (done, broken)
    let n := plainLength inFlow s.rest
    if n == 0 then return (done, broken)
    let done := done ++ blanks ++ s.rest.take n
    forward n
    let (blanks, line) ← plainBlanks fuel
    let s ← get
    if blanks.isEmpty || s.peek == '#' || (!inFlow && s.column < indent) then return (done, line)
    else plainWords inFlow indent fuel done blanks line

end Scan

end DocBraces.Yaml
