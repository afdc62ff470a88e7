import DocBraces.Tools.Lines

/-!
# Columns

Tools that work within lines: cutting out parts, pasting lines together, folding long
ones, and exchanging tabs and blanks.
-/

set_option autoImplicit false

namespace DocBraces.Tools

open DocBraces.Text

def reverseLine (l : Bytes) : Bytes :=
  Utf8.encode (textOf (dropNewline l)).reverse ++ l.drop (dropNewline l).length

def reverseChars : Tool := Work.tool fun c => do
  let fs ← flagsOf c.name 1 [] c.args
  let found ← readSources c 1 (fun n why => s!"rev: cannot open {stringOf n}: {why}") fs.operands
  Work.print (found.flatMap fun s => (byteLines s.2).flatMap reverseLine)

abbrev Span := Nat × Option Nat

def Span.holds (n : Nat) (s : Span) : Bool := s.1 ≤ n && s.2.all (n ≤ ·)

inductive ListFault where
  | zero
  | decreasing
  | endless
  | range
  | tooLarge (number : String)
  | bad (part : String)

def ListFault.message (fields : Bool) : ListFault → String
  | .zero =>
    if fields then "fields are numbered from 1" else "byte/character positions are numbered from 1"
  | .decreasing => "invalid decreasing range"
  | .endless => "invalid range with no endpoint: -"
  | .range => if fields then "invalid field range" else "invalid byte or character range"
  | .tooLarge n =>
    if fields then s!"field number {quotedText n} is too large"
    else s!"byte/character offset {quotedText n} is too large"
  | .bad part => if fields then s!"invalid field value {quotedText part}"
      else s!"invalid byte/character position {quotedText part}"

def readSpan (cs more : List Char) : Except ListFault Span := do
  let low := cs.takeWhile Char.isDigit
  let fit := fun (ds : List Char) =>
    if 0x10000000000000000 ≤ ofDigits 10 ds + 1 then Except.error (ListFault.tooLarge (String.ofList ds))
    else .ok ()
  fit low
  let zero := fun (ds : List Char) => !ds.isEmpty && ofDigits 10 ds = 0
  match cs.drop low.length with
  | [] =>
    if low.isEmpty || zero low then throw .zero
    return (ofDigits 10 low, some (ofDigits 10 low))
  | '-' :: rest =>
    let high := rest.takeWhile Char.isDigit
    let left := rest.drop high.length
    fit high
    if left.head? == some '-' then throw .range
    if !left.isEmpty then throw (.bad (String.ofList (left ++ more)))
    if low.isEmpty && high.isEmpty then throw .endless
    if zero low then throw .zero
    let first := if low.isEmpty then 1 else ofDigits 10 low
    if high.isEmpty then return (first, none)
    if ofDigits 10 high < first then throw .decreasing
    return (first, some (ofDigits 10 high))
  | rest => throw (.bad (String.ofList (rest ++ more)))

def readSpans (text : List Char) : Except ListFault (List Span) :=
  let parts := (text.map fun c => if c == ' ' || c == '\t' then ',' else c).splitOn ','
  let starts := parts.foldl (fun (ns : List Nat) p => (ns.headD 0 + p.length + 1) :: ns) []
  (parts.zip starts.reverse).mapM fun (p, next) => readSpan p (text.drop (next - 1))

def wantedRuns (wanted : Nat → Bool) (starts : Nat → Bool) : Nat → Bytes → List Bytes
  | _, [] => []
  | n, b :: bs =>
    let rest := wantedRuns wanted starts (n + 1) bs
    if !wanted n then rest
    else if wanted (n + 1) && !starts (n + 1) then
      match rest with
      | r :: rs => if bs.isEmpty then [b] :: rest else (b :: r) :: rs
      | [] => [[b]]
    else [b] :: rest

def chosenFields (wanted : Nat → Bool) (fields : List Bytes) : List Bytes :=
  (fields.zipIdx.filter fun f => wanted (f.2 + 1)).map (·.1)

def splitAt (mark : UInt8) (l : Bytes) : List Bytes := l.splitOn mark

def cutParts : Tool := Work.tool fun c => do
  let fs ← flagsOf c.name 1
    [.valued 'b' "bytes", .valued 'c' "characters", .valued 'd' "delimiter", .valued 'f' "fields",
     .switch 'n' "n", .switch 's' "only-delimited", .long "complement",
     .longValued "output-delimiter", .switch 'z' "zero-terminated"] c.args
  let lists := fs.given.filter fun g => ["bytes", "characters", "fields"].contains g.1
  match fs.value? "delimiter" with
  | some (_ :: _ :: _) => misused c.name 1 "the delimiter must be a single character"
  | _ => pure ()
  match lists with
  | [] => misused c.name 1 "you must specify a list of bytes, characters, or fields"
  | [(word, list)] =>
    let byField := word == "fields"
    let mark := match fs.value? "delimiter" with
      | some [b] => b
      | some _ => 0
      | none => 9
    if !byField && (fs.value? "delimiter").isSome then
      misused c.name 1 "an input delimiter may be specified only when operating on fields"
    if !byField && fs.has "only-delimited" then
      misused c.name 1 ("suppressing non-delimited lines makes sense\n" ++
        "\tonly when operating on fields")
    let spans ← match readSpans (textOf list) with
      | .ok s => pure s
      | .error f => misused c.name 1 (f.message byField)
    let wanted := fun n => (spans.any fun s : Span => s.holds n) != fs.has "complement"
    let starts := fun n => spans.any fun s =>
      s.1 = n && 1 < n && (fs.value? "output-delimiter").isSome &&
      !(spans.any fun t => t.1 < n && t.2.all (n ≤ ·))
    let found ← readSources c 1 (plainComplaint c.name) fs.operands
    let ending := if fs.has "zero-terminated" then 0 else newline
    Work.print <| found.flatMap fun (_, bs) =>
      (partsAt ending bs).flatMap fun l =>
        let body := dropMark ending l
        if byField then
          if !body.contains mark then
            (if fs.has "only-delimited" then [] else body ++ [ending])
          else
            let joint := (fs.value? "output-delimiter").getD [mark]
            ((chosenFields wanted (splitAt mark body)).intersperse joint).flatten ++ [ending]
        else
          let joint := (fs.value? "output-delimiter").getD []
          ((wantedRuns wanted starts 1 body).intersperse joint).flatten ++ [ending]
  | _ => misused c.name 1 "only one list may be specified"

def separatorsOf : List Char → List (Option UInt8)
  | '\\' :: c :: cs =>
    (match c with
      | 'n' => some 10
      | 't' => some 9
      | '0' => none
      | 'b' => some 8
      | 'f' => some 12
      | 'r' => some 13
      | 'v' => some 11
      | c => some (UInt8.ofNat c.toNat)) :: separatorsOf cs
  | c :: cs => some (UInt8.ofNat c.toNat) :: separatorsOf cs
  | [] => []

def joinInTurn (all : List (Option UInt8)) : List (Option UInt8) → List Bytes → Bytes
  | _, [] => []
  | _, [l] => l
  | [], l :: ls => l ++ (match all with
    | s :: rest => s.toList ++ joinInTurn all rest ls
    | [] => joinInTurn all [] ls)
  | s :: rest, l :: ls => l ++ s.toList ++ joinInTurn all rest ls

def takeRow : List (Nat × List Bytes) → List Nat → List (Option Bytes) × List (Nat × List Bytes)
  | sources, [] => ([], sources)
  | sources, i :: is =>
    let (line, left) := match sources.lookup i with
      | some (l :: ls) => (some l, ls)
      | _ => (none, [])
    let sources := sources.map fun s => if s.1 = i then (i, left) else s
    let (more, sources) := takeRow sources is
    (line :: more, sources)

def takeRows (joint : List (Option UInt8)) : Nat → List (Nat × List Bytes) → List Nat → List Bytes
  | 0, _, _ => []
  | fuel + 1, sources, row =>
    let (lines, rest) := takeRow sources row
    if lines.all Option.isNone then []
    else joinInTurn joint joint (lines.map (·.getD [])) :: takeRows joint fuel rest row

def pasteLines : Tool := Work.tool fun c => do
  let fs ← flagsOf c.name 1
    [.valued 'd' "delimiters", .switch 's' "serial", .switch 'z' "zero-terminated"] c.args
  let joint := match fs.value? "delimiters" with
    | some d => if d.isEmpty then [none] else separatorsOf (d.map fun b => Char.ofNat b.toNat)
    | none => [some 9]
  let ending := if fs.has "zero-terminated" then 0 else newline
  let names := if fs.operands.isEmpty then [bytes "-"] else fs.operands
  let linesOf := fun (n : Bytes) => do
    match ← readSource c n with
    | .ok bs => return (partsAt ending bs).map (dropMark ending)
    | .error why => Work.die 1 (plainComplaint c.name n why)
  if fs.has "serial" then
    names.forM fun n => do
      Work.print (joinInTurn joint joint (← linesOf n) ++ [ending])
  else
    let distinct := names.eraseDups
    let keyed ← (names.zipIdx).mapM fun (n, i) => do
      let key := if n == bytes "-" then names.length else i
      return (key, n)
    let sources ← (keyed.filter fun k => k.1 < names.length).mapM fun (k, n) => do
      return (k, ← linesOf n)
    let input ← if distinct.contains (bytes "-") then linesOf (bytes "-") else pure []
    let all := (names.length, input) :: sources
    let rounds := all.foldl (fun n s => n + s.2.length) 1
    Work.print ((takeRows joint rounds all (keyed.map (·.1))).flatMap (· ++ [ending]))

def nextColumn (octets : Bool) (column : Nat) (b : UInt8) : Nat :=
  if octets then column + 1
  else if b == 9 then column / 8 * 8 + 8
  else if b == 8 then column - 1
  else if b == 13 then 0
  else column + 1

def foldLine (octets atBlanks : Bool) (width : Nat) :
    Nat → (held : Bytes) → (column : Nat) → Bytes → List Bytes
  | 0, held, _, bs => [held.reverse ++ bs]
  | _ + 1, held, _, [] => if held.isEmpty then [] else [held.reverse]
  | fuel + 1, held, column, b :: bs =>
    let next := nextColumn octets column b
    if next ≤ width then foldLine octets atBlanks width fuel (b :: held) next bs
    else
      let isGap := fun (b : UInt8) => b == 32 || b == 9
      if atBlanks && held.any isGap then
        let kept := held.takeWhile (!isGap ·)
        let row := held.drop kept.length
        let column := kept.reverse.foldl (nextColumn octets) 0
        row.reverse :: foldLine octets atBlanks width fuel kept column (b :: bs)
      else if held.isEmpty then foldLine octets atBlanks width fuel [b] next bs
      else held.reverse :: foldLine octets atBlanks width fuel [] 0 (b :: bs)

def foldLines : Tool := Work.tool fun c => do
  let args := match c.args with
    | (45 :: ds) :: rest => if (number? ds).isSome then bytes "-w" :: ds :: rest else c.args
    | args => args
  let fs ← flagsOf c.name 1 [.switch 'b' "bytes", .switch 's' "spaces", .valued 'w' "width"] args
  let width ← match fs.value? "width" with
    | none => pure 80
    | some v => match number? v with
      | some 0 =>
        Work.die 1 s!"{c.name}: invalid number of columns: ‘0’: Numerical result out of range"
      | some n => pure n
      | none => Work.die 1 s!"{c.name}: invalid number of columns: {quoted v}"
  let found ← readSources c 1 (plainComplaint c.name) fs.operands
  Work.print <| found.flatMap fun (_, bs) => (byteLines bs).flatMap fun l =>
    let body := dropNewline l
    let rows := foldLine (fs.has "bytes") (fs.has "spaces") width (2 * body.length + 2) [] 0 body
    (rows.intersperse [newline]).flatten ++ l.drop body.length

inductive Stops where
  | every (n : Nat)
  | given (columns : List Nat)

def Stops.next (s : Stops) (column : Nat) : Option Nat :=
  match s with
  | .every n => some (column / n * n + n)
  | .given columns => columns.find? (column < ·)

def readStops (tool : String) (v : Option Bytes) : Work Stops := do
  match v with
  | none => return .every 8
  | some v =>
    let cs := textOf v
    if !(cs.all fun ch => ch.isDigit || ch == ',' || ch == ' ') then
      let bad := cs.dropWhile fun ch => ch.isDigit || ch == ',' || ch == ' '
      Work.die 1 (s!"{tool}: tab size contains invalid character(s): " ++
        quotedText (String.ofList bad))
    let numbers := (cs.map fun ch => if ch == ' ' then ',' else ch).splitOn ','
    match (numbers.filter (!·.isEmpty)).map (ofDigits 10) with
    | [] => return .every 8
    | [0] => Work.die 1 s!"{tool}: tab size cannot be 0"
    | [n] => return .every n
    | ns => return .given ns

def expandLine (s : Stops) (initialOnly : Bool) : (column : Nat) → (initial : Bool) → Bytes → Bytes
  | _, _, [] => []
  | column, initial, b :: bs =>
    if b == newline then b :: expandLine s initialOnly 0 true bs
    else if b == 9 && (initial || !initialOnly) then
      let next := (s.next column).getD (column + 1)
      List.replicate (next - column) 32 ++ expandLine s initialOnly next initial bs
    else
      let column := if b == 8 then column - 1 else column + 1
      b :: expandLine s initialOnly column (initial && (b == 32 || b == 9)) bs

def tabArguments (args : List Bytes) : List Bytes :=
  args.map fun a => match a with
    | 45 :: ds => if (ds.head?.any fun b => 48 ≤ b && b ≤ 57) then bytes "-t" ++ ds else a
    | a => a

def expandTabs : Tool := Work.tool fun c => do
  let fs ← flagsOf c.name 1 [.switch 'i' "initial", .valued 't' "tabs"] (tabArguments c.args)
  let stops ← readStops c.name (fs.value? "tabs")
  let found ← readSources c 1 (plainComplaint c.name) fs.operands
  Work.print (expandLine stops (fs.has "initial") 0 true (found.flatMap (·.2)))

/-- Blanks up to a stop become tabs. `held` are the blanks met since the last stop, and
`column` is where they end. -/
def unexpandLine (s : Stops) (all : Bool) : (column : Nat) → (held : Bytes) → (on : Bool) →
    Bytes → Bytes
  | _, held, _, [] => held
  | column, held, on, b :: bs =>
    if b == newline then held ++ b :: unexpandLine s all 0 [] true bs
    else if !on then b :: unexpandLine s all column [] false bs
    else if b == 32 || b == 9 then
      match s.next column with
      | none => held ++ b :: unexpandLine s all (column + 1) [] false bs
      | some stop =>
        if b == 9 then 9 :: unexpandLine s all stop [] on bs
        else if column + 1 = stop then
          (if held.isEmpty then
            (if bs.head?.any fun b => b == 32 || b == 9 then 9 :: unexpandLine s all stop [] on bs
              else unexpandLine s all stop [32] on bs)
          else 9 :: unexpandLine s all stop [] on bs)
        else unexpandLine s all (column + 1) (held ++ [32]) on bs
    else held ++ b :: unexpandLine s all (column + 1) [] all bs

def unexpandTabs : Tool := Work.tool fun c => do
  let fs ← flagsOf c.name 1
    [.switch 'a' "all", .long "first-only", .valued 't' "tabs"] (tabArguments c.args)
  let stops ← readStops c.name (fs.value? "tabs")
  let all := (fs.has "all" || (fs.value? "tabs").isSome) && !fs.has "first-only"
  let found ← readSources c 1 (plainComplaint c.name) fs.operands
  Work.print (unexpandLine stops all 0 [] true (found.flatMap (·.2)))

end DocBraces.Tools
