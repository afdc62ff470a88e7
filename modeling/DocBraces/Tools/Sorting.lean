import DocBraces.Tools.Lines
import DocBraces.Tools.Real

/-!
# Sorting

Lines in order, lines that follow each other once, and lines that two sorted files share.
-/

set_option autoImplicit false

namespace DocBraces.Tools

open DocBraces.Text

def compareBytes (a b : Bytes) : Ordering :=
  if a == b then .eq else if bytesBefore a b then .lt else .gt

def isGapByte (b : UInt8) : Bool := b == 32 || b == 9 || b == newline

structure Order where
  numeric : Bool := false
  general : Bool := false
  human : Bool := false
  month : Bool := false
  version : Bool := false
  random : Bool := false
  reverse : Bool := false
  foldCase : Bool := false
  dictionary : Bool := false
  printable : Bool := false
  skipStart : Bool := false
  skipEnd : Bool := false

def Order.isPlain (o : Order) : Bool :=
  !(o.numeric || o.general || o.human || o.month || o.version || o.random || o.reverse ||
    o.foldCase || o.dictionary || o.printable || o.skipStart || o.skipEnd)

def Order.conflict? (o : Order) : Option String :=
  let filters := o.version || o.random || o.dictionary || o.printable
  if ([o.numeric, o.general, o.human, o.month, filters].filter id).length < 2 then none
  else
    let letters := [(o.dictionary, 'd'), (o.foldCase, 'f'), (o.general, 'g'), (o.human, 'h'),
      (o.printable && !o.dictionary, 'i'), (o.month, 'M'), (o.numeric, 'n'), (o.random, 'R'),
      (o.version, 'V')]
    some (String.ofList ((letters.filter (·.1)).map (·.2)))

def Order.withLetter (o : Order) (c : Char) : Option Order :=
  match c with
  | 'b' => some { o with skipStart := true, skipEnd := true }
  | 'd' => some { o with dictionary := true }
  | 'f' => some { o with foldCase := true }
  | 'g' => some { o with general := true }
  | 'h' => some { o with human := true }
  | 'i' => some { o with printable := true }
  | 'M' => some { o with month := true }
  | 'n' => some { o with numeric := true }
  | 'R' => some { o with random := true }
  | 'V' => some { o with version := true }
  | 'r' => some { o with reverse := true }
  | _ => none

structure KeyPlace where
  field : Nat
  char : Nat

structure Key where
  start : KeyPlace
  stop : Option KeyPlace
  order : Order

def leadingNumber (l : Bytes) : Bool × Nat × Nat :=
  let cs := (textOf l).dropWhile fun c => c == ' ' || c == '\t' || c == '\n'
  let negative := cs.head? == some '-'
  let cs := if negative then cs.drop 1 else cs
  let whole := cs.takeWhile Char.isDigit
  let part := match cs.drop whole.length with
    | '.' :: more => more.takeWhile Char.isDigit
    | _ => []
  (negative, ofDigits 10 (whole ++ part), Nat.pow 10 part.length)

def compareQuotients (a b : Bool × Nat × Nat) : Ordering :=
  let value := fun (x : Bool × Nat × Nat) (scale : Nat) =>
    let n : Int := x.2.1 * scale
    if x.1 then -n else n
  compare (value a b.2.2) (value b a.2.2)

def leadingReal (l : Bytes) : Option (Bool × Nat × Nat) :=
  match readReal ((textOf l).dropWhile fun c => c == ' ' || c == '\t') with
  | some (.finite s n d, _) => some (s, n, d)
  | some (.infinite s, _) => some (s, Nat.pow 10 400, 1)
  | _ => none

def humanRank (l : Bytes) : Nat :=
  let cs := (textOf l).dropWhile fun c => c == ' ' || c == '\t' || c == '-'
  match (cs.dropWhile fun c => c.isDigit || c == '.').head? with
  | some 'k' => 1
  | some c => ("KMGTPEZY".toList.idxOf? c).elim 0 (· + 1)
  | none => 0

def monthRank (l : Bytes) : Nat :=
  let cs := ((textOf l).dropWhile fun c => c == ' ' || c == '\t').take 3
  let names := ["JAN", "FEB", "MAR", "APR", "MAY", "JUN", "JUL", "AUG", "SEP", "OCT", "NOV", "DEC"]
  (names.idxOf? (String.ofList (cs.map Char.toUpper))).elim 0 (· + 1)

def compareVersions : Nat → List Char → List Char → Ordering
  | 0, _, _ => .eq
  | fuel + 1, a, b =>
    let rank := fun (c : Char) =>
      if c == '~' then 0 else if c.isAlpha then c.toNat + 1 else c.toNat + 300
    let m := a.takeWhile (!·.isDigit)
    let n := b.takeWhile (!·.isDigit)
    let key := fun (cs : List Char) (more : Bool) => cs.map rank ++ if more then [1] else [1]
    if m != n then compare (key m true) (key n true)
    else
      let p := (a.drop m.length).takeWhile Char.isDigit
      let q := (b.drop n.length).takeWhile Char.isDigit
      match compare (ofDigits 10 p) (ofDigits 10 q) with
      | .eq =>
        if (a.drop m.length).isEmpty && (b.drop n.length).isEmpty then .eq
        else compareVersions fuel (a.drop (m.length + p.length)) (b.drop (n.length + q.length))
      | o => o

def upperByte (b : UInt8) : UInt8 := if 97 ≤ b && b ≤ 122 then b - 32 else b

def isAlnumByte (b : UInt8) : Bool :=
  (48 ≤ b && b ≤ 57) || (65 ≤ b && b ≤ 90) || (97 ≤ b && b ≤ 122)

def Order.text (o : Order) (l : Bytes) : Bytes :=
  let l := if o.skipStart then l.dropWhile isGapByte else l
  let l := if o.dictionary then l.filter fun b => isAlnumByte b || b == 32 || b == 9 else l
  let l := if o.printable then l.filter fun b => 32 ≤ b && b < 127 else l
  if o.foldCase then l.map upperByte else l

def Order.compareKeys (o : Order) (a b : Bytes) : Ordering :=
  let direct := if o.numeric then compareQuotients (leadingNumber a) (leadingNumber b)
    else if o.general then match leadingReal a, leadingReal b with
      | none, none => .eq
      | none, some _ => .lt
      | some _, none => .gt
      | some x, some y => compareQuotients x y
    else if o.human then
      let sign := fun (l : Bytes) => (leadingNumber l).1
      match compareQuotients (sign a, humanRank a, 1) (sign b, humanRank b, 1) with
      | .eq => compareQuotients (leadingNumber a) (leadingNumber b)
      | r => r
    else if o.month then compare (monthRank a) (monthRank b)
    else if o.version then compareVersions (a.length + b.length + 2) (textOf a) (textOf b)
    else compareBytes (o.text a) (o.text b)
  if o.reverse then direct.swap else direct

def fieldStart (tab : Option UInt8) : Nat → Bytes → Nat
  | 0, _ => 0
  | n + 1, l =>
    match tab with
    | some t =>
      let w := (l.takeWhile (· != t)).length
      if w < l.length then w + 1 + fieldStart tab n (l.drop (w + 1)) else l.length
    | none =>
      let blanks := (l.takeWhile isGapByte).length
      let w := blanks + ((l.drop blanks).takeWhile (!isGapByte ·)).length
      w + fieldStart tab n (l.drop w)

def fieldEnd (tab : Option UInt8) (n : Nat) (l : Bytes) : Nat :=
  let s := fieldStart tab (n - 1) l
  match tab with
  | some t => s + ((l.drop s).takeWhile (· != t)).length
  | none =>
    let blanks := ((l.drop s).takeWhile isGapByte).length
    s + blanks + ((l.drop (s + blanks)).takeWhile (!isGapByte ·)).length

def Key.of (tab : Option UInt8) (k : Key) (l : Bytes) : Bytes :=
  let skip := fun (on : Bool) (at_ : Nat) =>
    if on then at_ + ((l.drop at_).takeWhile isGapByte).length else at_
  let start := skip k.order.skipStart (fieldStart tab (k.start.field - 1) l) + (k.start.char - 1)
  let stop := match k.stop with
    | none => l.length
    | some p =>
      if p.char = 0 then fieldEnd tab p.field l
      else skip k.order.skipEnd (fieldStart tab (p.field - 1) l) + p.char
  (l.take stop).drop start

def readPlace (isStop : Bool) (cs : List Char) : Except String (KeyPlace × List Char) := do
  let ds := cs.takeWhile Char.isDigit
  let all := String.ofList cs
  if ds.isEmpty then
    throw (if isStop then s!"invalid number after ',': invalid count at start of {quotedText all}"
      else s!"invalid number at field start: invalid count at start of {quotedText all}")
  let field := ofDigits 10 ds
  if field = 0 then throw s!"field number is zero: invalid field specification {quotedText all}"
  match cs.drop ds.length with
  | '.' :: rest =>
    let es := rest.takeWhile Char.isDigit
    if es.isEmpty then
      throw (s!"invalid number after '.': invalid count at start of " ++
        quotedText (String.ofList rest))
    if ofDigits 10 es = 0 && !isStop then
      throw s!"character offset is zero: invalid field specification {quotedText all}"
    return (⟨field, ofDigits 10 es⟩, rest.drop es.length)
  | rest => return (⟨field, if isStop then 0 else 1⟩, rest)

def readLetters? (o : Order) (isStop : Bool) (cs : List Char) : Order × List Char :=
  match cs with
  | c :: rest =>
    match (if c == 'b' then some (if isStop then { o with skipEnd := true }
        else { o with skipStart := true }) else o.withLetter c) with
    | some o => readLetters? o isStop rest
    | none => (o, cs)
  | [] => (o, [])

def readKey (text : List Char) : Except String Key := do
  let stray := "stray character in field spec: invalid field specification " ++
    quotedText (String.ofList text)
  let (start, rest) ← readPlace false text
  let (order, rest) := readLetters? {} false rest
  match rest with
  | [] => return ⟨start, none, order⟩
  | ',' :: rest =>
    let (stop, rest) ← readPlace true rest
    let (order, rest) := readLetters? order true rest
    if !rest.isEmpty then
      throw stray
    return ⟨start, some stop, order⟩
  | _ => throw stray

def compareLines (tab : Option UInt8) (keys : List Key) (whole : Order) (a b : Bytes) : Ordering :=
  if keys.isEmpty then whole.compareKeys a b
  else keys.foldl (fun o k => match o with
    | .eq => k.order.compareKeys (k.of tab a) (k.of tab b)
    | o => o) .eq

def dropEqual (same : Bytes → Bytes → Bool) : List Bytes → List Bytes
  | a :: b :: ls => if same a b then dropEqual same (a :: ls) else a :: dropEqual same (b :: ls)
  | ls => ls
termination_by ls => ls.length

def firstDisorder (bad : Bytes → Bytes → Bool) : Nat → List Bytes → Option (Nat × Bytes)
  | n, a :: b :: ls => if bad a b then some (n + 1, b) else firstDisorder bad (n + 1) (b :: ls)
  | _, _ => none

def sortLines : Tool := Work.tool fun c => do
  let fs ← flagsOf c.name 2
    [.switch 'b' "ignore-leading-blanks", .switch 'd' "dictionary-order", .switch 'f' "ignore-case",
     .switch 'g' "general-numeric-sort", .switch 'h' "human-numeric-sort",
     .switch 'i' "ignore-nonprinting", .switch 'M' "month-sort", .switch 'n' "numeric-sort",
     .switch 'R' "random-sort", .switch 'V' "version-sort", .switch 'r' "reverse",
     ⟨"check", some 'c', .mayTake⟩, .switch 'C' "C", .valued 'k' "key", .switch 'm' "merge",
     .valued 'o' "output", .switch 's' "stable", .valued 'S' "buffer-size", .longValued "sort",
     .valued 't' "field-separator", .valued 'T' "temporary-directory", .longValued "parallel",
     .switch 'u' "unique", .switch 'z' "zero-terminated"] c.args
  let kind ← match fs.value? "sort" with
    | none => pure ""
    | some v =>
      let known := ["general-numeric", "human-numeric", "month", "numeric", "random", "version"]
      match known.filter fun k => (stringOf v).toList.isPrefixOf k.toList with
      | [k] => pure (k ++ "-sort")
      | [] =>
        let rows := String.join (known.map fun k => s!"\n  - {quotedText k}")
        Work.die 1 (s!"{c.name}: invalid argument {quoted v} for ‘--sort’\n" ++
          s!"Valid arguments are:{rows}\n{tryHelp c.name}")
      | _ => pure ""
  let asked := fun (word : String) => fs.has word || kind == word
  let order : Order :=
    { numeric := asked "numeric-sort", general := asked "general-numeric-sort",
      human := asked "human-numeric-sort", month := asked "month-sort",
      version := asked "version-sort", random := asked "random-sort", reverse := fs.has "reverse",
      foldCase := fs.has "ignore-case", dictionary := fs.has "dictionary-order",
      printable := fs.has "ignore-nonprinting", skipStart := fs.has "ignore-leading-blanks",
      skipEnd := fs.has "ignore-leading-blanks" }
  let tab ← match fs.value? "field-separator" with
    | none => pure none
    | some [] => Work.die 2 s!"{c.name}: empty tab"
    | some [b] => pure (some b)
    | some [92, 48] => pure (some 0)
    | some t => Work.die 2 s!"{c.name}: multi-character tab {quoted t}"
  let keys ← (fs.values "key").mapM fun t => do
    match readKey (textOf t) with
    | .ok k => return if k.order.isPlain then { k with order } else k
    | .error message => Work.die 2 s!"{c.name}: {message}"
  let orders := if keys.isEmpty then [order] else keys.map Key.order
  match orders.findSome? Order.conflict? with
  | some letters => Work.die 2 s!"{c.name}: options '-{letters}' are incompatible"
  | none => pure ()
  let names := if fs.operands.isEmpty then [bytes "-"] else fs.operands
  let texts ← names.mapM fun n => do
    match ← readSource c n with
    | .ok bs => return bs
    | .error why =>
      if why == Files.Cause.isFolder.text then
        Work.die 2 s!"{c.name}: read failed: {fileName n}: {why}"
      else Work.die 2 s!"{c.name}: cannot read: {fileName n}: {why}"
  let mark := if fs.has "zero-terminated" then 0 else newline
  let rows := texts.map fun bs => (partsAt mark bs).map (dropMark mark)
  let lines := rows.flatten
  let compare := compareLines tab keys order
  let unique := fs.has "unique"
  if fs.has "check" || fs.has "C" then
    let bad := fun a b => match compare a b with
      | .gt => true
      | .eq => unique || (!unique && !fs.has "stable" && compareBytes a b = .gt && !keys.isEmpty)
      | .lt => false
    match firstDisorder bad 1 lines with
    | none => pure ()
    | some (n, l) =>
      if fs.has "check" && fs.value? "check" != some (bytes "quiet") then
        Work.complain s!"{c.name}: {stringOf (names.headD [])}:{n}: disorder: {stringOf l}"
      Work.leave 1
  let lastResort := !fs.has "stable" && !unique
  let before := fun a b => match compare a b with
    | .lt => true
    | .gt => false
    | .eq => if lastResort then
        (if order.reverse then bytesBefore b a else bytesBefore a b) else true
  let sorted := if fs.has "merge" then rows.foldl (fun a b => a.merge b before) []
    else lines.mergeSort before
  let sorted := if unique then dropEqual (fun a b => compare a b == .eq) sorted else sorted
  let out := sorted.flatMap (· ++ [mark])
  match fs.value? "output" with
  | none => Work.print out
  | some n => match ← c.find true n with
    | .ok (.present _ .folder) => Work.die 2 s!"{c.name}: open failed: {fileName n}: Is a directory"
    | .ok t => Work.setTree ((← Work.tree).put t.place (.file out))
    | .error cause => Work.die 2 s!"{c.name}: open failed: {fileName n}: {cause.text}"

def groupLines (same : Bytes → Bytes → Bool) : List Bytes → List (List Bytes)
  | [] => []
  | l :: ls => match groupLines same ls with
    | (m :: ms) :: rest => if same l m then (l :: m :: ms) :: rest else [l] :: (m :: ms) :: rest
    | rest => [l] :: rest

def dropFields : Nat → Bytes → Bytes
  | 0, l => l
  | n + 1, l => dropFields n ((l.dropWhile isGapByte).dropWhile (!isGapByte ·))

def uniqueLines : Tool := Work.tool fun c => do
  let fs ← flagsOf c.name 1
    [.switch 'c' "count", .switch 'd' "repeated", .switch 'D' "all-repeated",
     .valued 'f' "skip-fields", .switch 'i' "ignore-case", .valued 's' "skip-chars", .switch 'u' "unique",
     .valued 'w' "check-chars", .switch 'z' "zero-terminated"] c.args
  match fs.operands.drop 2 with
  | extra :: _ => misused c.name 1 s!"extra operand {quoted extra}"
  | [] => pure ()
  let number := fun (word what : String) => do
    match fs.value? word with
    | none => return none
    | some v => match number? v with
      | some n => return some n
      | none => Work.die 1 s!"{c.name}: {stringOf v}: invalid number of {what}"
  let skipFields ← number "skip-fields" "fields to skip"
  let skipChars ← number "skip-chars" "bytes to skip"
  let checked ← number "check-chars" "bytes to compare"
  let input ← match ← readSource c (fs.operands.headD (bytes "-")) with
    | .ok bs => pure bs
    | .error why => Work.die 1 (plainComplaint c.name (fs.operands.headD []) why)
  let key := fun (l : Bytes) =>
    let l := (dropFields (skipFields.getD 0) l).drop (skipChars.getD 0)
    let l := match checked with
      | some n => l.take n
      | none => l
    if fs.has "ignore-case" then l.map upperByte else l
  let mark := if fs.has "zero-terminated" then 0 else newline
  let lines := (partsAt mark input).map (dropMark mark)
  let groups := groupLines (fun a b => key a == key b) lines
  let out := groups.flatMap fun g =>
    let repeated := 1 < g.length
    let line := g.headD [] ++ [mark]
    if fs.has "all-repeated" then (if repeated then g.flatMap (· ++ [mark]) else [])
    else if (fs.has "repeated" && !repeated) || (fs.has "unique" && repeated) then []
    else if fs.has "count" then
      bytes (String.ofList (padLeft 7 ' ' (digits 10 g.length))) ++ 32 :: line
    else line
  match fs.operands.drop 1 with
  | n :: _ =>
    if n == bytes "-" then Work.print out
    else match ← c.find true n with
      | .ok (.present _ .folder) => Work.die 1 s!"{c.name}: {fileName n}: Is a directory"
      | .ok t => Work.setTree ((← Work.tree).put t.place (.file out))
      | .error cause => Work.die 1 s!"{c.name}: {fileName n}: {cause.text}"
  | [] => Work.print out

inductive Side where
  | first
  | second
  | both
  deriving DecidableEq, Repr

def mergeSides : Nat → List Bytes → List Bytes → List (Side × Bytes)
  | 0, _, _ => []
  | _ + 1, [], bs => bs.map (.second, ·)
  | _ + 1, as, [] => as.map (.first, ·)
  | fuel + 1, a :: as, b :: bs =>
    match compareBytes a b with
    | .eq => (.both, a) :: mergeSides fuel as bs
    | .lt => (.first, a) :: mergeSides fuel as (b :: bs)
    | .gt => (.second, b) :: mergeSides fuel (a :: as) bs

/-- How far two lists have been merged: the lines behind and ahead on each side, and
whether a line has stood alone so far. -/
structure MergeState where
  firstBehind : List Bytes := []
  firstAhead : List Bytes
  secondBehind : List Bytes := []
  secondAhead : List Bytes
  alone : Bool := false

def isDescent (behind ahead : Option Bytes) : Bool :=
  match behind, ahead with
  | some a, some b => compareBytes a b == .gt
  | _, _ => false

/-- Whether a side that has just gone on shows lines out of order. At its end the two
lines before are looked at again, since a line alone may have turned up meanwhile. -/
def showsDisorder (behind ahead : List Bytes) : Bool :=
  if ahead.isEmpty then isDescent behind[1]? behind.head?
  else isDescent behind.head? ahead.head?

def MergeState.passFirst (m : MergeState) : MergeState :=
  { m with firstBehind := m.firstAhead.take 1 ++ m.firstBehind, firstAhead := m.firstAhead.drop 1 }

def MergeState.passSecond (m : MergeState) : MergeState :=
  { m with secondBehind := m.secondAhead.take 1 ++ m.secondBehind
           secondAhead := m.secondAhead.drop 1 }

/-- The files in which lines out of order are met, each with the number of lines that have
been merged by then. -/
def disorders (always : Bool) : List (Side × Bytes) → (merged : Nat) → MergeState →
    List (Side × Nat)
  | [], _, _ => []
  | (side, _) :: rest, n, m =>
    let m := if side = .both then m else { m with alone := true }
    let m := if side = .second then m else m.passFirst
    let m := if side = .first then m else m.passSecond
    let looks := always || m.alone
    let here := fun (s other : Side) (behind ahead : List Bytes) =>
      if looks && side ≠ other && showsDisorder behind ahead then [(s, n + 1)] else []
    here .first .second m.firstBehind m.firstAhead ++
      here .second .first m.secondBehind m.secondAhead ++ disorders always rest (n + 1) m

def sharedLines : Tool := Work.tool fun c => do
  let fs ← flagsOf c.name 1
    [.switch '1' "1", .switch '2' "2", .switch '3' "3", .long "check-order", .long "nocheck-order",
     .longValued "output-delimiter", .long "total", .switch 'z' "zero-terminated"] c.args
  let mark := if fs.has "zero-terminated" then 0 else newline
  match fs.operands with
  | [a, b] =>
    let read := fun (n : Bytes) => do
      match ← readSource c n with
      | .ok bs => return (partsAt mark bs).map (dropMark mark)
      | .error why => Work.die 1 (plainComplaint c.name n why)
    let as ← read a
    let bs ← read b
    let tab := match fs.value? "output-delimiter" with
      | none => [9]
      | some [] => [0]
      | some tab => tab
    let merged := mergeSides (as.length + bs.length + 1) as bs
    let always := fs.has "check-order"
    let bad := if fs.has "nocheck-order" && !always then []
      else disorders always merged 0 { firstAhead := as, secondAhead := bs }
    let kept := match bad.head? with
      | some (_, n) => if always then merged.take n else merged
      | none => merged
    let out := kept.flatMap fun (side, l) =>
      let tabs := fun (words : List String) => (words.filter (!fs.has ·)).flatMap fun _ => tab
      let row := fun (word : String) (front : Bytes) =>
        if fs.has word then [] else front ++ l ++ [mark]
      match side with
      | .first => row "1" []
      | .second => row "2" (tabs ["1"])
      | .both => row "3" (tabs ["1", "2"])
    Work.print out
    let complain := fun (s : Side) => do
      let number := if s = .first then "1" else "2"
      Work.fault 1 s!"{c.name}: file {number} is not in sorted order"
    if always then match bad.head? with
      | some (s, _) =>
        complain s
        Work.leave 1
      | none => pure ()
    if fs.has "total" then
      let count := fun (s : Side) =>
        Utf8.encode (digits 10 (merged.countP fun e => e.1 = s)) ++ tab
      Work.print (count .first ++ count .second ++ count .both ++ bytes "total" ++ [mark])
    if !bad.isEmpty then
      (bad.map (·.1)).eraseDups.forM complain
      Work.complain s!"{c.name}: input is not in sorted order"
  | [] => misused c.name 1 "missing operand"
  | [a] => misused c.name 1 s!"missing operand after {quoted a}"
  | _ :: _ :: extra :: _ => misused c.name 1 s!"extra operand {quoted extra}"

end DocBraces.Tools
