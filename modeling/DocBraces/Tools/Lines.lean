import DocBraces.Tools.Flag

/-!
# Lines

Tools that pass lines on: all of them or the first or last ones, in another order, with
numbers, or only counted.
-/

set_option autoImplicit false

namespace DocBraces.Tools

open DocBraces.Text

def plainComplaint (tool : String) (name : Bytes) (why : String) : String :=
  s!"{tool}: {fileName name}: {why}"

def amount? (bs : Bytes) : Option Nat :=
  let cs := textOf bs
  let ds := cs.takeWhile Char.isDigit
  let unit := match String.ofList (cs.drop ds.length) with
    | "" => some 1
    | "b" => some 512
    | "k" => some 1024
    | "K" => some 1024
    | "kB" => some 1000
    | "M" => some (1024 * 1024)
    | "MB" => some 1000000
    | _ => none
  if ds.isEmpty then none else unit.map (ofDigits 10 ds * ·)

def visible (tabs : Bool) (b : UInt8) : Bytes :=
  let low := fun (b : UInt8) =>
    if b == 9 && !tabs then [b]
    else if b < 32 then [94, b + 64]
    else if b == 127 then [94, 63]
    else [b]
  if b == newline then [b]
  else if b < 128 then low b
  else [77, 45] ++
    (if b - 128 == 9 then [94, 73] else if b - 128 == newline then [94, 74] else low (b - 128))

structure Showing where
  numbers : Bool
  numbersNonblank : Bool
  squeezes : Bool
  ends : Bool
  tabs : Bool
  nonprinting : Bool

def showLines (s : Showing) : Nat → (afterBlank : Bool) → List Bytes → Bytes
  | _, _, [] => []
  | n, afterBlank, l :: ls =>
    let isBlank := l == [newline]
    if s.squeezes && isBlank && afterBlank then showLines s n true ls
    else
      let numbered := if s.numbersNonblank then !isBlank else s.numbers
      let front := if numbered then
          bytes (String.ofList (padLeft 6 ' ' (digits 10 n))) ++ [9] else []
      let body := dropNewline l
      let marked := s.ends && body.length < l.length
      let returns := marked && !s.nonprinting && body.getLast? == some 13
      let shown := (if returns then body.dropLast else body).flatMap fun b =>
        if b == 9 then (if s.tabs then [94, 73] else [9])
        else if s.nonprinting then visible s.tabs b else [b]
      let shown := if returns then shown ++ [94, 77] else shown
      let mark := if body.length = l.length then [] else (if s.ends then [36] else []) ++ [newline]
      front ++ shown ++ mark ++ showLines s (if numbered then n + 1 else n) isBlank ls

def concatenate : Tool := Work.tool fun c => do
  let fs ← flagsOf c.name 1
    [.switch 'b' "number-nonblank", .switch 'e' "e", .switch 'n' "number",
     .switch 's' "squeeze-blank", .switch 't' "t", .switch 'u' "u",
     .switch 'v' "show-nonprinting", .switch 'E' "show-ends", .switch 'T' "show-tabs",
     .switch 'A' "show-all"] c.args
  let all := fs.has "show-all"
  let s : Showing :=
    { numbers := fs.has "number", numbersNonblank := fs.has "number-nonblank",
      squeezes := fs.has "squeeze-blank", ends := all || fs.has "e" || fs.has "show-ends",
      tabs := all || fs.has "t" || fs.has "show-tabs",
      nonprinting := all || fs.has "e" || fs.has "t" || fs.has "show-nonprinting" }
  if fs.given.all (·.1 == "u") then
    let names := if fs.operands.isEmpty then [bytes "-"] else fs.operands
    names.forM fun n => do
      match ← readSource c n with
      | .ok bs => Work.print bs
      | .error why => Work.fault 1 (plainComplaint c.name n why)
  else
    let found ← readSources c 1 (plainComplaint c.name) fs.operands
    Work.print (showLines s 1 false (byteLines (found.flatMap (·.2))))
  if c.input.isNone && (← get).reads = .all then
    Work.complain s!"{c.name}: closing standard input: Bad file descriptor"

def cutAtMark (mark : Bytes) : (left : Nat) → (held : Bytes) → Bytes → List Bytes
  | _, held, [] => [held.reverse]
  | n + 1, held, _ :: bs => cutAtMark mark n held bs
  | 0, held, b :: bs =>
    if mark.isPrefixOf (b :: bs) then held.reverse :: cutAtMark mark (mark.length - 1) [] bs
    else cutAtMark mark 0 (b :: held) bs

def reverseLines : Tool := Work.tool fun c => do
  let fs ← flagsOf c.name 1
    [.switch 'b' "before", .switch 'r' "regex", .valued 's' "separator"] c.args
  let found ← readSources c 1 (fun n why =>
    if why == Files.Cause.isFolder.text then
      s!"{c.name}: {fileName n}: read error: Invalid argument"
    else s!"{c.name}: failed to open {inQuotes n} for reading: {why}") fs.operands
  let mark := match fs.value? "separator" with
    | some [] => [0]
    | some mark => mark
    | none => [newline]
  found.forM fun (_, bs) => do
    let parts := (cutAtMark mark.reverse 0 [] bs.reverse).map List.reverse
    if fs.has "before" then
      Work.print ((parts.dropLast.flatMap (mark ++ ·)) ++ (parts.getLast?.getD []))
    else Work.print (parts.headD [] ++ (parts.drop 1).flatMap (· ++ mark))

def copyInput : Tool := Work.tool fun c => do
  let fs ← flagsOf c.name 1
    [.switch 'a' "append", .switch 'i' "ignore-interrupts", .switch 'p' "p"] c.args
  let input := match ← readInput c with
    | .ok bs => bs
    | .error _ => []
  fs.operands.forM fun n => do
    match ← c.find true n with
    | .ok (.present place (.file old)) =>
      let kept := if fs.has "append" then old else []
      Work.setTree ((← Work.tree).put place (.file (kept ++ input)))
    | .ok (.absent place) => Work.setTree ((← Work.tree).put place (.file input))
    | .ok (.present _ _) => Work.fault 1 s!"{c.name}: {fileName n}: Is a directory"
    | .error cause => Work.fault 1 s!"{c.name}: {fileName n}: {cause.text}"
  Work.print input

structure Amount where
  octets : Bool := false
  sign : Option Char := none
  count : Nat := 10

def amountOf (octets : Bool) (bs : Bytes) : Option Amount :=
  let (sign, ds) := match bs with
    | 45 :: ds => (some '-', ds)
    | 43 :: ds => (some '+', ds)
    | ds => (none, ds)
  (amount? ds).map fun n => ⟨octets, sign, n⟩

def spellAmount (tool : String) (plus : Bool) (args : List Bytes) : Except String (List Bytes) :=
  match args with
  | a :: rest =>
    match a with
    | 45 :: ds =>
      let number := ds.takeWhile fun b => 48 ≤ b && b ≤ 57
      if number.isEmpty then .ok args
      else match textOf (ds.drop number.length) with
        | [] => .ok (bytes "-n" :: number :: rest)
        | ['c'] => .ok (bytes "-c" :: number :: rest)
        | ['l'] => .ok (bytes "-n" :: number :: rest)
        | c :: cs =>
          if !plus && cs.isEmpty && (c == 'q' || c == 'v') then
            .ok (bytes s!"-{c}" :: bytes "-n" :: number :: rest)
          else if plus then
            .error s!"option used in invalid context -- {String.ofList ((textOf ds).take 1)}"
          else .error s!"invalid trailing option -- {c}\n{tryHelp tool}"
    | 43 :: ds =>
      if plus && (number? ds).isSome then .ok (bytes "-n" :: (43 :: ds) :: rest) else .ok args
    | _ => .ok args
  | [] => .ok []

def cutting (plus : Bool) (cut : {α : Type} → Amount → List α → List α)
    (reads : Bool → Amount → Bytes → Option Nat) : Tool := Work.tool fun c => do
  let args ← match spellAmount c.name plus c.args with
    | .ok args => pure args
    | .error message => Work.die 1 s!"{c.name}: {message}"
  let fs ← flagsOf c.name 1
    [.valued 'n' "lines", .valued 'c' "bytes", .switch 'q' "quiet", .long "silent",
     .switch 'v' "verbose", .switch 'z' "zero-terminated", .switch 'f' "follow",
     .valued 's' "sleep-interval", .switch 'F' "F"] args
  let amount ← match (fs.given.filter fun g => g.1 == "lines" || g.1 == "bytes").getLast? with
    | none => pure {}
    | some (word, v) => match amountOf (word == "bytes") v with
      | some a => pure a
      | none => Work.die 1 s!"{c.name}: invalid number of {word}: {quoted v}"
  if plus && amount.count = 0 && amount.sign != some '+' then Work.leave 0
  let names := if fs.operands.isEmpty then [bytes "-"] else fs.operands
  let titled := fs.has "verbose" ||
    (1 < names.length && !fs.has "quiet" && !fs.has "silent")
  let mark := if fs.has "zero-terminated" then 0 else newline
  let rec go : Bool → List Bytes → Work Unit
    | _, [] => pure ()
    | first, n :: ns => do
      let title := if n == bytes "-" then "standard input" else stringOf n
      let gap := if first then "" else "\n"
      let head := if titled then bytes s!"{gap}==> {title} <==\n" else []
      match ← readSource c n with
      | .ok bs =>
        let out := if amount.octets then cut amount bs else (cut amount (partsAt mark bs)).flatten
        if n == bytes "-" then
          let taken := (c.input.getD []).length - bs.length
          match reads c.fromFile amount bs with
          | some k => modify fun r => { r with reads := .part (taken + k) (!amount.octets) }
          | none => pure ()
        Work.print (head ++ out)
        go false ns
      | .error why =>
        if why == Files.Cause.isFolder.text then
          Work.print head
          Work.fault 1 s!"{c.name}: error reading {inQuotes (bytes title)}: {why}"
          go false ns
        else
          Work.fault 1 s!"{c.name}: cannot open {inQuotes (bytes title)} for reading: {why}"
          go first ns
  go true names

def Amount.first {α : Type} (a : Amount) (xs : List α) : List α :=
  if a.sign == some '-' then xs.take (xs.length - a.count) else xs.take a.count

/-- Octets of the first part of an input; a pipe has to be read to its end if the last
part counts. -/
def firstOctets (fromFile : Bool) (a : Amount) (bs : Bytes) : Option Nat :=
  if a.sign == some '-' && !fromFile then none
  else if a.octets then some (a.first bs).length
  else some (a.first (byteLines bs)).flatten.length

def beginning : Tool := cutting false Amount.first firstOctets

def ending : Tool :=
  cutting true (fun a xs => if a.sign == some '+' then xs.drop (a.count - 1)
    else xs.drop (xs.length - a.count)) fun _ _ _ => none

def wholeChars (bs : Bytes) : List Char :=
  match Utf8.decode bs with
  | .ok cs => cs
  | .error _ => (charsOf 0 bs).filterMap Sum.getLeft?

def isBlankByte (b : UInt8) : Bool := b == 32 || (9 ≤ b && b ≤ 13)

def isWideBlank (c : Char) : Bool :=
  let n := c.toNat
  n = 32 || (9 ≤ n && n ≤ 13) || n = 0xA0 || n = 0x1680 || (0x2000 ≤ n && n ≤ 0x200A) ||
    [0x2028, 0x2029, 0x202F, 0x205F, 0x2060, 0x3000].contains n

def countWords : Bool → List Char → Nat
  | _, [] => 0
  | inside, c :: cs =>
    if isWideBlank c then countWords false cs
    else if !isVisible c then countWords inside cs
    else (if inside then 0 else 1) + countWords true cs

def columnAfter (n : Nat) (c : Char) : Nat :=
  if c == '\t' then n / 8 * 8 + 8
  else if c.toNat < 32 || c.toNat = 127 then n
  else if 0x1100 ≤ c.toNat && c.toNat < 0x20000 && (c.toNat < 0x1200 || 0x2E80 ≤ c.toNat) &&
    !(0xD7B0 ≤ c.toNat && c.toNat < 0xF900) then n + 2
  else n + 1

def lineWidth (cs : List Char) : Nat :=
  (cs.foldl (fun (st : Nat × Nat) c =>
    if c == '\r' || c == '\x0c' then (0, st.2)
    else (columnAfter st.1 c, max st.2 (columnAfter st.1 c))) (0, 0)).2

structure Counts where
  lines : Nat := 0
  words : Nat := 0
  chars : Nat := 0
  octets : Nat := 0
  width : Nat := 0

def Counts.of (bs : Bytes) : Counts where
  lines := bs.count newline
  words := countWords false (wholeChars bs)
  chars := (wholeChars bs).length
  octets := bs.length
  width := ((bareLines bs).map fun l => lineWidth (wholeChars l)).foldl max 0

def Counts.add (a b : Counts) : Counts :=
  ⟨a.lines + b.lines, a.words + b.words, a.chars + b.chars, a.octets + b.octets,
    max a.width b.width⟩

def countParts : Tool := Work.tool fun c => do
  let fs ← flagsOf c.name 1
    [.switch 'c' "bytes", .switch 'm' "chars", .switch 'l' "lines", .switch 'w' "words",
     .switch 'L' "max-line-length"] c.args
  let plain := fs.given.isEmpty
  let chosen := fun (n : Counts) =>
    (if plain || fs.has "lines" then [n.lines] else []) ++
    (if plain || fs.has "words" then [n.words] else []) ++
    (if fs.has "chars" then [n.chars] else []) ++
    (if plain || fs.has "bytes" then [n.octets] else []) ++
    (if fs.has "max-line-length" then [n.width] else [])
  let names := if fs.operands.isEmpty then [bytes "-"] else fs.operands
  let counted ← names.mapM fun n => do
    match ← readSource c n with
    | .ok bs => return (n, some (Counts.of bs))
    | .error why =>
      Work.fault 1 (plainComplaint c.name n why)
      return (n, if why == Files.Cause.isFolder.text then some {} else none)
  let t ← Work.tree
  let folders := names.filter fun n => match t.resolve true c.view.here (stringOf n) with
    | .ok (.present _ .folder) => true
    | _ => false
  let total := counted.foldl (fun t e => t.add (e.2.getD {})) {}
  let single := (chosen total).length = 1
  let seen := counted.filterMap fun (n, k) => k.map (n, ·)
  let isFile := fun (n : Bytes) (k : Counts) =>
    if n == bytes "-" then c.fromFile else 0 < k.octets || !folders.contains n
  let size := (seen.filter fun e => isFile e.1 e.2).foldl (fun t e => t + e.2.octets) 0
  let width := if single && names.length = 1 then 1
    else if seen.all fun e => isFile e.1 e.2 then (digits 10 size).length
    else max 7 (digits 10 size).length
  let row := fun (n : Counts) (name : Bytes) =>
    let texts := (chosen n).map fun k => padLeft width ' ' (digits 10 k)
    Utf8.encode ((texts.intersperse [' ']).flatten) ++
      (if name.isEmpty then [] else 32 :: name) ++ [newline]
  counted.forM fun (n, k) => do
    match k with
    | some k => Work.print (row k (if fs.operands.isEmpty then [] else n))
    | none => pure ()
  if 1 < names.length then Work.print (row total (bytes "total"))

def chant : Tool := Work.tool fun c => do
  let fs ← flagsOf c.name 1 [] c.args
  let line := (if fs.operands.isEmpty then bytes "y" else joinWords fs.operands) ++ [newline]
  Work.print (List.replicate 5000 line).flatten
  modify fun r => { r with endless := true }

def waitingTime? (arg : Bytes) : Option Nat :=
  let cs := textOf arg
  let (body, unit) := match cs.getLast? with
    | some 's' => (cs.dropLast, 1)
    | some 'm' => (cs.dropLast, 60)
    | some 'h' => (cs.dropLast, 3600)
    | some 'd' => (cs.dropLast, 86400)
    | _ => (cs, 1)
  let whole := body.takeWhile Char.isDigit
  let part := match body.drop whole.length with
    | '.' :: ds => some ds
    | [] => some []
    | _ => none
  match part with
  | none => none
  | some ds =>
    if (whole.isEmpty && ds.isEmpty) || !ds.all Char.isDigit then none
    else
      let micros := (ds ++ List.replicate 6 '0').take 6
      some ((ofDigits 10 whole * 1000000 + ofDigits 10 micros) * unit)

def forever (bs : Bytes) : Bool := ["inf", "infinity"].contains (stringOf bs)

def sleep : Tool := Work.tool fun c => do
  let fs ← flagsOf c.name 1 [] c.args
  if fs.operands.isEmpty then misused c.name 1 "missing operand"
  let bad := fs.operands.filter fun a => (waitingTime? a).isNone && !forever a
  if !bad.isEmpty then
    bad.forM fun a => Work.complain s!"{c.name}: invalid time interval {quoted a}"
    Work.die 1 (tryHelp c.name)
  let micros := fs.operands.foldl (fun n a => n + (waitingTime? a).getD (Nat.pow 10 15)) 0
  modify fun r => { r with micros }

end DocBraces.Tools
