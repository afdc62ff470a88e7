import DocBraces.Tools.Lines
import DocBraces.Tools.Real

/-!
# Dumps

Octets shown as numbers or characters, written in letters of sixty-four or thirty-two
kinds, and summed up.
-/

set_option autoImplicit false

namespace DocBraces.Tools

open DocBraces.Text

inductive DumpKind where
  | characters
  | names
  | unsigned (base size : Nat)
  | signed (size : Nat)
  deriving DecidableEq, Repr

structure DumpFormat where
  kind : DumpKind
  /-- Printable characters are shown beside the numbers. -/
  beside : Bool := false

namespace DumpFormat

def size (f : DumpFormat) : Nat :=
  match f.kind with
  | .characters => 1
  | .names => 1
  | .unsigned _ n => n
  | .signed n => n

def width (f : DumpFormat) : Nat :=
  match f.kind with
  | .characters => 3
  | .names => 3
  | .unsigned base n => (digits base (Nat.pow 256 n - 1)).length
  | .signed n => (digits 10 (Nat.pow 256 n / 2)).length + 1

end DumpFormat

def littleEndian (bs : Bytes) : Nat := bs.foldr (fun b n => n * 256 + b.toNat) 0

def nameOfOctet (b : UInt8) : String :=
  let names := ["nul", "soh", "stx", "etx", "eot", "enq", "ack", "bel", "bs", "ht", "nl", "vt",
    "ff", "cr", "so", "si", "dle", "dc1", "dc2", "dc3", "dc4", "nak", "syn", "etb", "can", "em",
    "sub", "esc", "fs", "gs", "rs", "us", "sp"]
  let b := b &&& 127
  if b == 127 then "del" else (names[b.toNat]?).getD (Char.ofNat b.toNat).toString

def charOfOctet (b : UInt8) : String :=
  match b.toNat with
  | 0 => "\\0"
  | 7 => "\\a"
  | 8 => "\\b"
  | 9 => "\\t"
  | 10 => "\\n"
  | 11 => "\\v"
  | 12 => "\\f"
  | 13 => "\\r"
  | n => if 32 ≤ n && n < 127 then (Char.ofNat n).toString
      else String.ofList (padLeft 3 '0' (digits 8 n))

def DumpFormat.show (f : DumpFormat) (bs : Bytes) : List Char :=
  let n := littleEndian bs
  match f.kind with
  | .characters => (charOfOctet (bs.headD 0)).toList
  | .names => (nameOfOctet (bs.headD 0)).toList
  | .unsigned base k =>
    if base = 10 then digits 10 n
    else padLeft (digits base (Nat.pow 256 k - 1)).length '0' (digits base n)
  | .signed k =>
    let half := Nat.pow 256 k / 2
    digitsOfInt (if half ≤ n then (n : Int) - Nat.pow 256 k else n)

def chunksOf {α : Type} (size : Nat) : Nat → List α → List (List α)
  | 0, _ => []
  | fuel + 1, xs => if xs.isEmpty then [] else xs.take size :: chunksOf size fuel (xs.drop size)

def blockSize (formats : List DumpFormat) : Nat := formats.foldl (fun n f => max n f.size) 1

def DumpFormat.columns (f : DumpFormat) (block : Nat) : Nat := (block / f.size) * (f.width + 1)

/-- A row of octets; blocks take the same columns in all formats, and what is missing to
that is shared out among the numbers. -/
def DumpFormat.row (f : DumpFormat) (block columns width : Nat) (bs : Bytes) : List Char :=
  let padded := bs ++ List.replicate ((f.size - bs.length % f.size) % f.size) 0
  let count := block / f.size
  let extra := columns - f.columns block
  let gap := fun (i : Nat) =>
    let left := count - i % count
    extra * left / count - extra * (left - 1) / count
  let texts := (chunksOf f.size (padded.length + 1) padded).zipIdx.map fun (b, i) =>
    padLeft (gap i + f.width + 1) ' ' (f.show b)
  let line := texts.flatten
  if f.beside then
    let full := padRight (columns * (width / block)) line
    full ++ "  >".toList ++ (bs.map fun b =>
      if 32 ≤ b && b < 127 then Char.ofNat b.toNat else '.') ++ ['<']
  else line

def formatKind? (k : Char) (size : Nat) : Option DumpKind :=
  match k with
  | 'a' => some .names
  | 'c' => some .characters
  | 'd' => some (.signed size)
  | 'o' => some (.unsigned 8 size)
  | 'u' => some (.unsigned 10 size)
  | 'x' => some (.unsigned 16 size)
  | _ => none

def readFormats : Nat → List Char → Except Char (List DumpFormat)
  | 0, _ => .ok []
  | _ + 1, [] => .ok []
  | fuel + 1, k :: cs => do
    let ds := cs.takeWhile Char.isDigit
    let rest := cs.drop ds.length
    let (size, rest) := if !ds.isEmpty then (some (ofDigits 10 ds), rest)
      else match rest with
        | 'C' :: more => (some 1, more)
        | 'S' :: more => (some 2, more)
        | 'I' :: more => (some 4, more)
        | 'L' :: more => (some 8, more)
        | _ => (none, rest)
    let (beside, rest) := match rest with
      | 'z' :: more => (true, more)
      | _ => (false, rest)
    match formatKind? k (size.getD 4) with
    | some kind => return { kind, beside } :: (← readFormats fuel rest)
    | none => throw k

def dumpRows (rowOf : Nat → Bytes → Bytes) (all : Bool) :
    Nat → (offset : Nat) → (last : Option Bytes) → (starred : Bool) → List Bytes → Bytes
  | 0, _, _, _, _ => []
  | _ + 1, _, _, _, [] => []
  | fuel + 1, offset, last, starred, r :: rs =>
    if !all && last == some r && !rs.isEmpty then
      let rest := dumpRows rowOf all fuel (offset + r.length) last true rs
      if starred then rest else bytes "*\n" ++ rest
    else rowOf offset r ++ dumpRows rowOf all fuel (offset + r.length) (some r) false rs

def dump : Tool := Work.tool fun c => do
  let kinds : List (Char × DumpKind) :=
    [('a', .names), ('b', .unsigned 8 1), ('c', .characters), ('d', .unsigned 10 2),
     ('i', .signed 4), ('l', .signed 8), ('o', .unsigned 8 2), ('s', .signed 2),
     ('x', .unsigned 16 2)]
  let fs ← flagsOf c.name 1
    (kinds.map (fun k => Flag.switch k.1 k.1.toString) ++
      [.valued 'A' "address-radix", .valued 'j' "skip-bytes", .valued 'N' "read-bytes",
       .valued 't' "format", .switch 'v' "output-duplicates", .valued 'w' "width"]) c.args
  let formats ← fs.given.mapM fun (word, v) => do
    if word == "format" then
      match readFormats (v.length + 1) (textOf v) with
      | .ok formats => return formats
      | .error k =>
        Work.die 1 s!"{c.name}: invalid character '{k}' in type string {quoted v}"
    else return (kinds.filter fun k => k.1.toString == word).map fun k => { kind := k.2 }
  let formats := if formats.flatten.isEmpty then [⟨.unsigned 8 2, false⟩] else formats.flatten
  match fs.value? "address-radix" with
  | some v =>
    if !(v.head?.any (bytes "doxn").contains) then
      let letter := String.ofList ((textOf v).take 1)
      Work.die 1 (s!"{c.name}: invalid output address radix '{letter}'; " ++
        "it must be one character from [doxn]")
  | none => pure ()
  let number := fun (word : String) => do
    match fs.value? word with
    | none => return none
    | some v => match amount? v with
      | some n => return some n
      | none =>
        let letter := (word.toList.headD ' ').toString
        let flag := if letter == "s" then "j" else if letter == "r" then "N" else letter
        Work.die 1 s!"{c.name}: invalid -{flag} argument '{stringOf v}'"
  let skip := (← number "skip-bytes").getD 0
  let limit ← number "read-bytes"
  let wide ← number "width"
  let found ← readSources c 1 (plainComplaint c.name) fs.operands
  if found.isEmpty then Work.leave 1
  let whole := found.flatMap (·.2)
  if whole.length < skip then
    Work.die 1 s!"{c.name}: cannot skip past end of combined input"
  let input := whole.drop skip
  let input := match limit with
    | some n => input.take n
    | none => input
  let width := wide.getD 16
  let block := blockSize formats
  let columns := (formats.map (·.columns block)).foldl max 0
  let address := fun (n : Nat) => match (fs.value? "address-radix").map stringOf with
    | some v => match v.toList.head? with
      | some 'n' => []
      | some 'x' => padLeft 6 '0' (digits 16 n)
      | some 'd' => padLeft 7 '0' (digits 10 n)
      | _ => padLeft 7 '0' (digits 8 n)
    | none => padLeft 7 '0' (digits 8 n)
  let indent := List.replicate (address 0).length ' '
  let rowOf := fun (offset : Nat) (bs : Bytes) =>
    let rows := formats.map fun f => f.row block columns width bs
    bytes (String.ofList (((rows.zipIdx).map fun (r, i) =>
      (if i = 0 then address offset else indent) ++ r ++ ['\n']).flatten))
  let rows := chunksOf width (input.length + 1) input
  Work.print (dumpRows rowOf (fs.has "output-duplicates") (rows.length + 1) skip none false rows)
  let last := address (skip + input.length)
  if !last.isEmpty then Work.print (bytes (String.ofList (last ++ ['\n'])))

structure LetterCode where
  letters : List Char
  bits : Nat
  /-- Letters of a group. -/
  group : Nat

def LetterCode.sixtyFour : LetterCode :=
  ⟨"ABCDEFGHIJKLMNOPQRSTUVWXYZabcdefghijklmnopqrstuvwxyz0123456789+/".toList, 6, 4⟩

def LetterCode.thirtyTwo : LetterCode := ⟨"ABCDEFGHIJKLMNOPQRSTUVWXYZ234567".toList, 5, 8⟩

def LetterCode.groupOctets (k : LetterCode) : Nat := k.bits * k.group / 8

def LetterCode.encode (k : LetterCode) (bs : Bytes) : List Char :=
  (chunksOf k.groupOctets (bs.length + 1) bs).flatMap fun part =>
    let n := part.foldl (fun n b => n * 256 + b.toNat) 0
    let bits := part.length * 8
    let count := (bits + k.bits - 1) / k.bits
    let n := n * Nat.pow 2 (count * k.bits - bits)
    let cs := (List.range count).map fun i =>
      (k.letters[n / Nat.pow 2 (k.bits * (count - 1 - i)) % Nat.pow 2 k.bits]?).getD '='
    cs ++ List.replicate (k.group - count) '='

def LetterCode.decode (k : LetterCode) (cs : List Char) : Bytes × Bool :=
  (chunksOf k.group (cs.length + 1) cs).foldl (fun (out, good) part =>
    if !good then (out, good)
    else
      let used := part.takeWhile (· != '=')
      let values := used.filterMap k.letters.idxOf?
      let kept := part.takeWhile fun c => k.letters.contains c
      let n := (kept.filterMap k.letters.idxOf?).foldl (fun n v => n * Nat.pow 2 k.bits + v) 0
      let bits := kept.length * k.bits
      let count := bits / 8
      let n := n / Nat.pow 2 (bits - count * 8)
      let octets := (List.range count).map fun i => UInt8.ofNat (n / Nat.pow 256 (count - 1 - i) % 256)
      let padded := (part.drop used.length).all (· == '=')
      (out ++ octets, values.length = used.length && padded && part.length = k.group)) ([], true)

def lettersTool (k : LetterCode) : Tool := Work.tool fun c => do
  let fs ← flagsOf c.name 1
    [.switch 'd' "decode", .switch 'i' "ignore-garbage", .valued 'w' "wrap"] c.args
  match fs.operands.drop 1 with
  | extra :: _ => misused c.name 1 s!"extra operand {quoted extra}"
  | [] => pure ()
  let width ← match fs.value? "wrap" with
    | none => pure 76
    | some v => match number? v with
      | some n => pure n
      | none => Work.die 1 s!"{c.name}: invalid wrap size: {quoted v}"
  let input ← match ← readSource c (fs.operands.headD (bytes "-")) with
    | .ok bs => pure bs
    | .error why => Work.die 1 (plainComplaint c.name (fs.operands.headD []) why)
  if fs.has "decode" then
    let cs := (input.map fun b => Char.ofNat b.toNat).filter (· != '\n')
    let cs := if fs.has "ignore-garbage" then
      cs.filter fun ch => k.letters.contains ch || ch == '=' else cs
    let (out, good) := k.decode cs
    Work.print out
    if !good then Work.fault 1 s!"{c.name}: invalid input"
  else
    let cs := k.encode input
    let rows := if width = 0 then [cs] else chunksOf width (cs.length + 1) cs
    let text := if width = 0 then cs else rows.flatMap (· ++ ['\n'])
    Work.print (bytes (String.ofList text))

def shiftedSum (n : UInt32) : UInt32 :=
  (List.range 8).foldl (fun n _ =>
    if n &&& 0x80000000 != 0 then (n <<< 1) ^^^ 0x04C11DB7 else n <<< 1) n

def addToSum (n : UInt32) (b : UInt8) : UInt32 := shiftedSum (n ^^^ (b.toUInt32 <<< 24))

def lengthOctets : Nat → Nat → Bytes
  | 0, _ => []
  | fuel + 1, n => if n = 0 then [] else UInt8.ofNat (n % 256) :: lengthOctets fuel (n / 256)

def cyclicSum (bs : Bytes) : Nat :=
  ((bs ++ lengthOctets 16 bs.length).foldl addToSum 0 ^^^ 0xFFFFFFFF).toNat

def sumTool : Tool := Work.tool fun c => do
  let fs ← flagsOf c.name 1 [] c.args
  let found ← readSources c 1 (plainComplaint c.name) fs.operands
  found.forM fun (n, bs) => do
    let name := if fs.operands.isEmpty then "" else s!" {stringOf n}"
    Work.print (bytes s!"{cyclicSum bs} {bs.length}{name}\n")

end DocBraces.Tools
