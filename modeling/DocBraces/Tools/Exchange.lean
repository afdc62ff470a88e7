import DocBraces.Tools.Flag

/-!
# Exchange of characters

Octets of one set become those of another one, go away, or are written once where they
follow each other.
-/

set_option autoImplicit false

namespace DocBraces.Tools

open DocBraces.Text

def octetRange (low high : UInt8) : Bytes :=
  (List.range (high.toNat + 1 - low.toNat)).map fun i => UInt8.ofNat (low.toNat + i)

def classOctets? (name : String) : Option Bytes :=
  let range := fun (a b : Char) => octetRange (UInt8.ofNat a.toNat) (UInt8.ofNat b.toNat)
  match name with
  | "upper" => some (range 'A' 'Z')
  | "lower" => some (range 'a' 'z')
  | "digit" => some (range '0' '9')
  | "alpha" => some (range 'A' 'Z' ++ range 'a' 'z')
  | "alnum" => some (range '0' '9' ++ range 'A' 'Z' ++ range 'a' 'z')
  | "space" => some (octetRange 9 13 ++ [32])
  | "blank" => some [9, 32]
  | "punct" => some (octetRange 33 47 ++ octetRange 58 64 ++ octetRange 91 96 ++ octetRange 123 126)
  | "cntrl" => some (octetRange 0 31 ++ [127])
  | "print" => some (octetRange 32 126)
  | "graph" => some (octetRange 33 126)
  | "xdigit" => some (range '0' '9' ++ range 'A' 'F' ++ range 'a' 'f')
  | _ => none

abbrev SetUnit := UInt8 × Bool

def unescape : (left : Nat) → Bytes → List SetUnit
  | _, [] => []
  | n + 1, _ :: bs => unescape n bs
  | 0, 92 :: bs =>
    let ds := (bs.take 3).takeWhile fun b => 48 ≤ b && b ≤ 55
    let value := ofDigits 8 (ds.map fun b => Char.ofNat b.toNat)
    match bs with
    | [] => [(92, true)]
    | b :: _ =>
      if !ds.isEmpty then
        if value < 256 then (UInt8.ofNat value, false) :: unescape ds.length bs
        else (UInt8.ofNat (value / 8), false) :: unescape (ds.length - 1) bs
      else
        let code : UInt8 := match Char.ofNat b.toNat with
          | 'a' => 7
          | 'b' => 8
          | 'f' => 12
          | 'n' => 10
          | 'r' => 13
          | 't' => 9
          | 'v' => 11
          | _ => b
        (code, false) :: unescape 1 bs
  | 0, b :: bs => (b, true) :: unescape 0 bs

def wideEscapes : (left : Nat) → Bytes → List String
  | _, [] => []
  | n + 1, _ :: bs => wideEscapes n bs
  | 0, b :: bs =>
    if b != 92 then wideEscapes 0 bs
    else
      let ds := (bs.take 3).takeWhile fun b => 48 ≤ b && b ≤ 55
      let cs := ds.map fun b => Char.ofNat b.toNat
      if ofDigits 8 cs < 256 then wideEscapes (max 1 ds.length) bs
      else String.ofList cs :: wideEscapes 2 bs

def wideEscapeWarning (ds : String) : String :=
  let front := String.ofList (ds.toList.take 2)
  let last := String.ofList (ds.toList.drop 2)
  s!"warning: the ambiguous octal escape \\{ds} is being\n" ++
    s!"\tinterpreted as the 2-byte sequence \\0{front}, {last}"

inductive SetPart where
  | octets (bs : Bytes)
  /-- An octet and whatever counts as the same. -/
  | alike (b : UInt8)
  | named (name : String) (bs : Bytes)
  /-- An octet so many times, or as often as it takes to fill up. -/
  | repeated (b : UInt8) (count : Option Nat)

def shown (b : UInt8) : String := stringOf [b]

def setParts (tool : String) : (left : Nat) → List SetUnit → Work (List SetPart)
  | _, [] => return []
  | n + 1, _ :: us => setParts tool n us
  | 0, (a, plain) :: us => do
    let isSign := fun (b : UInt8) (u : SetUnit) => u == (b, true)
    let opens := a == 91 && plain
    let named := us.drop 1
    let name := named.takeWhile fun u => u.1 != 58
    let closes := (named.drop name.length).take 2 == [(58, true), (93, true)]
    if opens && us.head?.any (isSign 58) && closes then
      let word := stringOf (name.map (·.1))
      match classOctets? word with
      | some bs => return .named word bs :: (← setParts tool (name.length + 3) us)
      | none => Work.die 1 s!"{tool}: invalid character class {quotedText word}"
    else
      let same := named.takeWhile fun u => u.1 != 61
      if opens && us.head?.any (isSign 61) && !same.isEmpty &&
          (named.drop same.length).take 2 == [(61, true), (93, true)] then
        if 1 < same.length then
          Work.die 1 (s!"{tool}: {stringOf (same.map (·.1))}: " ++
            "equivalence class operand must be a single character")
        return .alike (same.headD (0, true)).1 :: (← setParts tool (same.length + 3) us)
      else
        let count := ((us.drop 2).takeWhile fun u => u.1 != 93).map (·.1)
        let isRepeat := opens && (us[1]?).any (isSign 42) && count.length + 2 < us.length
        match us with
        | (b, _) :: _ =>
          if isRepeat then
            if count.isEmpty then return .repeated b none :: (← setParts tool 3 us)
            let cs := textOf count
            let base := if cs.head? == some '0' then 8 else 10
            if !(cs.all fun ch => (digitValue? ch).any (· < base)) then
              Work.die 1 (s!"{tool}: invalid repeat count {quotedText (String.ofList cs)} " ++
                "in [c*n] construct")
            let n := ofDigits base cs
            let part := SetPart.repeated b (if n = 0 then none else some n)
            return part :: (← setParts tool (count.length + 3) us)
          else match us with
            | (45, true) :: (b, _) :: _ =>
              if b < a then
                Work.die 1 (s!"{tool}: range-endpoints of '{shown a}-{shown b}' are in reverse " ++
                  "collating sequence order")
              return .octets (octetRange a b) :: (← setParts tool 2 us)
            | _ => return .octets [a] :: (← setParts tool 0 us)
        | [] => return [.octets [a]]

def SetPart.size : SetPart → Nat
  | .octets bs => bs.length
  | .alike _ => 1
  | .named _ bs => bs.length
  | .repeated _ n => n.getD 0

def SetPart.expand (fill : Nat) : SetPart → Bytes
  | .octets bs => bs
  | .alike b => [b]
  | .named _ bs => bs
  | .repeated b n => List.replicate (n.getD fill) b

def squeeze (set : Bytes) : Bytes → Bytes
  | a :: b :: bs =>
    if a = b && set.contains a then squeeze set (b :: bs) else a :: squeeze set (b :: bs)
  | bs => bs

/-- The octet at the same position of another set; a shorter one goes on with its last
octet. -/
def exchangeOctet (set1 set2 : Bytes) (b : UInt8) : UInt8 :=
  match (set1.reverse.idxOf? b) with
  | none => b
  | some i =>
    let position := set1.length - 1 - i
    (set2[position]?).getD (set2.getLast?.getD b)

def SetPart.isAlike : SetPart → Bool
  | .alike _ => true
  | _ => false

def SetPart.isNamed : SetPart → Bool
  | .named _ _ => true
  | _ => false

def SetPart.isFilling : SetPart → Bool
  | .repeated _ none => true
  | _ => false

def SetPart.isRepeated : SetPart → Bool
  | .repeated _ _ => true
  | _ => false

/-- Names in the second set stand for cases of letters, at the places of such names in
the first one. -/
def SetPart.caseName? : SetPart → Option String
  | .named n _ => if n == "upper" || n == "lower" then some n else none
  | _ => none

def casePlaces (parts : List SetPart) : List Nat :=
  (parts.foldl (fun (st : Nat × List Nat) p =>
    (st.1 + p.size, if p.caseName?.isSome then st.1 :: st.2 else st.2)) (0, [])).2.reverse

def exchange : Tool := Work.tool fun c => do
  let fs ← match readFlags [.switch 'c' "complement", .switch 'C' "C", .switch 'd' "delete",
      .switch 's' "squeeze-repeats", .switch 't' "truncate-set1"] false c.args with
    | .ok fs => pure fs
    | .error message => misused c.name 1 message
  let tool := c.name
  let complemented := fs.has "complement" || fs.has "C"
  let deletes := fs.has "delete"
  let squeezes := fs.has "squeeze-repeats"
  let least := if deletes = squeezes then 2 else 1
  let most := if deletes && !squeezes then 1 else 2
  let operands := fs.operands
  match operands with
  | [] => misused tool 1 "missing operand"
  | [a] =>
    if least = 2 then
      let extra := if squeezes then
          "Two strings must be given when both deleting and squeezing repeats."
        else "Two strings must be given when translating."
      Work.die 1 s!"{tool}: missing operand after {quoted a}\n{extra}\n{tryHelp tool}"
  | _ =>
    match operands.drop most with
    | extra :: _ =>
      let note := if most = 1 && operands.length = 2 then
          "Only one string may be given when deleting without squeezing repeats.\n" else ""
      Work.die 1 s!"{tool}: extra operand {quoted extra}\n{note}{tryHelp tool}"
    | [] => pure ()
  let warn := fun (a : Bytes) => do
    (wideEscapes 0 a).forM fun ds => Work.complain s!"{tool}: {wideEscapeWarning ds}"
    if (unescape 0 a).getLast? == some (92, true) then
      Work.complain s!"{tool}: warning: an unescaped backslash at end of string is not portable"
  operands.forM warn
  let parts1 ← setParts tool 0 (unescape 0 (operands.headD []))
  let parts2 ← setParts tool 0 (unescape 0 ((operands.drop 1).headD []))
  let translates := !deletes && operands.length = 2
  if parts1.any SetPart.isFilling then
    Work.die 1 s!"{tool}: the [c*] repeat construct may not appear in string1"
  if 1 < (parts2.filter SetPart.isFilling).length then
    Work.die 1 s!"{tool}: only one [c*] repeat construct may appear in string2"
  let plain1 := parts1.flatMap (SetPart.expand 0)
  let complement := fun (s : Bytes) =>
    if complemented then (octetRange 0 255).filter (!s.contains ·) else s
  let set1 := complement plain1
  let size2 := parts2.foldl (fun n p => n + p.size) 0
  let set2 := parts2.flatMap (SetPart.expand (set1.length - size2))
  if translates then
    if parts2.any SetPart.isAlike then
      Work.die 1 s!"{tool}: [=c=] expressions may not appear in string2 when translating"
    if parts2.any fun p => p.isNamed && p.caseName?.isNone then
      Work.die 1 (s!"{tool}: when translating, the only character classes that may appear in\n" ++
        "string2 are 'upper' and 'lower'")
    if !complemented && !((casePlaces parts2).all (casePlaces parts1).contains) then
      Work.die 1 s!"{tool}: misaligned [:upper:] and/or [:lower:] construct"
    if set2.length < set1.length && !fs.has "truncate-set1" then
      if set2.isEmpty then
        Work.die 1 s!"{tool}: when not truncating set1, string2 must be non-empty"
      if parts2.getLast?.any SetPart.isNamed then
        Work.die 1 (s!"{tool}: when translating with string1 longer than string2,\n" ++
          "the latter string must not end with a character class")
    if complemented && parts1.any SetPart.isNamed && set2.any (some · != set2.head?) then
      Work.die 1 (s!"{tool}: when translating with complemented character classes,\n" ++
        "string2 must map all characters in the domain to one")
  else if parts2.any SetPart.isFilling then
    Work.die 1 s!"{tool}: the [c*] construct may appear in string2 only when translating"
  let input ← match ← readInput c with
    | .ok bs => pure bs
    | .error why => Work.die 1 s!"{tool}: read error: {why}"
  if deletes then
    let kept := input.filter (!set1.contains ·)
    Work.print (if squeezes then squeeze set2 kept else kept)
  else if !translates then Work.print (squeeze set1 input)
  else
    let set1 := if fs.has "truncate-set1" then set1.take set2.length else set1
    let out := input.map (exchangeOctet set1 set2)
    Work.print (if squeezes then squeeze set2 out else out)

end DocBraces.Tools
