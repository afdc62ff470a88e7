import DocBraces.Text.LetterCase
import DocBraces.Tools.Basic

/-!
# Regular expressions of tools

Basic and extended expressions, in which groups, choices and counts are written with a
backslash or without one. Of all matches at the first place where there is one, the
longest counts.
-/

set_option autoImplicit false

namespace DocBraces.Tools

open DocBraces.Text

def lineChars (bs : Bytes) : List Char :=
  match Utf8.decode bs with
  | .ok cs => cs
  | .error _ => (charsOf 0 bs).map fun x => match x with
    | .inl c => c
    | .inr b => Char.ofNat (0x10FF00 + b.toNat)

def lineBytes (cs : List Char) : Bytes := cs.flatMap fun c =>
  if 0x10FF80 ≤ c.toNat then [UInt8.ofNat (c.toNat - 0x10FF00)] else Utf8.encodeChar c

inductive RangeItem where
  | single (c : Char)
  | range (low high : Char)
  | named (test : Char → Bool)

inductive Edge where
  | textStart
  | textEnd
  | lineStart
  | lineEnd
  | wordStart
  | wordEnd
  | wordEdge
  | noWordEdge
  deriving DecidableEq, Repr

inductive Regex where
  | empty
  | char (c : Char)
  | any
  | oneOf (negated : Bool) (items : List RangeItem)
  | edge (e : Edge)
  | group (number : Nat) (body : Regex)
  | again (number : Nat)
  | seq (first second : Regex)
  | alt (first second : Regex)
  | rounds (least : Nat) (most : Option Nat) (body : Regex)

structure Spot where
  before : List Char
  after : List Char
  /-- How many characters have been passed. -/
  place : Nat := 0
  groups : List (Nat × List Char) := []

def Spot.step? (p : Spot) : Option (Char × Spot) :=
  match p.after with
  | [] => none
  | c :: cs => some (c, { p with before := c :: p.before, after := cs, place := p.place + 1 })

def isWordChar (c : Char) : Bool := c.isAlphanum || c == '_' || (127 < c.toNat && isCased c.toNat)

def Edge.holds (multi : Bool) (p : Spot) (e : Edge) : Bool :=
  let left := p.before.head?.any isWordChar
  let right := p.after.head?.any isWordChar
  match e with
  | .textStart => p.before.isEmpty
  | .textEnd => p.after.isEmpty
  | .lineStart => p.before.isEmpty || (multi && p.before.head? == some '\n')
  | .lineEnd => p.after.isEmpty || (multi && p.after.head? == some '\n')
  | .wordStart => !left && right
  | .wordEnd => left && !right
  | .wordEdge => left != right
  | .noWordEdge => left == right

def lowerChar (c : Char) : Char := Char.ofNat (lowerCode c.toNat)

def upperChar (c : Char) : Char := Char.ofNat (upperCode c.toNat)

def sameChar (anyCase : Bool) (c d : Char) : Bool :=
  c == d || (anyCase && lowerChar c == lowerChar d)

def RangeItem.holds (c : Char) : RangeItem → Bool
  | .single d => c == d
  | .range low high => low ≤ c && c ≤ high
  | .named test => test c

def anyHolds (anyCase : Bool) (items : List RangeItem) (c : Char) : Bool :=
  items.any (·.holds c) ||
    (anyCase && (items.any (·.holds (lowerChar c)) || items.any (·.holds (upperChar c))))

structure Manner where
  anyCase : Bool := false
  /-- Lines within the text have borders of their own. -/
  multi : Bool := false
  /-- Groups are looked back at, so that places alone do not tell matches apart. -/
  looksBack : Bool := false

/-- Keeps the first of the spots at one place. The places that have been seen are the bits
of a number. -/
def firstSpots : (seen : Nat) → List Spot → List Spot
  | _, [] => []
  | seen, p :: ps =>
    if seen.testBit p.place then firstSpots seen ps
    else p :: firstSpots (seen ||| 1 <<< p.place) ps

def distinctSpots (m : Manner) (ps : List Spot) : List Spot :=
  match ps with
  | [] => []
  | [p] => [p]
  | ps => if m.looksBack then ps else firstSpots 0 ps

/-- Rounds of a step, more of them first, in front of the spots of fewer rounds; only
steps that move are repeated. -/
def roundsOf (step : Spot → List Spot) (m : Manner) :
    (fuel least : Nat) → (most : Option Nat) → Spot → List Spot → List Spot
  | 0, _, _, p, fewer => p :: fewer
  | fuel + 1, least, most, p, fewer =>
    if most == some 0 then p :: fewer
    else
      let fewer := if least = 0 then p :: fewer else fewer
      let next := fun (q : Spot) (fewer : List Spot) =>
        if p.place < q.place then roundsOf step m fuel (least - 1) (most.map (· - 1)) q fewer
        else if least = 0 then fewer else q :: fewer
      match step p with
      | [] => fewer
      | [q] => next q fewer
      | qs => distinctSpots m (qs.flatMap (next · [])) ++ fewer

def Regex.ends (m : Manner) : Regex → Spot → List Spot
  | .empty, p => [p]
  | .char c, p => match p.step? with
    | some (d, q) => if sameChar m.anyCase c d then [q] else []
    | none => []
  | .any, p => match p.step? with
    | some (d, q) => if m.multi && d == '\n' then [] else [q]
    | none => []
  | .oneOf negated items, p => match p.step? with
    | some (d, q) =>
      if m.multi && negated && d == '\n' then []
      else if anyHolds m.anyCase items d != negated then [q] else []
    | none => []
  | .edge e, p => if e.holds m.multi p then [p] else []
  | .group n e, p => (e.ends m p).map fun q =>
    { q with groups := (n, p.after.take (q.place - p.place)) :: q.groups }
  | .again n, p => match p.groups.lookup n with
    | none => []
    | some t =>
      let here := p.after.take t.length
      if here.length = t.length && (here.zip t).all fun cd => sameChar m.anyCase cd.1 cd.2 then
        [{ p with before := here.reverse ++ p.before, after := p.after.drop t.length
                  place := p.place + t.length }]
      else []
  | .seq a b, p => distinctSpots m ((a.ends m p).flatMap (b.ends m))
  | .alt a b, p => distinctSpots m (a.ends m p ++ b.ends m p)
  | .rounds least most e, p =>
    roundsOf (e.ends m) m (p.after.length + least + 1) least most p []

def Regex.longest? (m : Manner) (e : Regex) (p : Spot) : Option Spot :=
  (e.ends m p).foldl (fun best q => match best with
    | none => some q
    | some b => if b.place < q.place then some q else some b) none

structure Found where
  passed : List Char
  text : List Char
  groups : List (Nat × List Char)
  after : List Char

def Found.of (passed cs : List Char) (q : Spot) : Found :=
  ⟨passed.reverse, cs.take q.place, q.groups, q.after⟩

def findFrom (m : Manner) (e : Regex) (passed before : List Char) : List Char → Option Found
  | [] => (e.longest? m { before, after := [] }).map (Found.of passed [])
  | c :: rest => match e.longest? m { before, after := c :: rest } with
    | some q => some (Found.of passed (c :: rest) q)
    | none => findFrom m e (c :: passed) (c :: before) rest

def findMatch (m : Manner) (e : Regex) (before cs : List Char) : Option Found :=
  findFrom m e [] before cs

inductive RegexFault where
  | trailingBackslash
  | unmatchedBracket
  | unmatchedGroup
  | unmatchedClosing
  | unmatchedBrace
  | badBounds
  | badRange
  | badClass
  | misplacedClass
  | badStart
  | badReference
  | tooBig
  | invalid
  deriving DecidableEq, Repr

def RegexFault.message : RegexFault → String
  | .trailingBackslash => "Trailing backslash"
  | .unmatchedBracket => "Unmatched [, [^, [:, [., or [="
  | .unmatchedGroup => "Unmatched ( or \\("
  | .unmatchedClosing => "Unmatched ) or \\)"
  | .unmatchedBrace => "Unmatched \\\x7b"
  | .badBounds => "Invalid content of \\\x7b\\\x7d"
  | .badRange => "Invalid range end"
  | .badClass => "Invalid character class name"
  | .misplacedClass => "character class syntax is [[:space:]], not [:space:]"
  | .badStart => "Invalid preceding regular expression"
  | .badReference => "Invalid back reference"
  | .tooBig => "Regular expression too big"
  | .invalid => "Invalid regular expression"

/-- How expressions are written. Strict ones take no sign for a character where it makes
no sense. -/
structure Spelling where
  extended : Bool := false
  strict : Bool := false

inductive Sign where
  | char (c : Char)
  | opening
  | closing
  | bar
  | star
  | plus
  | question
  | brace
  | any
  | caret
  | dollar
  | bracket
  | again (n : Nat)
  | edge (e : Edge)
  | oneOf (negated : Bool) (items : List RangeItem)
  | broken
  | ended

/-- Signs that need a backslash in basic expressions and must not have one in extended
ones. -/
def grouping? : Char → Option Sign
  | '(' => some .opening
  | ')' => some .closing
  | '|' => some .bar
  | '+' => some .plus
  | '?' => some .question
  | '\x7b' => some .brace
  | _ => none

def isSpaceChar (c : Char) : Bool := c == ' ' || ('\t' ≤ c && c ≤ '\r')

def escaped (c : Char) : Sign :=
  match c with
  | 'w' => .oneOf false [.named isWordChar]
  | 'W' => .oneOf true [.named isWordChar]
  | 's' => .oneOf false [.named isSpaceChar]
  | 'S' => .oneOf true [.named isSpaceChar]
  | 'b' => .edge .wordEdge
  | 'B' => .edge .noWordEdge
  | '<' => .edge .wordStart
  | '>' => .edge .wordEnd
  | '\x60' => .edge .textStart
  | '\'' => .edge .textEnd
  | d => if '1' ≤ d && d ≤ '9' then .again (d.toNat - 48) else .char d

def nextSign (s : Spelling) : List Char → Sign × List Char
  | [] => (.ended, [])
  | ['\\'] => (.broken, [])
  | '\\' :: c :: cs => match grouping? c with
    | some sign => (if s.extended then .char c else sign, cs)
    | none => (escaped c, cs)
  | c :: cs => match grouping? c with
    | some sign => (if s.extended then sign else .char c, cs)
    | none =>
      let sign : Sign := match c with
        | '*' => .star
        | '.' => .any
        | '^' => .caret
        | '$' => .dollar
        | '[' => .bracket
        | d => .char d
      (sign, cs)

def isPunct (c : Char) : Bool := '!' ≤ c && c ≤ '~' && !c.isAlphanum

def characterClass? (name : String) : Option (Char → Bool) :=
  match name with
  | "alpha" => some fun c => c.isAlpha || (127 < c.toNat && isCased c.toNat)
  | "digit" => some Char.isDigit
  | "alnum" => some fun c => c.isAlphanum || (127 < c.toNat && isCased c.toNat)
  | "upper" => some fun c => c.isUpper || (127 < c.toNat && lowerCode c.toNat ≠ c.toNat)
  | "lower" => some fun c => c.isLower || (127 < c.toNat && upperCode c.toNat ≠ c.toNat)
  | "space" => some isSpaceChar
  | "blank" => some fun c => c == ' ' || c == '\t'
  | "punct" => some isPunct
  | "cntrl" => some fun c => c.toNat < 32 || c.toNat == 127
  | "print" => some fun c => ' ' ≤ c && c.toNat ≠ 127
  | "graph" => some fun c => ' ' < c && c.toNat ≠ 127
  | "xdigit" => some isHexDigit
  | _ => none

def bracketChar : List Char → Option (Char × List Char)
  | '[' :: '.' :: c :: '.' :: ']' :: rest => some (c, rest)
  | '[' :: '=' :: c :: '=' :: ']' :: rest => some (c, rest)
  | c :: rest => some (c, rest)
  | [] => none

def bracketItems : Nat → (first : Bool) → List Char →
    Except RegexFault (List RangeItem × List Char)
  | 0, _, _ => .error .unmatchedBracket
  | fuel + 1, first, cs =>
    match cs with
    | '[' :: ':' :: more => do
      let name := more.takeWhile (· != ':')
      if more.drop name.length == [] then throw .unmatchedBracket
      match characterClass? (String.ofList name) with
      | none => throw .badClass
      | some test =>
        let (items, rest) ← bracketItems fuel false (more.drop (name.length + 2))
        return (.named test :: items, rest)
    | _ => match bracketChar cs with
      | none => .error .unmatchedBracket
      | some (c, more) =>
        if c == ']' && !first && cs.head? == some ']' then .ok ([], more)
        else match more with
          | '-' :: ']' :: _ => do
            let (items, rest) ← bracketItems fuel false more
            return (.single c :: items, rest)
          | '-' :: d :: rest => do
            let (d, rest) := (bracketChar (d :: rest)).getD (d, rest)
            if d < c then throw .badRange
            let (items, rest) ← bracketItems fuel false rest
            return (.range c d :: items, rest)
          | _ => do
            let (items, rest) ← bracketItems fuel false more
            return (.single c :: items, rest)

def readBracket (cs : List Char) : Except RegexFault (Regex × List Char) := do
  let (negated, cs) := match cs with
    | '^' :: rest => (true, rest)
    | _ => (false, cs)
  if cs.isEmpty then throw .invalid
  let (items, rest) ← bracketItems (cs.length + 1) true cs
  return (.oneOf negated items, rest)

structure RegexReader where
  rest : List Char
  groups : Nat := 0
  closed : List Nat := []

def roundLimit : Nat := 32767

def readBounds (s : Spelling) (cs : List Char) :
    Except RegexFault (Nat × Option Nat × List Char) := do
  let isInside := fun (c : Char) => c != '\x7d' && c != '\\'
  let text := cs.takeWhile isInside
  let rest ← match cs.drop text.length, s.extended with
    | '\x7d' :: rest, true => pure rest
    | '\\' :: '\x7d' :: rest, false => pure rest
    | [], _ => throw .unmatchedBrace
    | _, _ => throw .badBounds
  let low := text.takeWhile Char.isDigit
  let value := fun (ds : List Char) => ofDigits 10 ds
  let (least, most) ← match text.drop low.length with
    | [] => if low.isEmpty then throw .badBounds else pure (value low, some (value low))
    | [','] => pure (value low, none)
    | ',' :: ds =>
      if ds.all Char.isDigit then pure (value low, some (value ds)) else throw .badBounds
    | _ => throw .badBounds
  if most.any (· < least) then throw .badBounds
  if roundLimit < least || most.any (roundLimit < ·) then throw .tooBig
  return (least, most, rest)

/-- Repetitions behind an expression; strict basic expressions take no star and no bounds
behind a repetition. -/
def readRounds (s : Spelling) (again : Bool) : Nat → Regex → List Char →
    Except RegexFault (Regex × List Char)
  | 0, e, cs => .ok (e, cs)
  | fuel + 1, e, cs =>
    let barred := again && s.strict && !s.extended
    match nextSign s cs with
    | (.star, rest) =>
      if barred then .error .badStart else readRounds s true fuel (.rounds 0 none e) rest
    | (.plus, rest) => readRounds s true fuel (.rounds 1 none e) rest
    | (.question, rest) => readRounds s true fuel (.rounds 0 (some 1) e) rest
    | (.brace, rest) =>
      if barred then .error .badStart
      else match readBounds s rest with
      | .ok (least, most, rest) => readRounds s true fuel (.rounds least most e) rest
      | .error f =>
        let isSpelled := f = .badBounds && (rest.takeWhile (· != '\x7d')).all fun c =>
          c.isDigit || c == ','
        if s.extended && !s.strict && !isSpelled && f ≠ .tooBig then .ok (e, cs) else .error f
    | _ => .ok (e, cs)

mutual

def readChoices (s : Spelling) : Nat → (depth : Nat) → RegexReader →
    Except RegexFault (Regex × RegexReader)
  | 0, _, r => .ok (.empty, r)
  | fuel + 1, depth, r => do
    let (e, r) ← readRow s fuel depth true r
    match nextSign s r.rest with
    | (.bar, rest) =>
      let (f, r) ← readChoices s fuel depth { r with rest }
      return (.alt e f, r)
    | _ => return (e, r)

def readRow (s : Spelling) : Nat → (depth : Nat) → (first : Bool) → RegexReader →
    Except RegexFault (Regex × RegexReader)
  | 0, _, _, r => .ok (.empty, r)
  | fuel + 1, depth, first, r => do
    let repeated := fun (e : Regex) (r : RegexReader) => do
      let (e, rest) ← readRounds s false (r.rest.length + 1) e r.rest
      let (f, r) ← readRow s fuel depth false { r with rest }
      return (Regex.seq e f, r)
    let plain := fun (e : Regex) (rest : List Char) => repeated e { r with rest }
    let unrepeated := fun (e : Regex) (first : Bool) (rest : List Char) => do
      let (f, r) ← readRow s fuel depth first { r with rest }
      return (Regex.seq e f, r)
    let misplaced := fun (c : Char) (rest : List Char) =>
      if !s.extended then plain (.char c) rest
      else if s.strict then throw .badStart
      else readRow s fuel depth first { r with rest }
    let (sign, rest) := nextSign s r.rest
    match sign with
    | .ended => return (.empty, r)
    | .broken => throw .trailingBackslash
    | .bar => return (.empty, r)
    | .closing =>
      if depth ≠ 0 then return (.empty, r)
      else if s.extended && !s.strict then plain (.char ')') rest
      else throw .unmatchedClosing
    | .opening =>
      let number := r.groups + 1
      let (e, r) ← readChoices s fuel (depth + 1) { r with rest, groups := number }
      match nextSign s r.rest with
      | (.closing, rest) =>
        repeated (.group number e) { r with rest, closed := number :: r.closed }
      | _ => throw .unmatchedGroup
    | .caret =>
      if s.extended then unrepeated (.edge .lineStart) first rest
      else if !first then plain (.char '^') rest
      else match nextSign s rest with
        | (.star, rest) =>
          let (f, r) ← plain (.char '*') rest
          return (.seq (.edge .lineStart) f, r)
        | _ => unrepeated (.edge .lineStart) false rest
    | .dollar =>
      let last := match nextSign s rest with
        | (.ended, _) => true
        | (.bar, _) => true
        | (.closing, _) => true
        | _ => false
      if s.extended || last then unrepeated (.edge .lineEnd) false rest
      else plain (.char '$') rest
    | .star => misplaced '*' rest
    | .plus => misplaced '+' rest
    | .question => misplaced '?' rest
    | .brace =>
      if s.strict && first then throw .badStart
      else if s.extended && first then match readBounds s rest with
        | .ok (_, _, rest) => readRow s fuel depth false { r with rest }
        | .error .tooBig => throw .tooBig
        | .error _ => plain (.char '\x7b') rest
      else plain (.char '\x7b') rest
    | .any => plain .any rest
    | .bracket =>
      if rest.head? == some ':' then
        let inside := rest.takeWhile (· != ']')
        if inside.length < rest.length && 1 < inside.length && inside.getLast? == some ':' then
          throw .misplacedClass
      let (e, rest) ← readBracket rest
      plain e rest
    | .again n => if r.closed.contains n then plain (.again n) rest else throw .badReference
    | .edge e => unrepeated (.edge e) false rest
    | .oneOf negated items => plain (.oneOf negated items) rest
    | .char c => plain (.char c) rest

end

def Regex.looksBack : Regex → Bool
  | .again _ => true
  | .group _ e => e.looksBack
  | .seq a b => a.looksBack || b.looksBack
  | .alt a b => a.looksBack || b.looksBack
  | .rounds _ _ e => e.looksBack
  | _ => false

def readRegex (s : Spelling) (cs : List Char) : Except RegexFault (Regex × Nat) := do
  let (e, r) ← readChoices s (2 * cs.length + 2) 0 ⟨cs, 0, []⟩
  match nextSign s r.rest with
  | (.ended, _) => return (e, r.groups)
  | (.broken, _) => throw .trailingBackslash
  | _ => throw .unmatchedClosing

end DocBraces.Tools
