import DocBraces.Pattern.Escape
import DocBraces.Text.Integer

/-!
# Reading a pattern: expressions

A pattern is a row of alternatives, each a row of items, each with at most one
repetition. Depth and length of the recursion are bounded by the number of tokens.
-/

set_option autoImplicit false

namespace DocBraces.Pattern

open DocBraces.Text

/-- An item of a row. What is in a group with switches of its own is sealed: it is not
compared with other items. -/
structure Item where
  expr : Expr
  isSealed : Bool := false
  deriving DecidableEq

namespace Item

/-- Tests, anchors and references are the same item wherever they are written alike. -/
def isOpen (i : Item) : Bool :=
  !i.isSealed && match i.expr with
    | .one _ _ => true
    | .anchor _ => true
    | .again _ _ => true
    | _ => false

def join (row : List Item) : Expr := .ofRow (row.map (·.expr))

def sharedCount : List Item → List (List Item) → Nat
  | [], _ => 0
  | i :: is, rows =>
    if i.isOpen && rows.all (fun row => row.head? == some i) then
      sharedCount is (rows.map List.tail) + 1
    else 0

def members? : List Item → Option (List ClassItem)
  | [⟨.one _ cls, false⟩] => if cls.negated then none else some cls.items
  | _ => none

/-- Alternatives as one row: what they all begin with stands before them, and where the
rest of each is a class they make one class. -/
def branch (m : Mode) : List (List Item) → List Item
  | [] => []
  | [row] => row
  | row :: rows =>
    let n := sharedCount row rows
    let rests := (row :: rows).map (·.drop n)
    row.take n ++ match rests.mapM members? with
      | some sets => [{ expr := .one m { items := sets.flatten.eraseDups } }]
      | none => [{ expr := .ofAlternatives (rests.map join) }]

end Item

inductive PartKind where
  | plain
  | anchor
  | repeated
  deriving DecidableEq, Repr

/-- What one repetition can follow: an item, or the items of a group without number. -/
structure Part where
  kind : PartKind := .plain
  items : List Item

def Part.row (parts : List Part) : List Item := parts.reverse.flatMap (·.items)

def Part.ofExpr (e : Expr) : Part where
  kind := match e with
    | .anchor _ => .anchor
    | _ => .plain
  items := [{ expr := e }]

namespace Reading

def classMember (t : List Char) : Reading ClassItem :=
  match t with
  | [c] => return .single c.toNat
  | ['\\', c] => classEscape c
  | _ => return .single 0

/-- Members of a class, last one first, up to the closing bracket. `start` is the
position of the opening bracket. -/
def classItems (start : Nat) : Nat → List ClassItem → Reading (List ClassItem)
  | 0, items => return items
  | fuel + 1, items => do
    let some t ← next | failAt start .unterminatedClass
    if t == [']'] && !items.isEmpty then return items
    let low ← classMember t
    if ← accept '-' then
      let some u ← next | failAt start .unterminatedClass
      if u == [']'] then return .single 45 :: low :: items
      let high ← classMember u
      let bad := Reason.badRange (String.ofList t) (String.ofList u)
      match low, high with
      | .single a, .single b =>
        if b < a then fail bad (t.length + 1 + u.length)
        classItems start fuel (.range a b :: items)
      | _, _ => fail bad (t.length + 1 + u.length)
    else classItems start fuel (low :: items)

def charClass (start : Nat) : Reading CharClass := do
  let negated ← accept '^'
  let r ← get
  let items ← classItems start (r.rest.length + 1) []
  return { negated, items := items.reverse.eraseDups }

def roundsLimit : Nat := 4294967295

def bound (ds : List Char) : Reading Nat := do
  if digitLimit < ds.length then throw (.excess (.digits ds.length))
  let n := ofDigits 10 ds
  if roundsLimit ≤ n then throw (.excess .rounds)
  return n

/-- The bounds that a repetition sign at position `start` gives. A brace without
bounds is no sign. -/
def bounds? (sign : Char) (start : Nat) : Reading (Option (Nat × Option Nat)) := do
  match sign with
  | '?' => return some (0, some 1)
  | '*' => return some (0, none)
  | '+' => return some (1, none)
  | _ =>
    let saved ← get
    if (← peek) == some ['\x7d'] then return none
    let low ← plainWhile saved.rest.length Char.isDigit
    let high ← if ← accept ',' then plainWhile saved.rest.length Char.isDigit else pure low
    unless ← accept '\x7d' do
      set saved
      return none
    let least ← if low.isEmpty then pure 0 else bound low
    if high.isEmpty then return some (least, none)
    let most ← bound high
    if most < least then failAt (start + 1) .boundsReversed
    return some (least, some most)

def greed : Reading Greed := do
  if ← accept '?' then return .lazy
  else if ← accept '+' then return .possessive
  else return .greedy

def repeatLast (start least : Nat) (most : Option Nat) (parts : List Part) :
    Reading (List Part) := do
  match parts with
  | [] => failAt start .nothingToRepeat
  | i :: is =>
    match i.kind with
    | .anchor => failAt start .nothingToRepeat
    | .repeated => failAt start .multipleRepeat
    | .plain =>
      let e := Expr.rounds (← greed) least most (Item.join i.items)
      return { kind := .repeated, items := [{ expr := e }] } :: is

/-- Switches turned on, a switch for the whole pattern among them, the Unicode
switch. -/
structure Switches where
  on : Mode := {}
  unicode : Bool := false
  wholePattern : Bool := false

def isSwitch (c : Char) : Bool := ['i', 'L', 'm', 's', 'x', 'a', 't', 'u'].contains c

def Switches.turn (s : Switches) : Char → Switches
  | 'i' => { s with on := { s.on with ignoreCase := true } }
  | 'm' => { s with on := { s.on with byLine := true } }
  | 's' => { s with on := { s.on with dotAll := true } }
  | 'x' => { s with on := { s.on with spaced := true } }
  | 'a' => { s with on := { s.on with asciiOnly := true } }
  | 'u' => { s with unicode := true }
  | 't' => { s with wholePattern := true }
  | _ => s

def isSwitchText (t : List Char) : Bool :=
  match t with
  | [c] => isSwitch c
  | _ => false

def isLetterText (t : List Char) : Bool :=
  match t with
  | [c] => isLetter c
  | _ => false

def switchesOn : Nat → Switches → Char → Reading (Switches × Char)
  | 0, s, _ => return (s, ':')
  | fuel + 1, s, c => do
    if c = 'L' then fail .localeSwitch
    let s := s.turn c
    if s.unicode && s.on.asciiOnly then fail .clashingSwitches
    let some t ← next | fail .missingSwitchEnd
    match t with
    | [d] =>
      if d = ')' ∨ d = '-' ∨ d = ':' then return (s, d)
      if isSwitch d then switchesOn fuel s d
      else fail (if isLetterText t then .unknownSwitch else .missingSwitchEnd) t.length
    | _ => fail .missingSwitchEnd t.length

def switchesOff : Nat → Switches → Char → Reading Switches
  | 0, s, _ => return s
  | fuel + 1, s, c => do
    if c = 'L' ∨ c = 'a' ∨ c = 'u' then fail .turnsOffAlphabet
    let s := s.turn c
    let some t ← next | fail .missingColon
    if t == [':'] then return s
    match t with
    | [d] =>
      if isSwitch d then switchesOff fuel s d
      else fail (if isLetterText t then .unknownSwitch else .missingColon) t.length
    | _ => fail .missingColon t.length

def Switches.meets (s t : Switches) : Bool :=
  (s.on.ignoreCase && t.on.ignoreCase) || (s.on.byLine && t.on.byLine) ||
  (s.on.dotAll && t.on.dotAll) || (s.on.spaced && t.on.spaced)

def Mode.apply (m : Mode) (on off : Switches) : Mode where
  ignoreCase := (m.ignoreCase || on.on.ignoreCase) && !off.on.ignoreCase
  asciiOnly := (m.asciiOnly && !on.unicode) || on.on.asciiOnly
  byLine := (m.byLine || on.on.byLine) && !off.on.byLine
  dotAll := (m.dotAll || on.on.dotAll) && !off.on.dotAll
  spaced := (m.spaced || on.on.spaced) && !off.on.spaced

/-- The mode that a switch group, of which the first sign is given, sets for its
contents. A switch for the whole pattern would have to stand first, and patterns
here begin with a brace. -/
def switches (m : Mode) (start : Nat) (c : Char) : Reading Mode := do
  let fuel := (← get).rest.length + 1
  let (on, last) ← if c = '-' then pure ({}, '-') else switchesOn fuel {} c
  if last = ')' then failAt start .switchesNotFirst
  if on.wholePattern then fail .turnsOnWholePattern 1
  let off ← if last = '-' then do
      let some t ← next | fail .missingSwitch
      match t with
      | [d] =>
        if isSwitch d then switchesOff fuel {} d
        else fail (if isLetterText t then .unknownSwitch else .missingSwitch) t.length
      | _ => fail .missingSwitch t.length
    else pure {}
  if off.wholePattern then fail .turnsOffWholePattern 1
  if on.meets off then fail .turnedOnAndOff 1
  return Mode.apply m on off

def groupLimit : Nat := 1073741823

def conditionGroup : Reading Nat := do
  let name ← nameUntil ')' "group name"
  let back := name.length + 1
  if isIdentifier name then
    match ← groupNamed? name with
    | some n => return n
    | none => fail (.unknownGroup (String.ofList name)) back
  else
    match readInteger 10 name with
    | .ok (.ofNat n) =>
      if n = 0 then fail .groupZero back
      if groupLimit ≤ n then fail (.noSuchGroup n) back
      let here ← position
      modify fun r =>
        if (r.asked.lookup n).isSome then r
        else { r with asked := r.asked ++ [(n, here - back)] }
      return n
    | _ => fail (.badGroupName (String.ofList name)) back

def skipRemark (start : Nat) : Reading Unit := do
  let r ← get
  let body := r.rest.takeWhile fun t => t.text != [')']
  match r.rest.drop body.length with
  | [] => failAt start .unterminatedComment
  | _ :: ts => continueWith ts

def skipLine : Reading Unit := do
  let r ← get
  continueWith ((r.rest.dropWhile fun t => t.text != ['\n']).drop 1)

def isPatternSpace (c : Char) : Bool := isAsciiBlank c

inductive Opening where
  | numbered (name : Option (List Char))
  | unnumbered
  | switched (mode : Mode)
  | atomic
  | look (behind negated : Bool)
  | condition
  | done (part : Option Part)

def namedBackReference (m : Mode) : Reading Part := do
  let name ← nameUntil ')' "group name"
  checkGroupName name
  match ← groupNamed? name with
  | none => fail (.unknownGroup (String.ofList name)) (name.length + 1)
  | some n =>
    unless ← isClosed n do fail .openGroup (name.length + 1)
    checkBehind n
    return .ofExpr (.again m n)

def opening (m : Mode) (start : Nat) : Reading Opening := do
  unless ← accept '?' do return .numbered none
  let some t ← next | fail .unexpectedEnd
  match t with
  | ['P'] =>
    if ← accept '<' then
      let name ← nameUntil '>' "group name"
      checkGroupName name
      return .numbered (some name)
    else if ← accept '=' then return .done (some (← namedBackReference m))
    else
      let some u ← next | fail .unexpectedEnd
      fail (.unknownExtension ("P" ++ String.ofList u)) (u.length + 2)
  | [':'] => return .unnumbered
  | ['#'] =>
    skipRemark start
    return .done none
  | ['='] => return .look false false
  | ['!'] => return .look false true
  | ['<'] =>
    let some u ← next | fail .unexpectedEnd
    if u == ['='] then return .look true false
    else if u == ['!'] then return .look true true
    else fail (.unknownExtension ("<" ++ String.ofList u)) (u.length + 2)
  | ['('] => return .condition
  | ['>'] => return .atomic
  | _ =>
    match t with
    | [c] =>
      if c = '-' || isSwitch c then return .switched (← switches m start c)
      else fail (.unknownExtension (String.ofList t)) (t.length + 1)
    | _ => fail (.unknownExtension (String.ofList t)) (t.length + 1)

def closing (start : Nat) : Reading Unit := do
  unless ← accept ')' do failAt start .unterminatedGroup

def enterBehind : Reading (Option Nat) := do
  let saved := (← get).behindFrom
  let n ← groupCount
  if saved.isNone then modify fun r => { r with behindFrom := some n }
  return saved

def leaveBehind (saved : Option Nat) : Reading Unit :=
  modify fun r => { r with behindFrom := saved }

def behindLimit : Nat := 0x80000000

def look (behind negated : Bool) (e : Expr) : Reading Expr := do
  if behind then
    let w ← widthOf e
    if w.least != w.most then modify fun r => { r with loose := true }
    if behindLimit ≤ w.least then modify fun r => { r with wide := true }
    return .behind negated w.least e
  else return .ahead negated e

/-- The expression of a sign that is neither escape, class, group nor repetition. -/
def sign (m : Mode) (c : Char) : Expr :=
  match c with
  | '.' => .one m (if m.dotAll then { negated := true, items := [] } else .excluding ['\n'])
  | '^' => .anchor (if m.byLine then .lineStart else .textStart)
  | '$' => .anchor (if m.byLine then .lineEnd else .lastLineEnd)
  | _ => oneOf m c.toNat

mutual

/-- Alternatives up to the end of the group; those read so far come last one first. -/
def alternatives : Nat → Mode → List (List Item) → Reading (List Item)
  | 0, m, done => return Item.branch m done.reverse
  | fuel + 1, m, done => do
    let row ← items fuel m []
    if ← accept '|' then alternatives fuel m (row :: done)
    else return Item.branch m (row :: done).reverse

/-- Items up to the end of the alternative; the parts read so far come last one first. -/
def items : Nat → Mode → List Part → Reading (List Item)
  | 0, _, done => return Part.row done
  | fuel + 1, m, done => do
    let start ← position
    let some t ← peek | return Part.row done
    if t == ['|'] || t == [')'] then return Part.row done
    let _ ← next
    match t with
    | [c] =>
      if m.spaced && isPatternSpace c then items fuel m done
      else if m.spaced && c = '#' then
        skipLine
        items fuel m done
      else if c = '[' then items fuel m (.ofExpr (.one m (← charClass start)) :: done)
      else if c = '(' then
        match ← group fuel m start with
        | some i => items fuel m (i :: done)
        | none => items fuel m done
      else if c = '?' ∨ c = '*' ∨ c = '+' ∨ c = '\x7b' then
        match ← bounds? c start with
        | some (least, most) => items fuel m (← repeatLast start least most done)
        | none => items fuel m (.ofExpr (sign m c) :: done)
      else items fuel m (.ofExpr (sign m c) :: done)
    | ['\\', c] => items fuel m (.ofExpr (← escape m c) :: done)
    | _ => items fuel m done

def group : Nat → Mode → Nat → Reading (Option Part)
  | 0, _, _ => return none
  | fuel + 1, m, start => do
    match ← opening m start with
    | .done i => return i
    | .look behind negated =>
      let saved ← if behind then enterBehind else pure (← get).behindFrom
      let row ← alternatives fuel m []
      if behind then leaveBehind saved
      closing start
      return some (.ofExpr (← look behind negated (Item.join row)))
    | .condition =>
      let n ← conditionGroup
      checkBehind n
      let yes ← items fuel m []
      if ← accept '|' then
        let no ← items fuel m []
        if (← peek) == some ['|'] then fail .tooManyBranches
        closing start
        return some (.ofExpr (.ifGroup n (Item.join yes) (Item.join no)))
      else
        closing start
        return some (.ofExpr (.ifGroup n (Item.join yes) .empty))
    | .numbered name =>
      let n ← openGroup name
      let e := Item.join (← alternatives fuel m [])
      closing start
      closeGroup n e
      return some (.ofExpr (.group n e))
    | .unnumbered =>
      let row ← alternatives fuel m []
      closing start
      return some { items := row }
    | .switched inner =>
      let row ← alternatives fuel inner []
      closing start
      return some { items := [{ expr := Item.join row, isSealed := true }] }
    | .atomic =>
      let row ← alternatives fuel m []
      closing start
      return some (.ofExpr (.atomic (Item.join row)))

end

def whole : Reading Expr := do
  let r ← get
  continueWith r.rest
  let row ← alternatives (3 * r.size + 4) {} []
  unless (← peek).isNone do fail .unbalanced
  let r ← get
  for (n, place) in r.asked do
    if r.groups ≤ n then failAt place (.noSuchGroup n)
  if r.loose then throw (.fault ⟨.looseLookBehind, none⟩)
  if r.wide then throw (.excess .lookBehind)
  return Item.join row

end Reading

def parse (text : List Char) : Except Failure Expr :=
  (Reading.whole.run { rest := tokensFrom 0 text, size := text.length }).map (·.1)

end DocBraces.Pattern
