import DocBraces.Tools.Lines
import DocBraces.Tools.Printing
import DocBraces.Tools.Regex

/-!
# Counting

Rows of numbers, prime factors, and expressions over arguments.
-/

set_option autoImplicit false

namespace DocBraces.Tools

open DocBraces.Text

structure Decimal where
  value : Int
  places : Nat
  /-- Characters in front of the point, a sign included. -/
  front : Nat

def exponent? (cs : List Char) : Option Int :=
  match cs with
  | [] => some 0
  | e :: cs =>
    let ds := if cs.head? == some '-' || cs.head? == some '+' then cs.drop 1 else cs
    if (e == 'e' || e == 'E') && !ds.isEmpty && ds.all Char.isDigit && ds.length < 5 then
      some (if cs.head? == some '-' then -(ofDigits 10 ds : Int) else ofDigits 10 ds)
    else none

def Decimal.moved (d : Decimal) (e : Int) : Decimal :=
  if e < 0 then { d with places := d.places + e.natAbs }
  else
    let kept := d.places - e.natAbs
    let value := d.value * Nat.pow 10 (e.natAbs - d.places)
    { value, places := kept, front := d.front + e.natAbs }

def readDecimal (bs : Bytes) : Option Decimal :=
  let cs := (textOf bs).dropWhile isSpaceBefore
  let negative := cs.head? == some '-'
  let body := if negative || cs.head? == some '+' then cs.drop 1 else cs
  let whole := body.takeWhile Char.isDigit
  let (part, rest) := match body.drop whole.length with
    | '.' :: more => (more.takeWhile Char.isDigit, more.dropWhile Char.isDigit)
    | rest => ([], rest)
  if whole.isEmpty && part.isEmpty then none
  else
    let n : Int := ofDigits 10 (whole ++ part)
    let front := max 1 whole.length + if negative then 1 else 0
    (exponent? rest).map (Decimal.moved ⟨if negative then -n else n, part.length, front⟩)

def Decimal.scaled (d : Decimal) (places : Nat) : Int :=
  d.value * Nat.pow 10 (places - d.places)

def decimalText (places : Nat) (n : Int) : List Char :=
  (if n < 0 then ['-'] else []) ++ pointed places false n.natAbs

def behindPercent : List Char → Option (List Char)
  | '%' :: '%' :: cs => behindPercent cs
  | '%' :: cs => some cs
  | _ :: cs => behindPercent cs
  | [] => none

def formatComplaint? (format : List Char) : Option String :=
  let shown := String.ofList format
  match behindPercent format with
  | none => some s!"format {quotedText shown} has no % directive"
  | some cs =>
    let cs := (cs.dropWhile "-+#0 '".toList.contains).dropWhile Char.isDigit
    let cs := if cs.head? == some '.' then (cs.drop 1).dropWhile Char.isDigit else cs
    let cs := if cs.head? == some 'L' then cs.drop 1 else cs
    match cs with
    | [] => some s!"format {quotedText shown} ends in %"
    | c :: cs =>
      if !"efgaEFGA".toList.contains c then
        some s!"format {quotedText shown} has unknown %{c} directive"
      else (behindPercent cs).map fun _ => s!"format {quotedText shown} has too many % directives"

def rowLimit : Nat := 200000

def rowOf (first step last : Int) : List Int :=
  if step = 0 then []
  else
    let span := if 0 < step then last - first else first - last
    if span < 0 then []
    else
      let count := min rowLimit (span / step.natAbs).toNat + 1
      (List.range count).map fun (i : Nat) => first + step * i

def sequence : Tool := Work.tool fun c => do
  let isNegative := fun (a : Bytes) => a.head? == some 45 && (readDecimal a).isSome
  let front := c.args.takeWhile (!isNegative ·)
  let args := if front.length = c.args.length then c.args
    else front ++ bytes "--" :: c.args.drop front.length
  let fs ← match readFlags [.valued 'f' "format", .valued 's' "separator",
      .switch 'w' "equal-width"] false args with
    | .ok fs => pure { fs with operands := fs.operands.filter (· != bytes "--") }
    | .error message => misused c.name 1 message
  match (fs.value? "format").bind fun f => formatComplaint? (textOf f) with
  | some message => Work.die 1 s!"{c.name}: {message}"
  | none => pure ()
  if (fs.value? "format").isSome && fs.has "equal-width" then
    misused c.name 1 "format string may not be specified when printing equal width strings"
  let number := fun (a : Bytes) => do
    match readDecimal a with
    | some d => return d
    | none => misused c.name 1 s!"invalid floating point argument: {quoted a}"
  let (first, step, last) ← match fs.operands with
    | [] => misused c.name 1 "missing operand"
    | [l] => pure ((⟨1, 0, 1⟩ : Decimal), (⟨1, 0, 1⟩ : Decimal), ← number l)
    | [f, l] => pure (← number f, (⟨1, 0, 1⟩ : Decimal), ← number l)
    | [f, s, l] =>
      let step ← number s
      if step.value = 0 then misused c.name 1 s!"invalid Zero increment value: {quoted s}"
      pure (← number f, step, ← number l)
    | _ :: _ :: _ :: extra :: _ => misused c.name 1 s!"extra operand {quoted extra}"
  let places := max first.places step.places
  let common := max places last.places
  let values := rowOf (first.scaled common) (step.scaled common) (last.scaled common)
  let shownAt := fun (n : Int) => decimalText places (n / Nat.pow 10 (common - places))
  let width := (values.map fun n => (shownAt n).length).foldl max 0
  let wide := max width (if last.places = 0 && places = 0 then last.front else 0)
  let texts := values.map fun n =>
    let cs := shownAt n
    match fs.value? "format" with
    | some f =>
      let p := Printing.run { name := c.name, builtin := false } (Octets.ofBytes f)
        [decimalText common n]
      Octets.toBytes p.output
    | none =>
      bytes (String.ofList (if fs.has "equal-width" then
          (match cs with
            | '-' :: ds => '-' :: padLeft (wide - 1) '0' ds
            | ds => padLeft wide '0' ds)
        else cs))
  let separator := (fs.value? "separator").getD [newline]
  if !texts.isEmpty then Work.print ((texts.intersperse separator).flatten ++ [newline])

def factorsFrom : Nat → Nat → Nat → List Nat
  | 0, _, n => [n]
  | fuel + 1, p, n =>
    if n < 2 then []
    else if n < p * p then [n]
    else if n % p = 0 then p :: factorsFrom fuel p (n / p)
    else factorsFrom fuel (p + 1) n

def factorize : Tool := Work.tool fun c => do
  let fs ← flagsOf c.name 1 [.switch 'h' "exponents"] c.args
  let words ← if fs.operands.isEmpty then
      match ← readInput c with
      | .ok bs => pure ((bs.splitBy fun a b => isBlankByte a == isBlankByte b).filter fun w =>
          !w.any isBlankByte)
      | .error _ => pure []
    else pure fs.operands
  words.forM fun w => do
    match number? w with
    | some n =>
      let parts := (factorsFrom 100000 2 n).map fun p => s!" {p}"
      Work.print (bytes s!"{n}:{String.join parts}\n")
    | none => Work.fault 1 s!"{c.name}: {quoted w} is not a valid positive integer"

abbrev Value := Bytes

inductive ExprFault where
  | missing (after : Bytes)
  | unexpected (word : Bytes)
  | unclosed (after : Bytes)
  | nonInteger
  | divisionByZero
  | regex (f : RegexFault)

def ExprFault.message : ExprFault → String
  | .missing w => s!"syntax error: missing argument after {quoted w}"
  | .unexpected w => s!"syntax error: unexpected argument {quoted w}"
  | .unclosed w => s!"syntax error: expecting ')' after {quoted w}"
  | .nonInteger => "non-integer argument"
  | .divisionByZero => "division by zero"
  | .regex f => f.message

def valueOfInt (n : Int) : Value := bytes (String.ofList (digitsOfInt n))

def intOf? (v : Value) : Option Int := if v.head? == some 43 then none else integer? v

def isNull (v : Value) : Bool :=
  v.isEmpty || (match v with
    | 45 :: ds => !ds.isEmpty && ds.all (· == 48)
    | ds => ds.all (· == 48))

def matchValue (text pattern : Bytes) : Except ExprFault Value :=
  match readRegex {} (lineChars pattern) with
  | .error f => .error (.regex f)
  | .ok (e, groups) =>
    match e.longest? { looksBack := e.looksBack } { before := [], after := lineChars text } with
    | some q =>
      if 0 < groups then .ok (lineBytes ((q.groups.lookup 1).getD []))
      else .ok (valueOfInt ((lineChars text).length - q.after.length : Int))
    | none => .ok (if 0 < groups then [] else bytes "0")

def applyBinary (op : String) (a b : Value) : Except ExprFault Value := do
  let numbers := fun (f : Int → Int → Except ExprFault Int) => do
    match intOf? a, intOf? b with
    | some m, some n => return valueOfInt (← f m n)
    | _, _ => throw .nonInteger
  let compared := fun (test : Ordering → Bool) =>
    let o := match intOf? a, intOf? b with
      | some m, some n => compare m n
      | _, _ => compare (a.map UInt8.toNat) (b.map UInt8.toNat)
    bytes (if test o then "1" else "0")
  match op with
  | "|" => return if isNull a then (if isNull b then bytes "0" else b) else a
  | "&" => return if isNull a || isNull b then bytes "0" else a
  | "<" => return compared (· == .lt)
  | "<=" => return compared (· != .gt)
  | "=" => return compared (· == .eq)
  | "==" => return compared (· == .eq)
  | "!=" => return compared (· != .eq)
  | ">=" => return compared (· != .lt)
  | ">" => return compared (· == .gt)
  | "+" => numbers fun m n => pure (m + n)
  | "-" => numbers fun m n => pure (m - n)
  | "*" => numbers fun m n => pure (m * n)
  | "/" => numbers fun m n => if n = 0 then throw .divisionByZero else pure (m.tdiv n)
  | "%" => numbers fun m n => if n = 0 then throw .divisionByZero else pure (m.tmod n)
  | _ => matchValue a b

def levels : List (List String) :=
  [["|"], ["&"], ["<", "<=", "=", "==", "!=", ">=", ">"], ["+", "-"], ["*", "/", "%"], [":"]]

mutual

def readLevel : Nat → List (List String) → (last : Bytes) → List Bytes →
    Except ExprFault (Value × Bytes × List Bytes)
  | 0, _, last, ws => .ok ([], last, ws)
  | fuel + 1, [], last, ws => readTerm fuel last ws
  | fuel + 1, ops :: tighter, last, ws => do
    let (v, last, ws) ← readLevel fuel tighter last ws
    readOperators fuel ops tighter v last ws

def readOperators : Nat → List String → List (List String) → Value → Bytes → List Bytes →
    Except ExprFault (Value × Bytes × List Bytes)
  | 0, _, _, v, last, ws => .ok (v, last, ws)
  | fuel + 1, ops, tighter, v, last, ws => do
    match ws with
    | [] => return (v, last, [])
    | w :: rest =>
      let op := stringOf w
      if ops.contains op then
        let (x, last, rest) ← readLevel fuel tighter w rest
        readOperators fuel ops tighter (← applyBinary op v x) last rest
      else return (v, last, w :: rest)

def readTerm : Nat → Bytes → List Bytes → Except ExprFault (Value × Bytes × List Bytes)
  | 0, last, ws => .ok ([], last, ws)
  | fuel + 1, last, ws => do
    match ws with
    | [] => throw (.missing last)
    | w :: rest =>
      match stringOf w with
      | "(" =>
        let (v, last, rest) ← readLevel fuel levels w rest
        match rest with
        | p :: rest => if p == bytes ")" then return (v, p, rest) else throw (.unclosed last)
        | [] => throw (.unclosed last)
      | ")" => throw (.unexpected w)
      | "+" => match rest with
        | x :: rest => return (x, x, rest)
        | [] => throw (.missing w)
      | "length" =>
        let (v, last, rest) ← readTerm fuel w rest
        return (valueOfInt (textOf v).length, last, rest)
      | "match" =>
        let (v, last, rest) ← readTerm fuel w rest
        let (p, last, rest) ← readTerm fuel last rest
        return (← matchValue v p, last, rest)
      | "index" =>
        let (v, last, rest) ← readTerm fuel w rest
        let (p, last, rest) ← readTerm fuel last rest
        let place := (textOf v).findIdx? (textOf p).contains
        return (valueOfInt (place.elim 0 (· + 1) : Nat), last, rest)
      | "substr" =>
        let (v, last, rest) ← readTerm fuel w rest
        let (i, last, rest) ← readTerm fuel last rest
        let (n, last, rest) ← readTerm fuel last rest
        let part := match intOf? i, intOf? n with
          | some i, some n =>
            if i ≤ 0 || n ≤ 0 then [] else ((textOf v).drop (i.toNat - 1)).take n.toNat
          | _, _ => []
        return (Utf8.encode part, last, rest)
      | _ => return (w, w, rest)

end

def evaluate : Tool := Work.tool fun c => do
  let args := if c.args.head? == some (bytes "--") then c.args.drop 1 else c.args
  if args.isEmpty then misused c.name 2 "missing operand"
  match readLevel (16 * args.length + 16) levels [] args with
  | .error f => Work.die 2 s!"{c.name}: {f.message}"
  | .ok (_, _, w :: _) => Work.die 2 s!"{c.name}: {(ExprFault.unexpected w).message}"
  | .ok (v, _, []) =>
    Work.print (v ++ [newline])
    Work.setStatus (if isNull v then 1 else 0)

end DocBraces.Tools
