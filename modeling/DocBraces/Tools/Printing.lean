import DocBraces.Tools.Flag
import DocBraces.Tools.Real
import DocBraces.Tools.Script

/-!
# Printing tools

Writing arguments, as they are or under a format.
-/

set_option autoImplicit false

namespace DocBraces.Tools

open DocBraces.Text

/-- Which escapes and directives a printing tool knows, and what its complaints begin
with. -/
structure Dialect where
  name : String
  builtin : Bool
  /-- Codes that lack their digits are faults. -/
  strict : Bool := false

inductive Escape where
  /-- Octets, and how many octets spell them. -/
  | text (cs : Octets) (length : Nat)
  /-- All output ends. -/
  | ended
  | fault (message : String)

def simpleEscape? : Char → Option Nat
  | 'a' => some 7
  | 'b' => some 8
  | 'e' => some 27
  | 'f' => some 12
  | 'n' => some 10
  | 'r' => some 13
  | 't' => some 9
  | 'v' => some 11
  | '\\' => some 92
  | _ => none

def octet (n : Nat) : Octets := [Char.ofNat (n % 256)]

def universal (d : Dialect) (letter : Char) (count : Nat) (rest : Octets) : Escape :=
  let code := (rest.take count).takeWhile isHexDigit
  let n := ofDigits 16 code
  if !d.strict then .text ('\\' :: [letter]) 1
  else if code.length < count then .fault "missing hexadecimal number in escape"
  else if 0xd800 ≤ n && n ≤ 0xdfff then
    .fault s!"invalid universal character name \\{letter}{String.ofList (hex count n)}"
  else .text (Octets.ofString (Char.ofNat n).toString) (count + 1)

/-- An escape behind a backslash. In arguments a zero in front of octal digits does not
count as one of them. -/
def readEscape (d : Dialect) (inArgument : Bool) (cs : Octets) : Escape :=
  match cs with
  | [] => .text ['\\'] 0
  | c :: rest =>
    match simpleEscape? c with
    | some n => .text (octet n) 1
    | none =>
      let zero := inArgument && c == '0'
      let ds := ((if zero then rest else cs).take 3).takeWhile isOctalDigit
      let code := fun (most : Nat) => (rest.take most).takeWhile isHexDigit
      if c == 'c' && (inArgument || !d.builtin) then .ended
      else if isOctalDigit c then
        .text (octet (ofDigits 8 ds)) ((if zero then 1 else 0) + ds.length)
      else if d.builtin then .text ('\\' :: [c]) 1
      else if c == '"' && !inArgument then .text ['"'] 1
      else if c == 'x' && !(code 2).isEmpty then
        .text (octet (ofDigits 16 (code 2))) (1 + (code 2).length)
      else if c == 'x' && d.strict then .fault "missing hexadecimal number in escape"
      else if c == 'u' then universal d c 4 rest
      else if c == 'U' then universal d c 8 rest
      else .text ('\\' :: [c]) 1

inductive TextEnd where
  | open_
  | ended
  | fault (message : String)
  deriving DecidableEq, Repr

def expandFrom (d : Dialect) : (left : Nat) → Octets → Octets × TextEnd
  | _, [] => ([], .open_)
  | n + 1, _ :: cs => expandFrom d n cs
  | 0, c :: cs =>
    if c == '\\' then match readEscape d true cs with
      | .ended => ([], .ended)
      | .fault message => ([], .fault message)
      | .text t n =>
        let (more, last) := expandFrom d n cs
        (t ++ more, last)
    else
      let (more, last) := expandFrom d 0 cs
      (c :: more, last)

def echoFlags (d : Dialect) : Bool → Bool → List Octets → Bool × Bool × List Octets
  | bare, escapes, a :: rest =>
    match a with
    | '-' :: f :: fs =>
      if d.builtin then
        (if fs.isEmpty && f == 'n' then (true, escapes, rest) else (bare, escapes, a :: rest))
      else if (f :: fs).all ['n', 'e', 'E'].contains then
        let escapes := (f :: fs).foldl (fun e c => if c == 'e' then true
          else if c == 'E' then false else e) escapes
        echoFlags d (bare || (f :: fs).contains 'n') escapes rest
      else (bare, escapes, a :: rest)
    | _ => (bare, escapes, a :: rest)
  | bare, escapes, [] => (bare, escapes, [])

def echoed (d : Dialect) (args : List Octets) : Octets :=
  let (bare, escapes, words) := echoFlags d false d.builtin args
  let line := (words.intersperse [' ']).flatten
  let (text, last) := if escapes then expandFrom d 0 line else (line, .open_)
  text ++ if bare || last ≠ .open_ then [] else ['\n']

structure Directive where
  flags : List Char := []
  width : Nat := 0
  precision : Option Nat := none
  kind : Char

def Directive.has (d : Directive) (c : Char) : Bool := d.flags.contains c

def Directive.align (d : Directive) (cs : Octets) : Octets :=
  let blanks := List.replicate (d.width - cs.length) ' '
  if d.has '-' then cs ++ blanks else blanks ++ cs

def Directive.fill (d : Directive) (front body : List Char) (zeros : Bool) : Octets :=
  let filled := if zeros && d.has '0' && !d.has '-' then
    padLeft (d.width - front.length) '0' body else body
  d.align (front ++ filled)

def Directive.sign (d : Directive) (negative : Bool) : List Char :=
  if negative then ['-'] else if d.has '+' then ['+'] else if d.has ' ' then [' '] else []

def Directive.whole (d : Directive) (n : Int) : Octets :=
  let size := if d.kind == 'd' || d.kind == 'i' then n.natAbs else (n % 0x10000000000000000).toNat
  let base := if d.kind == 'o' then 8 else if d.kind == 'x' || d.kind == 'X' then 16 else 10
  let ds := digits base size
  let ds := if d.kind == 'X' then ds.map Char.toUpper else ds
  let ds := if size = 0 && d.precision == some 0 then [] else ds
  let ds := padLeft (d.precision.getD 1) '0' ds
  let ds := if d.kind == 'o' && d.has '#' && ds.head? != some '0' then '0' :: ds else ds
  let front := if d.kind == 'd' || d.kind == 'i' then d.sign (n < 0)
    else if base = 16 && d.has '#' && size ≠ 0 then ['0', d.kind] else []
  d.fill front ds d.precision.isNone

def Directive.real (d : Directive) (r : Real) : Octets :=
  let upper := d.kind.isUpper
  let cased := fun (cs : List Char) => if upper then cs.map Char.toUpper else cs
  let p := d.precision.getD 6
  match r with
  | .infinite s => d.fill (d.sign s) (cased "inf".toList) false
  | .nan s => d.fill (d.sign s) (cased "nan".toList) false
  | .finite s n m =>
    let body := match d.kind.toLower with
      | 'e' => scientificText p (d.has '#') upper n m
      | 'g' => shorterText p (d.has '#') upper n m
      | _ => fixedText p (d.has '#') n m
    d.fill (d.sign s) body true

inductive NumberFault where
  | notNumeric
  | incomplete
  | tooLarge
  deriving DecidableEq, Repr

def NumberFault.message (d : Dialect) (arg : Octets) (f : NumberFault) : String :=
  let text := arg.text
  let shown := if d.builtin then text else quoted arg.toBytes
  shown ++ ": " ++ match f with
    | .notNumeric => if d.builtin then "expected numeric value" else "expected a numeric value"
    | .incomplete =>
      if d.builtin then "not completely converted" else "value not completely converted"
    | .tooLarge => "Numerical result out of range"

def isSpaceBefore (c : Char) : Bool := c == ' ' || ('\t' ≤ c && c ≤ '\r')

/-- The whole number that an argument spells; a quote stands for the code of what
follows. -/
def wholeArgument (asSigned : Bool) (arg : Octets) : Int × Option NumberFault :=
  let code := fun (rest : Octets) => match Utf8.decode (Octets.toBytes rest) with
    | .ok (c :: _) => (c.toNat : Int)
    | _ => ((rest.headD '\x00').toNat : Int)
  match arg with
  | [] => (0, none)
  | '\'' :: rest => (code rest, none)
  | '"' :: rest => (code rest, none)
  | _ =>
    let body := arg.dropWhile isSpaceBefore
    let negative := body.head? == some '-'
    let ds := if negative || body.head? == some '+' then body.drop 1 else body
    let (base, ds) := match ds with
      | '0' :: 'x' :: h :: more => if isHexDigit h then (16, h :: more) else (8, ds)
      | '0' :: 'X' :: h :: more => if isHexDigit h then (16, h :: more) else (8, ds)
      | '0' :: _ => (8, ds)
      | _ => (10, ds)
    let read := ds.takeWhile fun c => (digitValue? c).any (· < base)
    let size := ofDigits base read
    let n : Int := if negative then -(size : Int) else size
    if read.isEmpty then (0, some .notNumeric)
    else if ds.length ≠ read.length then (n, some .incomplete)
    else if asSigned then
      (if n < -0x8000000000000000 then (-0x8000000000000000, some .tooLarge)
        else if 0x8000000000000000 ≤ n then (0x7fffffffffffffff, some .tooLarge) else (n, none))
    else if 0x10000000000000000 ≤ size then (0xffffffffffffffff, some .tooLarge)
    else (n, none)

def realArgument (bits : Nat) (arg : Octets) : Real × Option NumberFault :=
  let zero := Real.finite false 0 1
  match arg with
  | [] => (zero, none)
  | '\'' :: c :: _ => (.finite false c.toNat 1, none)
  | '"' :: c :: _ => (.finite false c.toNat 1, none)
  | _ => match readReal (arg.dropWhile isSpaceBefore) with
    | none => (zero, some .notNumeric)
    | some (r, rest) => (r.round bits, if rest.isEmpty then none else some .incomplete)

structure Printing where
  args : List Octets
  output : Octets := []
  complaints : List String := []
  status : Nat := 0
  used : Bool := false
  stopped : Bool := false

namespace Printing

def put (p : Printing) (cs : Octets) : Printing := { p with output := p.output ++ cs }

def next (p : Printing) : Octets × Printing :=
  (p.args.head?.getD [], { p with args := p.args.drop 1, used := true })

def complain (p : Printing) (message : String) : Printing :=
  { p with complaints := p.complaints ++ [message], status := 1 }

def refuse (d : Dialect) (p : Printing) (text : Octets) : Printing :=
  let message := if d.builtin then
      (if text.length ≤ 1 || (text.drop 1).all Char.isDigit then "missing format character"
        else s!"{text.text}: invalid directive")
    else s!"{text.text}: invalid conversion specification"
  { p.complain message with stopped := true, status := if d.builtin then 2 else 1 }

def numberFrom (d : Dialect) (p : Printing) (asSigned : Bool) : Int × Printing :=
  let (a, p) := p.next
  let (n, bad) := wholeArgument asSigned a
  match bad with
  | none => (n, p)
  | some f => (n, p.complain (f.message d a))

def directive (d : Dialect) (p : Printing) (r : Directive) (text : Octets) : Printing :=
  let printedText := fun (cs : Octets) => r.align (match r.precision with
    | some n => cs.take n
    | none => cs)
  match r.kind with
  | 's' =>
    let (a, p) := p.next
    p.put (printedText a)
  | 'c' =>
    let (a, p) := p.next
    p.put (r.align ((a ++ ['\x00']).take 1))
  | 'b' =>
    let (a, p) := p.next
    let (cs, last) := expandFrom d 0 a
    match last with
    | .open_ => p.put (printedText cs)
    | .ended => { p.put (printedText cs) with stopped := true }
    | .fault message => { (p.put cs).complain message with stopped := true }
  | k =>
    if k == 'd' || k == 'i' then
      let (n, p) := p.numberFrom d true
      p.put (r.whole n)
    else if k == 'u' || k == 'o' || k == 'x' || k == 'X' then
      let (n, p) := p.numberFrom d false
      p.put (r.whole n)
    else if ['f', 'F', 'e', 'E', 'g', 'G'].contains k then
      let (a, p) := p.next
      let (x, bad) := realArgument (if d.builtin then 53 else 64) a
      let p := match bad with
        | none => p
        | some f => p.complain (f.message d a)
      p.put (r.real x)
    else p.refuse d text

def amount (d : Dialect) (p : Printing) (cs : Octets) : Option Int × Octets × Printing :=
  match cs with
  | '*' :: rest =>
    let (n, p) := p.numberFrom d true
    (some n, rest, p)
  | _ =>
    let ds := cs.takeWhile Char.isDigit
    (if ds.isEmpty then none else some (ofDigits 10 ds : Int), cs.drop ds.length, p)

def percent (d : Dialect) (p : Printing) (cs : Octets) : Printing × Octets :=
  match cs with
  | '%' :: rest => (p.put ['%'], rest)
  | 'q' :: rest =>
    if d.builtin then (p.refuse d ['%', 'q'], rest)
    else
      let (a, p) := p.next
      (p.put (Octets.ofString (shellForm false [] a.toBytes)), rest)
  | _ =>
    let flags := cs.takeWhile ['-', '0', '+', ' ', '#', '\''].contains
    let (width, rest, p) := amount d p (cs.drop flags.length)
    let (precision, rest, p) := match rest with
      | '.' :: more =>
        let (n, rest, p) := amount d p more
        (some (n.getD 0), rest, p)
      | _ => (none, rest, p)
    let rest := if d.builtin then rest
      else rest.dropWhile ['h', 'l', 'L', 'j', 't', 'z'].contains
    let text := '%' :: cs.take (cs.length - rest.length)
    match rest with
    | [] => (p.refuse d text, [])
    | kind :: rest =>
      let flags := if width.any (· < 0) then '-' :: flags else flags
      let r : Directive :=
        { flags, width := (width.getD 0).natAbs, kind
          precision := precision.bind fun n => if n < 0 then none else some n.toNat }
      (p.directive d r (text ++ [kind]), rest)

def format (d : Dialect) : Nat → Octets → Printing → Printing
  | 0, _, p => p
  | fuel + 1, cs, p =>
    if p.stopped then p
    else match cs with
      | [] => p
      | '\\' :: rest => match readEscape d false rest with
        | .ended => { p with stopped := true }
        | .fault message => { p.complain message with stopped := true }
        | .text t n => format d fuel (rest.drop n) (p.put t)
      | '%' :: rest =>
        let (p, rest) := p.percent d rest
        format d fuel rest p
      | c :: rest => format d fuel rest (p.put [c])

def rounds (d : Dialect) (text : Octets) : Nat → Printing → Printing
  | 0, p => p
  | fuel + 1, p =>
    let q := format d (text.length + 1) text { p with used := false }
    if q.stopped || q.args.isEmpty || !q.used then q else rounds d text fuel q

def run (d : Dialect) (text : Octets) (args : List Octets) : Printing :=
  let p := rounds d text (args.length + 1) { args }
  if !d.builtin && !p.stopped && !p.args.isEmpty then
    { p with complaints := p.complaints ++
        [s!"warning: ignoring excess arguments, starting with {quoted (p.args.headD []).toBytes}"] }
  else p

end Printing

def echo : Tool := Work.tool fun c => do
  Work.print (echoed { name := c.name, builtin := false } (c.args.map Octets.ofBytes)).toBytes

def printf : Tool := Work.tool fun c => do
  let args := match c.args with
    | a :: rest => if a == bytes "--" then rest else a :: rest
    | [] => []
  match args.map Octets.ofBytes with
  | [] => misused c.name 1 "missing operand"
  | text :: rest =>
    let p := Printing.run { name := c.name, builtin := false, strict := true } text rest
    let warned := p.complaints.filter fun m => "warning".toList.isPrefixOf m.toList
    let faults := p.complaints.filter fun m => !"warning".toList.isPrefixOf m.toList
    faults.forM fun m => Work.complain s!"{c.name}: {m}"
    Work.print p.output.toBytes
    warned.forM fun m => Work.complain s!"{c.name}: {m}"
    Work.setStatus p.status

end DocBraces.Tools
