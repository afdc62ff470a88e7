import DocBraces.Pattern.Matching
import DocBraces.Pattern.Parse
import DocBraces.Tools.Flag
import DocBraces.Tools.Folders
import DocBraces.Tools.Regex

/-!
# Searching

Lines that match one of several expressions, with lines around them, or what matched of
them, or how many there are.
-/

set_option autoImplicit false

namespace DocBraces.Tools

open DocBraces.Text DocBraces.Files

namespace Search

abbrev Lengths := List Char → List Char → List Nat

inductive Form where
  | basic
  | extended
  | fixed
  | perl
  deriving DecidableEq, Repr

def strays (s : Spelling) : Nat → (start : Bool) → List Char → List String
  | 0, _, _ => []
  | fuel + 1, start, cs =>
    let warn := fun (what : String) (rest : List Char) =>
      (if start then [what] else []) ++ strays s fuel start rest
    match nextSign s cs with
    | (.ended, _) => []
    | (.star, rest) => warn "*" rest
    | (.plus, rest) => warn "+" rest
    | (.question, rest) => warn "?" rest
    | (.brace, rest) => match readBounds s rest with
      | .ok (_, _, rest) => warn "\x7b...\x7d" rest
      | .error _ => strays s fuel false rest
    | (.opening, rest) => strays s fuel true rest
    | (.bar, rest) => strays s fuel true rest
    | (.caret, rest) => strays s fuel start rest
    | (.bracket, rest) => match readBracket rest with
      | .ok (_, rest) => strays s fuel false rest
      | .error _ => []
    | (_, rest) => strays s fuel false rest

def perlComplaint : Pattern.Failure → String
  | .fault f => match f.reason with
    | .unterminatedGroup => "missing closing parenthesis"
    | .unbalanced => "unmatched closing parenthesis"
    | .unterminatedClass => "missing terminating ] for character class"
    | .nothingToRepeat => "quantifier does not follow a repeatable item"
    | .danglingEscape => "\\ at end of pattern"
    | r => r.text
  | .excess e => e.message

def switched (anyCase : Bool) (cs : List Char) : List Char :=
  let lead := "(?i".toList
  if (lead ++ [')']).isPrefixOf cs then lead ++ ':' :: cs.drop 4 ++ [')']
  else if anyCase then lead ++ ':' :: cs ++ [')']
  else cs

def Form.lengths (form : Form) (anyCase : Bool) (cs : List Char) : Except String Lengths :=
  let spots := fun (m : Manner) (e : Regex) => fun (before after : List Char) =>
    ((e.ends m { before, after }).map (·.place)).mergeSort (fun a b => b ≤ a)
  match form with
  | .fixed => .ok (spots { anyCase } (cs.foldr (fun c e => .seq (.char c) e) .empty))
  | .perl =>
    match Pattern.parse (switched anyCase cs) with
    | .ok e => .ok fun before after => (e.lengthAt? false before after).toList
    | .error f => .error (perlComplaint f)
  | _ => match readRegex { extended := form = .extended } cs with
    | .ok (e, _) => .ok (spots { anyCase, looksBack := e.looksBack } e)
    | .error f => .error f.message

structure Plan where
  choices : List Lengths
  words : Bool := false
  lines : Bool := false
  inverted : Bool := false

def Plan.lengthAt? (p : Plan) (before after : List Char) : Option Nat :=
  let fits := fun (lengths : List Nat) =>
    if p.lines then lengths.find? fun n => before.isEmpty && n == after.length
    else if p.words then
      let bounded := fun n => !before.head?.any isWordChar && !(after.drop n).head?.any isWordChar
      match lengths with
      | 0 :: _ => if bounded 0 then some 0 else none
      | ns => (ns.filter (0 < ·)).find? bounded
    else lengths.head?
  (p.choices.filterMap fun f => fits (f before after)).foldl
    (fun best n => some (max n (best.getD 0))) none

def Plan.first? (p : Plan) : (before after : List Char) → Option (List Char × List Char × Nat)
  | before, [] => (p.lengthAt? before []).map fun n => (before, [], n)
  | before, c :: cs => match p.lengthAt? before (c :: cs) with
    | some n => some (before, c :: cs, n)
    | none => if p.lines then none else p.first? (c :: before) cs

def Plan.selects (p : Plan) (line : List Char) : Bool := (p.first? [] line).isSome != p.inverted

def Plan.parts (p : Plan) : Nat → (before after : List Char) → List (List Char × List Char)
  | 0, _, _ => []
  | fuel + 1, before, after => match p.first? before after with
    | none => []
    | some (front, rest, 0) => match rest with
      | [] => []
      | c :: cs => p.parts fuel (c :: front) cs
    | some (front, rest, n) =>
      (front, rest.take n) :: p.parts fuel ((rest.take n).reverse ++ front) (rest.drop n)

structure Display where
  numbers : Bool := false
  offsets : Bool := false
  onlyParts : Bool := false
  tabbed : Bool := false
  mark : UInt8 := newline
  after : Option Nat := none
  before : Option Nat := none
  most : Option Nat := none
  /-- Octets that are no text are shown as well. -/
  raw : Bool := false
  /-- Sources that are no text are passed over. -/
  skips : Bool := false

structure NumberedLine where
  number : Nat
  offset : Nat
  octets : Bytes
  selected : Bool

def numbered (selects : Bytes → Bool) (most : Option Nat) :
    (number offset : Nat) → List Bytes → List NumberedLine
  | _, _, [] => []
  | number, offset, l :: ls =>
    let selected := most != some 0 && selects l
    ⟨number, offset, l, selected⟩ ::
      numbered selects (if selected then most.map (· - 1) else most) (number + 1)
        (offset + l.length) ls

def distances : (since : Option Nat) → List NumberedLine → List (Option Nat)
  | _, [] => []
  | since, l :: ls =>
    let d := if l.selected then some 0 else since.map (· + 1)
    d :: distances d ls

def Display.visible (d : Display) (ls : List NumberedLine) : List NumberedLine :=
  let after := distances none ls
  let before := (distances none ls.reverse).reverse
  let near := fun (limit : Option Nat) (dist : Option Nat) => dist.any (· ≤ limit.getD 0)
  ((ls.zip (after.zip before)).filter fun e =>
    near d.after e.2.1 || near d.before e.2.2).map (·.1)

def Display.front (d : Display) (name : Option String) (l : NumberedLine) (shift : Nat) : Bytes :=
  let sep : UInt8 := if l.selected then 58 else 45
  let padded := fun (n : Nat) => bytes (String.ofList
    (padLeft (if d.tabbed then 19 else 0) ' ' (digits 10 n))) ++ [sep]
  let fields := (name.map fun n => bytes n ++ [sep]).toList ++
    (if d.numbers then [padded l.number] else []) ++
    (if d.offsets then [padded (l.offset + shift)] else [])
  fields.flatten ++ if d.tabbed && !fields.isEmpty then [9] else []

def isNoText (bs : Bytes) : Bool :=
  bs.contains 0 || match Utf8.decode bs with
    | .ok _ => false
    | .error _ => true

/-- A line as it is shown, or what matched of it, without parts that are no text; says
whether there are such parts. -/
def Display.line (d : Display) (p : Plan) (name : Option String) (l : NumberedLine) :
    Bytes × Bool :=
  let body := dropMark d.mark l.octets
  let shown := if d.onlyParts then
      if !l.selected || p.inverted then []
      else
        let cs := lineChars body
        (p.parts (cs.length + 1) [] cs).map fun (front, part) =>
          ((lineBytes front).length, lineBytes part)
    else [(0, body)]
  let kept := shown.filter fun (_, bs) => d.raw || !isNoText bs
  (kept.flatMap fun (shift, bs) => d.front name l shift ++ bs ++ [d.mark],
    kept.length < shown.length)

/-- The lines that are shown of a source, with bars between those that are apart; says
whether anything was left out, and what line was shown last. -/
def Display.body (d : Display) (p : Plan) (name : Option String) :
    (last : Option Nat) → List NumberedLine → Bytes × Bool × Option Nat
  | last, [] => ([], false, last)
  | last, l :: ls =>
    let isGap := (d.after.isSome || d.before.isSome) && last.any fun n => n + 1 ≠ l.number
    let bar := if isGap then bytes "--\n" else []
    let (text, broken) := d.line p name l
    let (rest, brokenLater, last) := d.body p name (some l.number) ls
    (bar ++ text ++ rest, broken || brokenLater, last)

inductive Answer where
  | lines
  | count
  | names (matching : Bool)
  | status
  deriving DecidableEq, Repr

structure Outcome where
  found : Bool := false
  /-- The line that was shown last, in any source; zero is a line of another source. -/
  last : Option Nat := none

def searchSource (c : Call) (p : Plan) (d : Display) (answer : Answer) (name : String)
    (labelled zeros : Bool) (o : Outcome) (bs : Bytes) : Work Outcome := do
  let hasNul := !d.raw && d.mark == newline && bs.contains 0
  let bs := if hasNul && d.skips then [] else bs
  let ls := if hasNul then (partsAt newline (bs.map fun b => if b = 0 then newline else b))
    else partsAt d.mark bs
  let selects := fun l => p.selects (lineChars (dropMark d.mark l))
  let found := numbered selects d.most 1 0 ls
  let count := (found.filter (·.selected)).length
  let label := if labelled then some name else none
  let ending : UInt8 := if zeros then 0 else newline
  let last ← match answer with
    | .status => pure o.last
    | .names matching => do
      if (0 < count) == matching then Work.print (bytes name ++ [ending])
      pure o.last
    | .count => do
      let front := if labelled then bytes name ++ (if zeros then [0] else [58]) else []
      Work.print (front ++ bytes (String.ofList (digits 10 count)) ++ [newline])
      pure o.last
    | .lines => do
      let (text, broken, last) := if hasNul then ([], decide (0 < count), o.last)
        else d.body p label (o.last.map fun _ => 0) (d.visible found)
      Work.print text
      if broken && !d.skips && 0 < count then
        Work.complain s!"{c.name}: {name}: binary file matches"
      pure last
  return { found := o.found || 0 < count, last }

def known : List Flag := [
  .switch 'G' "basic-regexp", .switch 'E' "extended-regexp", .switch 'F' "fixed-strings",
  .switch 'P' "perl-regexp", .valued 'A' "after-context", .valued 'B' "before-context",
  .longValued "binary-files", .switch 'U' "binary", .valued 'C' "context",
  ⟨"color", none, .mayTake⟩, ⟨"colour", none, .mayTake⟩, .valued 'e' "regexp",
  .valued 'f' "file",
  .switch 'i' "ignore-case", .switch 'v' "invert-match", .switch 'w' "word-regexp",
  .switch 'x' "line-regexp", .switch 'c' "count", .switch 'L' "files-without-match",
  .switch 'l' "files-with-matches", .valued 'm' "max-count", .switch 'o' "only-matching",
  .switch 'q' "quiet", .long "silent", .switch 's' "no-messages", .switch 'b' "byte-offset",
  .switch 'H' "with-filename", .switch 'h' "no-filename", .longValued "label",
  .switch 'n' "line-number", .switch 'T' "initial-tab", .switch 'Z' "null",
  .switch 'a' "text", .switch 'z' "null-data", .switch 'r' "recursive",
  .switch 'R' "dereference-recursive", .long "line-buffered", .long "no-ignore-case",
  .switch 'I' "skip-binary", .valued 'd' "directories"] ++ Flag.letters "y0123456789"

def usage : String :=
  "Usage: grep [OPTION]... PATTERNS [FILE]...\nTry 'grep --help' for more information."

def sourcesOf (c : Call) (deep : Bool) (names : List Bytes) : Work (List Bytes) := do
  if !deep then return (if names.isEmpty then [bytes "-"] else names)
  let t ← Work.tree
  let bare := names.isEmpty
  let found ← (if bare then [bytes "."] else names).mapM fun n => do
    match ← c.find true n with
    | .ok (.present p .folder) =>
      let all := Folders.walk t none (t.entries.length + 1)
        ⟨stringOf n, stringOf n, p, .folder, 0⟩
      return all.filterMap fun e => match e.node with
        | .file _ => some (bytes (if bare then String.ofList (e.path.toList.drop 2) else e.path))
        | _ => none
    | _ => return [n]
  return found.flatten

def contextOf (c : Call) (value : Option Bytes) : Work (Option Nat) :=
  match value with
  | none => pure none
  | some v => match number? v with
    | some n => pure (some n)
    | none => Work.die 2 s!"{c.name}: {stringOf v}: invalid context length argument"

def patternsOf (c : Call) (fs : Flags) : Work (List Bytes × List Bytes) := do
  let given ← (fs.given.filter fun g => g.1 == "regexp" || g.1 == "file").mapM fun g => do
    if g.1 == "regexp" then return if g.2.isEmpty then [[]] else bareLines (g.2 ++ [newline])
    else match ← readSource c g.2 with
      | .ok bs => return bareLines bs
      | .error why => Work.die 2 s!"{c.name}: {stringOf g.2}: {why}"
  if (fs.given.any fun g => g.1 == "regexp" || g.1 == "file") then
    return (given.flatten, fs.operands)
  else match fs.operands with
    | p :: rest => return (if p.isEmpty then [[]] else bareLines (p ++ [newline]), rest)
    | [] => Work.die 2 usage

def formOf (c : Call) (base : Form) (fs : Flags) : Work Form := do
  let words := ["extended-regexp", "fixed-strings", "basic-regexp", "perl-regexp"]
  let chosen := (words.filter fs.has)
  match chosen with
  | [] => return base
  | [w] => return match w with
    | "extended-regexp" => .extended
    | "fixed-strings" => .fixed
    | "basic-regexp" => .basic
    | _ => .perl
  | _ => Work.die 2 s!"{c.name}: conflicting matchers specified"

def run (base : Form) : Tool := Work.tool fun c => do
  let fs ← match readFlags known true c.args with
    | .ok fs => pure fs
    | .error message => Work.die 2 s!"{c.name}: {message}\n{usage}"
  let form ← formOf c base fs
  let ds := (fs.given.filter fun g => g.1.toList.all Char.isDigit).flatMap (·.1.toList)
  let both ← contextOf c (fs.value? "context")
  let both := if ds.isEmpty then both else some (ofDigits 10 ds)
  let after ← contextOf c (fs.value? "after-context")
  let before ← contextOf c (fs.value? "before-context")
  let most ← match fs.value? "max-count" with
    | none => pure none
    | some v => match integer? v with
      | some n => pure (if n < 0 then none else some n.toNat)
      | none => Work.die 2 s!"{c.name}: invalid max count"
  let (patterns, names) ← patternsOf c fs
  let anyCase := (fs.has "ignore-case" || fs.has "y") && !fs.has "no-ignore-case"
  let choices ← patterns.mapM fun bs => do
    let cs := lineChars bs
    if form = .extended then
      (strays { extended := true } (cs.length + 1) true cs).forM fun what =>
        Work.complain s!"{c.name}: warning: {what} at start of expression"
    match form.lengths anyCase cs with
    | .ok f => pure f
    | .error message => Work.die 2 s!"{c.name}: {message}"
  let p : Plan := { choices, words := fs.has "word-regexp", lines := fs.has "line-regexp",
                    inverted := fs.has "invert-match" }
  let d : Display := {
    numbers := fs.has "line-number", offsets := fs.has "byte-offset"
    onlyParts := fs.has "only-matching", tabbed := fs.has "initial-tab"
    mark := if fs.has "null-data" then 0 else newline
    after := after.or both, before := before.or both, most
    raw := fs.has "text" || fs.value? "binary-files" == some (bytes "text")
    skips := fs.has "skip-binary" || fs.value? "binary-files" == some (bytes "without-match") }
  let answer : Answer := if fs.has "quiet" || fs.has "silent" then .status
    else match fs.lastOf ["files-with-matches", "files-without-match"] with
      | some w => .names (w == "files-with-matches")
      | none => if fs.has "count" then .count else .lines
  let wantsNone := patterns == [[]] && p.inverted && !p.lines && !p.words
  if (most == some 0 || wantsNone) && answer ≠ .names false then Work.leave 1
  let deep := fs.has "recursive" || fs.has "dereference-recursive"
  let sources ← sourcesOf c deep names
  let labelled := match fs.lastOf ["with-filename", "no-filename"] with
    | some w => w == "with-filename"
    | none => 1 < sources.length || deep
  let inputName := ((fs.value? "label").map stringOf).getD "(standard input)"
  let mut o : Outcome := {}
  let mut failed := false
  for n in sources do
    match ← readSource c n with
    | .ok bs =>
      let name := if n == bytes "-" then inputName else stringOf n
      o ← searchSource c p d answer name labelled (fs.has "null") o bs
      if answer = .status && o.found then Work.leave 0
    | .error why =>
      failed := true
      if !fs.has "no-messages" then Work.complain s!"{c.name}: {stringOf n}: {why}"
  Work.setStatus (if failed then 2 else if o.found then 0 else 1)

end Search

def search : Tool := Search.run .basic

def searchAs (form : Search.Form) : Tool := fun c => Search.run form { c with name := "grep" }

end DocBraces.Tools
