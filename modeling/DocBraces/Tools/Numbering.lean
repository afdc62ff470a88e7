import DocBraces.Tools.Lines
import DocBraces.Tools.Regex

/-!
# Numbering

Numbers in front of lines. Lines of their own divide a text into headers, bodies and
footers, and each of these has its own way of being numbered.
-/

set_option autoImplicit false

namespace DocBraces.Tools

open DocBraces.Text

inductive Numbered where
  | all
  | nonblank
  | none
  | fitting (e : Regex)

def Numbered.fits (e : Regex) (l : Bytes) : Bool :=
  (findMatch { looksBack := e.looksBack } e [] (lineChars l)).isSome

inductive Region where
  | header
  | body
  | footer
  deriving DecidableEq, Repr

def Region.word : Region → String
  | .header => "header"
  | .body => "body"
  | .footer => "footer"

def Region.begunBy (mark l : Bytes) : Option Region :=
  let rows := fun (n : Nat) => (List.replicate n mark).flatten
  if mark.length < 2 then none
  else if l == rows 3 then some .header
  else if l == rows 2 then some .body
  else if l == rows 1 then some .footer
  else none

def readNumbered (tool : String) (s : Region) (v : Option Bytes) : Work Numbered := do
  let usual := if s = .body then Numbered.nonblank else .none
  match v with
  | none => return usual
  | some [97] => return .all
  | some [116] => return .nonblank
  | some [110] => return .none
  | some (112 :: text) => match readRegex {} (lineChars text) with
    | .ok (e, _) => return .fitting e
    | .error f => Work.die 1 s!"{tool}: {f.message}"
  | some v =>
    Work.fault 1 s!"{tool}: invalid {s.word} numbering style: {quoted v}"
    return usual

inductive Setting where
  | left
  | right
  | zeros
  deriving DecidableEq, Repr

def Setting.show (s : Setting) (width : Nat) (n : Int) : List Char :=
  let sign := if n < 0 then ['-'] else []
  let size := digits 10 n.natAbs
  match s with
  | .left => padRight width (sign ++ size)
  | .right => padLeft width ' ' (sign ++ size)
  | .zeros => sign ++ padLeft (width - sign.length) '0' size

structure NumberingPlan where
  style : Region → Numbered
  mark : Bytes
  start : Int
  step : Int
  /-- So many blank lines count as one. -/
  blanks : Nat
  restarts : Bool
  width : Nat
  separator : Bytes
  setting : Setting

/-- Numbering under way: the section, the next number, and blank lines since the last
number. -/
structure Numbering where
  place : Region := .body
  next : Int
  blanks : Nat := 0

def Numbered.takes (limit blanks : Nat) (l : Bytes) : Numbered → Bool × Nat
  | .all =>
    if 1 < limit && l.isEmpty then
      (if blanks + 1 = limit then (true, 0) else (false, blanks + 1))
    else (true, if 1 < limit then 0 else blanks)
  | .nonblank => (!l.isEmpty, blanks)
  | .none => (false, blanks)
  | .fitting e => (Numbered.fits e l, blanks)

def NumberingPlan.line (p : NumberingPlan) (st : Numbering) (l : Bytes) : Bytes × Numbering :=
  let body := dropNewline l
  match Region.begunBy p.mark body with
  | some place => ([newline], { st with place, next := if p.restarts then p.start else st.next })
  | none =>
    let (isNumbered, blanks) := (p.style st.place).takes p.blanks st.blanks body
    if isNumbered then
      let front := bytes (String.ofList (p.setting.show p.width st.next)) ++ p.separator
      (front ++ closeLine l, { st with next := st.next + p.step, blanks })
    else
      (List.replicate (p.width + p.separator.length) 32 ++ closeLine l, { st with blanks })

def numberLines : Tool := Work.tool fun c => do
  let fs ← flagsOf c.name 1
    [.valued 'b' "body-numbering", .valued 'd' "section-delimiter", .valued 'f' "footer-numbering",
     .valued 'h' "header-numbering", .valued 'i' "line-increment", .valued 'l' "join-blank-lines",
     .valued 'n' "number-format", .switch 'p' "no-renumber", .valued 's' "number-separator",
     .valued 'v' "starting-line-number", .valued 'w' "number-width"] c.args
  let number := fun (word what : String) (usual : Int) (positive : Bool) => do
    match fs.value? word with
    | none => return usual
    | some v => match integer? v with
      | some n =>
        if positive && n < 1 then
          Work.die 1 (s!"{c.name}: invalid {what}: {quoted v}: " ++
            "Numerical result out of range")
        return n
      | none => Work.die 1 s!"{c.name}: invalid {what}: {quoted v}"
  let header ← readNumbered c.name .header (fs.value? "header-numbering")
  let body ← readNumbered c.name .body (fs.value? "body-numbering")
  let footer ← readNumbered c.name .footer (fs.value? "footer-numbering")
  let start ← number "starting-line-number" "starting line number" 1 false
  let step ← number "line-increment" "line number increment" 1 false
  let blanks ← number "join-blank-lines" "line number of blank lines" 1 true
  let width ← number "number-width" "line number field width" 6 true
  let setting ← match (fs.value? "number-format").map stringOf with
    | none => pure Setting.right
    | some "ln" => pure .left
    | some "rn" => pure .right
    | some "rz" => pure .zeros
    | some s =>
      Work.fault 1 s!"{c.name}: invalid line numbering format: {quotedText s}"
      pure .right
  if (← get).status ≠ 0 then
    Work.complain (tryHelp c.name)
    Work.leave 1
  let mark := match fs.value? "section-delimiter" with
    | none => bytes "\\:"
    | some [b] => [b, 58]
    | some mark => mark
  let p : NumberingPlan :=
    { style := fun s => match s with
        | .header => header
        | .body => body
        | .footer => footer
      mark, start, step, blanks := blanks.toNat, restarts := !fs.has "no-renumber"
      width := width.toNat, separator := (fs.value? "number-separator").getD [9], setting }
  let found ← readSources c 1 (plainComplaint c.name) fs.operands
  let (out, _) := (byteLines (found.flatMap (·.2))).foldl (fun (st : List Bytes × Numbering) l =>
    let (text, next) := p.line st.2 l
    (text :: st.1, next)) ([], { next := start })
  Work.print out.reverse.flatten

end DocBraces.Tools
