import DocBraces.Config.Settings
import DocBraces.Data.Graph
import DocBraces.Text.Utf8

/-!
# The schema of settings

Reads settings from data. All violations are reported, in the order of the fields,
each with its place, its kind and the value found there.
-/

set_option autoImplicit false

namespace DocBraces.Schema

open DocBraces.Data DocBraces.Text

inductive Step where
  | field (name : String)
  | item (index : Nat)
  deriving DecidableEq, Repr

inductive Kind where
  | notText
  | notUnicode
  | notList
  | notMapping (model : String)
  | notBool
  | unclearBool
  | badValue (message : String)
  deriving DecidableEq, Repr

def Kind.name : Kind → String
  | .notText => "string_type"
  | .notUnicode => "string_unicode"
  | .notList => "list_type"
  | .notMapping _ => "model_type"
  | .notBool => "bool_type"
  | .unclearBool => "bool_parsing"
  | .badValue _ => "value_error"

def Kind.message : Kind → String
  | .notText => "Input should be a valid string"
  | .notUnicode => "Input should be a valid string, unable to parse raw data as a unicode string"
  | .notList => "Input should be a valid list"
  | .notMapping model => "Input should be a valid dictionary or instance of " ++ model
  | .notBool => "Input should be a valid boolean"
  | .unclearBool => "Input should be a valid boolean, unable to interpret input"
  | .badValue m => "Value error, " ++ m

structure Violation where
  place : List Step
  kind : Kind
  /-- The text and the type shown for the value. -/
  shown : String
  typeName : String
  deriving DecidableEq, Repr

def Step.text : Step → String
  | .field n => n
  | .item i => toString i

def continues (b : UInt8) : Bool := 0x80 ≤ b.toNat && b.toNat < 0xC0

def headBytes (n : Nat) (bs : List UInt8) : List UInt8 :=
  match bs.drop n with
  | b :: _ => if continues b then
      let kept := ((bs.take n).reverse.dropWhile continues).drop 1
      kept.reverse
    else bs.take n
  | [] => bs

def tailBytes (n : Nat) (bs : List UInt8) : List UInt8 :=
  (bs.drop (bs.length - n)).dropWhile continues

def shorten (s : String) : String :=
  let bs := Utf8.encode s.toList
  if bs.length ≤ 50 then s
  else
    let part := fun bs => String.ofList ((Utf8.decode bs).toOption.getD [])
    part (headBytes 25 bs) ++ "..." ++ part (tailBytes 24 bs)

/-- The place, and what is wrong there. A third line, with the address of a page for further
information, is left out. -/
def Violation.lines (v : Violation) : List String :=
  let place := ".".intercalate (v.place.map Step.text)
  (if v.place.isEmpty then [] else [place]) ++
    [s!"  {v.kind.message} [type={v.kind.name}, input_value={shorten v.shown}, " ++
      s!"input_type={v.typeName}]"]

def message (vs : List Violation) : String :=
  let plural := if vs.length = 1 then "" else "s"
  "\n".intercalate (s!"{vs.length} validation error{plural} for FenceConfig" ::
    vs.flatMap Violation.lines)

inductive Failure where
  | invalid (violations : List Violation)
  | excess (excess : Pattern.Excess)

def Failure.message : Failure → String
  | .invalid vs => Schema.message vs
  | .excess e => e.message

abbrev Checked (α : Type) := Except (List Violation) α

/-- A place of the data with the cell found there. -/
structure Place where
  graph : Graph
  ref : Ref
  steps : List Step

namespace Place

def cell (p : Place) : Cell := p.graph.cell p.ref

def violation (p : Place) (kind : Kind) : Violation :=
  ⟨p.steps, kind, p.graph.shown p.ref, p.cell.typeName⟩

def reject {α : Type} (p : Place) (kind : Kind) : Checked α := .error [p.violation kind]

def field? (p : Place) (name : String) : Option Place :=
  (p.cell.get? name).map fun ref => { p with ref, steps := p.steps ++ [.field name] }

end Place

def readText (p : Place) : Checked String :=
  match p.cell with
  | .scalar (.text s) => .ok s
  | .scalar (.broken _) => p.reject .notUnicode
  | .scalar (.bytes bs) => match Utf8.decode bs with
    | .ok cs => .ok (String.ofList cs)
    | .error _ => p.reject .notUnicode
  | _ => p.reject .notText

def textItem (p : Place) (index : Nat) (s : Scalar) : Checked String :=
  let steps := p.steps ++ [.item index]
  readText { graph := [.scalar s], ref := 0, steps }

def gather {α : Type} : List (Checked α) → Checked (List α)
  | [] => .ok []
  | .ok a :: rest => (gather rest).map (a :: ·)
  | .error vs :: rest => match gather rest with
    | .ok _ => .error vs
    | .error ws => .error (vs ++ ws)

def readTexts (p : Place) : Checked (List String) :=
  match p.cell with
  | .list items =>
    gather <| items.mapIdx fun i ref => readText { p with ref, steps := p.steps ++ [.item i] }
  | .set items => gather <| items.mapIdx (textItem p)
  | _ => p.reject .notList

def boolWord? (s : String) : Option Bool :=
  let w := String.ofList (s.toList.map lowerAscii)
  if ["0", "off", "f", "false", "n", "no"].contains w then some false
  else if ["1", "on", "t", "true", "y", "yes"].contains w then some true
  else none

def fitsWord (n : Int) : Bool := -(Nat.pow 2 63 : Nat) ≤ n && n < (Nat.pow 2 63 : Nat)

def isWithinWord (n : Int) : Bool := -(Nat.pow 2 63 : Nat) < n && n < (Nat.pow 2 63 : Nat)

def readBool (p : Place) : Checked Bool :=
  let word := fun (s : String) => match boolWord? s with
    | some b => .ok b
    | none => p.reject .unclearBool
  let number := fun (n : Int) =>
    if n = 0 then .ok false else if n = 1 then .ok true
    else if fitsWord n then p.reject .unclearBool else p.reject .notBool
  match p.cell with
  | .scalar (.bool b) => .ok b
  | .scalar (.text s) => word s
  | .scalar (.broken _) => p.reject .unclearBool
  | .scalar (.bytes bs) => match Utf8.decode bs with
    | .ok cs => word (String.ofList cs)
    | .error _ => p.reject .unclearBool
  | .scalar (.int n) => number n
  | .scalar (.float x) => match (Scalar.float x).whole? with
    | some n => if isWithinWord n then number n else p.reject .notBool
    | none => p.reject .notBool
  | _ => p.reject .notBool

/-- The text must read as the inside of a character class. A count in too many digits is
a fault of the value; any other excess ends the reading. -/
def readPlaceholder (p : Place) : Except Failure String :=
  match readText p with
  | .error vs => .error (.invalid vs)
  | .ok s => match Codec.build .ascii .fullwidth s with
    | .ok _ => .ok s
    | .error (.excess (.digits n)) =>
      .error (.invalid [p.violation (.badValue (Pattern.Excess.digits n).message)])
    | .error (.excess e) => .error (.excess e)
    | .error f => .error (.invalid [p.violation (.badValue f.message)])

def optional {α : Type} (p : Place) (name : String) (default : α) (read : Place → Checked α) :
    Checked α :=
  match p.field? name with
  | some q => read q
  | none => .ok default

def violations {α : Type} : Checked α → List Violation
  | .ok _ => []
  | .error vs => vs

def readFallback (p : Place) : Checked FallbackSettings :=
  match p.cell with
  | .mapping _ =>
    let d : FallbackSettings := {}
    let enabled := optional p "enabled" d.enabled readBool
    let primary := optional p "primary" d.primary readTexts
    let fallback := optional p "fallback" d.fallback readTexts
    match enabled, primary, fallback with
    | .ok enabled, .ok primary, .ok fallback => .ok { enabled, primary, fallback }
    | _, _, _ => .error (violations enabled ++ violations primary ++ violations fallback)
  | _ => p.reject (.notMapping "FallbackConfig")

def placeholderField (p : Place) : Except Failure (Checked String) :=
  match p.field? "placeholder_chars" with
  | none => .ok (.ok defaultPlaceholder)
  | some q => match readPlaceholder q with
    | .ok s => .ok (.ok s)
    | .error (.invalid vs) => .ok (.error vs)
    | .error (.excess e) => .error (.excess e)

def readFields (p : Place) : Except Failure Settings := do
  let d : Settings := {}
  let placeholder ← placeholderField p
  let stagingDir := optional p "staging_dir" d.stagingDir readText
  let docsDir := optional p "docs_dir" d.docsDir readText
  let patterns := optional p "patterns" d.patterns readTexts
  let cleanDocs := optional p "clean_docs" d.cleanDocs readBool
  let disabled := optional p "disabled" d.disabled readBool
  let fallback := optional p "fallback" d.fallback readFallback
  match stagingDir, docsDir, patterns, placeholder, cleanDocs, disabled, fallback with
  | .ok stagingDir, .ok docsDir, .ok patterns, .ok placeholder, .ok cleanDocs, .ok disabled,
    .ok fallback =>
    .ok { stagingDir, docsDir, patterns, placeholder, cleanDocs, disabled, fallback }
  | _, _, _, _, _, _, _ => .error (.invalid (violations stagingDir ++ violations docsDir ++
      violations patterns ++ violations placeholder ++ violations cleanDocs ++
      violations disabled ++ violations fallback))

def read (g : Graph) (ref : Ref) : Except Failure Settings :=
  let p : Place := ⟨g, ref, []⟩
  match p.cell with
  | .mapping _ => readFields p
  | _ => .error (.invalid [p.violation (.notMapping "FenceConfig")])

end DocBraces.Schema
