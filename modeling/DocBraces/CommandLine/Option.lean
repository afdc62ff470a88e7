/-!
# Options

Reading the words of a command line: options, given by long names or by letters that
may stand together, and all other words.
-/

set_option autoImplicit false

namespace DocBraces.CommandLine

inductive Switch where
  | version
  | verbose
  | quiet
  | debug
  | config
  | output
  | json
  | clean
  | help
  deriving DecidableEq, Repr

structure OptionSpec where
  switch : Switch
  names : List String
  /-- Names that turn the switch off. -/
  offNames : List String := []
  /-- What the value is called, for options that take one. -/
  valueName : Option String := none
  help : String

def OptionSpec.takesValue (o : OptionSpec) : Bool := o.valueName.isSome

inductive Given where
  | on
  | off
  | value (text : String)
  deriving DecidableEq, Repr

abbrev Givens := List (Switch × Given)

namespace Givens

def last? (gs : Givens) (s : Switch) : Option Given := gs.reverse.lookup s

def has (gs : Givens) (s : Switch) : Bool := (last? gs s).isSome

def value? (gs : Givens) (s : Switch) : Option String :=
  match last? gs s with
  | some (.value t) => some t
  | _ => none

def choice? (gs : Givens) (s : Switch) : Option Bool := (last? gs s).map (· == .on)

end Givens

/-- Why words are no use of a command. -/
inductive Fault where
  | unknownOption (name : String)
  | valueMissing (name : String)
  | valueUnwanted (name : String)
  | argumentMissing (name : String)
  | badArgument (name reason : String)
  | badOption (names : List String) (reason : String)
  | extraArguments (words : List String)
  | unknownCommand (name : String)
  | commandMissing
  deriving DecidableEq, Repr

/-- An option whose value is the next word. -/
structure Pending where
  switch : Switch
  name : String

def lookUp (options : List OptionSpec) (name : String) : Option (OptionSpec × Given) :=
  options.findSome? fun o =>
    if o.names.contains name then some (o, .on)
    else if o.offNames.contains name then some (o, .off)
    else none

/-- Reads letters. The rest of the word is the value of the first letter that takes
one. -/
def readLetters (options : List OptionSpec) : List Char → Except Fault (Givens × Option Pending)
  | [] => .ok ([], none)
  | c :: cs =>
    let name := "-" ++ c.toString
    match lookUp options name with
    | none => .error (.unknownOption name)
    | some (o, g) =>
      if o.takesValue then
        if cs.isEmpty then .ok ([], some ⟨o.switch, name⟩)
        else .ok ([(o.switch, .value (String.ofList cs))], none)
      else (readLetters options cs).map fun (gs, p) => ((o.switch, g) :: gs, p)

def splitValue (cs : List Char) : List Char × Option (List Char) :=
  match cs.dropWhile (· != '=') with
  | _ :: value => (cs.takeWhile (· != '='), some value)
  | [] => (cs, none)

def isLongName (cs : List Char) : Bool := cs.take 2 == ['-', '-']

def readOption (options : List OptionSpec) (word : String) :
    Except Fault (Givens × Option Pending) :=
  let cs := word.toList
  let (nameChars, value) := splitValue cs
  let name := String.ofList nameChars
  match (if isLongName nameChars then lookUp options name else none) with
  | some (o, g) =>
    match o.takesValue, value with
    | true, some v => .ok ([(o.switch, .value (String.ofList v))], none)
    | true, none => .ok ([], some ⟨o.switch, name⟩)
    | false, some _ => .error (.valueUnwanted name)
    | false, none => .ok ([(o.switch, g)], none)
  | none =>
    if isLongName cs then .error (.unknownOption name) else readLetters options (cs.drop 1)

def looksLikeOption (word : String) : Bool :=
  match word.toList with
  | '-' :: _ :: _ => true
  | _ => false

/-- Reads words up to two hyphens. Unless options may follow other words, the first
other word ends them too. -/
def readWords (options : List OptionSpec) (mixed : Bool) :
    Option Pending → List String → Except Fault (Givens × List String)
  | none, [] => .ok ([], [])
  | some p, [] => .error (.valueMissing p.name)
  | some p, w :: ws =>
    (readWords options mixed none ws).map fun (gs, rest) => ((p.switch, .value w) :: gs, rest)
  | none, w :: ws =>
    if w = "--" then .ok ([], ws)
    else if looksLikeOption w then do
      let (gs, pending) ← readOption options w
      let (more, rest) ← readWords options mixed pending ws
      return (gs ++ more, rest)
    else if mixed then (readWords options mixed none ws).map fun (gs, rest) => (gs, w :: rest)
    else .ok ([], w :: ws)

end DocBraces.CommandLine
