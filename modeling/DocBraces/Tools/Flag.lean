import DocBraces.Tools.Quoting

/-!
# Flags

Options of tools: letters that may be run together, words behind two hyphens that may be
cut short, values in the same argument or in the next one. Two hyphens alone end them.
-/

set_option autoImplicit false

namespace DocBraces.Tools

inductive Takes where
  | nothing
  | value
  | mayTake
  deriving DecidableEq, Repr

structure Flag where
  word : String
  letter : Option Char := none
  takes : Takes := .nothing

namespace Flag

def switch (letter : Char) (word : String) : Flag := ⟨word, some letter, .nothing⟩

def valued (letter : Char) (word : String) : Flag := ⟨word, some letter, .value⟩

def long (word : String) : Flag := ⟨word, none, .nothing⟩

def longValued (word : String) : Flag := ⟨word, none, .value⟩

def letters (cs : String) : List Flag := cs.toList.map fun c => ⟨c.toString, some c, .nothing⟩

def isLong (f : Flag) : Bool := f.word.length ≠ 1

end Flag

structure Flags where
  given : List (String × Bytes) := []
  operands : List Bytes := []

namespace Flags

def has (fs : Flags) (word : String) : Bool := fs.given.any (·.1 == word)

def value? (fs : Flags) (word : String) : Option Bytes :=
  (fs.given.filter (·.1 == word)).getLast?.map (·.2)

def values (fs : Flags) (word : String) : List Bytes :=
  (fs.given.filter (·.1 == word)).map (·.2)

def lastOf (fs : Flags) (words : List String) : Option String :=
  (fs.given.filter (words.contains ·.1)).getLast?.map (·.1)

def add (fs : Flags) (word : String) (value : Bytes) : Flags :=
  { fs with given := (word, value) :: fs.given }

end Flags

def Flag.named (known : List Flag) (word : String) : List Flag :=
  let longs := known.filter Flag.isLong
  match longs.filter (·.word == word) with
  | [] => longs.filter fun f => word.toList.isPrefixOf f.word.toList
  | fs => fs

mutual

def readFlags (known : List Flag) (mixed : Bool) : List Bytes → Except String Flags
  | [] => .ok {}
  | a :: rest =>
    match textOf a with
    | ['-', '-'] => .ok { operands := rest }
    | '-' :: '-' :: cs =>
      let word := String.ofList (cs.takeWhile (· != '='))
      let given := cs.drop word.length
      match Flag.named known word with
      | [] => .error s!"unrecognized option '--{String.ofList cs}'"
      | [f] =>
        if !given.isEmpty && f.takes = .nothing then
          .error s!"option '--{f.word}' doesn't allow an argument"
        else if given.isEmpty && f.takes = .value then
          match rest with
          | [] => .error s!"option '--{f.word}' requires an argument"
          | v :: rest => (readFlags known mixed rest).map (·.add f.word v)
        else (readFlags known mixed rest).map (·.add f.word (Text.Utf8.encode (given.drop 1)))
      | fs => .error (s!"option '--{word}' is ambiguous; possibilities:" ++
          String.join (fs.map fun f => s!" '--{f.word}'"))
    | '-' :: c :: cs => readLetters known mixed (c :: cs) rest
    | _ =>
      if mixed then (readFlags known mixed rest).map fun fs =>
        { fs with operands := a :: fs.operands }
      else .ok { operands := a :: rest }
termination_by args => (args.length, 0)

def readLetters (known : List Flag) (mixed : Bool) (cs : List Char) (rest : List Bytes) :
    Except String Flags :=
  match cs with
  | [] => readFlags known mixed rest
  | c :: cs =>
    match known.find? (·.letter == some c) with
    | none => .error s!"invalid option -- '{c}'"
    | some f =>
      match f.takes with
      | .nothing => (readLetters known mixed cs rest).map (·.add f.word [])
      | .mayTake => (readFlags known mixed rest).map (·.add f.word (Text.Utf8.encode cs))
      | .value =>
        if !cs.isEmpty then (readFlags known mixed rest).map (·.add f.word (Text.Utf8.encode cs))
        else match rest with
          | [] => .error s!"option requires an argument -- '{c}'"
          | v :: rest => (readFlags known mixed rest).map (·.add f.word v)
termination_by (rest.length, cs.length + 1)

end

def tryHelp (tool : String) : String := s!"Try '{tool} --help' for more information."

def misused {α : Type} (tool : String) (status : Nat) (message : String) : Work α :=
  Work.die status s!"{tool}: {message}\n{tryHelp tool}"

def flagsOf (tool : String) (status : Nat) (known : List Flag) (args : List Bytes) : Work Flags :=
  match readFlags known true args with
  | .ok fs => pure fs
  | .error message => misused tool status message

end DocBraces.Tools
