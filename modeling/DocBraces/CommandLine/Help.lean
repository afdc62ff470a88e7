import DocBraces.CommandLine.Command
import DocBraces.Text.Numeral
import DocBraces.Text.Quoted

/-!
# Help

Help pages and messages about wrong usage, laid out for a terminal of eighty columns.
-/

set_option autoImplicit false

namespace DocBraces.CommandLine

open DocBraces.Text

def pageWidth : Nat := 80

/-- Puts words on lines of a width; a word that is too long has a line of its own. -/
def fillLines (width : Nat) : (line : String) → List String → List String
  | line, [] => [line]
  | line, w :: ws =>
    if line.isEmpty then fillLines width w ws
    else if line.length + 1 + w.length ≤ width then fillLines width (line ++ " " ++ w) ws
    else line :: fillLines width w ws

def wrap (width : Nat) (text : String) : List String :=
  fillLines width "" ((text.toList.splitOn ' ').map String.ofList)

def spaces (n : Nat) : String := String.ofList (List.replicate n ' ')

def indent (n : Nat) (line : String) : String := spaces n ++ line

def pad (n : Nat) (s : String) : String := String.ofList (padRight n s.toList)

def termLimit : Nat := 30

def termGap : Nat := 2

def definitionLines (rows : List (String × String)) : List String :=
  let widest := (rows.map fun r => r.1.length).foldl max 0
  let column := min widest termLimit + termGap
  let width := max (pageWidth - column - 2) 10
  rows.flatMap fun (term, text) =>
    match wrap width text with
    | [] => [indent 2 term]
    | first :: rest =>
      let more := rest.map (indent (column + 2))
      if term.length + termGap ≤ column then indent 2 (pad column term ++ first) :: more
      else indent 2 term :: indent (column + 2) first :: more

/-- Whole words of a text that fit a length, with dots where something was left out. -/
def shortenWords (limit : Nat) (words : List String) : String :=
  let fits := fun (room : Nat) (n : Nat) => (" ".intercalate (words.take n)).length ≤ room
  if fits limit words.length then " ".intercalate words
  else
    let kept := ((List.range words.length).reverse.find? (fits (limit - 3))).getD 0
    " ".intercalate (words.take kept) ++ "..."

def shortHelp (limit : Nat) (text : String) : String :=
  let words := (text.toList.splitOn ' ').map String.ofList
  let inner := words.takeWhile fun w => w.toList.getLast? != some '.'
  shortenWords limit (words.take (inner.length + 1))

def nameText (names : List String) : String :=
  let isShort := fun (n : String) => !isLongName n.toList
  ", ".intercalate (names.filter isShort ++ names.filter (!isShort ·))

def OptionSpec.term (o : OptionSpec) : String :=
  let value := match o.valueName with
    | some v => " " ++ v
    | none => ""
  let off := if o.offNames.isEmpty then "" else " / " ++ nameText o.offNames
  nameText o.names ++ value ++ off

def callText (s : CommandSpec) : String := " ".intercalate s.words

def usageLine (s : CommandSpec) (takesCommand : Bool) : String :=
  let tail := if takesCommand then " COMMAND [ARGS]..."
    else match s.argument with
      | some a => " " ++ a
      | none => ""
  s!"Usage: {callText s} [OPTIONS]{tail}"

def pageHead (s : CommandSpec) (takesCommand : Bool) : List String :=
  usageLine s takesCommand :: "" :: (wrap (pageWidth - 2) s.help).map (indent 2) ++
    "" :: "Options:" :: definitionLines (s.options.map fun o => (o.term, o.help))

def Action.page (a : Action) : List String := pageHead a.spec false

def Group.page (g : Group) : List String :=
  let widest := (g.commands.map fun c => c.1.length).foldl max 0
  let rows := g.commands.map fun (n, c) => (n, shortHelp (pageWidth - 6 - widest) c.help)
  pageHead g.spec true ++ "" :: "Commands:" :: definitionLines rows

def linesText (ls : List String) : String := String.join (ls.map (· ++ "\n"))

def Fault.message : Fault → String
  | .unknownOption n => s!"No such option {quoted n}."
  | .valueMissing n => s!"Option {quoted n} requires an argument."
  | .valueUnwanted n => s!"Option {quoted n} does not take a value."
  | .argumentMissing n => s!"Missing argument {quoted n}."
  | .badArgument n reason => s!"Invalid value for {quoted n}: {reason}"
  | .badOption ns reason =>
    let all := " / ".intercalate (ns.map quoted)
    s!"Invalid value for {all}: {reason}"
  | .extraArguments ws =>
    let plural := if ws.length = 1 then "" else "s"
    let all := " ".intercalate ws
    s!"Got unexpected extra argument{plural} ({all})"
  | .unknownCommand n => s!"No such command {quoted n}."
  | .commandMissing => "Missing command."

def Fault.showsUsage : Fault → Bool
  | .valueMissing _ => false
  | .valueUnwanted _ => false
  | _ => true

def complaint (s : CommandSpec) (takesCommand : Bool) (f : Fault) : String :=
  let usage := if f.showsUsage then
      [usageLine s takesCommand, s!"Try '{callText s} --help' for help.", ""]
    else []
  linesText (usage ++ ["Error: " ++ f.message])

end DocBraces.CommandLine
