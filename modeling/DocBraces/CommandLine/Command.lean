import DocBraces.CommandLine.Option

/-!
# Commands

The commands, their options and their help texts.
-/

set_option autoImplicit false

namespace DocBraces.CommandLine

inductive Action where
  | sanitize
  | restore
  | render
  | check
  | prepare
  | clean
  | postprocess
  deriving DecidableEq, Repr

inductive Group where
  | main
  | config
  | docs
  deriving DecidableEq, Repr

inductive Command where
  | action (a : Action)
  | group (g : Group)
  deriving DecidableEq, Repr

structure CommandSpec where
  /-- The words that call the command. -/
  words : List String
  options : List OptionSpec
  /-- The name of the one argument, if there is one. -/
  argument : Option String := none
  help : String

def programName : String := "bracefence"

def versionNumber : String := "0.1.0"

def helpOption : OptionSpec where
  switch := .help
  names := ["--help"]
  help := "Show this message and exit."

def outputOption (help : String) : OptionSpec where
  switch := .output
  names := ["--output", "-o"]
  valueName := some "PATH"
  help := help

def jsonOption (help : String) : OptionSpec where
  switch := .json
  names := ["--json-output", "--json"]
  help := help

def cleanOption : OptionSpec where
  switch := .clean
  names := ["--clean"]
  offNames := ["--no-clean"]
  help := "Remove the docs directory first (default: clean_docs / BRACEFENCE_CLEAN_DOCS)."

def mainOptions : List OptionSpec :=
  [{ switch := .version, names := ["--version"], help := "Show the version and exit." },
   { switch := .verbose, names := ["--verbose", "-v"], help := "Enable verbose output." },
   { switch := .quiet, names := ["--quiet", "-q"], help := "Suppress non-essential output." },
   { switch := .debug, names := ["--debug"], help := "Enable debug logging (very verbose)." },
   { switch := .config, names := ["--config", "-c"], valueName := some "PATH"
     help := "Path to bracefence.yml (default: auto-detect)." },
   helpOption]

namespace Action

def name : Action → String
  | sanitize => "sanitize"
  | restore => "restore"
  | render => "render"
  | check => "check"
  | prepare => "prepare"
  | clean => "clean"
  | postprocess => "postprocess"

def group : Action → Group
  | check => .config
  | prepare => .docs
  | clean => .docs
  | postprocess => .docs
  | _ => .main

def help : Action → String
  | sanitize => "Swap risky ASCII braces in SOURCE for fullwidth ones ('-' for stdin)."
  | restore => "Turn fullwidth braces in SOURCE back into ASCII ('-' for stdin)."
  | render => "Render Markdown to HTML, retrying unexpanded fences with the fallback renderer."
  | check => "Validate bracefence.yml configuration."
  | prepare => "Write sanitized copies of top-level Markdown/text files to the staging dir."
  | clean => "Remove the generated docs directory only."
  | postprocess => "Restore ASCII braces in every generated HTML file."

def options : Action → List OptionSpec
  | sanitize => [outputOption "Write here instead of stdout.", helpOption]
  | restore => [outputOption "Write here instead of stdout.", helpOption]
  | render => [outputOption "Write HTML here instead of stdout.",
      jsonOption "Output render summary as JSON.", helpOption]
  | check => [jsonOption "Output as JSON.", helpOption]
  | prepare => [cleanOption, jsonOption "Output as JSON.", helpOption]
  | clean => [helpOption]
  | postprocess => [jsonOption "Output as JSON.", helpOption]

def argument : Action → Option String
  | sanitize => some "SOURCE"
  | restore => some "SOURCE"
  | render => some "SOURCE"
  | _ => none

end Action

namespace Group

def words : Group → List String
  | main => [programName]
  | config => [programName, "config"]
  | docs => [programName, "docs"]

def help : Group → String
  | main => "bracefence — fence literal braces off from doc link resolvers."
  | config => "Configuration commands."
  | docs => "Docs — stage sanitized sources and post-process generated HTML."

def options : Group → List OptionSpec
  | main => mainOptions
  | _ => [helpOption]

def commands : Group → List (String × Command)
  | main => [("config", .group .config), ("docs", .group .docs), ("render", .action .render),
      ("restore", .action .restore), ("sanitize", .action .sanitize)]
  | config => [("check", .action .check)]
  | docs => [("clean", .action .clean), ("postprocess", .action .postprocess),
      ("prepare", .action .prepare)]

def spec (g : Group) : CommandSpec := ⟨g.words, g.options, none, g.help⟩

end Group

def Action.spec (a : Action) : CommandSpec :=
  ⟨a.group.words ++ [a.name], a.options, a.argument, a.help⟩

def Command.help : Command → String
  | .action a => a.help
  | .group g => g.help

end DocBraces.CommandLine
