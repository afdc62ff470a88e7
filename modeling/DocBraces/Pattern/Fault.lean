import DocBraces.Text.Quoted

/-!
# Faults of patterns

Why a text is no pattern, and where. Positions count characters from the start of
the whole pattern; in a pattern of several lines the message adds line and column.
-/

set_option autoImplicit false

namespace DocBraces.Pattern

open DocBraces.Text

inductive Reason where
  | danglingEscape
  | badEscape (text : String)
  | incompleteEscape (text : String)
  | octalTooLarge (text : String)
  | missingNameBrace
  | missingName (what : String)
  | unterminatedName (terminator : Char)
  | unknownCharacter (name : String)
  | unterminatedClass
  | badRange (low high : String)
  | nothingToRepeat
  | multipleRepeat
  | boundsReversed
  | unexpectedEnd
  | unknownExtension (text : String)
  | unterminatedComment
  | unterminatedGroup
  | unbalanced
  | badGroupName (name : String)
  | unknownGroup (name : String)
  | duplicateGroup (name : String) (new old : Nat)
  | openGroup
  | groupZero
  | noSuchGroup (number : Nat)
  | groupOfSameLookBehind
  | tooManyBranches
  | switchesNotFirst
  | localeSwitch
  | clashingSwitches
  | turnsOnWholePattern
  | turnsOffWholePattern
  | turnsOffAlphabet
  | turnedOnAndOff
  | unknownSwitch
  | missingSwitch
  | missingSwitchEnd
  | missingColon
  | looseLookBehind
  deriving DecidableEq, Repr

def Reason.text : Reason → String
  | .danglingEscape => "bad escape (end of pattern)"
  | .badEscape t => "bad escape " ++ t
  | .incompleteEscape t => "incomplete escape " ++ t
  | .octalTooLarge t => "octal escape value " ++ t ++ " outside of range 0-0o377"
  | .missingNameBrace => "missing \x7b"
  | .missingName what => "missing " ++ what
  | .unterminatedName c => "missing " ++ c.toString ++ ", unterminated name"
  | .unknownCharacter n => "undefined character name " ++ quoted n
  | .unterminatedClass => "unterminated character set"
  | .badRange a b => "bad character range " ++ a ++ "-" ++ b
  | .nothingToRepeat => "nothing to repeat"
  | .multipleRepeat => "multiple repeat"
  | .boundsReversed => "min repeat greater than max repeat"
  | .unexpectedEnd => "unexpected end of pattern"
  | .unknownExtension t => "unknown extension ?" ++ t
  | .unterminatedComment => "missing ), unterminated comment"
  | .unterminatedGroup => "missing ), unterminated subpattern"
  | .unbalanced => "unbalanced parenthesis"
  | .badGroupName n => "bad character in group name " ++ quoted n
  | .unknownGroup n => "unknown group name " ++ quoted n
  | .duplicateGroup n new old =>
    "redefinition of group name " ++ quoted n ++ s!" as group {new}; was group {old}"
  | .openGroup => "cannot refer to an open group"
  | .groupZero => "bad group number"
  | .noSuchGroup n => s!"invalid group reference {n}"
  | .groupOfSameLookBehind => "cannot refer to group defined in the same lookbehind subpattern"
  | .tooManyBranches => "conditional backref with more than two branches"
  | .switchesNotFirst => "global flags not at the start of the expression"
  | .localeSwitch => "bad inline flags: cannot use 'L' flag with a str pattern"
  | .clashingSwitches => "bad inline flags: flags 'a', 'u' and 'L' are incompatible"
  | .turnsOnWholePattern => "bad inline flags: cannot turn on global flag"
  | .turnsOffWholePattern => "bad inline flags: cannot turn off global flag"
  | .turnsOffAlphabet => "bad inline flags: cannot turn off flags 'a', 'u' and 'L'"
  | .turnedOnAndOff => "bad inline flags: flag turned on and off"
  | .unknownSwitch => "unknown flag"
  | .missingSwitch => "missing flag"
  | .missingSwitchEnd => "missing -, : or )"
  | .missingColon => "missing :"
  | .looseLookBehind => "look-behind requires fixed-width pattern"

structure Fault where
  reason : Reason
  position : Option Nat
  deriving DecidableEq, Repr

def lineColumn (text : List Char) (position : Nat) : Nat × Nat :=
  let start := text.take position
  (start.count '\n' + 1, (start.reverse.takeWhile (· != '\n')).length + 1)

def Fault.message (f : Fault) (text : List Char) : String :=
  match f.position with
  | none => f.reason.text
  | some n =>
    let (line, column) := lineColumn text n
    f.reason.text ++ s!" at position {n}" ++
      if text.contains '\n' then s!" (line {line}, column {column})" else ""

/-- What a pattern asks for that is well written but cannot be built: rounds that cannot
be counted, a count in too many digits, a code far beyond the last character, a
look-behind too wide to be laid down. -/
inductive Excess where
  | rounds
  | digits (count : Nat)
  | code
  | lookBehind
  deriving DecidableEq, Repr

def Excess.message : Excess → String
  | .rounds => "the repetition number is too large"
  | .digits n =>
    s!"Exceeds the limit (4300 digits) for integer string conversion: value has {n} " ++
      "digits; use sys.set_int_max_str_digits() to increase the limit"
  | .code => "Python int too large to convert to C int"
  | .lookBehind => "invalid SRE code"

/-- Reading a pattern ends without one because of a fault of its text, or because it
asks for too much. -/
inductive Failure where
  | fault (fault : Fault)
  | excess (excess : Excess)
  deriving DecidableEq, Repr

end DocBraces.Pattern
