import DocBraces.Tools.Script

/-!
# Reading scripts

A script is read one line of commands at a time, so that what stands before a fault has
been carried out when the fault is met. A fault knows the line it was met on.
-/

set_option autoImplicit false

namespace DocBraces.Tools

structure ScriptFault where
  line : Nat
  message : String
  deriving DecidableEq, Repr

inductive RedirectSign where
  | opens (how : Opens)
  | copies
  | here (withoutTabs : Bool)
  deriving DecidableEq, Repr

inductive ScriptToken where
  | ended
  | newline
  | semicolon
  | doubleSemicolon
  | ampersand
  | both
  | bar
  | either
  | opening
  | closing
  | word (w : Word)
  | keyword (name : String)
  | redirect (stream : Nat) (sign : RedirectSign)

namespace ScriptToken

def text : ScriptToken → String
  | ended => "end of file"
  | newline => "newline"
  | semicolon => "\";\""
  | doubleSemicolon => "\";;\""
  | ampersand => "\"&\""
  | both => "\"&&\""
  | bar => "\"|\""
  | either => "\"||\""
  | opening => "\"(\""
  | closing => "\")\""
  | word _ => "word"
  | keyword name => "\"" ++ name ++ "\""
  | redirect _ _ => "redirection"

def isNewline : ScriptToken → Bool
  | newline => true
  | _ => false

def isKeyword (name : String) : ScriptToken → Bool
  | keyword n => n == name
  | _ => false

def endsList : ScriptToken → Bool
  | ended => true
  | closing => true
  | doubleSemicolon => true
  | keyword name => ["do", "done", "elif", "else", "esac", "fi", "then", "\x7d"].contains name
  | _ => false

end ScriptToken

def keywords : List String :=
  ["!", "case", "do", "done", "elif", "else", "esac", "fi", "for", "if", "in", "then",
   "until", "while", "\x7b", "\x7d"]

structure PendingHere where
  number : Nat
  mark : Octets
  isQuoted : Bool
  withoutTabs : Bool

structure ScriptReader where
  rest : Octets
  line : Nat := 1
  /-- A token that was given back. -/
  held : Option ScriptToken := none
  pending : List PendingHere := []
  texts : List HereText := []
  nextText : Nat := 0
  /-- Other names of commands. -/
  aliases : List (String × Octets) := []
  /-- Names that have been replaced, with what is left of the text behind them. -/
  replaced : List (String × Nat) := []

abbrev Reading := StateT ScriptReader (Except ScriptFault)

namespace Reading

def fault {α : Type} (message : String) : Reading α := do
  throw ⟨(← get).line, "Syntax error: " ++ message⟩

def unexpected {α : Type} (t : ScriptToken) (expected : Option ScriptToken) : Reading α :=
  fault <| t.text ++ " unexpected" ++ match expected with
    | some e => " (expecting " ++ e.text ++ ")"
    | none => ""

def giveBack (t : ScriptToken) : Reading Unit := modify fun r => { r with held := some t }

def dropJoins : Octets → Octets × Nat
  | '\\' :: '\n' :: cs => ((dropJoins cs).1, (dropJoins cs).2 + 1)
  | cs => (cs, 0)

def takeRaw : Reading (Option Char) := do
  let r ← get
  match r.rest with
  | [] => return none
  | c :: cs =>
    set { r with rest := cs, line := if c == '\n' then r.line + 1 else r.line }
    return some c

def peek : Reading (Option Char) := do
  let r ← get
  let (rest, n) := dropJoins r.rest
  set { r with rest, line := r.line + n }
  return rest.head?

def take : Reading (Option Char) := do
  let _ ← peek
  takeRaw

def taking (c : Char) : Reading Bool := do
  if (← peek) == some c then
    let _ ← takeRaw
    return true
  else return false

def takeWhile (test : Char → Bool) : Nat → Reading Octets
  | 0 => return []
  | fuel + 1 => do
    match ← peek with
    | some c =>
      if test c then
        let _ ← takeRaw
        return c :: (← takeWhile test fuel)
      else return []
    | none => return []

def readName : Reading (Option Octets) := do
  let r ← get
  match ← peek with
  | some c =>
    if startsName c then return some (← takeWhile isNameChar (r.rest.length + 1))
    else if c.isDigit then return some (← takeWhile Char.isDigit (r.rest.length + 1))
    else if isSpecialName c then
      let _ ← takeRaw
      return some [c]
    else return none
  | none => return none

end Reading

inductive Nest where
  | word
  | mark
  | double
  /-- Behind the sign of a change, outside or inside double quotes. -/
  | braces
  | quotedBraces (inQuotes : Bool)
  | here
  | number (depth : Nat)
  deriving DecidableEq, Repr

namespace Nest

def isQuoted : Nest → Bool
  | word => false
  | mark => false
  | braces => false
  | _ => true

def isBraces : Nest → Bool
  | braces => true
  | quotedBraces _ => true
  | _ => false

def escapes (n : Nest) (c : Char) : Bool :=
  !n.isQuoted || c == '\\' || c == '\x60' || c == '$' || (c == '"' && n != .here) ||
    (c == '\x7d' && n.isBraces)

end Nest

def consChar (quoted : Bool) (c : Char) : Word → Word
  | .text q cs :: rest =>
    if q == quoted then .text q (c :: cs) :: rest else .text quoted [c] :: .text q cs :: rest
  | w => .text quoted [c] :: w

def endsWord (c : Char) : Bool :=
  [' ', '\t', '\n', ';', '&', '|', '<', '>', '(', ')'].contains c

def backquoted (inDouble : Bool) : Octets → Option (Octets × Octets)
  | [] => none
  | '\x60' :: cs => some ([], cs)
  | '\\' :: c :: cs =>
    (backquoted inDouble cs).map fun (inside, rest) =>
      if c == '\n' then (inside, rest)
      else if c == '\\' || c == '\x60' || c == '$' || (c == '"' && inDouble) then
        (c :: inside, rest)
      else ('\\' :: c :: inside, rest)
  | c :: cs => (backquoted inDouble cs).map fun (inside, rest) => (c :: inside, rest)

def linesUntil (h : PendingHere) : Nat → Octets → Octets × Octets
  | 0, cs => ([], cs)
  | fuel + 1, cs =>
    let cs := if h.withoutTabs then cs.dropWhile (· == '\t') else cs
    let line := cs.takeWhile (· != '\n')
    let rest := cs.drop line.length
    if line == h.mark && (!rest.isEmpty || !h.mark.isEmpty) then ([], rest.drop 1)
    else match rest with
      | [] => (line, [])
      | _ :: rest =>
        let (more, after) := linesUntil h fuel rest
        (line ++ '\n' :: more, after)

def assignment? : Word → Option (String × Word)
  | .text false cs :: rest =>
    let name := cs.takeWhile (· != '=')
    match cs.drop name.length with
    | _ :: value =>
      if isGoodName name then
        some (String.ofList name, if value.isEmpty then rest else .text false value :: rest)
      else none
    | [] => none
  | _ => none

def isUnquotedText (w : Word) (name : String) : Bool :=
  match w with
  | [.text false cs] => cs == name.toList
  | _ => false

def keyword? : ScriptToken → ScriptToken
  | .word w => match keywords.find? (isUnquotedText w) with
    | some name => .keyword name
    | none => .word w
  | t => t

/-- The text that goes on with what an alias stands for, if a word is one. Within that
text the alias does not count. -/
def replacement? (t : ScriptToken) : Reading (Option Octets) := do
  let r ← get
  match t with
  | .word [.text false cs] =>
    let name := cs.text
    let left := r.rest.length
    let inUse := r.replaced.any fun (n, behind) => n == name && behind < left
    match r.aliases.lookup name with
    | some text =>
      if inUse then return none
      else
        set { r with replaced := (name, left) :: r.replaced }
        return some (text ++ r.rest)
    | none => return none
  | _ => return none

def specialCommands : List String :=
  [".", ":", "break", "continue", "eval", "exec", "exit", "export", "readonly", "return",
   "set", "shift", "times", "trap", "unset"]

/-- How far a row of commands goes: to the end of a line, or to a token that ends it; a
closed one may be empty. -/
inductive ListMode where
  | line
  | body
  | closed
  deriving DecidableEq, Repr

open Reading

def appendScript (first : Option Script) (second : Script) : Option Script :=
  match first with
  | none => some second
  | some s => some (.chain s .always second)

def takeHereTexts (readBody : Octets → Nat → Reading Word) : Reading Unit := do
  let pending := (← get).pending
  modify fun r => { r with pending := [] }
  pending.forM fun h => do
    let r ← get
    let (text, rest) := linesUntil h (r.rest.length + 1) r.rest
    let lines := text.count '\n'
    let body ← if h.isQuoted then pure [Part.text true text] else readBody text r.line
    modify fun r => { r with rest, line := r.line + lines + 1,
                             texts := ⟨h.number, body⟩ :: r.texts }

mutual

/-- Parts of a word up to the end of what they are nested in, the end included if it is
a sign of its own. -/
def readParts : Nat → Nest → Reading Word
  | 0, _ => fault "out of memory"
  | fuel + 1, nest => do
    let quoted := nest.isQuoted
    let plain := fun (c : Char) => do
      let _ ← takeRaw
      return consChar quoted c (← readParts fuel nest)
    match ← peek with
    | none => match nest with
      | .word => return []
      | .mark => return []
      | .here => return []
      | .braces => fault "Missing '\x7d'"
      | .number _ => fault "Missing '))'"
      | _ => fault "Unterminated quoted string"
    | some '\\' =>
      let _ ← takeRaw
      match ← takeRaw with
      | none => return consChar true '\\' (← readParts fuel nest)
      | some c =>
        let more ← readParts fuel nest
        return if nest.escapes c then consChar true c more
          else consChar true '\\' (consChar true c more)
    | some '\'' =>
      if quoted then plain '\''
      else
        let _ ← takeRaw
        let r ← get
        let inside := r.rest.takeWhile (· != '\'')
        set { r with rest := r.rest.drop (inside.length + 1), line := r.line + inside.count '\n' }
        if inside.length = r.rest.length then fault "Unterminated quoted string"
        return .text true inside :: (← readParts fuel nest)
    | some '"' => match nest with
      | .here => plain '"'
      | .number _ => plain '"'
      | .double =>
        let _ ← takeRaw
        return []
      | .quotedBraces inQuotes =>
        let _ ← takeRaw
        readParts fuel (.quotedBraces !inQuotes)
      | .mark =>
        let _ ← takeRaw
        let r ← get
        let inside := r.rest.takeWhile (· != '"')
        set { r with rest := r.rest.drop (inside.length + 1) }
        if inside.length = r.rest.length then fault "Unterminated quoted string"
        return .text true inside :: (← readParts fuel nest)
      | _ =>
        let _ ← takeRaw
        let inside ← readParts fuel .double
        return .text true [] :: inside ++ (← readParts fuel nest)
    | some '\x60' =>
      if nest = .mark then plain '\x60'
      else
        let _ ← takeRaw
        let r ← get
        match backquoted (nest = .double) r.rest with
        | none =>
          set { r with line := r.line + r.rest.count '\n' }
          fault "EOF in backquote substitution"
        | some (inside, rest) =>
          set { r with rest := inside, pending := [], held := none }
          let (body, _) ← readList fuel .closed true none
          let passed := r.rest.take (r.rest.length - rest.length)
          modify fun s => { s with
            rest, held := none, pending := r.pending, line := r.line + passed.count '\n' }
          return .result quoted (body.getD .nothing) :: (← readParts fuel nest)
    | some '$' =>
      if nest = .mark then plain '$'
      else
        let _ ← takeRaw
        let p ← readDollar fuel nest
        let more ← readParts fuel nest
        return match p with
          | some p => p :: more
          | none => consChar quoted '$' more
    | some '\x7d' => match nest with
      | .braces =>
        let _ ← takeRaw
        return []
      | .quotedBraces false =>
        let _ ← takeRaw
        return []
      | _ => plain '\x7d'
    | some '(' => match nest with
      | .number depth =>
        let _ ← takeRaw
        return consChar true '(' (← readParts fuel (.number (depth + 1)))
      | .word => return []
      | .mark => return []
      | _ => plain '('
    | some ')' => match nest with
      | .number 0 =>
        let _ ← takeRaw
        if ← taking ')' then return []
        return consChar true ')' (← readParts fuel nest)
      | .number (depth + 1) =>
        let _ ← takeRaw
        return consChar true ')' (← readParts fuel (.number depth))
      | .word => return []
      | .mark => return []
      | _ => plain ')'
    | some c =>
      if (nest = .word || nest = .mark) && endsWord c then return [] else plain c

def readDollar : Nat → Nest → Reading (Option Part)
  | 0, _ => fault "out of memory"
  | fuel + 1, nest => do
    let quoted := nest.isQuoted
    match ← peek with
    | some '(' =>
      let _ ← takeRaw
      if ← taking '(' then return some (.number quoted (← readParts fuel (.number 0)))
      let r ← get
      set { r with pending := [], held := none }
      let (body, _) ← readList fuel .closed true none
      let t ← readToken fuel false false
      match t with
      | .closing =>
        modify fun s => { s with held := none, pending := r.pending }
        return some (.result quoted (body.getD .nothing))
      | t => unexpected t (some .closing)
    | some '\x7b' =>
      let _ ← takeRaw
      return some (← readBraces fuel nest)
    | some c =>
      if startsName c then
        let name ← takeWhile isNameChar ((← get).rest.length + 1)
        return some (.value quoted (String.ofList name) .none)
      else if isSpecialName c then
        let _ ← takeRaw
        return some (.value quoted c.toString .none)
      else return none
    | none => return none

def readBraces : Nat → Nest → Reading Part
  | 0, _ => fault "out of memory"
  | fuel + 1, nest => do
    let inside : Nest := if nest.isQuoted then .quotedBraces false else .braces
    match ← readName with
    | none => readBad fuel inside
    | some ['#'] =>
      let before ← get
      match ← readName with
      | none => readChange fuel inside "#"
      | some counted =>
        if ← taking '\x7d' then
          return .value nest.isQuoted (String.ofList counted) .length
        else if counted.all fun c => c.isAlphanum || c == '_' then readBad fuel inside
        else
          set before
          readChange fuel inside "#"
    | some name => readChange fuel inside (String.ofList name)

def readChange : Nat → Nest → String → Reading Part
  | 0, _, _ => fault "out of memory"
  | fuel + 1, inside, name => do
    let quoted := inside.isQuoted
    let emptyToo ← taking ':'
    let before ← get
    let mark ← take
    let substitute := fun (use : Substitute) => do
      return Part.value quoted name (.orElse use emptyToo (← readParts fuel inside))
    let trim := fun (front : Bool) (c : Char) => do
      let longest ← taking c
      return Part.value quoted name (.trim front longest (← readParts fuel .braces))
    match mark with
    | some '\x7d' =>
      if !emptyToo then return .value quoted name .none
      else if quoted then fault "Unterminated quoted string"
      else fault "Missing '\x7d'"
    | some '-' => substitute .whenMissing
    | some '=' => substitute .assigned
    | some '?' => substitute .complaint
    | some '+' => substitute .whenThere
    | some c =>
      if !emptyToo && (c == '#' || c == '%') then trim (c == '#') c
      else
        set before
        readBad fuel inside
    | none => if quoted then fault "Unterminated quoted string" else fault "Missing '\x7d'"

def readBad : Nat → Nest → Reading Part
  | 0, _ => fault "out of memory"
  | fuel + 1, inside => do
    let _ ← readParts fuel inside
    return .value inside.isQuoted "" .bad

def dueTexts : Nat → Reading Unit
  | 0 => fault "out of memory"
  | fuel + 1 => takeHereTexts fun text line => do
    let r ← get
    set { r with rest := text, line }
    let body ← readParts fuel .here
    modify fun s => { s with rest := r.rest, line := r.line }
    return body

def readToken : Nat → (inOrder skips : Bool) → Reading ScriptToken
  | 0, _, _ => fault "out of memory"
  | fuel + 1, inOrder, skips => do
    let r ← get
    let t ← match r.held with
      | some t =>
        set { r with held := none }
        pure t
      | none => readFresh fuel
    if t.isNewline && skips then
      dueTexts fuel
      readToken fuel inOrder skips
    else if !inOrder then return t
    else
      let t := keyword? t
      match ← replacement? t with
      | none => return t
      | some rest =>
        modify fun r => { r with rest }
        readToken fuel inOrder skips

def readFresh : Nat → Reading ScriptToken
  | 0 => fault "out of memory"
  | fuel + 1 => do
    let sign := fun (t : ScriptToken) => do
      let _ ← takeRaw
      return t
    let doubled := fun (c : Char) (one two : ScriptToken) => do
      let _ ← takeRaw
      if ← taking c then return two else return one
    match ← peek with
    | none => return .ended
    | some ' ' =>
      let _ ← takeRaw
      readFresh fuel
    | some '\t' =>
      let _ ← takeRaw
      readFresh fuel
    | some '#' =>
      modify fun r => { r with rest := r.rest.dropWhile (· != '\n') }
      readFresh fuel
    | some '\n' => sign .newline
    | some '&' => doubled '&' .ampersand .both
    | some '|' => doubled '|' .bar .either
    | some ';' => doubled ';' .semicolon .doubleSemicolon
    | some '(' => sign .opening
    | some ')' => sign .closing
    | some '<' => readRedirect fuel none
    | some '>' => readRedirect fuel none
    | some c =>
      let before ← get
      if c.isDigit then
        let _ ← takeRaw
        match ← peek with
        | some '<' => readRedirect fuel (some (c.toNat - 48))
        | some '>' => readRedirect fuel (some (c.toNat - 48))
        | _ =>
          set before
          return .word (← readParts fuel .word)
      else return .word (← readParts fuel .word)

def readRedirect : Nat → Option Nat → Reading ScriptToken
  | 0, _ => fault "out of memory"
  | _ + 1, stream => do
    if (← take) == some '>' then
      let out := stream.getD 1
      if ← taking '>' then return .redirect out (.opens .appending)
      else if ← taking '|' then return .redirect out (.opens .overwriting)
      else if ← taking '&' then return .redirect out .copies
      else return .redirect out (.opens .writing)
    else
      let input := stream.getD 0
      if ← taking '<' then return .redirect input (.here (← taking '-'))
      else if ← taking '&' then return .redirect input .copies
      else if ← taking '>' then return .redirect input (.opens .both)
      else return .redirect input (.opens .reading)

def readTarget : Nat → Nat → RedirectSign → Reading Redirection
  | 0, _, _ => fault "out of memory"
  | fuel + 1, stream, sign => do
    match sign with
    | .here withoutTabs => do
      let _ ← takeWhile (fun c => c == ' ' || c == '\t') ((← get).rest.length + 1)
      let w ← match ← peek with
        | some c => if endsWord c then readToken fuel false false else
          pure (.word (← readParts fuel .mark))
        | none => pure .ended
      match w with
      | .word w =>
        let (mark, isQuoted) := (plainText? w).getD ([], false)
        let n := (← get).nextText
        modify fun r => { r with
          nextText := n + 1
          pending := r.pending ++ [⟨n, mark, isQuoted, withoutTabs⟩] }
        return .here stream n
      | t => unexpected t none
    | _ => match ← readToken fuel false false with
      | .word w => return match sign with
        | .opens how => .file stream how w
        | _ => .copy stream w
      | t => unexpected t none

def readList : Nat → ListMode → (first : Bool) → Option Script → Reading (Option Script × Bool)
  | 0, _, _, _ => fault "out of memory"
  | fuel + 1, mode, first, done => do
    match ← readToken fuel true (mode ≠ .line) with
    | .newline =>
      dueTexts fuel
      return (done, true)
    | .ended =>
      dueTexts fuel
      giveBack .ended
      return (done, done.isSome)
    | t =>
      giveBack t
      if (mode = .closed || (mode = .body && !first)) && t.endsList then return (done, true)
      let s ← readChain fuel
      match ← readToken fuel false false with
      | .ended =>
        dueTexts fuel
        giveBack .ended
        return (appendScript done s, true)
      | .newline =>
        giveBack .newline
        readList fuel mode false (appendScript done s)
      | .ampersand => readList fuel mode false (appendScript done (.background s))
      | .semicolon => readList fuel mode false (appendScript done s)
      | t =>
        if mode = .line then unexpected t none
        giveBack t
        return (appendScript done s, true)

def readBody : Nat → Reading Script
  | 0 => fault "out of memory"
  | fuel + 1 => do
    let (body, _) ← readList fuel .body true none
    return body.getD .nothing

def readChain : Nat → Reading Script
  | 0 => fault "out of memory"
  | fuel + 1 => do readLinks fuel (← readPipeline fuel false)

def readLinks : Nat → Script → Reading Script
  | 0, _ => fault "out of memory"
  | fuel + 1, s => do
    match ← readToken fuel false false with
    | .both => readLinks fuel (.chain s .ifGood (← readPipeline fuel true))
    | .either => readLinks fuel (.chain s .ifBad (← readPipeline fuel true))
    | t =>
      giveBack t
      return s

def readPipeline : Nat → (behindSign : Bool) → Reading Script
  | 0, _ => fault "out of memory"
  | fuel + 1, behindSign => do
    let t ← readToken fuel behindSign behindSign
    let inverted := t.isKeyword "!"
    if inverted then giveBack (← readToken fuel true false) else giveBack t
    let first ← readCommand fuel
    let rest ← readStages fuel
    let s := if rest.isEmpty then first else .pipe (first :: rest)
    return if inverted then .inverted s else s

def readStages : Nat → Reading (List Script)
  | 0 => fault "out of memory"
  | fuel + 1 => do
    match ← readToken fuel false false with
    | .bar =>
      giveBack (← readToken fuel true true)
      let s ← readCommand fuel
      return s :: (← readStages fuel)
    | t =>
      giveBack t
      return []

def expectWord : Nat → String → Reading Unit
  | 0, _ => fault "out of memory"
  | fuel + 1, name => do
    let t ← readToken fuel false false
    if !t.isKeyword name then unexpected t (some (.keyword name))

def readCommand : Nat → Reading Script
  | 0 => fault "out of memory"
  | fuel + 1 => do
    let line := (← get).line
    let t ← readToken fuel false false
    match t with
    | .keyword "if" =>
      let s ← readBranch fuel
      readTail fuel line s
    | .keyword "while" =>
      let s ← readLoop fuel true
      readTail fuel line s
    | .keyword "until" =>
      let s ← readLoop fuel false
      readTail fuel line s
    | .keyword "for" =>
      let s ← readEach fuel line
      readTail fuel line s
    | .keyword "case" =>
      let w ← match ← readToken fuel false false with
        | .word w => pure w
        | t => unexpected t (some (.word []))
      let t ← readToken fuel true true
      if !t.isKeyword "in" then unexpected t (some (.keyword "in"))
      let arms ← readArms fuel
      readTail fuel line (.choice line w arms)
    | .opening =>
      let s ← readBody fuel
      match ← readToken fuel false false with
      | .closing => readTail fuel line (.apart s)
      | t => unexpected t (some .closing)
    | .keyword "\x7b" =>
      let s ← readBody fuel
      expectWord fuel "\x7d"
      readTail fuel line s
    | .word w =>
      giveBack (.word w)
      readSimple fuel line true [] [] []
    | .redirect n s =>
      giveBack (.redirect n s)
      readSimple fuel line true [] [] []
    | t => unexpected t none

def readTail : Nat → Nat → Script → Reading Script
  | 0, _, _ => fault "out of memory"
  | fuel + 1, line, s => do
    let rs ← readRedirections fuel
    return if rs.isEmpty then s else .redirected line s rs

def readRedirections : Nat → Reading (List Redirection)
  | 0 => fault "out of memory"
  | fuel + 1 => do
    match ← readToken fuel true false with
    | .redirect n sign =>
      let r ← readTarget fuel n sign
      return r :: (← readRedirections fuel)
    | t =>
      giveBack t
      return []

def readBranch : Nat → Reading Script
  | 0 => fault "out of memory"
  | fuel + 1 => do
    let test ← readBody fuel
    expectWord fuel "then"
    let yes ← readBody fuel
    match ← readToken fuel false false with
    | .keyword "elif" => return .branch test yes (← readBranch fuel)
    | .keyword "else" =>
      let no ← readBody fuel
      expectWord fuel "fi"
      return .branch test yes no
    | t =>
      giveBack t
      expectWord fuel "fi"
      return .branch test yes .nothing

def readLoop : Nat → Bool → Reading Script
  | 0, _ => fault "out of memory"
  | fuel + 1, wanted => do
    let test ← readBody fuel
    expectWord fuel "do"
    let body ← readBody fuel
    expectWord fuel "done"
    return .loop wanted test body

def readEach : Nat → Nat → Reading Script
  | 0, _ => fault "out of memory"
  | fuel + 1, line => do
    let name ← match ← readToken fuel false false with
      | .word [.text false cs] =>
        if isGoodName cs then pure (String.ofList cs) else fault "Bad for loop variable"
      | _ => fault "Bad for loop variable"
    let t ← readToken fuel true true
    let words ← if t.isKeyword "in" then readWords fuel
      else
        match t with
        | .semicolon => pure ()
        | t => giveBack t
        pure [[Part.value true "@" .none]]
    let t ← readToken fuel true true
    if !t.isKeyword "do" then unexpected t (some (.keyword "do"))
    let body ← readBody fuel
    expectWord fuel "done"
    return .each line name words body

def readWords : Nat → Reading (List Word)
  | 0 => fault "out of memory"
  | fuel + 1 => do
    match ← readToken fuel false false with
    | .word w => return w :: (← readWords fuel)
    | .newline =>
      dueTexts fuel
      return []
    | .semicolon => return []
    | t => unexpected t none

def readArms : Nat → Reading (List (List Word × Script))
  | 0 => fault "out of memory"
  | fuel + 1 => do
    let t ← readToken fuel true true
    if t.isKeyword "esac" then return []
    let t ← match t with
      | .opening => readToken fuel false false
      | t => pure t
    let patterns ← readPatterns fuel t
    let (body, _) ← readList fuel .closed true none
    let arm := (patterns, body.getD .nothing)
    let t ← readToken fuel true true
    if t.isKeyword "esac" then return [arm]
    match t with
    | .doubleSemicolon => return arm :: (← readArms fuel)
    | t => unexpected t (some .doubleSemicolon)

def readPatterns : Nat → ScriptToken → Reading (List Word)
  | 0, _ => fault "out of memory"
  | fuel + 1, t => do
    let w : Word := match t with
      | .word w => w
      | .keyword name => [.text false name.toList]
      | _ => []
    match ← readToken fuel false false with
    | .bar =>
      let t ← readToken fuel false false
      return w :: (← readPatterns fuel t)
    | .closing => return [w]
    | t => unexpected t (some .closing)

/-- Assignments, words and redirections of a command; `settling` says that assignments
are still looked for. -/
def readSimple : Nat → Nat → (settling : Bool) → List (String × Word) → List Word →
    List Redirection → Reading Script
  | 0, _, _, _, _, _ => fault "out of memory"
  | fuel + 1, line, settling, settings, words, rs => do
    let t ← readToken fuel false false
    let done := do
      giveBack t
      return Script.simple line settings words rs
    match t with
    | .word w =>
      match (if settling then assignment? w else none) with
      | some (name, value) =>
        readSimple fuel line true (settings ++ [(name, value)]) words rs
      | none => readSimple fuel line false settings (words ++ [w]) rs
    | .redirect n sign =>
      let r ← readTarget fuel n sign
      readSimple fuel line settling settings words (rs ++ [r])
    | .opening => match settings, words, rs with
      | [], [w], [] =>
        match ← readToken fuel false false with
        | .closing =>
          match w with
          | [.text false cs] =>
            let name := String.ofList cs
            if !isGoodName cs || specialCommands.contains name then fault "Bad function name"
            giveBack (← readToken fuel true true)
            return .function name (← readCommand fuel)
          | _ => fault "Bad function name"
        | t => unexpected t (some .closing)
      | _, _, _ => done
    | _ => done

end

def readingSteps (cs : Octets) : Nat := 24 * cs.length + 64

def readCommands : Reading (Option Script) := do
  let fuel := readingSteps (← get).rest
  match ← readToken fuel true false with
  | .ended => return none
  | t =>
    giveBack t
    let (s, _) ← readList fuel .line true none
    return some (s.getD .nothing)

end DocBraces.Tools
