import DocBraces.Tools.Arithmetic
import DocBraces.Tools.Shell
import DocBraces.Tools.Wildcard

/-!
# Expansion

The fields that words stand for: values and results take their places, what is unquoted
of them is split, and patterns become the names that fit them.
-/

set_option autoImplicit false

namespace DocBraces.Tools

open DocBraces.Text DocBraces.Files

abbrev Runner := Bool → Script → Action Unit

inductive Atom where
  | char (c : Char) (quoted splits : Bool)
  /-- Quotes: there is a field, even an empty one. -/
  | mark
  | gap
  /-- Arguments that are none: no field because of their quotes. -/
  | absent
  deriving DecidableEq, Repr

namespace Expansion

def atoms (quoted : Bool) (cs : Octets) : List Atom :=
  cs.map fun c => .char c quoted (!quoted)

def textOfAtoms (as : List Atom) : Octets := as.filterMap fun a => match a with
  | .char c _ _ => some c
  | .gap => some ' '
  | _ => none

def marksOf (as : List Atom) : List Mark := as.filterMap fun a => match a with
  | .char c q _ => some (c, q)
  | .gap => some (' ', true)
  | _ => none

def value? (sh : Shell) (name : String) : Option Octets :=
  match name.toList with
  | ['#'] => some (digits 10 sh.args.length)
  | ['?'] => some (digits 10 sh.status)
  | ['-'] => some sh.switches.reverse
  | ['$'] => some (digits 10 Shell.ownNumber)
  | ['!'] => sh.jobs.head?.map fun j => digits 10 j.1
  | cs =>
    if cs.all Char.isDigit then
      let n := ofDigits 10 cs
      if n = 0 then some sh.name else sh.args[n - 1]?
    else sh.value? name

def isAll (name : String) : Bool := name == "@" || name == "*"

def joiner (sh : Shell) (name : String) : Octets :=
  if name == "*" then sh.separators.take 1 else [' ']

def allArguments (sh : Shell) (name : String) (quoted fields : Bool) : List Atom :=
  if fields && (!quoted || name == "@") then
    if sh.args.isEmpty then (if quoted then [.absent] else [])
    else ((sh.args.map fun a => (if quoted then [Atom.mark] else []) ++ atoms quoted a).intersperse
      [.gap]).flatten
  else atoms quoted ((sh.args.intersperse (joiner sh name)).flatten)

def missing {α : Type} (name message : String) : Action α :=
  Action.die 2 (Octets.ofString (name ++ ": " ++ message))

def isFixed (name : String) : Bool := !isGoodName name.toList

def fault {α : Type} (text : Octets) : SumFault → Action α
  | .expected what =>
    Action.die 2 ("arithmetic expression: ".toList ++ what.toList ++ ": \"".toList ++ text ++ ['"'])
  | .divisionByZero =>
    Action.die 2 ("arithmetic expression: division by zero: \"".toList ++ text ++ ['"'])
  | .badNumber cs => Action.die 2 ("Illegal number: ".toList ++ cs)

def compute (text : Octets) : Action Octets := do
  let sh ← get
  let lookup := fun name => (value? sh name).getD []
  match (Sum.ofText text).bind fun e => e.value lookup [] with
  | .error f => fault text f
  | .ok (n, assigned) =>
    assigned.reverse.forM fun (name, n) => Action.setVariable name (digitsOfInt n)
    return digitsOfInt n

def resultOf (run : Runner) (body : Script) : Action Octets := do
  let old ← get
  let (n, inner) := old.addFile (.pipe [] false)
  set { inner.pointStream 1 n with traps := [], loops := 0 }
  let ended ← Action.attempt (run false body)
  let inner ← get
  let written := match inner.files.lookup n with
    | some (.pipe held _) => held
    | _ => []
  let status ← match ended with
    | .ok () => pure inner.status
    | .error (.exit s) => pure s
    | .error (.fault s) => pure s
    | .error (.return_ s) => pure s
    | .error .timeout =>
      set (Action.rejoin old inner)
      throw .timeout
    | .error (.signal s) =>
      set (Action.rejoin old inner)
      throw (.signal s)
    | .error _ => pure inner.status
  set { Action.rejoin old inner with status, resultStatus := some status }
  let kept := written.filter (· != 0)
  return Octets.ofBytes (kept.reverse.dropWhile (· == newline)).reverse

def homeFor (sh : Shell) (w : Word) : Word :=
  match w with
  | .text false ('~' :: cs) :: rest =>
    let user := cs.takeWhile (· != '/')
    let behind := cs.drop user.length
    if behind.isEmpty && !rest.isEmpty then w
    else
      let home := if user.isEmpty then sh.value? "HOME"
        else if user == "root".toList then some "/root".toList else none
      match home with
      | some h => .text true h :: (if behind.isEmpty then rest else .text false behind :: rest)
      | none => w
  | _ => w

/-- Puts the home in the place of tildes in front of the parts of a value, which colons
divide. -/
def homesFor (sh : Shell) : Word → Word
  | [] => []
  | .text false cs :: rest =>
    let pieces := cs.splitOn ':'
    let count := pieces.length
    let replaced := pieces.zipIdx.map fun (p, i) =>
      let more := if i + 1 < count || rest.isEmpty then [] else [Part.text true []]
      (homeFor sh (.text false p :: more)).filter fun q => match q with
        | .text true [] => false
        | _ => true
    (replaced.intersperse [.text false [':']]).flatten ++ (match rest with
      | [] => []
      | p :: ps => p :: ps)
  | w => w

def expandParts (run : Runner) (fields : Bool) : Nat → Word → Action (List Atom)
  | 0, _ => return []
  | fuel + 1, parts => do
    let expanded ← parts.mapM fun p => do
      match p with
      | .text quoted cs =>
        return (if quoted then [Atom.mark] else []) ++ cs.map fun c => .char c quoted false
      | .result quoted body =>
        let cs ← resultOf run body
        return (if quoted then [Atom.mark] else []) ++ atoms quoted cs
      | .number quoted inside =>
        let cs ← compute (textOfAtoms (← expandParts run false fuel inside))
        return atoms quoted cs
      | .value quoted name change =>
        let sh ← get
        let plain := fun (sh : Shell) =>
          if isAll name then allArguments sh name quoted fields
          else (if quoted then [Atom.mark] else []) ++ atoms quoted ((value? sh name).getD [])
        let value := if isAll name then
            (if sh.args.isEmpty then none
              else some (sh.args.intersperse (joiner sh name)).flatten)
          else value? sh name
        let mustBeThere : Action Unit := do
          if sh.has 'u' && value.isNone && !isAll name then missing name "parameter not set"
        match change with
        | .none =>
          mustBeThere
          return plain sh
        | .bad => Action.dieText "Bad substitution"
        | .length =>
          mustBeThere
          return atoms quoted (digits 10 (value.getD []).length)
        | .trim front longest pattern =>
          mustBeThere
          let ws := wildcardsOf (marksOf (← expandParts run false fuel pattern))
          let v := value.getD []
          return (if quoted then [Atom.mark] else []) ++
            atoms quoted (if front then trimFront ws longest v else trimBack ws longest v)
        | .orElse use emptyToo word =>
          let isThere := match value with
            | none => false
            | some v => !(emptyToo && v.isEmpty)
          match use with
          | .whenThere => if isThere then expandParts run fields fuel word else return []
          | .whenMissing => if isThere then return plain sh else expandParts run fields fuel word
          | .assigned =>
            if isThere then return plain sh
            else
              let v := textOfAtoms (← expandParts run false fuel word)
              if isFixed name then missing name "bad variable name"
              Action.setVariable name v
              return plain (← get)
          | .complaint =>
            if isThere then return plain sh
            else if word.isEmpty then
              missing name (if emptyToo then "parameter not set or null" else "parameter not set")
            else
              let text := textOfAtoms (← expandParts run false fuel word)
              Action.die 2 (Octets.ofString name ++ ": ".toList ++ text)
    return expanded.flatten

def depth : Nat := 1000

structure Splitting where
  done : List (List Mark) := []
  current : Option (List Mark) := none
  /-- The last field ended at a blank, so that a separator belongs to its end. -/
  behindBlank : Bool := false
  /-- The field that has begun is due to quotes only. -/
  isAbsent : Bool := false

def Splitting.close (s : Splitting) : Splitting :=
  match s.current with
  | some ms => { s with done := ms.reverse :: s.done, current := none, isAbsent := false }
  | none => s

def Splitting.put (s : Splitting) (m : Mark) : Splitting :=
  { s with current := some (m :: s.current.getD []), behindBlank := false, isAbsent := false }

def isBlankSeparator (c : Char) : Bool := c == ' ' || c == '\t' || c == '\n'

def Splitting.step (separators : Octets) (s : Splitting) : Atom → Splitting
  | .mark => { s with current := some (s.current.getD []), behindBlank := false }
  | .gap => { s.close with behindBlank := false }
  | .absent => { s with isAbsent := (s.current.getD []).isEmpty }
  | .char c quoted splits =>
    if splits && separators.contains c then
      if isBlankSeparator c then
        (if s.current.isSome then { s.close with behindBlank := true } else s)
      else if s.current.isSome then { s.close with behindBlank := false }
      else if s.behindBlank then { s with behindBlank := false }
      else { s with done := [] :: s.done }
    else s.put (c, quoted)

def fieldsOf (separators : Octets) (as : List Atom) : List (List Mark) :=
  let s := as.foldl (Splitting.step separators) {}
  let s := if s.isAbsent then s else s.close
  s.done.reverse

def componentsOf (ms : List Mark) : List (List Mark) :=
  ms.foldr (fun m parts => match parts with
    | [] => if m.1 == '/' then [[], []] else [[m]]
    | p :: ps => if m.1 == '/' then [] :: p :: ps else (m :: p) :: ps) [[]]

def namesIn (v : View) (folder : Octets) : List Octets :=
  let path := if folder.isEmpty then "." else folder.text
  match v.tree.resolve true v.here path with
  | .ok (.present place .folder) => (v.tree.children place).map Octets.ofString
  | _ => []

def isPresent (v : View) (path : Octets) : Bool :=
  match v.tree.resolve false v.here path.text with
  | .ok (.present _ _) => true
  | _ => false

def fewer (a b : Octets) : Bool := bytesBefore a.toBytes b.toBytes

def pathsLike (v : View) : (done : Octets) → List (List Mark) → List Octets
  | done, [] => if isPresent v done then [done] else []
  | done, [c] => pathsAt v done c (fun q => if isPresent v q then [q] else [])
  | done, c :: cs => pathsAt v done c fun q => pathsLike v (q ++ ['/']) cs
where
  pathsAt (v : View) (done : Octets) (c : List Mark) (further : Octets → List Octets) :
      List Octets :=
    if isWild c then
      let units := wildcardsOf c
      let dotted := c.head?.any (·.1 == '.')
      let names := namesIn v done ++ if dotted then [".".toList, "..".toList] else []
      let fitting := names.filter fun n =>
        (n.head? != some '.' || dotted) && fitsWild units n
      fitting.flatMap fun n => further (done ++ n)
    else further (done ++ c.map (·.1))

def namesFor (sh : Shell) (ms : List Mark) : List Octets :=
  let text := ms.map (·.1)
  if sh.has 'f' || !isWild ms then [text]
  else match pathsLike ⟨sh.tree, sh.here⟩ [] (componentsOf ms) with
    | [] => [text]
    | ps => ps.mergeSort fewer

def fields (run : Runner) (w : Word) : Action (List Octets) := do
  let as ← expandParts run true depth (homeFor (← get) w)
  let sh ← get
  return (fieldsOf sh.separators as).flatMap (namesFor sh)

def text (run : Runner) (w : Word) : Action Octets := do
  return textOfAtoms (← expandParts run false depth (homeFor (← get) w))

def pattern (run : Runner) (w : Word) : Action (List Wildcard) := do
  return wildcardsOf (marksOf (← expandParts run false depth (homeFor (← get) w)))

end Expansion

end DocBraces.Tools
