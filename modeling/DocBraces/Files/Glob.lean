import DocBraces.Files.View

/-!
# Name patterns

Patterns select paths below a folder, component by component. A star stands for any
characters, a question mark for one, brackets for one of a set; two stars stand for
the folder itself and all folders below it that are reached without links.
-/

set_option autoImplicit false

namespace DocBraces.Files

namespace Glob

inductive Member where
  | single (c : Char)
  | range (low high : Char)
  deriving DecidableEq, Repr

inductive Unit where
  | literal (c : Char)
  | any
  | anyRow
  | oneOf (negated : Bool) (members : List Member)
  deriving DecidableEq, Repr

def Member.holds (c : Char) : Member → Bool
  | .single d => c == d
  | .range a b => a.toNat ≤ c.toNat && c.toNat ≤ b.toNat

def members : List Char → List Member
  | a :: '-' :: b :: cs => .range a b :: members cs
  | a :: cs => .single a :: members cs
  | [] => []

def Member.reversed : Member → Bool
  | .single _ => false
  | .range a b => b.toNat < a.toNat

/-- A set from the inside of brackets. Reversed ranges hold nothing and go first; an
exclamation mark in front of the rest negates it. -/
def bracketUnit (inside : List Char) : Unit :=
  let (marked, body) := match inside with
    | '!' :: cs => (true, cs)
    | cs => (false, cs)
  let kept := (members body).filter (!·.reversed)
  if marked then .oneOf true kept
  else match kept with
    | .single '!' :: rest => .oneOf true rest
    | .range '!' b :: rest => .oneOf true (.single '-' :: .single b :: rest)
    | _ => .oneOf false kept

/-- Length of the inside of brackets; a closing bracket in front belongs to it. -/
def insideLength? (cs : List Char) : Option Nat :=
  let mark := if cs.head? == some '!' then 1 else 0
  let first := if (cs.drop mark).head? == some ']' then mark + 1 else mark
  let body := (cs.drop first).takeWhile (· != ']')
  if first + body.length < cs.length then some (first + body.length) else none

def unitsFrom : (left : Nat) → List Char → List Unit
  | _, [] => []
  | n + 1, _ :: cs => unitsFrom n cs
  | 0, c :: cs =>
    if c = '*' then .anyRow :: unitsFrom 0 cs
    else if c = '?' then .any :: unitsFrom 0 cs
    else if c = '[' then match insideLength? cs with
      | some n => bracketUnit (cs.take n) :: unitsFrom (n + 1) cs
      | none => .literal c :: unitsFrom 0 cs
    else .literal c :: unitsFrom 0 cs

def units (component : String) : List Unit := unitsFrom 0 component.toList

def Unit.holds (c : Char) : Unit → Bool
  | .literal d => c == d
  | .any => true
  | .anyRow => false
  | .oneOf negated ms => (ms.any (·.holds c)) != negated

def anySuffix (test : List Char → Bool) : List Char → Bool
  | [] => test []
  | c :: cs => test (c :: cs) || anySuffix test cs

def fits : List Unit → List Char → Bool
  | [], cs => cs.isEmpty
  | .anyRow :: us, cs => anySuffix (fits us) cs
  | u :: us, cs => match cs with
    | [] => false
    | c :: rest => u.holds c && fits us rest

inductive Component where
  | exactly (name : String)
  | like (units : List Unit)
  | folders
  deriving DecidableEq, Repr

/-- Why a text is no pattern. -/
inductive PatternFault where
  | empty
  | rooted
  | partialStars
  | noNames (slash : Bool)
  deriving DecidableEq, Repr

def PatternFault.message : PatternFault → String
  | .empty => "Unacceptable pattern: ''"
  | .rooted => "Non-relative patterns are unsupported"
  | .partialStars => "Invalid pattern: '**' can only be an entire path component"
  | .noNames slash =>
    if slash then "'_TerminatingSelector' object has no attribute 'select_from'"
    else "tuple index out of range"

/-- Components, and whether only folders are wanted. -/
structure Pattern where
  components : List Component
  onlyFolders : Bool
  deriving DecidableEq, Repr

def hasTwoStars : List Char → Bool
  | '*' :: '*' :: _ => true
  | _ :: cs => hasTwoStars cs
  | [] => false

def isWild (name : String) : Bool := name.toList.any fun c => c == '*' || c == '?' || c == '['

def component (name : String) : Except PatternFault Component :=
  if name = "**" then .ok .folders
  else if hasTwoStars name.toList then .error .partialStars
  else if isWild name then .ok (.like (units name))
  else .ok (.exactly name)

def Pattern.ofString (s : String) : Except PatternFault Pattern :=
  if s.isEmpty then .error .empty
  else
    let p := Path.ofString s
    let onlyFolders := s.toList.getLast? == some '/'
    if p.root ≠ .relative then .error .rooted
    else if p.names.isEmpty then .error (.noNames onlyFolders)
    else (p.names.mapM component).map (⟨·, onlyFolders⟩)

/-- Paths that components select from a path. Before the last component only folders
are of use, and after it if only folders are wanted; names that do not fit are asked
whether they are folders all the same. -/
def select (v : View) (levels : Nat) (onlyFolders : Bool) : List Component → Path →
    Except WalkFault (List Path)
  | [], p => .ok [p]
  | c :: cs, p =>
    let mustBeFolder := onlyFolders || !cs.isEmpty
    match c with
    | .exactly name => do
      let q := p.child name
      if v.isOverlong q then View.overlong q
      if (if mustBeFolder then v.isFolder q else v.isThere q) then select v levels onlyFolders cs q
      else return []
    | .like us => do
      let usable := fun n => if mustBeFolder then v.holdsFolder p n else .ok true
      let found ← (← v.scan p).mapM fun n => do
        if (← usable n) && fits us n.toList then select v levels onlyFolders cs (p.child n)
        else return []
      return found.flatten
    | .folders => v.walk (select v levels onlyFolders cs) levels p

/-- Paths below a folder that a pattern selects; none if there is no such folder. -/
def find (v : View) (levels : Nat) (root : Path) (pat : Pattern) :
    Except WalkFault (List Path) :=
  if v.isOverlong root then View.overlong root
  else if v.isFolder root then select v levels pat.onlyFolders pat.components root
  else .ok []

end Glob

end DocBraces.Files
