/-!
# Paths

A path is a root and a row of names. Empty names and single dots are dropped when a
path is read; two dots are kept.
-/

set_option autoImplicit false

namespace DocBraces.Files

/-- What a path starts from. Exactly two leading slashes are kept apart from one. -/
inductive PathRoot where
  | relative
  | absolute
  | doubled
  deriving DecidableEq, Repr

def PathRoot.text : PathRoot → String
  | .relative => ""
  | .absolute => "/"
  | .doubled => "//"

structure Path where
  root : PathRoot
  names : List String
  deriving DecidableEq, Repr

namespace Path

def splitNames (s : String) : List String := (s.toList.splitOn '/').map String.ofList

def isName (n : String) : Bool := !n.isEmpty && n != "."

def rootOf (s : String) : PathRoot :=
  match (s.toList.takeWhile (· == '/')).length with
  | 0 => .relative
  | 2 => .doubled
  | _ => .absolute

def ofString (s : String) : Path := ⟨rootOf s, (splitNames s).filter isName⟩

def toString (p : Path) : String :=
  if p.root = .relative ∧ p.names.isEmpty then "."
  else p.root.text ++ "/".intercalate p.names

def join (p q : Path) : Path :=
  if q.root = .relative then ⟨p.root, p.names ++ q.names⟩ else q

def child (p : Path) (name : String) : Path := ⟨p.root, p.names ++ [name]⟩

def parent (p : Path) : Path := ⟨p.root, p.names.dropLast⟩

def baseName (p : Path) : String := p.names.getLast?.getD ""

def lessNames : List String → List String → Bool
  | [], [] => false
  | [], _ :: _ => true
  | _ :: _, [] => false
  | a :: as, b :: bs => if a = b then lessNames as bs else a < b

def parts (p : Path) : List String :=
  if p.root = .relative then p.names else p.root.text :: p.names

def before (p q : Path) : Bool := lessNames p.parts q.parts

def sort (ps : List Path) : List Path :=
  ps.eraseDups.mergeSort fun p q => !q.before p

theorem join_names_of_relative (p q : Path) (h : q.root = .relative) :
    (p.join q).names = p.names ++ q.names := by
  simp [join, h]

theorem parent_child (p : Path) (name : String) : (p.child name).parent = p := by
  simp [parent, child]

theorem baseName_child (p : Path) (name : String) : (p.child name).baseName = name := by
  simp [baseName, child]

end Path

end DocBraces.Files
