import DocBraces.Files.Path
import DocBraces.Files.Tree

/-!
# Views

A tree as it is seen from a folder: what a path leads to, and which names a folder
holds. Where a path leads nowhere there is nothing to be seen.
-/

set_option autoImplicit false

namespace DocBraces.Files

/-- A tree and the current folder. -/
structure View where
  tree : Tree
  here : Place

/-- Why a walk through folders ends early. -/
inductive WalkFault where
  | file (fault : Fault)
  | tooDeep
  deriving DecidableEq, Repr

def hasNul (s : String) : Bool := s.toList.contains '\x00'

def isTooLong (name : String) : Bool := nameLimit < (Text.Utf8.encode name.toList).length

namespace View

def node? (v : View) (follow : Bool) (p : Path) : Option (Place × Node) :=
  if hasNul p.toString then none
  else match v.tree.resolve follow v.here p.toString with
    | .ok (.present place n) => some (place, n)
    | _ => none

def isFolder (v : View) (p : Path) : Bool :=
  match v.node? true p with
  | some (_, .folder) => true
  | _ => false

def isThere (v : View) (p : Path) : Bool := (v.node? true p).isSome

def isOverlong (v : View) (p : Path) : Bool :=
  if hasNul p.toString then false
  else match v.tree.resolve true v.here p.toString with
    | .error .nameTooLong => true
    | _ => false

def names (v : View) (p : Path) : List String :=
  match v.node? true p with
  | some (place, .folder) => v.tree.children place
  | _ => []

def entry? (v : View) (p : Path) (name : String) : Option Node :=
  match v.node? true p with
  | some (place, .folder) => v.tree.node? (place ++ [name])
  | _ => none

def overlong {α : Type} (p : Path) : Except WalkFault α :=
  .error (.file ⟨.nameTooLong, p.toString⟩)

def scan (v : View) (p : Path) : Except WalkFault (List String) :=
  if v.isOverlong p then overlong p else .ok (v.names p)

/-- A name in a folder is that of a folder or of a link to one. Where a link leads cannot
be asked by a path that is too long. -/
def holdsFolder (v : View) (p : Path) (name : String) : Except WalkFault Bool :=
  match v.entry? p name with
  | some .folder => .ok true
  | some (.link _) =>
    if v.isOverlong (p.child name) then overlong (p.child name)
    else .ok (v.isFolder (p.child name))
  | _ => .ok false

/-- Looks into a folder and then into those below it, links left aside. The levels that
are left bound how far down, as the stack does. -/
def walk {α : Type} (v : View) (look : Path → Except WalkFault (List α)) :
    (levels : Nat) → Path → Except WalkFault (List α)
  | 0, p => do
    let _ ← look p
    .error .tooDeep
  | levels + 1, p => do
    let found ← look p
    let below ← (← v.scan p).mapM fun n =>
      if v.entry? p n = some .folder then v.walk look levels (p.child n) else .ok []
    return found ++ below.flatten

end View

end DocBraces.Files
