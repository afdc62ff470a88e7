import DocBraces.Data.Scalar

/-!
# Data graphs

Data as cells that refer to each other, so that parts can be shared and can contain
themselves. Text shown for a cell that is met again inside itself is cut short.
-/

set_option autoImplicit false

namespace DocBraces.Data

abbrev Ref := Nat

inductive Cell where
  | scalar (s : Scalar)
  | list (items : List Ref)
  | pair (first second : Ref)
  | set (items : List Scalar)
  | mapping (entries : List (Scalar × Ref))

abbrev Graph := List Cell

/-- A graph and the cell that stands for the whole. -/
structure Document where
  graph : Graph
  root : Ref

namespace Graph

def cell (g : Graph) (r : Ref) : Cell := (g[r]?).getD (.scalar .null)

end Graph

def Cell.typeName : Cell → String
  | .scalar s => s.typeName
  | .list _ => "list"
  | .pair _ _ => "tuple"
  | .set _ => "set"
  | .mapping _ => "dict"

def Cell.get? (key : String) : Cell → Option Ref
  | .mapping entries => (entries.find? fun e => e.1.sameKey (.text key)).map (·.2)
  | _ => none

def insertEntry (key : Scalar) (value : Ref) : List (Scalar × Ref) → List (Scalar × Ref)
  | [] => [(key, value)]
  | e :: es => if e.1.sameKey key then (e.1, value) :: es else e :: insertEntry key value es

def insertMember (s : Scalar) (items : List Scalar) : List Scalar :=
  if items.any (·.sameKey s) then items else items ++ [s]

def commaJoin (parts : List String) : String := ", ".intercalate parts

/-- The text shown for a cell; `path` holds the cells it is inside of, and `depth`
bounds their number. -/
def Graph.shownWithin (g : Graph) : Nat → List Ref → Ref → String
  | 0, _, _ => "..."
  | depth + 1, path, r =>
    let again := path.contains r
    let inner := g.shownWithin depth (r :: path)
    match g.cell r with
    | .scalar s => s.shown
    | .list items => if again then "[...]" else "[" ++ commaJoin (items.map inner) ++ "]"
    | .pair a b => if again then "(...)" else "(" ++ commaJoin [inner a, inner b] ++ ")"
    | .set items => if items.isEmpty then "set()"
        else "\x7b" ++ commaJoin (items.map Scalar.shown) ++ "\x7d"
    | .mapping entries => if again then "\x7b...\x7d"
        else "\x7b" ++ commaJoin (entries.map fun e => e.1.shown ++ ": " ++ inner e.2) ++ "\x7d"

def Graph.isShownWithin (g : Graph) : Nat → List Ref → Ref → Bool
  | 0, _, _ => true
  | depth + 1, path, r =>
    let inner := fun q => path.contains q || g.isShownWithin depth (r :: path) q
    match g.cell r with
    | .scalar s => s.isShown
    | .list items => items.all inner
    | .pair a b => inner a && inner b
    | .set items => items.all Scalar.isShown
    | .mapping entries => entries.all fun e => e.1.isShown && inner e.2

def Graph.shown (g : Graph) (r : Ref) : String :=
  if g.isShownWithin (g.length + 1) [] r then g.shownWithin (g.length + 1) [] r
  else s!"<unprintable {(g.cell r).typeName} object>"

/-- Data as a tree. -/
inductive Tree where
  | scalar (s : Scalar)
  | list (items : List Tree)
  | mapping (entries : List (String × Tree))
  deriving Inhabited

mutual

def Tree.addTo (g : Graph) : Tree → Graph × Ref
  | .scalar s => (g ++ [.scalar s], g.length)
  | .list items =>
    let (g, refs) := Tree.addItems g items
    (g ++ [.list refs], g.length)
  | .mapping entries =>
    let (g, es) := Tree.addEntries g entries
    (g ++ [.mapping es], g.length)

def Tree.addItems (g : Graph) : List Tree → Graph × List Ref
  | [] => (g, [])
  | t :: ts =>
    let (g, r) := t.addTo g
    let (g, rs) := Tree.addItems g ts
    (g, r :: rs)

def Tree.addEntries (g : Graph) : List (String × Tree) → Graph × List (Scalar × Ref)
  | [] => (g, [])
  | (k, t) :: ts =>
    let (g, r) := t.addTo g
    let (g, es) := Tree.addEntries g ts
    (g, (.text k, r) :: es)

end

def Tree.document (t : Tree) : Document :=
  let (graph, root) := t.addTo []
  { graph, root }

end DocBraces.Data
