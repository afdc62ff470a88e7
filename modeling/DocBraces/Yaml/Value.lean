import DocBraces.Data.Graph
import DocBraces.Yaml.Node
import DocBraces.Yaml.Scalar

/-!
# Values

Nodes as data. A container is there, empty, before its parts are built, so that parts
can refer to it; containers are filled in the order in which they were met.
-/

set_option autoImplicit false

namespace DocBraces.Yaml

open DocBraces.Data

structure Builder where
  nodes : Nodes
  graph : Graph := []
  built : List (Nat × Ref) := []
  /-- Containers that are still empty. -/
  waiting : List (Nat × Ref) := []

abbrev Building := StateT Builder (Except Failure)

def Tag.container? : Tag → Option Cell
  | .seq => some (.list [])
  | .omap => some (.list [])
  | .pairs => some (.list [])
  | .set => some (.set [])
  | .map => some (.mapping [])
  | _ => none

/-- The content of a scalar. A mapping stands for the value of its key `=`, which may be
the mapping itself. -/
def Nodes.content (nodes : Nodes) : (levels : Nat) → Nat → Except Failure Content
  | 0, _ => .error .tooDeep
  | levels + 1, number =>
    match nodes[number]? with
    | some (.scalar _ c) => .ok c
    | some (.mapping _ pairs) =>
      match pairs.find? fun p => (nodes[p.1]?).map Node.tag == some .value with
      | some p => Nodes.content nodes levels p.2
      | none => .error .malformed
    | _ => .error .malformed

def Node.isMapping : Node → Bool
  | .mapping _ _ => true
  | _ => false

namespace Building

def malformed {α : Type} : Building α := throw .malformed

def node (number : Nat) : Building Node := do
  match (← get).nodes[number]? with
  | some n => return n
  | none => malformed

def setNode (number : Nat) (n : Node) : Building Unit :=
  modify fun b => { b with nodes := b.nodes.set number n }

def addCell (c : Cell) : Building Ref :=
  modifyGet fun b => (b.graph.length, { b with graph := b.graph ++ [c] })

def setCell (ref : Ref) (c : Cell) : Building Unit :=
  modify fun b => { b with graph := b.graph.set ref c }

def build (number : Nat) : Building Ref := do
  let b ← get
  match b.built.lookup number with
  | some r => return r
  | none =>
    let n ← node number
    let r ← match n.tag.container? with
      | some c =>
        let r ← addCell c
        modify fun b => { b with waiting := b.waiting ++ [(number, r)] }
        pure r
      | none =>
        let c ← liftM (b.nodes.content stackLevels number)
        if n.tag = .timestamp && n.isMapping then throw .timestampOfMapping
        let s ← liftM (c.value n.tag)
        addCell (.scalar (s.toldBy (← get).graph.length))
    modify fun b => { b with built := (number, r) :: b.built }
    return r

def buildKey (number : Nat) : Building Scalar := do
  let r ← build number
  match (← get).graph.cell r with
  | .scalar s => return s
  | _ => malformed

abbrev Pairs := List (Nat × Nat)

def pairs (number : Nat) : Building Pairs := do
  match ← node number with
  | .mapping _ ps => return ps
  | _ => malformed

def setPairs (number : Nat) (ps : Pairs) : Building Unit := do
  setNode number (.mapping (← node number).tag ps)

mutual

def mergeInto : (fuel levels : Nat) → Nat → Building Unit
  | 0, _, _ => malformed
  | fuel + 1, levels, number => do
    let merged ← mergedPairs fuel levels number 0
    setPairs number (merged ++ (← pairs number))

/-- Takes the merge keys from a position on out of a mapping and gives the pairs that
they bring. Of merged mappings in a sequence the first has the last word. -/
def mergedPairs : (fuel levels : Nat) → Nat → Nat → Building Pairs
  | 0, _, _, _ => malformed
  | fuel + 1, levels, number, position => do
    let own ← pairs number
    match own[position]? with
    | none => return []
    | some (k, v) =>
      match (← node k).tag with
      | .merge =>
        setPairs number (own.eraseIdx position)
        let brought ← match ← node v with
          | .mapping _ _ => pairsAfterMerge fuel levels v
          | .sequence _ items => do
            let parts ← items.mapM (pairsAfterMerge fuel levels)
            pure parts.reverse.flatten
          | .scalar _ _ => malformed
        return brought ++ (← mergedPairs fuel levels number position)
      | .value =>
        setNode k ((← node k).withTag .str)
        mergedPairs fuel levels number (position + 1)
      | _ => mergedPairs fuel levels number (position + 1)

def pairsAfterMerge : (fuel levels : Nat) → Nat → Building Pairs
  | 0, _, _ => malformed
  | _, 0, _ => throw .tooDeep
  | fuel + 1, levels + 1, number => do
    let _ ← pairs number
    mergeInto fuel levels number
    pairs number

end

def entries : Pairs → List (Scalar × Ref) → Building (List (Scalar × Ref))
  | [], done => return done
  | (k, v) :: rest, done => do
    let key ← buildKey k
    let value ← build v
    entries rest (insertEntry key value done)

def mergeFuel (nodes : Nodes) : Nat :=
  Nat.pow 2 <| nodes.foldl (fun sum n => match n with
    | .scalar _ _ => sum + 1
    | .sequence _ items => sum + items.length + 2
    | .mapping _ ps => sum + ps.length + 2) 0

def mappingEntries (number : Nat) : Building (List (Scalar × Ref)) := do
  let _ ← pairs number
  mergeInto (mergeFuel (← get).nodes) stackLevels number
  entries (← pairs number) []

def items (number : Nat) : Building (List Nat) := do
  match ← node number with
  | .sequence _ ns => return ns
  | _ => malformed

def pairItem (number : Nat) : Building Ref := do
  match ← pairs number with
  | [(k, v)] =>
    let first ← build k
    let second ← build v
    addCell (.pair first second)
  | _ => malformed

def fill (number : Nat) (ref : Ref) : Building Unit := do
  match (← node number).tag with
  | .seq => setCell ref (.list (← (← items number).mapM build))
  | .map => setCell ref (.mapping (← mappingEntries number))
  | .set =>
    let es ← mappingEntries number
    setCell ref (.set (es.map (·.1)))
  | _ => setCell ref (.list (← (← items number).mapM pairItem))

def settle : Nat → Building Unit
  | 0 => pure ()
  | fuel + 1 => do
    match (← get).waiting with
    | [] => pure ()
    | (number, ref) :: rest =>
      modify fun b => { b with waiting := rest }
      fill number ref
      settle fuel

def document (root : Nat) : Building Ref := do
  let r ← build root
  settle ((← get).nodes.length + 1)
  return r

end Building

def load (text : List Char) : Except Failure Document := do
  let (nodes, root) ← compose text
  match root with
  | none => return ⟨[.scalar .null], 0⟩
  | some n =>
    let (r, b) ← (Building.document n).run { nodes }
    return ⟨b.graph, r⟩

end DocBraces.Yaml
