import DocBraces.Yaml.Tag
import DocBraces.Yaml.TokenStream

/-!
# Nodes

Tokens as a graph of nodes. A reference stands for the node of its anchor, also inside
that node.
-/

set_option autoImplicit false

namespace DocBraces.Yaml

inductive Node where
  | scalar (tag : Tag) (content : Content)
  | sequence (tag : Tag) (items : List Nat)
  | mapping (tag : Tag) (pairs : List (Nat × Nat))
  deriving DecidableEq, Repr

def Node.tag : Node → Tag
  | .scalar t _ => t
  | .sequence t _ => t
  | .mapping t _ => t

def Node.withTag (n : Node) (tag : Tag) : Node :=
  match n with
  | .scalar _ c => .scalar tag c
  | .sequence _ ns => .sequence tag ns
  | .mapping _ ps => .mapping tag ps

abbrev Nodes := List Node

structure Composer where
  scanner : Scanner
  handles : List (List Char × List Char) := []
  nodes : Nodes := []
  anchors : List (List Char × Nat) := []
  /-- How many collections may still be opened inside each other. -/
  levels : Nat := nestingLimit

abbrev Composing := StateT Composer (Except Failure)

namespace Composing

def malformed {α : Type} : Composing α := throw .malformed

def scan {α : Type} (x : Scanning α) : Composing α := fun c => do
  let (a, scanner) ← x.run c.scanner
  return (a, { c with scanner })

def peek : Composing Token := scan Scanning.next

def next : Composing Token := do
  let t ← peek
  scan Scanning.drop
  return t

def accept (t : Token) : Composing Bool := do
  if (← peek) == t then
    let _ ← next
    return true
  else return false

def sees (ts : List Token) : Composing Bool := return ts.contains (← peek)

def add (n : Node) : Composing Nat :=
  modifyGet fun c => (c.nodes.length, { c with nodes := c.nodes ++ [n] })

def fill (number : Nat) (n : Node) : Composing Unit :=
  modify fun c => { c with nodes := c.nodes.set number n }

def empty : Composing Nat := add (.scalar (.ofPlain []) (.chars []))

def register (name : Option (List Char)) (number : Nat) : Composing Unit :=
  match name with
  | none => pure ()
  | some cs => modify fun c => { c with anchors := (cs, number) :: c.anchors }

/-- Anchor and tag of a node. A lone exclamation mark is a tag that leaves the choice
open. -/
structure Properties where
  anchor : Option (List Char) := none
  tag : Option (List Char) := none

def resolveTag (handle : Option (List Char)) (suffix : List Char) : Composing (List Char) := do
  match handle with
  | none => return suffix
  | some h => match (← get).handles.lookup h with
    | some lead => return lead ++ suffix
    | none => malformed

def anchor? : Composing (Option (List Char)) := do
  match ← peek with
  | .anchor cs =>
    let _ ← next
    return some cs
  | _ => return none

def tag? : Composing (Option (Option (List Char) × List Char)) := do
  match ← peek with
  | .tag h suffix =>
    let _ ← next
    return some (h, suffix)
  | _ => return none

def properties : Composing Properties := do
  let first ← anchor?
  let found ← tag?
  let anchor ← if first.isSome then pure first else if found.isSome then anchor? else pure none
  match found with
  | none => return { anchor }
  | some (h, suffix) => return { anchor, tag := some (← resolveTag h suffix) }

def Properties.isOpen (p : Properties) : Bool := p.tag.isNone || p.tag == some ['!']

def Properties.tagOr (p : Properties) (default : Tag) : Tag :=
  if p.isOpen then default else .ofFull (p.tag.getD [])

def scalarTag (p : Properties) (plain : Bool) (content : Content) : Tag :=
  let implied := match content with
    | .chars cs =>
      if p.tag == some ['!'] then Tag.ofOpen cs
      else if plain && p.tag.isNone then Tag.ofPlain cs else .str
    | .codes _ => .str
  p.tagOr implied

def Properties.emptyNode (p : Properties) : Node :=
  .scalar (p.tagOr (Tag.ofPlain [])) (.chars [])

def reference (name : List Char) : Composing Nat := do
  match (← get).anchors.lookup name with
  | some n => return n
  | none => malformed

def inside {α : Type} (x : Composing α) : Composing α := do
  let c ← get
  if c.levels = 0 then throw .tooDeep
  set { c with levels := c.levels - 1 }
  let a ← x
  modify fun d => { d with levels := c.levels }
  return a

inductive Context where
  | flow
  | block
  | blockOrIndentless
  deriving DecidableEq

mutual

def node : Nat → Context → Composing Nat
  | 0, _ => malformed
  | fuel + 1, context => do
    match ← peek with
    | .reference name =>
      let _ ← next
      reference name
    | _ =>
      let p ← properties
      let open_ := fun (n : Node) => do
        if let some a := p.anchor then
          if ((← get).anchors.lookup a).isSome then malformed
        let number ← add n
        register p.anchor number
        return number
      let sequenceOf := fun (items : Composing (List Nat)) => do
        let number ← open_ (.sequence .seq [])
        fill number (.sequence (p.tagOr .seq) (← inside items))
        return number
      let mappingOf := fun (pairs : Composing (List (Nat × Nat))) => do
        let number ← open_ (.mapping .map [])
        fill number (.mapping (p.tagOr .map) (← inside pairs))
        return number
      match ← peek with
      | .blockEntry =>
        if context = .blockOrIndentless then sequenceOf (indentlessItems fuel)
        else if p.anchor.isSome || p.tag.isSome then open_ p.emptyNode
        else malformed
      | .scalar content plain =>
        let _ ← next
        open_ (.scalar (scalarTag p plain content) content)
      | .flowSequenceStart =>
        let _ ← next
        sequenceOf (flowItems fuel true)
      | .flowMappingStart =>
        let _ ← next
        mappingOf (flowPairs fuel true)
      | t =>
        if context != .flow && t == .blockSequenceStart then
          let _ ← next
          sequenceOf (blockItems fuel)
        else if context != .flow && t == .blockMappingStart then
          let _ ← next
          mappingOf (blockPairs fuel)
        else if p.anchor.isSome || p.tag.isSome then open_ p.emptyNode
        else malformed

def blockItems : Nat → Composing (List Nat)
  | 0 => malformed
  | fuel + 1 => do
    if ← accept .blockEntry then
      let item ← if ← sees [.blockEntry, .blockEnd] then empty else node fuel .block
      return item :: (← blockItems fuel)
    else if ← accept .blockEnd then return []
    else malformed

def indentlessItems : Nat → Composing (List Nat)
  | 0 => malformed
  | fuel + 1 => do
    if ← accept .blockEntry then
      let item ← if ← sees [.blockEntry, .key, .value, .blockEnd] then empty
        else node fuel .block
      return item :: (← indentlessItems fuel)
    else return []

def blockPairs : Nat → Composing (List (Nat × Nat))
  | 0 => malformed
  | fuel + 1 => do
    if ← accept .key then
      let k ← if ← sees [.key, .value, .blockEnd] then empty else node fuel .blockOrIndentless
      let v ← blockValue fuel
      return (k, v) :: (← blockPairs fuel)
    else if ← accept .blockEnd then return []
    else malformed

def blockValue : Nat → Composing Nat
  | 0 => malformed
  | fuel + 1 => do
    if ← accept .value then
      if ← sees [.key, .value, .blockEnd] then empty else node fuel .blockOrIndentless
    else empty

def flowItems : Nat → Bool → Composing (List Nat)
  | 0, _ => malformed
  | fuel + 1, first => do
    if ← accept .flowSequenceEnd then return []
    unless first do
      unless ← accept .flowEntry do malformed
    if ← accept .key then
      let number ← add (.mapping .map [])
      let pair ← inside do
        let k ← if ← sees [.value, .flowEntry, .flowSequenceEnd] then empty else node fuel .flow
        return (k, ← flowValue fuel [.flowEntry, .flowSequenceEnd])
      fill number (.mapping .map [pair])
      return number :: (← flowItems fuel false)
    else if ← accept .flowSequenceEnd then return []
    else
      let item ← node fuel .flow
      return item :: (← flowItems fuel false)

def flowValue : Nat → List Token → Composing Nat
  | 0, _ => malformed
  | fuel + 1, ends => do
    if ← accept .value then
      if ← sees ends then empty else node fuel .flow
    else empty

def flowPairs : Nat → Bool → Composing (List (Nat × Nat))
  | 0, _ => malformed
  | fuel + 1, first => do
    if ← accept .flowMappingEnd then return []
    unless first do
      unless ← accept .flowEntry do malformed
    if ← accept .key then
      let k ← if ← sees [.value, .flowEntry, .flowMappingEnd] then empty else node fuel .flow
      let v ← flowValue fuel [.flowEntry, .flowMappingEnd]
      return (k, v) :: (← flowPairs fuel false)
    else if ← accept .flowMappingEnd then return []
    else
      let k ← node fuel .flow
      let v ← empty
      return (k, v) :: (← flowPairs fuel false)

end

def defaultHandles : List (List Char × List Char) :=
  [(['!'], ['!']), (['!', '!'], Tag.standardLead)]

/-- Directives in front of a document; `versioned` says that a version was named. -/
def directives : Nat → Bool → List (List Char × List Char) → Composing Unit
  | 0, _, _ => malformed
  | fuel + 1, versioned, handles => do
    match ← peek with
    | .directive d =>
      let _ ← next
      match d with
      | .version major _ =>
        if versioned || major != 1 then malformed
        directives fuel true handles
      | .handle h lead =>
        if (handles.lookup h).isSome then malformed
        directives fuel versioned ((h, lead) :: handles)
      | .other => directives fuel versioned handles
    | _ => modify fun c => { c with handles := handles ++ defaultHandles }

def skipDocumentEnds : Nat → Composing Unit
  | 0 => pure ()
  | fuel + 1 => do
    if ← accept .documentEnd then skipDocumentEnds fuel

def startsDirectives : Token → Bool
  | .directive _ => true
  | .documentStart => true
  | .streamEnd => true
  | _ => false

def documentStart (fuel : Nat) : Composing Unit := do
  directives fuel false []
  unless ← accept .documentStart do malformed

def markedDocument (fuel : Nat) : Composing Nat := do
  documentStart fuel
  let t ← peek
  if startsDirectives t || t == .documentEnd then empty else node fuel .block

/-- The only document of a text, if it has one. A second one is refused once its marker
has been read. -/
def single (fuel : Nat) : Composing (Option Nat) := do
  let root ← if startsDirectives (← peek) then do
      skipDocumentEnds fuel
      if (← peek) == .streamEnd then pure none else some <$> markedDocument fuel
    else do
      modify fun c => { c with handles := defaultHandles }
      some <$> node fuel .block
  skipDocumentEnds fuel
  unless (← peek) == .streamEnd do
    documentStart fuel
    malformed
  return root

end Composing

def composeFuel (text : List Char) : Nat := 12 * text.length + 20

def compose (text : List Char) : Except Failure (Nodes × Option Nat) := do
  let scanner ← Scanner.ofText text
  let (root, c) ← (Composing.single (composeFuel text)).run { scanner }
  return (c.nodes, root)

end DocBraces.Yaml
