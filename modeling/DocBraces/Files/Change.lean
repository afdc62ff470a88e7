import DocBraces.Files.Tree

/-!
# Changes

What has to be done to one tree so that it becomes another one. Things go before things
come, and folders come before what is in them.
-/

set_option autoImplicit false

namespace DocBraces.Files

inductive Change where
  | removeFolder (place : Place)
  | removeEntry (place : Place)
  | makeFolder (place : Place)
  | writeFile (place : Place) (bytes : List UInt8)
  deriving DecidableEq, Repr

def Change.place : Change → Place
  | removeFolder p => p
  | removeEntry p => p
  | makeFolder p => p
  | writeFile p _ => p

namespace Tree

def removal : Place × Node → Change
  | (p, .folder) => .removeFolder p
  | (p, _) => .removeEntry p

def making : Place × Node → Option Change
  | (p, .folder) => some (.makeFolder p)
  | (p, .file bs) => some (.writeFile p bs)
  | (_, .link _) => none

def entriesBeside (t other : Tree) : List (Place × Node) :=
  t.entries.filter fun e => other.node? e.1 != some e.2

def changes (before after : Tree) : List Change :=
  let gone := (before.entriesBeside after).filter fun e => (after.node? e.1).isNone
  let made := (after.entriesBeside before).filterMap making
  (gone.map removal).mergeSort (fun c d => d.place.length ≤ c.place.length) ++
    made.mergeSort (fun c d => c.place.length ≤ d.place.length)

end Tree

end DocBraces.Files
