import DocBraces.Text.Quoted
import DocBraces.Text.Utf8

/-!
# File trees

A tree maps places to files, folders and links. Walking a row of names from a place
follows links on the way, and says where the names lead or why they lead nowhere.
-/

set_option autoImplicit false

namespace DocBraces.Files

open DocBraces.Text

abbrev Place := List String

inductive Node where
  | file (bytes : List UInt8)
  | folder
  | link (target : String)
  deriving DecidableEq, Repr

def nameLimit : Nat := 255

def pathLimit : Nat := 4096

structure Tree where
  entries : List (Place × Node)

/-- Why an operation on files fails. -/
inductive Cause where
  | notFound
  | denied
  | busy
  | exists
  | notFolder
  | isFolder
  | invalid
  | nameTooLong
  | notEmpty
  | tooManyLinks
  deriving DecidableEq, Repr

def Cause.number : Cause → Nat
  | .notFound => 2
  | .denied => 13
  | .busy => 16
  | .exists => 17
  | .notFolder => 20
  | .isFolder => 21
  | .invalid => 22
  | .nameTooLong => 36
  | .notEmpty => 39
  | .tooManyLinks => 40

def Cause.text : Cause → String
  | .notFound => "No such file or directory"
  | .denied => "Permission denied"
  | .busy => "Device or resource busy"
  | .exists => "File exists"
  | .notFolder => "Not a directory"
  | .isFolder => "Is a directory"
  | .invalid => "Invalid argument"
  | .nameTooLong => "File name too long"
  | .notEmpty => "Directory not empty"
  | .tooManyLinks => "Too many levels of symbolic links"

def Cause.name : Cause → String
  | .notFound => "FileNotFoundError"
  | .denied => "PermissionError"
  | .exists => "FileExistsError"
  | .notFolder => "NotADirectoryError"
  | .isFolder => "IsADirectoryError"
  | _ => "OSError"

/-- A failed operation with the path as it was given. -/
structure Fault where
  cause : Cause
  path : String
  deriving DecidableEq, Repr

def Fault.message (f : Fault) : String :=
  s!"[Errno {f.cause.number}] {f.cause.text}: {quoted f.path}"

namespace Tree

def node? (t : Tree) (p : Place) : Option Node :=
  if p = [] then some .folder else t.entries.lookup p

def put (t : Tree) (p : Place) (n : Node) : Tree :=
  ⟨(p, n) :: t.entries.filter fun e => e.1 != p⟩

def children (t : Tree) (p : Place) : List String :=
  t.entries.filterMap fun e =>
    match e.1.getLast? with
    | some name => if e.1.dropLast = p then some name else none
    | none => none

def clear (t : Tree) (p : Place) : Tree :=
  ⟨t.entries.filter fun e => !(p.isPrefixOf e.1 && e.1 != p)⟩

def drop (t : Tree) (p : Place) : Tree := ⟨t.entries.filter fun e => e.1 != p⟩

theorem lookup_filter_ne (p q : Place) (h : q ≠ p) (es : List (Place × Node)) :
    (es.filter fun e => e.1 != p).lookup q = es.lookup q := by
  induction es with
  | nil => rfl
  | cons e es ih =>
    obtain ⟨k, n⟩ := e
    by_cases hk : k = p
    · subst hk
      have hb : (q == k) = false := by simpa using h
      simp [List.lookup_cons, ih, hb]
    · simp [List.lookup_cons, ih, hk]

theorem node?_put_self (t : Tree) (p : Place) (n : Node) (h : p ≠ []) :
    (t.put p n).node? p = some n := by
  simp [node?, put, h]

theorem node?_put_of_ne (t : Tree) (p q : Place) (n : Node) (h : q ≠ p) :
    (t.put p n).node? q = t.node? q := by
  by_cases hq : q = []
  · simp [node?, hq]
  · have hb : (q == p) = false := by simpa using h
    simp [node?, put, hq, List.lookup_cons, hb, lookup_filter_ne p q h]

/-- Where names lead: to a node, or to a free name in a folder. -/
inductive Target where
  | present (place : Place) (node : Node)
  | absent (place : Place)
  deriving DecidableEq, Repr

def Target.place : Target → Place
  | .present p _ => p
  | .absent p => p

/-- Names of a text that is handed to the file system. A slash at the end asks for a
folder. -/
def rawNames (s : String) : List String :=
  let parts := (s.toList.splitOn '/').map String.ofList
  let names := parts.filter (!·.isEmpty)
  if parts.getLast? == some "" && !names.isEmpty then names ++ ["."] else names

def isRooted (s : String) : Bool := s.toList.head? == some '/'

/-- Walks names from a folder. Links on the way are followed, the last one only if
`follow` is set; `jump` walks on from a link. -/
def walkNames (t : Tree) (follow : Bool) (jump : Place → List String → Except Cause Target)
    (here : Place) : List String → Except Cause Target
  | [] => match t.node? here with
    | some n => .ok (.present here n)
    | none => .error .notFound
  | name :: rest =>
    if name = "." then t.walkNames follow jump here rest
    else if name = ".." then t.walkNames follow jump here.dropLast rest
    else if nameLimit < (Utf8.encode name.toList).length then .error .nameTooLong
    else
      let p := here ++ [name]
      match t.node? p with
      | none => if rest.isEmpty then .ok (.absent p) else .error .notFound
      | some (.file bs) => if rest.isEmpty then .ok (.present p (.file bs)) else .error .notFolder
      | some .folder => t.walkNames follow jump p rest
      | some (.link target) =>
        if rest.isEmpty && !follow then .ok (.present p (.link target))
        else jump (if isRooted target then [] else here) (rawNames target ++ rest)

def walk (t : Tree) (follow : Bool) : Nat → Place → List String → Except Cause Target
  | 0 => t.walkNames follow fun _ _ => .error .tooManyLinks
  | links + 1 => t.walkNames follow (t.walk follow links)

def linkLimit : Nat := 40

def resolve (t : Tree) (follow : Bool) (here : Place) (s : String) : Except Cause Target :=
  if s.isEmpty then .error .notFound
  else if pathLimit ≤ (Utf8.encode s.toList).length then .error .nameTooLong
  else if !isRooted s && t.node? here != some .folder then .error .notFound
  else t.walk follow linkLimit (if isRooted s then [] else here) (rawNames s)

/-- Follows links on the way of names; names that lead nowhere are taken as they are.
`jump` follows the names of a link, and what is left over is where it cannot. -/
def followNames (t : Tree) (jump : Place → Place → List String → Place × Option (List String))
    (here : Place) : List String → Place × Option (List String)
  | [] => (here, none)
  | name :: rest =>
    if name = "." then t.followNames jump here rest
    else if name = ".." then t.followNames jump here.dropLast rest
    else
      let p := here ++ [name]
      match t.node? p with
      | some (.link target) =>
        match jump p (if isRooted target then [] else here) (rawNames target) with
        | (q, none) => t.followNames jump q rest
        | (q, some left) => (q, some (left ++ rest))
      | _ => t.followNames jump p rest

/-- Follows links, those of links too. Names are left over where a link leads back into
itself: `open_` holds the links under way, and `depth` bounds their number. -/
def followLinks (t : Tree) (depth : Nat) (open_ : List Place) :
    Place → List String → Place × Option (List String) :=
  t.followNames fun p start names =>
    match depth with
    | 0 => (p, some [])
    | n + 1 =>
      if open_.contains p then (p, some []) else t.followLinks n (p :: open_) start names

def plainNames (here : Place) (names : List String) : Place :=
  names.foldl (fun done n =>
    if n = "." then done else if n = ".." then done.dropLast else done ++ [n]) here

/-- The place that names stand for when links are followed as far as they can be. -/
def realPlace (t : Tree) (here : Place) (names : List String) : Place :=
  match t.followLinks (t.entries.length + 1) [] here names with
  | (p, none) => p
  | (p, some left) => plainNames p left

end Tree

end DocBraces.Files
