import DocBraces.Session.Files

/-!
# Finding configuration files

The file in the nearest folder counts, from the start upwards. The project's root is
the folder that holds it.
-/

set_option autoImplicit false

namespace DocBraces.Config

open DocBraces.Files DocBraces.Session

def fileName : String := "bracefence.yml"

def searchLimit : Nat := 20

def searchFrom : Nat → Path → Run (Option Path)
  | 0, _ => return none
  | limit + 1, folder => do
    let candidate := folder.child fileName
    if ← isFile candidate then return some candidate
    if folder.parent = folder then return none
    searchFrom limit folder.parent

def find (start : Option Path) : Run (Option Path) := do
  let start ← match start with
    | some p => pure p
    | none => currentFolder
  searchFrom searchLimit (← realPath start)

def projectRoot (file : Option Path) : Run Path :=
  match file with
  | some p => realPath p.parent
  | none => currentFolder

end DocBraces.Config
