import DocBraces.Session.Basic

/-!
# Files of a session

Reading, writing, making and removing, with the causes of failure that a file system
reports for the path as it was given.
-/

set_option autoImplicit false

namespace DocBraces.Session

open DocBraces.Files

def fault {α : Type} (cause : Cause) (path : String) : Run α := throw (.file ⟨cause, path⟩)

def target (follow : Bool) (path : String) : Run Tree.Target := do
  if hasNul path then throw .embeddedNul
  let s ← get
  match s.tree.resolve follow s.here path with
  | .ok t => return t
  | .error c => fault c path

/-- What a path leads to, links followed. Names that lead nowhere, or in circles, lead
to nothing; only names that are too long are a failure. -/
def node? (path : String) : Run (Option Node) := do
  if hasNul path then return none
  let s ← get
  match s.tree.resolve true s.here path with
  | .ok (.present _ n) => return some n
  | .ok (.absent _) => return none
  | .error .nameTooLong => fault .nameTooLong path
  | .error _ => return none

def isFile (p : Path) : Run Bool := do
  match ← node? p.toString with
  | some (.file _) => return true
  | _ => return false

def isFolder (p : Path) : Run Bool := do
  match ← node? p.toString with
  | some .folder => return true
  | _ => return false

def pathOfPlace (place : Place) : Path := ⟨.absolute, place⟩

def plainPath (here : Place) (p : Path) : Path :=
  let full := (pathOfPlace here).join p
  ⟨full.root, Tree.plainNames [] full.names⟩

/-- A locked place is known by the names of the path alone, so that links to it can be
opened. -/
def denies (s : Session) (a : Access) (path : String) : Bool :=
  ((s.locked a).map pathOfPlace).contains (plainPath s.here (Path.ofString path))

def opening (a : Access) (path : String) : Run Tree.Target := do
  if (← get).denies a path then fault .denied path
  target true path

def readBytes (p : Path) : Run (List UInt8) := do
  match ← opening .reading p.toString with
  | .present _ (.file bs) => return bs
  | .present _ _ => fault .isFolder p.toString
  | .absent _ => fault .notFound p.toString

def writeBytes (p : Path) (bytes : List UInt8) : Run Unit := do
  match ← opening .writing p.toString with
  | .present _ .folder => fault .isFolder p.toString
  | t => setTree ((← get).tree.put t.place (.file bytes))

def writeText (p : Path) (text : List Char) : Run Unit := writeBytes p (Text.Utf8.encode text)

def makeFolder (p : Path) : Run Unit := do
  match ← target false p.toString with
  | .absent place => setTree ((← get).tree.put place .folder)
  | .present _ _ => fault .exists p.toString

def unlessFolder (p : Path) (f : Failure) : Run Unit := do
  unless ← isFolder p do throw f

/-- Makes a folder unless it is there, and what is missing above it; `depth` bounds how
far up. -/
def makeFolders : Nat → Path → Run Unit
  | 0, _ => pure ()
  | depth + 1, p => do
    let parent := p.parent
    try makeFolder p catch
      | .file ⟨.notFound, path⟩ =>
        if parent = p then fault .notFound path
        makeFolders depth parent
        try makeFolder p catch
          | .file ⟨.notFound, path⟩ => fault .notFound path
          | .file f => unlessFolder p (.file f)
          | f => throw f
      | .file f => unlessFolder p (.file f)
      | f => throw f

def makePath (p : Path) : Run Unit := makeFolders (p.names.length + 1) p

def forgetLog : Run Unit := modify fun s =>
  { s with logFile := s.logFile.filter fun place => (s.tree.node? place).isSome }

def dotCause? (p : Path) : Option Cause :=
  if p = ⟨.relative, []⟩ then some .invalid
  else if !p.names.isEmpty && p.names.all (· == "..") then some .notEmpty
  else none

def dropFolder (p : Path) : Run Unit :=
  match dotCause? p with
  | some cause => fault cause p.toString
  | none => do
    match ← target false p.toString with
    | .present place .folder =>
      if place.isEmpty then fault .busy p.toString
      setTree ((← get).tree.drop place)
    | _ => fault .notFound p.toString

def removeTree (p : Path) : Run Unit := do
  match ← target false p.toString with
  | .present place .folder =>
    setTree ((← get).tree.clear place)
    forgetLog
    dropFolder p
  | .present _ (.link _) => throw .linkedFolder
  | .present _ (.file _) => fault .notFolder p.toString
  | .absent _ => fault .notFound p.toString

def currentFolder : Run Path := return pathOfPlace (← get).here

def realPath (p : Path) : Run Path := do
  if hasNul p.toString then throw .embeddedNul
  let s ← get
  let start := if p.root = .relative then s.here else []
  let real := pathOfPlace (s.tree.realPlace start p.names)
  match s.tree.resolve true s.here real.toString with
  | .error .tooManyLinks => throw (.circle real.toString)
  | _ => return real

def openLog (path : String) : Run Place := do
  let full := (plainPath (← get).here (Path.ofString path)).toString
  match ← opening .writing full with
  | .present place (.file _) => return place
  | .present _ _ => fault .isFolder full
  | .absent place =>
    setTree ((← get).tree.put place (.file []))
    return place

def setupLogging (r : Log.Request) : Run Unit := do
  let logFile ← r.filePath?.mapM openLog
  modify fun s => { s with logging := some (.setup (s.logging.any (·.held)) r), logFile }

end DocBraces.Session
