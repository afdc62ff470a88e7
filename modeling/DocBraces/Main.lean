import DocBraces.CommandLine.Run
import DocBraces.Files.Change
import DocBraces.Tools.Start
import Std.Time

/-!
# The program

Takes a picture of the files that a command line may be about, runs the command line on
it, and does on the disk what has changed in the picture.
-/

set_option autoImplicit false

namespace DocBraces.Program

open DocBraces.Files DocBraces.CommandLine

structure Picture where
  entries : List (Place × Node) := []
  locked : List (Access × Place) := []

def Picture.append (a b : Picture) : Picture := ⟨a.entries ++ b.entries, a.locked ++ b.locked⟩

def Picture.lockedFor (p : Picture) (a : Access) : List Place :=
  (p.locked.filter (·.1 == a)).map (·.2)

def Picture.join (ps : List Picture) : Picture := ps.foldl Picture.append {}

def textOf (place : Place) : String := (Session.pathOfPlace place).toString

def placeOf (text : String) : Place := (Path.ofString text).names

def placeOfPath (here : Place) (p : Path) : Place :=
  Tree.plainNames (if p.root = .relative then here else []) p.names

def pictureOfFile (place : Place) : IO Picture := do
  let barred ← try
      let _ ← IO.FS.Handle.mk (textOf place) .append
      pure []
    catch _ => pure [(Access.writing, place)]
  try
    let bytes ← IO.FS.readBinFile (textOf place)
    return { entries := [(place, .file bytes.toList)], locked := barred }
  catch _ => return { entries := [(place, .file [])], locked := (.reading, place) :: barred }

/-- A folder with everything in it. Links lead to where they end; links that lead nowhere
are left out. -/
partial def pictureOfFolder (place : Place) : IO Picture := do
  let found ← (← IO.FS.realPath (textOf place)).readDir
  let parts ← found.toList.mapM fun e => do
    let p := place ++ [e.fileName]
    match (← e.path.symlinkMetadata).type with
    | .dir => return (← pictureOfFolder p).append { entries := [(p, .folder)] }
    | .file => pictureOfFile p
    | .symlink =>
      try
        let target ← IO.FS.realPath (textOf p)
        return { entries := [(p, .link target.toString)] }
      catch _ => return {}
    | .other => return {}
  return Picture.join parts

def pictureOfPath (place : Place) : IO Picture := do
  try
    let path ← IO.FS.realPath (textOf place)
    if ← path.isDir then return { entries := [(place, .folder)] } else pictureOfFile place
  catch _ => return {}

def pictureAbove (place : Place) : IO Picture := do
  let above := (List.range place.length).drop 1
  return Picture.join (← above.mapM fun n => pictureOfPath (place.take n))

/-- The folder that holds the project's files: that of the configuration, or the current
one. -/
def projectFolder (here : Place) (words : List String) : IO Place := do
  let named := match readWords mainOptions false none words with
    | .ok (gs, _) => nonemptyPath (Givens.value? gs .config)
    | .error _ => none
  match named with
  | some p => return (placeOfPath here p).dropLast
  | none =>
    let above := (List.range (here.length + 1)).map here.take
    let holding ← above.filterM fun place => do
      let there ← pictureOfPath (place ++ [Config.fileName])
      return there.entries.any fun e => e.2 != .folder
    return holding.getLastD here

def pathsIn (words : List String) : List Path :=
  words.flatMap fun w =>
    let cs := w.toList
    let value := (splitValue cs).2.getD []
    let attached := if cs.take 1 == ['-'] then cs.drop 2 else []
    ([cs, value, attached].filter (!·.isEmpty)).map fun cs => Path.ofString (String.ofList cs)

def picture (here : Place) (environment : Environment) (words : List String) : IO Picture := do
  let project ← projectFolder here words
  let inside ← try pictureOfFolder project catch _ => pure {}
  let logFile := (environment.get? logFileVariable).toList.map Path.ofString
  let targets := inside.entries.filterMap fun e => match e.2 with
    | .link target => some (placeOf target)
    | _ => none
  let places := project :: here :: targets ++ (pathsIn words ++ logFile).map (placeOfPath here)
  let outside := (places.filter fun p => p == project || !project.isPrefixOf p).eraseDups
  let parts ← outside.mapM fun p => do
    return (← pictureAbove p).append (← pictureOfPath p)
  return inside.append (Picture.join parts)

def readEnvironment : IO Environment := do
  let values ← environmentVariables.mapM fun name => do
    return (← IO.getEnv name).map (name, ·)
  return values.filterMap id

partial def readAll (stream : IO.FS.Stream) : IO (List UInt8) := do
  let bytes ← stream.read 65536
  if bytes.isEmpty then return [] else return bytes.toList ++ (← readAll stream)

def readClock : IO Log.Clock := do
  let now ← Std.Time.PlainDateTime.now
  return ⟨now.format "uuuu-MM-dd", now.format "HH:mm:ss"⟩

/-- The session in which a command line runs. The standard input is read only if a word
asks for it. -/
def startSession (words : List String) : IO Session := do
  let here := placeOf (← IO.FS.realPath ".").toString
  let environment ← readEnvironment
  let p ← picture here environment words
  let input ← if words.contains "-" then readAll (← IO.getStdin) else pure []
  return { tree := ⟨p.entries⟩, here, locked := p.lockedFor, unreadable := p.lockedFor .reading,
           environment, programs := Tools.start, clock := ← readClock, input }

def carryOut : Change → IO Unit
  | .removeFolder p => IO.FS.removeDir (textOf p)
  | .removeEntry p => IO.FS.removeFile (textOf p)
  | .makeFolder p => IO.FS.createDirAll (textOf p)
  | .writeFile p bytes => IO.FS.writeBinFile (textOf p) (ByteArray.mk bytes.toArray)

end DocBraces.Program

open DocBraces in
def main (words : List String) : IO UInt32 := do
  let session ← Program.startSession words
  let (result, after) := (CommandLine.runWords words).run session
  (session.tree.changes after.tree).forM Program.carryOut
  IO.print after.output
  IO.eprint after.errors
  match result with
  | .ok status => return UInt32.ofNat status
  | .error f =>
    IO.eprintln f.message
    return 1
