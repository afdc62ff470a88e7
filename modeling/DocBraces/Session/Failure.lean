import DocBraces.Config.Fault
import DocBraces.Files.Glob
import DocBraces.Render.Command
import DocBraces.Yaml.Fault

/-!
# Failures of a session

Everything that can end an activity before its result.
-/

set_option autoImplicit false

namespace DocBraces.Session

open DocBraces.Text

inductive Failure where
  | file (fault : Files.Fault)
  | embeddedNul
  | pattern (fault : Files.Glob.PatternFault)
  /-- Folders, or what is written in a text, are nested too deep. -/
  | tooDeep
  /-- A folder that is to be removed is a link. -/
  | linkedFolder
  /-- Links lead in circles. -/
  | circle (path : String)
  | undecodable (fault : Utf8.Fault)
  | data (failure : Yaml.Failure)
  | config (fault : Config.Fault)
  | codec (fault : Codec.Fault)
  | render (failure : Render.Failure)

def Failure.ofWalk : Files.WalkFault → Failure
  | .file f => .file f
  | .tooDeep => .tooDeep

def Failure.message : Failure → String
  | .file f => f.message
  | .embeddedNul => "embedded null byte"
  | .pattern f => f.message
  | .tooDeep => "maximum recursion depth exceeded"
  | .linkedFolder => "Cannot call rmtree on a symbolic link"
  | .circle p => "Symlink loop from " ++ quoted p
  | .undecodable f => f.message
  | .data f => f.message
  | .config f => f.message
  | .codec f => f.message
  | .render f => f.message

end DocBraces.Session
