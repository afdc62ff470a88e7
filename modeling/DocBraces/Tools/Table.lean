import DocBraces.Tools.Columns
import DocBraces.Tools.Counting
import DocBraces.Tools.Dump
import DocBraces.Tools.Editing
import DocBraces.Tools.Exchange
import DocBraces.Tools.Folders
import DocBraces.Tools.Lines
import DocBraces.Tools.Numbering
import DocBraces.Tools.Printing
import DocBraces.Tools.Search
import DocBraces.Tools.Sorting
import DocBraces.Tools.Surroundings
import DocBraces.Tools.Verdict

/-!
# The tools by their names
-/

set_option autoImplicit false

namespace DocBraces.Tools

def table : List (String × Tool) := [
  ("cat", concatenate), ("tac", reverseLines), ("tee", copyInput), ("head", beginning),
  ("tail", ending), ("wc", countParts), ("nl", numberLines), ("yes", chant), ("sleep", sleep),
  ("sort", sortLines), ("uniq", uniqueLines), ("comm", sharedLines),
  ("rev", reverseChars), ("cut", cutParts), ("paste", pasteLines), ("fold", foldLines),
  ("expand", expandTabs), ("unexpand", unexpandTabs), ("tr", exchange), ("od", dump),
  ("base64", lettersTool .sixtyFour), ("base32", lettersTool .thirtyTwo), ("cksum", sumTool),
  ("seq", sequence), ("factor", factorize), ("expr", evaluate),
  ("cp", Folders.copy), ("mv", Folders.move), ("ln", Folders.link), ("rm", Folders.remove),
  ("mkdir", Folders.makeFolder), ("rmdir", Folders.removeFolder), ("touch", Folders.touch),
  ("unlink", Folders.unlink), ("ls", Folders.list), ("find", Folders.find),
  ("basename", Folders.baseName), ("dirname", Folders.folderName),
  ("readlink", Folders.readLink), ("realpath", Folders.realPath),
  ("pwd", Folders.currentFolder), ("cmp", Folders.compareFiles),
  ("echo", echo), ("printf", printf), ("grep", search), ("egrep", searchAs .extended),
  ("fgrep", searchAs .fixed), ("sed", edit), ("true", endWith 0), ("false", endWith 1),
  ("test", testCondition false), ("[", testCondition true), ("printenv", showEnvironment),
  ("uname", describeSystem), ("id", describeUser), ("tty", describeTerminal),
  ("whoami", answer "root"), ("arch", answer "x86_64"), ("sync", endWith 0),
  ("groups", answer "root"), ("chmod", setRights "cannot access"),
  ("chown", setRights "cannot access"), ("chgrp", setRights "cannot access"),
  ("truncate", setLength)]

def starters : List String := ["sh", "dash", "bash", "env", "xargs", "nice", "nohup", "timeout"]

def tool? (name : String) : Option Tool :=
  if name == "which" then
    some (locate fun n => (table.lookup n).isSome || n == "which" || starters.contains n)
  else table.lookup name

end DocBraces.Tools
