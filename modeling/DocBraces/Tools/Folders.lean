import DocBraces.Tools.Flag
import DocBraces.Tools.Wildcard

/-!
# Folders

Tools that list, make, copy, move and remove files, and that take paths apart.
-/

set_option autoImplicit false

namespace DocBraces.Tools

open DocBraces.Text DocBraces.Files

namespace Folders

def failed (tool what : String) (n : Bytes) (cause : Cause) : Work Unit :=
  Work.fault 1 s!"{tool}: {what} {inQuotes n}: {cause.text}"

def nodeAt (c : Call) (follow : Bool) (n : Bytes) : Work (Option (Place × Node)) := do
  match ← c.find follow n with
  | .ok (.present p node) => return some (p, node)
  | _ => return none

def copies (t : Tree) (source target : Place) : List (Place × Node) :=
  t.entries.filterMap fun (p, n) =>
    if source.isPrefixOf p then some (target ++ p.drop source.length, n) else none

def addAll (t : Tree) (es : List (Place × Node)) : Tree := es.foldl (fun t e => t.put e.1 e.2) t

def cutOff (t : Tree) (p : Place) : Tree := (t.clear p).drop p

def targetPlace (c : Call) (source target : Bytes) : Work (Except Cause Place) := do
  match ← c.find true target with
  | .ok (.present p .folder) =>
    match (Path.ofString (stringOf source)).names.getLast? with
    | some name => return .ok (p ++ [name])
    | none => return .ok p
  | .ok t => return .ok t.place
  | .error cause => return .error cause

def sourcesAndTarget (c : Call) (operands : List Bytes) : Work (List Bytes × Bytes) := do
  match operands.reverse with
  | [] => misused c.name 1 "missing file operand"
  | [one] => misused c.name 1 s!"missing destination file operand after {inQuotes one}"
  | target :: sources =>
    if 1 < sources.length then
      match ← nodeAt c true target with
      | some (_, .folder) => pure ()
      | some _ => Work.die 1 s!"{c.name}: target {inQuotes target}: Not a directory"
      | none => Work.die 1 s!"{c.name}: target {inQuotes target}: No such file or directory"
    return (sources.reverse, target)

def copy : Tool := Work.tool fun c => do
  let fs ← flagsOf c.name 1
    [.switch 'r' "recursive", .switch 'R' "R", .switch 'a' "archive", .switch 'f' "force",
     .switch 'i' "interactive", .switch 'n' "no-clobber", .switch 'p' "p", .switch 'v' "verbose",
     .switch 'u' "update", .switch 'L' "dereference", .switch 'P' "no-dereference",
     .switch 'd' "d", .valued 't' "target-directory", .switch 'T' "no-target-directory"] c.args
  let deep := fs.has "recursive" || fs.has "R" || fs.has "archive"
  let (sources, target) ← sourcesAndTarget c fs.operands
  sources.forM fun s => do
    let found ← if namesInput s then do
        match ← readInput c with
        | .ok bs => pure (some (["dev", "stdin"], .file bs))
        | .error _ => pure none
      else nodeAt c (!deep) s
    match found with
    | none => Work.fault 1 s!"{c.name}: cannot stat {inQuotes s}: No such file or directory"
    | some (p, node) =>
      match ← targetPlace c s target with
      | .error cause =>
        failed c.name "cannot create regular file" target
          (if cause = .notFolder then .notFolder else cause)
      | .ok q =>
        let t ← Work.tree
        match node with
        | .folder =>
          if !deep then
            Work.fault 1 s!"{c.name}: -r not specified; omitting directory {inQuotes s}"
          else if p.isPrefixOf q then
            Work.fault 1 (s!"{c.name}: cannot copy a directory, {inQuotes s}, " ++
              s!"into itself, {inQuotes target}")
          else Work.setTree (addAll t (copies t p q))
        | node =>
          if p = q then
            Work.fault 1 s!"{c.name}: {inQuotes s} and {inQuotes target} are the same file"
          else if t.node? q == some .folder then
            Work.fault 1 (s!"{c.name}: cannot overwrite directory {inQuotes target} " ++
              "with non-directory")
          else if !(fs.has "no-clobber" && (t.node? q).isSome) then
            Work.setTree (t.put q node)
            if fs.has "verbose" then
              Work.print (bytes s!"{inQuotes s} -> {inQuotes target}\n")

def move : Tool := Work.tool fun c => do
  let fs ← flagsOf c.name 1
    [.switch 'f' "force", .switch 'i' "interactive", .switch 'n' "no-clobber",
     .switch 'v' "verbose", .switch 'u' "update", .switch 'T' "no-target-directory"] c.args
  let (sources, target) ← sourcesAndTarget c fs.operands
  sources.forM fun s => do
    match ← nodeAt c false s with
    | none => Work.fault 1 s!"{c.name}: cannot stat {inQuotes s}: No such file or directory"
    | some (p, _) =>
      match ← targetPlace c s target with
      | .error cause =>
        Work.fault 1 s!"{c.name}: cannot move {inQuotes s} to {inQuotes target}: {cause.text}"
      | .ok q =>
        let t ← Work.tree
        if p = q then
          Work.fault 1 s!"{c.name}: {inQuotes s} and {inQuotes target} are the same file"
        else if !(fs.has "no-clobber" && (t.node? q).isSome) then
          let moved := copies t p q
          Work.setTree (addAll (cutOff (cutOff t p) q) moved)
          if fs.has "verbose" then
            Work.print (bytes s!"renamed {inQuotes s} -> {inQuotes target}\n")

def link : Tool := Work.tool fun c => do
  let fs ← flagsOf c.name 1
    [.switch 's' "symbolic", .switch 'f' "force", .switch 'n' "no-dereference",
     .switch 'v' "verbose", .switch 'r' "relative", .switch 'T' "no-target-directory"] c.args
  let symbolic := fs.has "symbolic"
  let what := if symbolic then "symbolic link" else "hard link"
  let (sources, target) ← match fs.operands with
    | [] => misused c.name 1 "missing file operand"
    | [one] => pure ([one], bytes ".")
    | ws => sourcesAndTarget c ws
  sources.forM fun s => do
    match ← nodeAt c true s, symbolic with
    | none, false => failed c.name "failed to access" s .notFound
    | found, _ =>
      match ← targetPlace c s target with
      | .error cause => failed c.name s!"failed to create {what}" target cause
      | .ok q =>
        let q := match ← nodeAt c false target with
          | some (p, .link _) => if fs.operands.length = 2 then p else q
          | _ => q
        let t ← Work.tree
        if (t.node? q).isSome && !fs.has "force" then
          failed c.name s!"failed to create {what}" target .exists
        else
          let node := if symbolic then Node.link (stringOf s)
            else (found.map (·.2)).getD (.file [])
          Work.setTree ((cutOff t q).put q node)

def remove : Tool := Work.tool fun c => do
  let fs ← flagsOf c.name 1
    [.switch 'f' "force", .switch 'i' "i", .switch 'I' "I", .switch 'r' "recursive",
     .switch 'R' "R", .switch 'd' "dir", .switch 'v' "verbose"] c.args
  let force := fs.has "force"
  if fs.operands.isEmpty && !force then misused c.name 1 "missing operand"
  fs.operands.forM fun n => do
    match ← c.find false n with
    | .error cause =>
      if !force || (cause ≠ .notFound && cause ≠ .notFolder) then
        failed c.name "cannot remove" n cause
    | .ok (.absent _) => if !force then failed c.name "cannot remove" n .notFound
    | .ok (.present p node) =>
      let t ← Work.tree
      let said := fun (what : String) => do
        if fs.has "verbose" then Work.print (bytes s!"removed {what}{inQuotes n}\n")
      match node with
      | .folder =>
        if fs.has "recursive" || fs.has "R" then
          let last := String.ofList (((textOf n).splitOn '/').getLastD [])
          if ["", ".", ".."].contains last then
            Work.fault 1 (s!"{c.name}: refusing to remove '.' or '..' directory: " ++
              s!"skipping {inQuotes n}")
          else
            Work.setTree (cutOff t p)
            said "directory "
        else if fs.has "dir" then
          if (t.children p).isEmpty then Work.setTree (cutOff t p)
          else failed c.name "cannot remove" n .notEmpty
        else failed c.name "cannot remove" n .isFolder
      | _ =>
        Work.setTree (t.drop p)
        said ""

def makeFolder : Tool := Work.tool fun c => do
  let fs ← flagsOf c.name 1
    [.switch 'p' "parents", .switch 'v' "verbose", .valued 'm' "mode"] c.args
  if fs.operands.isEmpty then misused c.name 1 "missing operand"
  fs.operands.forM fun n => do
    let refuse := fun (cause : Cause) =>
      Work.fault 1 s!"{c.name}: cannot create directory {quoted n}: {cause.text}"
    let make := fun (p : Place) => do
      Work.setTree ((← Work.tree).put p .folder)
    if fs.has "parents" then
      let path := Path.ofString (stringOf n)
      let steps := (List.range path.names.length).map fun i =>
        (⟨path.root, path.names.take (i + 1)⟩ : Path)
      let good ← steps.foldlM (fun good p => do
        if !good then return false
        match ← c.find true (bytes p.toString) with
        | .ok (.present _ .folder) => return true
        | .ok (.present _ _) =>
          refuse (if p.toString == path.toString then .exists else .notFolder)
          return false
        | .ok (.absent place) =>
          make place
          if fs.has "verbose" then
            Work.print (bytes s!"{c.name}: created directory '{p.toString}'\n")
          return true
        | .error cause =>
          refuse cause
          return false) true
      if good then pure ()
    else
      match ← c.find false n with
      | .ok (.absent place) =>
        make place
        if fs.has "verbose" then
          Work.print (bytes s!"{c.name}: created directory {inQuotes n}\n")
      | .ok (.present _ _) => refuse .exists
      | .error cause => refuse cause

def removeFolder : Tool := Work.tool fun c => do
  let fs ← flagsOf c.name 1
    [.switch 'p' "parents", .switch 'v' "verbose", .long "ignore-fail-on-non-empty"] c.args
  if fs.operands.isEmpty then misused c.name 1 "missing operand"
  fs.operands.forM fun n => do
    match ← c.find false n with
    | .ok (.present p .folder) =>
      let t ← Work.tree
      if (t.children p).isEmpty then Work.setTree (t.drop p)
      else failed c.name "failed to remove" n .notEmpty
    | .ok (.present _ _) => failed c.name "failed to remove" n .notFolder
    | .ok (.absent _) => failed c.name "failed to remove" n .notFound
    | .error cause => failed c.name "failed to remove" n cause

def touch : Tool := Work.tool fun c => do
  let fs ← flagsOf c.name 1
    [.switch 'a' "a", .switch 'c' "no-create", .valued 'd' "date", .switch 'm' "m",
     .valued 'r' "reference", .valued 't' "t", .switch 'h' "no-dereference"] c.args
  if fs.operands.isEmpty then misused c.name 1 "missing file operand"
  fs.operands.forM fun n => do
    match ← c.find true n with
    | .ok (.present _ _) => pure ()
    | .ok (.absent p) =>
      if !fs.has "no-create" then Work.setTree ((← Work.tree).put p (.file []))
    | .error cause =>
      if !fs.has "no-create" then failed c.name "cannot touch" n cause

def unlink : Tool := Work.tool fun c => do
  let fs ← flagsOf c.name 1 [] c.args
  match fs.operands with
  | [] => misused c.name 1 "missing operand"
  | [n] =>
    match ← c.find false n with
    | .ok (.present _ .folder) => failed c.name "cannot unlink" n .isFolder
    | .ok (.present p _) => Work.setTree ((← Work.tree).drop p)
    | .ok (.absent _) => failed c.name "cannot unlink" n .notFound
    | .error cause => failed c.name "cannot unlink" n cause
  | _ :: extra :: _ => misused c.name 1 s!"extra operand {quoted extra}"

def byName (a b : String) : Bool := bytesBefore (bytes a) (bytes b)

structure Listing where
  hidden : Bool
  dots : Bool
  marks : Bool
  slashes : Bool
  reverse : Bool
  unsorted : Bool
  commas : Bool
  deep : Bool

def Listing.shown (l : Listing) (n : String) (node : Option Node) : String :=
  match node with
  | some .folder => if l.marks || l.slashes then n ++ "/" else n
  | some (.link _) => if l.marks then n ++ "@" else n
  | _ => n

def Listing.rows (l : Listing) (names : List String) : Bytes :=
  if l.commas then (if names.isEmpty then [] else bytes (", ".intercalate names ++ "\n"))
  else bytes (String.join (names.map (· ++ "\n")))

def Listing.order (l : Listing) (names : List String) : List String :=
  let sorted := if l.unsorted then names else names.mergeSort byName
  if l.reverse then sorted.reverse else sorted

def Listing.folder (l : Listing) (t : Tree) (p : Place) : List String × List String :=
  let names := t.children p
  let kept := names.filter fun n => l.hidden || n.toList.head? != some '.'
  let dots := if l.dots then [".", ".."] else []
  let all := l.order (dots ++ kept)
  let node := fun n => if n == "." || n == ".." then some Node.folder else t.node? (p ++ [n])
  let folders := (l.order kept).filter fun n => t.node? (p ++ [n]) == some .folder
  (all.map fun n => l.shown n (node n), folders)

def Listing.blocks (l : Listing) (t : Tree) : Nat → (title : String) → Place → List (String × Bytes)
  | 0, _, _ => []
  | fuel + 1, title, p =>
    let (names, folders) := l.folder t p
    (title, l.rows names) ::
      if l.deep then folders.flatMap fun n => l.blocks t fuel (title ++ "/" ++ n) (p ++ [n]) else []

def list : Tool := Work.tool fun c => do
  let fs ← flagsOf c.name 2
    ([.switch 'a' "all", .switch 'A' "almost-all", .switch 'd' "directory", .switch 'F' "classify",
     .switch 'p' "p", .switch 'r' "reverse", .switch 'R' "recursive", .switch 'U' "U",
     .switch 'm' "m", .switch 'l' "l", ⟨"color", none, .mayTake⟩] ++
     Flag.letters "1CxtSXgohksiHLNqQnfcuBbGvZ") c.args
  let l : Listing :=
    { hidden := fs.has "all" || fs.has "almost-all" || fs.has "f",
      dots := (fs.has "all" && fs.lastOf ["all", "almost-all"] == some "all") || fs.has "f",
      marks := fs.has "classify", slashes := fs.has "p", reverse := fs.has "reverse",
      unsorted := fs.has "U" || fs.has "f", commas := fs.has "m", deep := fs.has "recursive" }
  let names := if fs.operands.isEmpty then [bytes "."] else fs.operands
  let byText := fun (a b : Bytes) => byName (stringOf a) (stringOf b)
  let sorted := if l.unsorted then names else names.mergeSort byText
  let sorted := if l.reverse then sorted.reverse else sorted
  let found ← sorted.mapM fun n => do
    match ← c.find false n with
    | .ok (.present p (.link _)) =>
      match ← c.find true n with
      | .ok (.present q .folder) =>
        return if fs.has "l" || fs.has "classify" || fs.has "directory"
          then some (n, p, Node.link "") else some (n, q, .folder)
      | _ => return some (n, p, .link "")
    | .ok (.present p node) => return some (n, p, node)
    | .ok (.absent _) =>
      Work.fault 2 s!"{c.name}: cannot access {inQuotes n}: No such file or directory"
      return none
    | .error cause =>
      Work.fault 2 s!"{c.name}: cannot access {inQuotes n}: {cause.text}"
      return none
  let found := found.filterMap id
  let isFolder := fun (e : Bytes × Place × Node) => e.2.2 == .folder && !fs.has "directory"
  let files := (found.filter (!isFolder ·)).map fun e => l.shown (stringOf e.1) (some e.2.2)
  let t ← Work.tree
  let blocks := (found.filter isFolder).flatMap fun e =>
    l.blocks t (t.entries.length + 1) (stringOf e.1) e.2.1
  let titled := 1 < names.length || l.deep
  if !files.isEmpty then Work.print (l.rows files)
  let texts := blocks.map fun (title, rows) =>
    (if titled then bytes (title ++ ":\n") else []) ++ rows
  let front := if files.isEmpty || texts.isEmpty then [] else [newline]
  Work.print (front ++ (texts.intersperse [newline]).flatten)

inductive FindTest where
  | named (pattern : List Wildcard) (anyCase : Bool)
  | path (pattern : List Wildcard)
  | kind (c : Char)
  | isEmpty
  | not (t : FindTest)
  | both (a b : FindTest)
  | either (a b : FindTest)
  | yes

structure FindEntry where
  path : String
  name : String
  place : Place
  node : Node
  depth : Nat

def FindTest.holds (t : Tree) (e : FindEntry) : FindTest → Bool
  | .named ws anyCase =>
    let cs := Octets.ofString e.name
    fitsWild ws (if anyCase then cs.map Char.toLower else cs)
  | .path ws => fitsWild ws (Octets.ofString e.path)
  | .kind k => match e.node with
    | .folder => k == 'd'
    | .file _ => k == 'f'
    | .link _ => k == 'l'
  | .isEmpty => match e.node with
    | .file bs => bs.isEmpty
    | .folder => (t.children e.place).isEmpty
    | .link _ => false
  | .not a => !a.holds t e
  | .both a b => a.holds t e && b.holds t e
  | .either a b => a.holds t e || b.holds t e
  | .yes => true

def wildOf (w : Bytes) (anyCase : Bool) : List Wildcard :=
  let cs := Octets.ofBytes w
  wildcardsOf ((if anyCase then cs.map Char.toLower else cs).map (·, false))

structure FindPlan where
  test : FindTest := .yes
  alternatives : List FindTest := []
  negated : Bool := false
  least : Nat := 0
  most : Option Nat := none
  zeros : Bool := false
  deletes : Bool := false

def FindPlan.add (p : FindPlan) (t : FindTest) : FindPlan :=
  { p with test := .both p.test (if p.negated then .not t else t), negated := false }

def readFind : List Bytes → FindPlan → Except String FindPlan
  | [], p => .ok p
  | w :: rest, p =>
    match stringOf w, rest with
    | "-name", v :: rest => readFind rest (p.add (.named (wildOf v false) false))
    | "-iname", v :: rest => readFind rest (p.add (.named (wildOf v true) true))
    | "-path", v :: rest => readFind rest (p.add (.path (wildOf v false)))
    | "-type", v :: rest => readFind rest (p.add (.kind ((textOf v).headD 'f')))
    | "-empty", rest => readFind rest (p.add .isEmpty)
    | "-maxdepth", v :: rest => readFind rest { p with most := number? v }
    | "-mindepth", v :: rest => readFind rest { p with least := (number? v).getD 0 }
    | "-print", rest => readFind rest p
    | "-print0", rest => readFind rest { p with zeros := true }
    | "-delete", rest => readFind rest { p with deletes := true }
    | "-a", rest => readFind rest p
    | "!", rest => readFind rest { p with negated := true }
    | "-not", rest => readFind rest { p with negated := true }
    | "-o", rest => readFind rest { p with alternatives := p.test :: p.alternatives, test := .yes }
    | "-or", rest => readFind rest { p with alternatives := p.test :: p.alternatives, test := .yes }
    | s, [] => .error (if ["-name", "-iname", "-path", "-type", "-maxdepth", "-mindepth"].contains s
        then s!"missing argument to \x60{s}'" else s!"unknown predicate \x60{s}'")
    | s, _ => .error s!"unknown predicate \x60{s}'"

def walk (t : Tree) (most : Option Nat) : Nat → FindEntry → List FindEntry
  | 0, e => [e]
  | fuel + 1, e =>
    e :: if e.node == .folder && most.all (e.depth < ·) then
        (t.children e.place).flatMap fun n =>
          let p := e.place ++ [n]
          let path := if e.path.toList.getLast? == some '/' then e.path ++ n else e.path ++ "/" ++ n
          walk t most fuel ⟨path, n, p, (t.node? p).getD .folder, e.depth + 1⟩
      else []

def find : Tool := Work.tool fun c => do
  let isStart := fun (w : Bytes) => w.head? != some 45 && w != bytes "!" && w != bytes "("
  let starts := c.args.takeWhile isStart
  let plan ← match readFind (c.args.drop starts.length) {} with
    | .ok p => pure p
    | .error message => Work.die 1 s!"{c.name}: {message}"
  let starts := if starts.isEmpty then [bytes "."] else starts
  starts.forM fun n => do
    match ← c.find false n with
    | .ok (.present p node) =>
      let t ← Work.tree
      let path := stringOf n
      let name := ((Path.ofString path).names.getLast?).getD path
      let all := walk t plan.most (t.entries.length + 1) ⟨path, name, p, node, 0⟩
      let test := plan.alternatives.foldl (fun a b => .either b a) plan.test
      let chosen := all.filter fun e => plan.least ≤ e.depth && test.holds t e
      if plan.deletes then
        chosen.reverse.forM fun e => do
          Work.setTree (cutOff (← Work.tree) e.place)
      else
        Work.print (chosen.flatMap fun e => bytes e.path ++ [if plan.zeros then 0 else newline])
    | .ok (.absent _) => Work.fault 1 s!"{c.name}: {quoted n}: No such file or directory"
    | .error cause => Work.fault 1 s!"{c.name}: {quoted n}: {cause.text}"

def dropSlashes (cs : List Char) : List Char := (cs.reverse.dropWhile (· == '/')).reverse

def lastPart (cs : List Char) : List Char :=
  let bare := dropSlashes cs
  if bare.isEmpty then (if cs.isEmpty then [] else ['/'])
  else (bare.reverse.takeWhile (· != '/')).reverse

def frontPart (cs : List Char) : List Char :=
  let bare := dropSlashes cs
  if bare.isEmpty then (if cs.isEmpty then ['.'] else ['/'])
  else
    let front := (bare.reverse.dropWhile (· != '/')).reverse
    if front.isEmpty then ['.']
    else
      let front := dropSlashes front
      if front.isEmpty then ['/'] else front

def dropEnd (end_ cs : List Char) : List Char :=
  if end_ != cs && end_.isSuffixOf cs then cs.take (cs.length - end_.length) else cs

def baseName : Tool := Work.tool fun c => do
  let known : List Flag := [.switch 'a' "multiple", .valued 's' "suffix", .switch 'z' "zero"]
  match readFlags known false c.args with
  | .error message => misused c.name 1 message
  | .ok fs =>
    let many := fs.has "multiple" || (fs.value? "suffix").isSome
    let ending : Bytes := if fs.has "zero" then [0] else [newline]
    let shown := fun (suffix n : Bytes) =>
      Utf8.encode (dropEnd (textOf suffix) (lastPart (textOf n))) ++ ending
    match fs.operands with
    | [] => misused c.name 1 "missing operand"
    | ns =>
      if many then Work.print (ns.flatMap (shown ((fs.value? "suffix").getD [])))
      else match ns with
        | [n] => Work.print (shown [] n)
        | [n, s] => Work.print (shown s n)
        | _ => misused c.name 1 s!"extra operand {quoted ((ns.drop 2).headD [])}"

def folderName : Tool := Work.tool fun c => do
  let fs ← flagsOf c.name 1 [.switch 'z' "zero"] c.args
  if fs.operands.isEmpty then misused c.name 1 "missing operand"
  Work.print (fs.operands.flatMap fun n =>
    Utf8.encode (frontPart (textOf n)) ++ [if fs.has "zero" then 0 else newline])

def readLink : Tool := Work.tool fun c => do
  let fs ← flagsOf c.name 1
    [.switch 'f' "canonicalize", .switch 'e' "canonicalize-existing", .switch 'n' "no-newline",
     .switch 'm' "canonicalize-missing", .switch 'v' "verbose"] c.args
  if fs.operands.isEmpty then misused c.name 1 "missing operand"
  let ending := if fs.has "no-newline" && fs.operands.length = 1 then [] else [newline]
  fs.operands.forM fun n => do
    if fs.has "canonicalize" || fs.has "canonicalize-existing" || fs.has "canonicalize-missing" then
      match ← c.find true n with
      | .ok t => Work.print (bytes ("/" ++ "/".intercalate t.place) ++ ending)
      | .error _ => Work.setStatus 1
    else match ← nodeAt c false n with
      | some (_, .link target) => Work.print (bytes target ++ ending)
      | _ => Work.setStatus 1

def realPath : Tool := Work.tool fun c => do
  let fs ← flagsOf c.name 1
    [.switch 'e' "canonicalize-existing", .switch 'm' "canonicalize-missing", .switch 's' "strip",
     .switch 'q' "quiet", .switch 'z' "zero"] c.args
  if fs.operands.isEmpty then misused c.name 1 "missing operand"
  fs.operands.forM fun n => do
    match ← c.find true n with
    | .ok t => Work.print (bytes ("/" ++ "/".intercalate t.place) ++ [newline])
    | .error cause => Work.fault 1 s!"{c.name}: {fileName n}: {cause.text}"

def currentFolder : Tool := Work.tool fun c => do
  let fs ← flagsOf c.name 1 [.switch 'L' "logical", .switch 'P' "physical"] c.args
  if !fs.operands.isEmpty then Work.complain s!"{c.name}: ignoring non-option arguments"
  Work.print (bytes ("/" ++ "/".intercalate c.view.here) ++ [newline])

def firstDifference : Nat → Nat → Bytes → Bytes → Option (Nat × Nat × Bool)
  | n, l, a :: as, b :: bs =>
    if a = b then firstDifference (n + 1) (if a == newline then l + 1 else l) as bs
    else some (n, l, false)
  | _, _, [], [] => none
  | n, l, _, _ => some (n, l, true)

def caretForm (b : UInt8) : List Char :=
  let low := fun (n : Nat) => if n < 32 then ['^', Char.ofNat (n + 64)]
    else if n = 127 then ['^', '?'] else [Char.ofNat n]
  if 128 ≤ b then 'M' :: '-' :: low (b.toNat - 128) else low b.toNat

def octetPair (characters : Bool) (a b : UInt8) : List Char :=
  let number := fun (b : UInt8) => padLeft 3 ' ' (digits 8 b.toNat)
  if characters then number a ++ ' ' :: caretForm a ++ ' ' :: number b ++ ' ' :: caretForm b
  else number a ++ ' ' :: number b

def differences (width : Nat) (characters : Bool) : Nat → Bytes → Bytes → Bytes
  | n, a :: as, b :: bs =>
    let rest := differences width characters (n + 1) as bs
    if a = b then rest
    else
      let number := fun (b : UInt8) => padLeft 3 ' ' (digits 8 b.toNat)
      let pair := if characters then
          number a ++ ' ' :: padRight 4 (caretForm a) ++ ' ' :: number b ++ ' ' :: caretForm b
        else octetPair false a b
      bytes (String.ofList (padLeft width ' ' (digits 10 n) ++ ' ' :: pair ++ ['\n'])) ++ rest
  | _, _, _ => []

def misusedCompare {α : Type} (tool message : String) : Work α :=
  Work.die 2 s!"{tool}: {message}\n{tool}: {tryHelp tool}"

def compareFiles : Tool := Work.tool fun c => do
  let fs ← match readFlags [.switch 's' "quiet", .long "silent", .switch 'l' "verbose",
      .switch 'b' "print-bytes"] true c.args with
    | .ok fs => pure fs
    | .error message => misusedCompare c.name message
  let silent := fs.has "quiet" || fs.has "silent"
  match fs.operands with
  | [] => misusedCompare c.name s!"missing operand after '{c.name}'"
  | _ :: _ :: _ :: _ :: extra :: _ => misusedCompare c.name s!"extra operand '{stringOf extra}'"
  | a :: rest =>
    let b := rest.headD (bytes "-")
    if silent && fs.has "verbose" then
      misusedCompare c.name "options -l and -s are incompatible"
    if a == b && a == bytes "-" then Work.leave 0
    let read := fun (n : Bytes) => do
      match ← readSource c n with
      | .ok bs => return bs
      | .error why => Work.die 2 s!"{c.name}: {stringOf n}: {why}"
    let x ← read a
    let y ← read b
    if x == y then Work.leave 0
    Work.setStatus 1
    if silent then Work.leave 1
    let size := min x.length y.length
    let short := stringOf (if x.length < y.length then a else b)
    let pairs := fs.has "print-bytes"
    if fs.has "verbose" then
      let measured := [(a, x), (b, y)].filter fun e => e.1 != bytes "-" || c.fromFile
      let least := measured.foldl (fun n e => min n e.2.length) (max x.length y.length)
      Work.print (differences (digits 10 least).length pairs 1 x y)
      if x.length ≠ y.length then
        Work.complain (if size = 0 then s!"{c.name}: EOF on {short} which is empty"
          else s!"{c.name}: EOF on {short} after byte {size}")
    else match firstDifference 1 1 x y with
      | some (n, l, false) =>
        let shown := if pairs then " is " ++ String.ofList (octetPair pairs
          ((x[n - 1]?).getD 0) ((y[n - 1]?).getD 0)) else ""
        Work.print (bytes s!"{stringOf a} {stringOf b} differ: byte {n}, line {l}{shown}\n")
      | some (n, l, true) =>
        if size = 0 then Work.complain s!"{c.name}: EOF on {short} which is empty"
        else
          let closed := (x.take size).getLast? == some newline
          let line := if closed then s!"line {l - 1}" else s!"in line {l}"
          Work.complain s!"{c.name}: EOF on {short} after byte {n - 1}, {line}"
      | none => pure ()

end Folders

end DocBraces.Tools
