import DocBraces.Proofs.Config.Accepted
import DocBraces.Proofs.Session.Logging
import DocBraces.Proofs.Session.Moving

/-!
# The nearest configuration

From a folder of a project, and from each folder below it up to the limit of the search,
the same file is found, if no file of that name is nearer. The folder that holds it is the
root of the project.
-/

set_option autoImplicit false

namespace DocBraces.Config

open DocBraces.Files DocBraces.Session DocBraces.Text

variable {root pre : Place} {names : List String} {s : Session}

def fileIn (folder : Place) : Path := (pathOfPlace folder).child fileName

/-- Names lead from the root of a project down to a folder. The root holds a configuration,
and neither this folder nor one between the two has anything of that name. -/
structure Below (root : Place) (names : List String) (s : Session) : Prop where
  file : ∃ bytes, s.tree.node? (root ++ [fileName]) = some (.file bytes)
  stands : s.tree.Stands (root ++ names)
  bare : ∀ pre, pre <+: names → pre ≠ [] → s.tree.node? (root ++ pre ++ [fileName]) = none
  short : (Utf8.encode (fileIn (root ++ names)).toString.toList).length < pathLimit

theorem fileName_entry : IsEntry fileName := by decide +kernel

theorem fileName_step : Tree.IsStep fileName := ⟨by decide, by decide, by decide +kernel⟩

theorem noNul_fileIn {t : Tree} {place : Place} (stands : t.Stands place) :
    hasNul (fileIn place).toString = false := by
  refine Tree.noNul_of_entries fun n hn => ?_
  obtain hn | hn := List.mem_append.mp hn
  · exact (stands.names n hn).1
  · exact List.mem_singleton.mp hn ▸ fileName_entry

theorem Below.above (below : Below root names s) (hp : pre <+: names) :
    s.tree.Stands (root ++ pre) :=
  below.stands.above ((List.prefix_append_right_inj root).mpr hp)

/-- In each folder on the way the file is looked for, and it is there in the root only. -/
theorem Below.isFile (below : Below root names s) (hp : pre <+: names) :
    outcome (isFile (fileIn (root ++ pre))) s = .ok pre.isEmpty := by
  have stands := below.above hp
  have short := Nat.lt_of_le_of_lt (length_toString_le hp fileName) below.short
  have noNul := noNul_fileIn stands
  have resolved (found : Tree.Target)
      (leads : Tree.Leads s.tree true Tree.linkLimit (root ++ pre) [fileName] found) :
      s.tree.resolve true s.here (fileIn (root ++ pre)).toString = .ok found :=
    stands.resolve_entry fileName_entry short true s.here leads
  unfold Session.isFile Session.node?
  rw [if_neg (by simp [noNul]), outcome_bind, outcome_get_bind]
  cases pre with
  | nil =>
    obtain ⟨bytes, hf⟩ := below.file
    rw [resolved _ (.file fileName_step (by simpa using hf))]
    rfl
  | cons n rest =>
    rw [resolved _ (.free fileName_step (below.bare _ hp (by simp)))]
    rfl

theorem realPath_of_stands {place : Place} (stands : s.tree.Stands place) :
    outcome (realPath (pathOfPlace place)) s = .ok (pathOfPlace place) := by
  have noNul : hasNul (pathOfPlace place).toString = false :=
    stands.noNul
  have real : s.tree.realPlace (if (pathOfPlace place).root = .relative then s.here else [])
      (pathOfPlace place).names = place := stands.realPlace
  have resolved : s.tree.resolve true s.here (pathOfPlace place).toString =
      .ok (.present place .folder) ∨
        s.tree.resolve true s.here (pathOfPlace place).toString = .error .nameTooLong :=
    stands.resolve true s.here
  unfold realPath
  dsimp only
  rw [if_neg (by simp [noNul]), outcome_get_bind, real]
  obtain h | h := resolved
  · rw [h]
    rfl
  · rw [h]
    rfl

/-- The search goes up from folder to folder and ends at the root of the project. -/
theorem Below.searchFrom (below : Below root names s) (hp : pre <+: names) {limit : Nat}
    (near : pre.length < limit) :
    outcome (searchFrom limit (pathOfPlace (root ++ pre))) s = .ok (some (fileIn root)) := by
  induction pre using List.reverseRecOn generalizing limit with
  | nil =>
    obtain ⟨limit, rfl⟩ := Nat.exists_eq_succ_of_ne_zero (Nat.ne_of_gt near)
    change outcome (Session.isFile (fileIn (root ++ [])) >>= _) s = _
    rw [(bind_of_ok (below.isFile hp) _).1, List.append_nil]
    rfl
  | append_singleton top n ih =>
    obtain ⟨limit, rfl⟩ := Nat.exists_eq_succ_of_ne_zero (Nat.ne_of_gt (Nat.zero_lt_of_lt near))
    have above : top <+: names := (List.prefix_append _ _).trans hp
    have parent : (pathOfPlace (root ++ (top ++ [n]))).parent = pathOfPlace (root ++ top) := by
      rw [← List.append_assoc]
      exact congrArg (Files.Path.mk _) List.dropLast_concat
    have other : pathOfPlace (root ++ top) ≠ pathOfPlace (root ++ (top ++ [n])) := by
      intro same
      have names_ := congrArg Path.names same
      simp [pathOfPlace] at names_
    have missing : (top ++ [n]).isEmpty = false := by simp
    have near_ : top.length < limit := by
      rw [List.length_append, List.length_singleton] at near
      omega
    change outcome (Session.isFile (fileIn (root ++ (top ++ [n]))) >>= _) s = _
    rw [(bind_of_ok (below.isFile hp) _).1, isFile_looks, missing, if_neg Bool.false_ne_true,
      parent, if_neg other]
    exact ih above near_

theorem find_looks : Looks (find none) := choose_looks none

/-- From each folder on the way the configuration of the project is found. -/
theorem Below.find (below : Below root names s) (hp : pre <+: names)
    (near : names.length < searchLimit) (here : s.here = root ++ pre) :
    outcome (find none) s = .ok (some (fileIn root)) := by
  have current : outcome currentFolder s = .ok (pathOfPlace (root ++ pre)) := by
    rw [← here]
    rfl
  have near_ : pre.length < searchLimit := Nat.lt_of_le_of_lt hp.length_le near
  change outcome (currentFolder >>= _) s = _
  rw [(bind_of_ok current _).1]
  change outcome (realPath (pathOfPlace (root ++ pre)) >>= _) s = _
  rw [(bind_of_ok (realPath_of_stands (below.above hp)) _).1, realPath_looks]
  exact below.searchFrom hp near_

/-- Where the path of the file would be too long, the search fails at once. -/
theorem find_overlong {place : Place} (stands : s.tree.Stands place) (here : s.here = place)
    (long : pathLimit ≤ (Utf8.encode (fileIn place).toString.toList).length) :
    outcome (Config.find none) s = .error (.file ⟨.nameTooLong, (fileIn place).toString⟩) := by
  have current : outcome currentFolder s = .ok (pathOfPlace place) := by
    rw [← here]
    rfl
  have proper : (fileIn place).Proper := stands.proper.child fileName_entry.name
  have resolved : s.tree.resolve true s.here (fileIn place).toString = .error .nameTooLong := by
    rw [Tree.resolve_path proper, Tree.hindrance, if_pos long]
  have looked : outcome (Session.isFile (fileIn place)) s =
      .error (.file ⟨.nameTooLong, (fileIn place).toString⟩) := by
    unfold Session.isFile Session.node?
    rw [if_neg (by simp [noNul_fileIn stands]), outcome_bind, outcome_get_bind, resolved]
    rfl
  change outcome (currentFolder >>= _) s = _
  rw [(bind_of_ok current _).1]
  change outcome (realPath (pathOfPlace place) >>= _) s = _
  rw [(bind_of_ok (realPath_of_stands stands) _).1, realPath_looks]
  change outcome (Session.isFile (fileIn place) >>= _) s = _
  rw [outcome_bind, looked]

theorem Below.projectRoot (below : Below root names s) :
    outcome (projectRoot (some (fileIn root))) s = .ok (pathOfPlace root) := by
  have stands := below.above (List.nil_prefix)
  rw [List.append_nil] at stands
  change outcome (realPath (fileIn root).parent) s = _
  rw [fileIn, Path.parent_child]
  exact realPath_of_stands stands

theorem Below.moved (below : Below root names s) (place : Place) :
    Below root names (s.moved place) := ⟨below.file, below.stands, below.bare, below.short⟩

theorem Below.alike {s' : Session} (below : Below root names s) (h : s.tree.Alike s'.tree) :
    Below root names s' where
  file := by
    obtain ⟨bytes, hf⟩ := below.file
    obtain same | ⟨_, other, _, hb⟩ := h (root ++ [fileName])
    · exact ⟨bytes, same ▸ hf⟩
    · exact ⟨other, hb⟩
  stands := below.stands.alike h
  bare := fun pre hp hne => h.of_not_file (below.bare pre hp hne) fun _ => nofun
  short := below.short

/-- A file that comes to a free place is in nobody's way, unless it is a configuration. -/
theorem Below.put {place : Place} (below : Below root names s) (free : s.tree.node? place = none)
    (apart : ∀ pre, pre <+: names → pre ≠ [] → place ≠ root ++ pre ++ [fileName])
    (bytes : List UInt8) : Below root names { s with tree := s.tree.put place (.file bytes) } := by
  have kept {q : Place} {n : Node} (hq : s.tree.node? q = some n) :
      (s.tree.put place (.file bytes)).node? q = some n := by
    refine (Tree.node?_put_of_ne _ _ _ _ ?_).trans hq
    rintro rfl
    rw [free] at hq
    cases hq
  exact {
    file := below.file.imp fun _ hf => kept hf
    stands := ⟨fun q hq => kept (below.stands.folders q hq), below.stands.names⟩
    bare := fun pre hp hne =>
      (Tree.node?_put_of_ne _ _ _ _ (apart pre hp hne).symm).trans (below.bare pre hp hne)
    short := below.short }

/-- The setup of the logging leaves the project as it is, if its log is kept in no file that
could be taken for a configuration. -/
theorem Below.setupLogging {r : Log.Request} (below : Below root names s)
    (apart : ∀ path ∈ r.filePath?, ∀ place, outcome (openLog path) s = .ok place →
      ∀ pre, pre <+: names → pre ≠ [] → place ≠ root ++ pre ++ [fileName])
    (h : outcome (Session.setupLogging r) s = .ok ()) :
    Below root names (after (Session.setupLogging r) s) ∧
      (after (Session.setupLogging r) s).here = s.here := by
  unfold Session.setupLogging at h ⊢
  obtain ⟨logFile, hlog, -, left⟩ := ok_of_bind h
  rw [left]
  cases hpath : r.filePath? with
  | none => exact ⟨⟨below.file, below.stands, below.bare, below.short⟩, rfl⟩
  | some path =>
    rw [hpath] at hlog
    have hmap : Option.mapM openLog (some path) = some <$> openLog path := rfl
    rw [hmap, outcome_map] at hlog
    rw [hmap, after_map]
    cases ho : outcome (openLog path) s with
    | error f => simp [ho, Except.map] at hlog
    | ok place =>
      obtain ⟨_, same⟩ | ⟨free, made⟩ := openLog_leaves ho
      · rw [same]
        exact ⟨⟨below.file, below.stands, below.bare, below.short⟩, rfl⟩
      · have put := below.put free (apart path hpath place ho) []
        rw [made]
        exact ⟨⟨put.file, put.stands, put.bare, put.short⟩, rfl⟩

theorem readText_placeless {p : Path} (h : p.root ≠ .relative) : Placeless (readText p) := by
  unfold readText
  refine .bind (.tryCatch (readBytes_placeless h) fun f => ?_) fun bytes => ?_
  · split <;> exact .throw _
  · split
    · exact .pure _
    · exact .throw _

theorem parse_placeless (p : Path) (text : List Char) : Placeless (parse p text) := by
  unfold parse
  split
  · exact .pure _
  · exact .throw _
  · exact .throw _

theorem loadFile_placeless {p : Path} (h : p.root ≠ .relative) : Placeless (loadFile p) := by
  unfold loadFile
  refine .bind (isFile_placeless h) fun there => ?_
  cases there with
  | false => exact .throw _
  | true =>
    refine .bind (log_placeless _ _ _) fun _ => .bind (readText_placeless h) fun text => ?_
    refine .bind (parse_placeless p text) fun d => ?_
    split
    · exact .throw _
    · exact .bind (log_placeless _ _ _) fun _ => .pure _

theorem applyEnvironment_placeless (st : Settings) (e : Environment) :
    Placeless (applyEnvironment st e) := by
  unfold applyEnvironment
  dsimp only
  split
  · exact .pure _
  · exact .bind (log_placeless _ _ _) fun _ => .pure _

theorem Below.find_same (below : Below root names s) (near : names.length < searchLimit)
    (here : s.here = root) : SameFrom (root ++ names) (Config.find none) s := by
  have top : s.here = root ++ [] := by rw [here, List.append_nil]
  refine .of_looks find_looks ?_
  rw [below.find List.nil_prefix near top]
  exact (below.moved _).find (List.prefix_refl names) near rfl

theorem Below.load_same (below : Below root names s) (near : names.length < searchLimit)
    (here : s.here = root) (e : Environment) :
    SameFrom (root ++ names) (Config.load none e) s := by
  have top : s.here = root ++ [] := by rw [here, List.append_nil]
  have found := below.find List.nil_prefix near top
  have rooted : (fileIn root).root ≠ .relative := nofun
  change SameFrom _ (Config.find none >>= _) s
  refine (below.find_same near here).bind fun file ho => ?_
  obtain rfl : file = some (fileIn root) := Except.ok.inj (ho.symm.trans found)
  exact Placeless.bind (loadFile_placeless rooted) (fun st => applyEnvironment_placeless st e) _ _

end DocBraces.Config
