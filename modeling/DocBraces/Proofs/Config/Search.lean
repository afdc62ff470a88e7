import DocBraces.Proofs.Config.Nearest
import DocBraces.Proofs.Files.Following

/-!
# The search for a configuration

The search looks into a folder and into those above it, one after the other, and ends at the
first configuration, at the top of the tree or at its limit. What is no regular file is passed
over, unless its path is too long, or a name on the way of its links: then the search fails.
-/

set_option autoImplicit false

namespace DocBraces.Config

open DocBraces.Files DocBraces.Session DocBraces.Text

variable {s : Session} {place : Place} {p : Path} {limit : Nat}
  {r : Except Failure (Option Path)}

/-- A path leads to a regular file, links followed. -/
def HasFile (s : Session) (p : Path) : Prop :=
  ∃ place bytes, s.view.node? true p = some (place, .file bytes)

/-- What the search ends with at a path, if it ends there. -/
inductive Stops (s : Session) (p : Path) : Except Failure (Option Path) → Prop
  | file : HasFile s p → Stops s p (.ok (some p))
  | overlong : s.view.isOverlong p = true →
      Stops s p (.error (.file ⟨.nameTooLong, p.toString⟩))

/-- A path leads to no regular file, and asking for one is no failure. -/
def PassedOver (s : Session) (p : Path) : Prop :=
  ¬ HasFile s p ∧ s.view.isOverlong p = false

theorem isOverlong_iff : s.view.isOverlong p = true ↔
    hasNul p.toString = false ∧ s.tree.resolve true s.here p.toString = .error .nameTooLong := by
  unfold View.isOverlong Session.view
  split
  · simp_all
  · dsimp only
    split <;> simp_all

theorem overlong_of_isFile {f : Failure} (h : outcome (isFile p) s = .error f) :
    s.view.isOverlong p = true := by
  unfold Session.isFile Session.node? at h
  rw [isOverlong_iff]
  cases hn : hasNul p.toString with
  | true =>
    rw [if_pos hn] at h
    cases h
  | false =>
    rw [if_neg (by simp [hn]), outcome_bind, outcome_get_bind] at h
    refine ⟨rfl, ?_⟩
    generalize s.tree.resolve true s.here p.toString = found at h ⊢
    rcases found with cause | ⟨place, node⟩ | place
    · cases cause <;> first | rfl | cases h
    · cases node <;> cases h
    · cases h

theorem not_hasFile_of_isOverlong (long : s.view.isOverlong p = true) : ¬ HasFile s p := by
  rintro ⟨place, bytes, hv⟩
  have found := (View.node?_some.mp hv).2
  exact nomatch found.symm.trans (isOverlong_iff.mp long).2

theorem PassedOver.not_stops (h : PassedOver s p) : ¬ Stops s p r := by
  rintro (file | overlong)
  · exact h.1 file
  · rw [h.2] at overlong
    cases overlong

theorem Stops.unique {other : Except Failure (Option Path)} (h : Stops s p r)
    (h' : Stops s p other) : r = other := by
  cases h with
  | file hf =>
    cases h' with
    | file => rfl
    | overlong hl => exact absurd hf (not_hasFile_of_isOverlong hl)
  | overlong hl =>
    cases h' with
    | file hf => exact absurd hf (not_hasFile_of_isOverlong hl)
    | overlong => rfl

theorem outcome_isFile_bind (p : Path) (onward : Run (Option Path)) (s : Session) :
    Stops s p (outcome (isFile p >>= fun there => if there then pure (some p) else onward) s) ∨
      PassedOver s p ∧ outcome (isFile p >>= fun there => if there then pure (some p) else onward) s
        = outcome onward s := by
  rw [outcome_bind, isFile_looks]
  cases ho : outcome (isFile p) s with
  | error f =>
    obtain rfl := isFile_fails p s f ho
    exact .inl (.overlong (overlong_of_isFile ho))
  | ok there =>
    have file := isFile_ok ho
    cases there with
    | true => exact .inl (.file (file.mp rfl))
    | false =>
      exact .inr ⟨⟨fun h => Bool.false_ne_true (file.mpr h), short_of_isFile ho⟩, rfl⟩

def above (place : Place) (steps : Nat) : Place := place.take (place.length - steps)

def candidate (place : Place) (steps : Nat) : Path := fileIn (above place steps)

/-- Neither the limit of the search nor the top of the tree comes before so many steps up. -/
structure Reached (limit : Nat) (place : Place) (steps : Nat) : Prop where
  limit : steps < limit
  top : steps ≤ place.length

/-- How the search from a place ends: at the first path that it does not pass over, or with
nothing once it has passed over all. -/
inductive Finds (s : Session) (limit : Nat) (place : Place) :
    Except Failure (Option Path) → Prop
  | first {steps : Nat} {r : Except Failure (Option Path)} : Reached limit place steps →
      (∀ fewer < steps, PassedOver s (candidate place fewer)) →
        Stops s (candidate place steps) r → Finds s limit place r
  | nothing : (∀ steps, Reached limit place steps → PassedOver s (candidate place steps)) →
      Finds s limit place (.ok none)

theorem candidate_zero (place : Place) : candidate place 0 = fileIn place :=
  congrArg fileIn List.take_length

theorem candidate_dropLast (place : Place) (steps : Nat) :
    candidate place.dropLast steps = candidate place (steps + 1) := by
  unfold candidate above
  rw [List.dropLast_eq_take, List.take_take, List.length_take]
  congr 2
  omega

theorem Finds.up (passed : PassedOver s (fileIn place)) (hne : place ≠ [])
    (h : Finds s limit place.dropLast r) : Finds s (limit + 1) place r := by
  have length := List.length_pos_iff.mpr hne
  have below {steps : Nat}
      (before : ∀ fewer < steps, PassedOver s (candidate place.dropLast fewer)) :
      ∀ fewer < steps + 1, PassedOver s (candidate place fewer) := by
    intro fewer hf
    cases fewer with
    | zero => exact candidate_zero place ▸ passed
    | succ fewer => exact candidate_dropLast place fewer ▸ before fewer (by omega)
  cases h with
  | @first steps _ reached before stops =>
    have top := reached.top
    rw [List.length_dropLast] at top
    refine .first ⟨Nat.succ_lt_succ reached.limit, by omega⟩ (below before) ?_
    exact candidate_dropLast place steps ▸ stops
  | nothing all =>
    refine .nothing fun steps reached => ?_
    cases steps with
    | zero => exact candidate_zero place ▸ passed
    | succ steps =>
      have top := reached.top
      refine candidate_dropLast place steps ▸ all steps ⟨Nat.lt_of_succ_lt_succ reached.limit, ?_⟩
      rw [List.length_dropLast]
      omega

theorem searchFrom_succ (limit : Nat) (place : Place) :
    searchFrom (limit + 1) (pathOfPlace place) = isFile (fileIn place) >>= fun there =>
      if there then pure (some (fileIn place))
      else if (pathOfPlace place).parent = pathOfPlace place then pure none
      else searchFrom limit (pathOfPlace place).parent := rfl

theorem searchFrom_finds (s : Session) (limit : Nat) (place : Place) :
    Finds s limit place (outcome (searchFrom limit (pathOfPlace place)) s) := by
  induction limit generalizing place with
  | zero => exact .nothing fun steps reached => absurd reached.limit (Nat.not_lt_zero _)
  | succ limit ih =>
    rw [searchFrom_succ]
    obtain stops | ⟨passed, onward⟩ := outcome_isFile_bind (fileIn place)
      (if (pathOfPlace place).parent = pathOfPlace place then pure none
        else searchFrom limit (pathOfPlace place).parent) s
    · exact .first ⟨Nat.zero_lt_succ _, Nat.zero_le _⟩ (fun _ h => absurd h (Nat.not_lt_zero _))
        (candidate_zero place ▸ stops)
    · rw [onward]
      by_cases top : place = []
      · subst top
        refine .nothing fun steps reached => ?_
        obtain rfl : steps = 0 := Nat.le_zero.mp reached.top
        exact passed
      · have parent : (pathOfPlace place).parent ≠ pathOfPlace place := by
          intro same
          have shorter := congrArg (List.length ∘ Path.names) same
          have length := List.length_pos_iff.mpr top
          simp [pathOfPlace, Path.parent] at shorter
          omega
        rw [if_neg parent]
        exact (ih place.dropLast).up passed top

theorem Finds.unique {other : Except Failure (Option Path)} (h : Finds s limit place r)
    (h' : Finds s limit place other) : r = other := by
  cases h with
  | @first steps _ reached before stops =>
    cases h' with
    | @first steps' _ reached' before' stops' =>
      obtain hlt | rfl | hlt := Nat.lt_trichotomy steps steps'
      · exact absurd stops (before' steps hlt).not_stops
      · exact stops.unique stops'
      · exact absurd stops' (before steps' hlt).not_stops
    | nothing all => exact absurd stops (all steps reached).not_stops
  | nothing all =>
    cases h' with
    | first reached' _ stops' => exact absurd stops' (all _ reached').not_stops
    | nothing => rfl

theorem outcome_searchFrom_iff :
    outcome (searchFrom limit (pathOfPlace place)) s = r ↔ Finds s limit place r :=
  ⟨fun h => h ▸ searchFrom_finds s limit place, (searchFrom_finds s limit place).unique⟩

theorem realPath_ok {folder : Path} (h : outcome (realPath p) s = .ok folder) :
    ∃ place, folder = pathOfPlace place := by
  unfold realPath at h
  dsimp only at h
  split at h
  · cases h
  · rw [outcome_get_bind] at h
    split at h
    · cases h
    · exact ⟨_, (Except.ok.inj h).symm⟩

/-- Where the search starts: at the path that is given, else in the current folder. -/
def origin (start : Option Path) (s : Session) : Path := start.getD (pathOfPlace s.here)

theorem outcome_find (start : Option Path) (s : Session) :
    outcome (find start) s = match outcome (realPath (origin start s)) s with
      | .ok folder => outcome (searchFrom searchLimit folder) s
      | .error f => .error f := by
  have from_ (p : Path) : outcome (realPath p >>= searchFrom searchLimit) s =
      match outcome (realPath p) s with
      | .ok folder => outcome (searchFrom searchLimit folder) s
      | .error f => .error f := by
    rw [outcome_bind, realPath_looks]
    cases outcome (realPath p) s <;> rfl
  cases start with
  | some p => exact from_ p
  | none => exact from_ (pathOfPlace s.here)

/-- A path that leads to a folder has the path of that folder as its real path. -/
theorem realPath_of_folder (grounded : s.tree.Grounded) (named : s.tree.Named)
    (proper : p.Proper) (h : s.view.node? true p = some (place, .folder)) :
    outcome (realPath p) s = .ok (pathOfPlace place) := by
  obtain ⟨noNul, found⟩ := View.node?_some.mp h
  obtain ⟨unhindered, leads⟩ := (Tree.resolve_ok proper).mp found
  have start := (Tree.hindrance_eq_none.mp unhindered).2
  have real : s.tree.realPlace (if p.root = .relative then s.here else []) p.names = place :=
    leads.realPlace grounded start
  unfold realPath
  dsimp only
  rw [if_neg (by simp [noNul]), outcome_get_bind, real]
  obtain hr | hr := grounded.resolve_folder named leads.holds s.here
  · rw [pathOfPlace, hr]
    rfl
  · rw [pathOfPlace, hr]
    rfl

theorem finds_file_iff
    (short : ∀ steps, Reached limit place steps →
      s.view.isOverlong (candidate place steps) = false) :
    Finds s limit place (.ok (some p)) ↔ ∃ steps, Reached limit place steps ∧
      p = candidate place steps ∧ HasFile s p ∧
        ∀ fewer < steps, ¬ HasFile s (candidate place fewer) := by
  constructor
  · rintro (@⟨steps, _, reached, before, ⟨file⟩⟩ | _)
    exact ⟨steps, reached, rfl, file, fun fewer hf => (before fewer hf).1⟩
  · rintro ⟨steps, reached, rfl, file, nearer⟩
    refine .first reached (fun fewer hf => ⟨nearer fewer hf, short fewer ?_⟩) (.file file)
    exact ⟨hf.trans reached.limit, hf.le.trans reached.top⟩

theorem finds_nothing_iff
    (short : ∀ steps, Reached limit place steps →
      s.view.isOverlong (candidate place steps) = false) :
    Finds s limit place (.ok none) ↔
      ∀ steps, Reached limit place steps → ¬ HasFile s (candidate place steps) := by
  constructor
  · rintro (⟨_, _, ⟨⟩⟩ | ⟨all⟩)
    exact fun steps reached => (all steps reached).1
  · exact fun none_ => .nothing fun steps reached => ⟨none_ steps reached, short steps reached⟩

/-- The search ends at the first path, from its start upwards, that leads to a regular file or
is too long to be asked for, and with nothing if there is none such within its limit. So the
nearest configuration is found wherever no path is too long. A start that leads to a folder
stands for this folder. -/
theorem find_nearest (start : Option Path) (s : Session) :
    (match outcome (realPath (origin start s)) s with
      | .error f => outcome (find start) s = .error f
      | .ok folder => ∃ place, folder = pathOfPlace place ∧
        (∀ r, outcome (find start) s = r ↔ Finds s searchLimit place r) ∧
        ((∀ steps, Reached searchLimit place steps →
            s.view.isOverlong (candidate place steps) = false) →
          (∀ p, outcome (find start) s = .ok (some p) ↔ ∃ steps, Reached searchLimit place steps ∧
            p = candidate place steps ∧ HasFile s p ∧
              ∀ fewer < steps, ¬ HasFile s (candidate place fewer)) ∧
          (outcome (find start) s = .ok none ↔
            ∀ steps, Reached searchLimit place steps → ¬ HasFile s (candidate place steps)))) ∧
    (s.tree.Grounded → s.tree.Named → (origin start s).Proper →
      ∀ place, s.view.node? true (origin start s) = some (place, .folder) →
        outcome (realPath (origin start s)) s = .ok (pathOfPlace place)) := by
  refine ⟨?_, fun grounded named proper place => realPath_of_folder grounded named proper⟩
  have found := outcome_find start s
  cases real : outcome (realPath (origin start s)) s with
  | error f =>
    rw [real] at found
    exact found
  | ok folder =>
    obtain ⟨place, rfl⟩ := realPath_ok real
    rw [real] at found
    have ends (r) : outcome (find start) s = r ↔ Finds s searchLimit place r := by
      rw [found]
      exact outcome_searchFrom_iff
    refine ⟨place, rfl, ends, fun short => ⟨fun p => ?_, ?_⟩⟩
    · rw [ends, finds_file_iff short]
    · rw [ends, finds_nothing_iff short]

/-- A project that is entered through a link to one of its folders. -/
def entered : Session where
  tree := ⟨[(["p"], .folder), (["p", "bracefence.yml"], .file []), (["p", "sub"], .folder),
    (["p", "sub", "bracefence.yml"], .folder), (["d"], .link "p/sub")]⟩
  here := []
  programs := fun v _ _ => (.missing, v.tree)
  clock := ⟨"", ""⟩

/-- From the folder behind the link the search passes over a folder of the name in question and
goes on to the root of the project. -/
theorem search_through_link :
    entered.tree.Grounded ∧ entered.tree.Named ∧ (Path.ofString "d").Proper ∧
      entered.view.node? true (Path.ofString "d") = some (["p", "sub"], .folder) ∧
      outcome (realPath (Path.ofString "d")) entered = .ok (pathOfPlace ["p", "sub"]) ∧
      outcome (find (some (Path.ofString "d"))) entered = .ok (some (fileIn ["p"])) := by
  have grounded : entered.tree.Grounded := by decide +kernel
  have named : entered.tree.Named := by decide +kernel
  have proper : (Path.ofString "d").Proper := Path.proper_ofString _
  have leads : entered.view.node? true (Path.ofString "d") = some (["p", "sub"], .folder) := by
    rfl
  obtain ⟨found, real⟩ := find_nearest (some (Path.ofString "d")) entered
  have start := real grounded named proper _ leads
  have origin_ : origin (some (Path.ofString "d")) entered = Path.ofString "d" := rfl
  rw [origin_] at found start
  rw [start] at found
  obtain ⟨place, same, ends, -⟩ := found
  obtain rfl : ["p", "sub"] = place := congrArg Path.names same
  refine ⟨grounded, named, proper, leads, start, (ends _).mpr ?_⟩
  have reached : Reached searchLimit ["p", "sub"] 1 := ⟨by decide, by decide⟩
  refine .first reached (fun fewer hf => ?_) (.file ⟨["p", "bracefence.yml"], [], rfl⟩)
  obtain rfl : fewer = 0 := Nat.lt_one_iff.mp hf
  exact ⟨(fun ⟨_, _, h⟩ => nomatch h), rfl⟩

/-- A link to a name that is too long makes its own path too long to be asked for. -/
theorem isOverlong_of_link {name : String} (stands : s.tree.Stands place)
    (short : (Utf8.encode (fileIn place).toString.toList).length < pathLimit)
    (linked : s.tree.node? (place ++ [fileName]) = some (.link name))
    (slash : '/' ∉ name.toList) (long : nameLimit < (Utf8.encode name.toList).length) :
    s.view.isOverlong (fileIn place) = true := by
  have other {m : String} (hm : (Utf8.encode m.toList).length ≤ nameLimit) : name ≠ m := by
    rintro rfl
    exact absurd long (Nat.not_lt.mpr hm)
  have proper : IsName name := ⟨other (by decide), other (by decide), slash⟩
  have notUp : name ≠ ".." := other (by decide)
  have clear : s.tree.hindrance s.here (fileIn place) = none :=
    Tree.hindrance_eq_none.mpr ⟨short, rfl⟩
  have names : Tree.rawNames name = [name] := by
    have alone : (⟨.relative, [name]⟩ : Path).Proper := List.forall_mem_singleton.mpr proper
    simpa [Path.toString, PathRoot.text] using Path.rawNames_toString alone
  have fileProper : (fileIn place).Proper := stands.proper.child fileName_entry.name
  have step := fileName_step
  refine isOverlong_iff.mpr ⟨noNul_fileIn stands, ?_⟩
  rw [Tree.resolve_path fileProper, clear]
  refine (stands.walk true Tree.linkLimit [fileName]).trans ?_
  rw [Tree.linkLimit, Tree.walk, Tree.walkNames, if_neg step.1, if_neg step.2.1,
    if_neg (Nat.not_lt.mpr step.2.2)]
  dsimp only
  rw [linked]
  dsimp only
  rw [names, Tree.walk]
  simp only [List.isEmpty_nil, Bool.not_true, Bool.and_false, Bool.false_eq_true, if_false,
    List.cons_append, List.nil_append, Tree.walkNames, proper.2.1, notUp, long, if_true]

/-- A name with one octet more than names can have. -/
def longName : String := String.ofList (List.replicate (nameLimit + 1) 'a')

/-- A project with a folder that holds a link of the name in question to such a name. -/
def mislinked : Session where
  tree := ⟨[(["p"], .folder), (["p", "bracefence.yml"], .file []), (["p", "d"], .folder),
    (["p", "d", "bracefence.yml"], .link longName)]⟩
  here := ["p"]
  programs := fun v _ _ => (.missing, v.tree)
  clock := ⟨"", ""⟩

/-- The link leads to nothing, yet the search ends there, and the configuration one step up is
not found. -/
theorem dangling_link_ends_search :
    outcome (realPath (Path.ofString "d")) mislinked = .ok (pathOfPlace ["p", "d"]) ∧
      ¬ HasFile mislinked (candidate ["p", "d"] 0) ∧ HasFile mislinked (candidate ["p", "d"] 1) ∧
      outcome (find (some (Path.ofString "d"))) mislinked =
        .error (.file ⟨.nameTooLong, "/p/d/bracefence.yml"⟩) := by
  have stands : mislinked.tree.Stands ["p", "d"] := by decide +kernel
  have long : mislinked.view.isOverlong (candidate ["p", "d"] 0) = true := by
    refine isOverlong_of_link stands (by decide +kernel) rfl ?_ ?_
    · rw [longName, String.toList_ofList]
      exact fun h => absurd (List.eq_of_mem_replicate h) (by decide)
    · have octet : (Utf8.encodeChar 'a').length = 1 := rfl
      simp [longName, Utf8.encode, List.length_flatMap, octet]
  have real : outcome (realPath (Path.ofString "d")) mislinked = .ok (pathOfPlace ["p", "d"]) :=
    ok_of_toOption (by decide +kernel)
  have failed : outcome (find (some (Path.ofString "d"))) mislinked =
      .error (.file ⟨.nameTooLong, (candidate ["p", "d"] 0).toString⟩) := by
    rw [outcome_find, origin, Option.getD_some, real]
    refine outcome_searchFrom_iff.mpr (.first ⟨by decide, by decide⟩ ?_ (.overlong long))
    exact fun _ h => absurd h (Nat.not_lt_zero _)
  exact ⟨real, not_hasFile_of_isOverlong long, ⟨["p", "bracefence.yml"], [], rfl⟩, failed⟩

end DocBraces.Config
