import DocBraces.Proofs.Config.Checking
import DocBraces.Proofs.Config.Search
import DocBraces.Proofs.Docs.Pages
import DocBraces.Proofs.Docs.Staging

/-!
# Two folders that are apart

The check compares the paths of the folder of the copies and of the docs folder name by name.
Paths that go down from the project's root, with no links below it, lead to two places then.
Where there are no links at all, the two places are those that the paths spell, so that one
folder can still be spelled in two ways.
-/

set_option autoImplicit false

namespace DocBraces.Docs

open DocBraces.Files DocBraces.Session

variable {s : Session} {st : Settings} {root p : Path} {top q : Place}

/-- The place that a path stands for once its dots, its root and the links on its way are
resolved. -/
def realOf (s : Session) (p : Path) : Place := s.tree.realPlace (p.start s.here) p.names

def Unlinked (s : Session) (p : Path) : Prop :=
  ∀ q ∈ Tree.placesDown (p.start s.here) p.names, ∀ target, s.tree.node? q ≠ some (.link target)

theorem Unlinked.realOf (h : Unlinked s p) : realOf s p = p.place s.here :=
  Tree.realPlace_spelled h

/-- A folder that a path leads to is at the place that the path stands for. -/
theorem realOf_of_folder (grounded : s.tree.Grounded) (proper : p.Proper)
    (h : s.view.node? true p = some (q, .folder)) : realOf s p = q := by
  obtain ⟨unhindered, leads⟩ := (Tree.resolve_ok proper).mp (View.node?_some.mp h).2
  exact leads.realPlace grounded (Tree.hindrance_eq_none.mp unhindered).2

theorem viewed_of_folderAt (proper : p.Proper) (h : s.folderAt p = some q) :
    s.view.node? true p = some (q, .folder) := by
  obtain ⟨noNul, hr⟩ := target_ok.mp (folderAt_iff.mp h)
  obtain ⟨unhindered, leads⟩ := (Tree.resolve_ok proper).mp hr
  exact View.node?_some.mpr
    ⟨noNul, (Tree.resolve_ok proper).mpr ⟨unhindered, leads.followed⟩⟩

/-- A path goes down from a place, and past no link. -/
structure Descends (t : Tree) (top : Place) (p : Path) : Prop where
  relative : p.root = .relative
  down : ".." ∉ p.names
  unlinked : ∀ ms, ms ≠ [] → ms <+: p.names → ∀ target, t.node? (top ++ ms) ≠ some (.link target)

theorem Descends.realOf (stands : s.tree.Stands top) (descends : Descends s.tree top p)
    (proper : p.Proper) : realOf s ((pathOfPlace top).join p) = top ++ p.names := by
  have step : ∀ n ∈ p.names, n ≠ "." ∧ n ≠ ".." :=
    fun n hn => ⟨(proper n hn).2.1, fun he => descends.down (he ▸ hn)⟩
  have above : ∀ n ∈ top, n ≠ "." ∧ n ≠ ".." :=
    fun n hn => ⟨(stands.step hn).1, (stands.step hn).2.1⟩
  have way : ((pathOfPlace top).join p).names = top ++ p.names :=
    Path.join_names_of_relative _ _ descends.relative
  have start : ((pathOfPlace top).join p).start s.here = [] := by
    unfold Path.join
    rw [if_pos descends.relative]
    rfl
  have unlinked : Unlinked s ((pathOfPlace top).join p) := by
    intro q hq target hl
    rw [start, way, Tree.placesDown_append, Tree.plainNames_down [] above, List.nil_append] at hq
    obtain hq | hq := List.mem_append.mp hq
    · obtain ⟨ms, -, hms, hq⟩ := (Tree.mem_placesDown [] above).mp hq
      rw [hq, List.nil_append, stands.folders ms hms] at hl
      cases hl
    · obtain ⟨ms, hne, hms, rfl⟩ := (Tree.mem_placesDown top step).mp hq
      exact descends.unlinked ms hne hms target hl
  rw [unlinked.realOf, Path.place, start, way, Tree.plainNames_append,
    Tree.plainNames_down [] above, List.nil_append, Tree.plainNames_down top step]

/-- Cleaning takes a folder away only with a docs folder at its place or above. -/
theorem clean_spares (there : s.tree.node? q = some .folder) :
    (after (clean root st) s).tree.node? q = some .folder ∨
      ∃ place, s.folderAt (docsPath root st) = some place ∧ place <+: q := by
  have logs (r : Log.Record) (s' : Session) (h : s'.tree.node? q = some .folder) :
      (s'.record r).tree.node? q = some .folder :=
    (record_alike s' r).of_not_file h fun _ => nofun
  by_cases under : ∃ place, s.folderAt (docsPath root st) = some place ∧ place <+: q
  · exact .inr under
  · left
    have removed : (after (removeTree (docsPath root st)) s).tree.node? q = some .folder := by
      cases hp : s.folderAt (docsPath root st) with
      | none => rwa [removeTree_of_none hp]
      | some place =>
        rw [removeTree_elsewhere hp fun hq => under ⟨place, hp, hq⟩]
        exact there
    unfold clean
    dsimp only
    rw [after_bind, isFolder_looks]
    cases outcome (isFolder (root.join (Path.ofString st.docsDir))) s with
    | error f => exact there
    | ok found =>
      cases found with
      | false => exact logs _ s there
      | true =>
        have tail : ∀ _ : Unit, Keeps (fun s' => s'.tree.node? q = some .folder) (do
            stagingLog Log.infoLevel s!"Removed {(docsPath root st).toString}"
            return true) := fun _ => .bind (fun s' => logs _ s') fun _ => .pure _
        exact Keeps.after_bind tail removed

theorem restoreNext_docsDir {page : Path} {result r : PagesResult}
    (h : outcome (restoreNext result page) s = .ok r) : r.docsDir = result.docsDir := by
  rw [outcome_restoreNext] at h
  split at h
  · exact Except.ok.inj h ▸ rfl
  · exact Except.ok.inj h ▸ rfl
  · exact Except.ok.inj h ▸ rfl
  · cases h

theorem restoreAll_docsDir {pages : List Path} {result r : PagesResult}
    (h : outcome (restoreAll pages result) s = .ok r) : r.docsDir = result.docsDir := by
  induction pages generalizing result s with
  | nil => exact Except.ok.inj h ▸ rfl
  | cons page pages ih =>
    rw [outcome_restoreAll_cons] at h
    cases hn : outcome (restoreNext result page) s with
    | ok next =>
      rw [hn] at h
      exact (ih h).trans (restoreNext_docsDir hn)
    | error f =>
      rw [hn] at h
      cases f with
      | file fault => exact Except.ok.inj h ▸ rfl
      | _ => cases h

def Yields {α : Type} (P : α → Prop) (act : Run α) : Prop :=
  ∀ s a, outcome act s = .ok a → P a

theorem Yields.pure {α : Type} {P : α → Prop} {a : α} (h : P a) : Yields P (pure a) :=
  fun _ _ ho => Except.ok.inj ho ▸ h

theorem Yields.bind {α β : Type} {P : α → Prop} {Q : β → Prop} {act : Run α} {f : α → Run β}
    (h : Yields P act) (hf : ∀ a, P a → Yields Q (f a)) : Yields Q (act >>= f) := by
  intro s b ho
  obtain ⟨a, ha, hb, -⟩ := ok_of_bind ho
  exact hf a (h s a ha) _ b hb

theorem Yields.any {α : Type} (act : Run α) : Yields (fun _ => True) act := fun _ _ _ => trivial

/-- What postprocessing takes for the docs folder is where the docs path leads. -/
theorem postprocess_docsDir (root : Path) (st : Settings) :
    Yields (fun r => ∀ p ∈ r.docsDir, p = docsPath root st) (postprocess root st) := by
  unfold postprocess
  split
  · exact .pure nofun
  · refine .bind (.any _) fun there _ => ?_
    cases there with
    | false => exact .bind (.any _) fun _ _ => .pure nofun
    | true =>
      rw [if_pos rfl]
      refine .bind (.any _) fun s _ => ?_
      have told {act : Run PagesResult} {note : PagesResult → Run Unit}
          (h : ∀ s r, outcome act s = .ok r → r.docsDir = some (docsPath root st)) :
          Yields (fun r => ∀ p ∈ r.docsDir, p = docsPath root st) (do
            let r ← act
            note r
            return r) :=
        .bind h fun r hr => .bind (.any _) fun _ _ => .pure fun p hp =>
          (Option.some.inj (hr.symm.trans hp)).symm
      dsimp only
      split
      · exact told fun _ _ ho => restoreAll_docsDir ho
      · refine told fun s r ho => ?_
        rw [outcome_stopAt] at ho
        exact Except.ok.inj ho ▸ rfl
      · exact told fun _ _ => nofun

theorem projectRoot_ok {file : Option Path} (h : outcome (Config.projectRoot file) s = .ok root) :
    ∃ top, root = pathOfPlace top := by
  cases file with
  | none => exact ⟨s.here, (Except.ok.inj h).symm⟩
  | some p => exact Config.realPath_ok h

/-- Settings that pass the check name two paths. Where no link is on their ways, these stand for
one place just when they spell one. Where both go down from the project's root, past no link,
they stand for two: cleaning takes the folder of the copies away only with a docs folder above
it, and postprocessing takes another folder for the docs. -/
theorem checked_folders_apart {file : Option Path} {e : Environment} {r : Config.CheckResult}
    (checked : outcome (Config.check file e) s = .ok r) (valid : r.valid = true)
    (settings : r.settings = some st) (derived : outcome (Config.projectRoot r.file) s = .ok root) :
    Path.ofString st.stagingDir ≠ Path.ofString st.docsDir ∧
    (∀ s' : Session, Unlinked s' (stagingPath root st) → Unlinked s' (docsPath root st) →
      (realOf s' (stagingPath root st) = realOf s' (docsPath root st) ↔
        (stagingPath root st).place s'.here = (docsPath root st).place s'.here)) ∧
    ∃ top, root = pathOfPlace top ∧ ∀ s' : Session, s'.tree.Grounded → s'.tree.Stands top →
      Descends s'.tree top (Path.ofString st.stagingDir) →
      Descends s'.tree top (Path.ofString st.docsDir) →
        realOf s' (stagingPath root st) ≠ realOf s' (docsPath root st) ∧
        ∀ q, s'.view.node? true (stagingPath root st) = some (q, .folder) →
          s'.view.node? true (docsPath root st) ≠ some (q, .folder) ∧
          (∀ pages p, outcome (postprocess root st) s' = .ok pages → pages.docsDir = some p →
            s'.view.node? true p ≠ some (q, .folder)) ∧
          ((after (clean root st) s').tree.node? q = some .folder ∨
            ∃ place, s'.folderAt (docsPath root st) = some place ∧ place <+: q ∧ place ≠ q) := by
  have differ : Path.ofString st.stagingDir ≠ Path.ofString st.docsDir := by
    obtain ⟨none_, -⟩ | ⟨loaded, -, some_, judged⟩ := Config.check_ok checked
    · rw [none_] at settings
      cases settings
    · obtain rfl : loaded = st := Option.some.inj (some_.symm.trans settings)
      exact (Config.settingsErrors_isEmpty_iff.mp (judged.symm.trans valid)).1
  obtain ⟨top, rfl⟩ := projectRoot_ok derived
  refine ⟨differ, fun s' free free' => by rw [free.realOf, free'.realOf], top, rfl, ?_⟩
  intro s' grounded stands staging docs
  have apart : realOf s' (stagingPath (pathOfPlace top) st) ≠
      realOf s' (docsPath (pathOfPlace top) st) := by
    rw [stagingPath, docsPath, staging.realOf stands (Path.proper_ofString _),
      docs.realOf stands (Path.proper_ofString _)]
    intro same
    refine differ ?_
    have names := List.append_cancel_left same
    have roots := staging.relative.trans docs.relative.symm
    generalize Path.ofString st.stagingDir = a at names roots ⊢
    generalize Path.ofString st.docsDir = b at names roots ⊢
    obtain ⟨_, _⟩ := a
    obtain ⟨_, _⟩ := b
    obtain rfl : _ = _ := names
    obtain rfl : _ = _ := roots
    rfl
  have proper (text : String) : ((pathOfPlace top).join (Path.ofString text)).Proper :=
    Path.Proper.join stands.proper (Path.proper_ofString text)
  refine ⟨apart, fun q leads => ?_⟩
  have here := realOf_of_folder grounded (proper _) leads
  have other : s'.view.node? true (docsPath (pathOfPlace top) st) ≠ some (q, .folder) :=
    fun there => apart (here.trans (realOf_of_folder grounded (proper _) there).symm)
  refine ⟨other, fun pages p ho hp => postprocess_docsDir _ _ _ _ ho p hp ▸ other, ?_⟩
  have folder : s'.tree.node? q = some .folder :=
    (Tree.resolve_iff.mp (View.node?_some.mp leads).2).2.2.2.holds
  refine (clean_spares folder).imp_right ?_
  rintro ⟨place, at_, above⟩
  refine ⟨place, at_, above, ?_⟩
  rintro rfl
  exact other (viewed_of_folderAt (proper _) at_)

/-- A project with a folder for the copies and a docs folder. -/
def pairedProject (config : String) : Session where
  tree := ⟨[(["p"], .folder), (["p", "bracefence.yml"], .file (Text.Utf8.encode config.toList)),
    (["p", "tmp"], .folder), (["p", "tmp", "bracefence"], .folder), (["p", "docs"], .folder)]⟩
  here := ["p"]
  programs := fun v _ _ => (.missing, v.tree)
  clock := ⟨"", ""⟩

/-- The default layout keeps the two folders apart. -/
theorem default_folders_apart : ∃ r, outcome (Config.check none []) (pairedProject "") = .ok r ∧
    r.valid = true ∧ r.settings = some {} ∧
    outcome (Config.projectRoot r.file) (pairedProject "") = .ok smallRoot ∧
    (pairedProject "").tree.Grounded ∧ (pairedProject "").tree.Stands ["p"] ∧
    realOf (pairedProject "") (stagingPath smallRoot {}) ≠
      realOf (pairedProject "") (docsPath smallRoot {}) ∧
    (after (clean smallRoot {}) (pairedProject "")).tree.node? ["p", "tmp", "bracefence"] =
      some .folder := by
  have checked : ((outcome (Config.check none []) (pairedProject "")).toOption.map
      fun r => (r.valid, r.settings, r.file)) =
        some (true, some {}, some (Config.fileIn ["p"])) := by decide +kernel
  obtain ⟨r, hr, parts⟩ := Option.map_eq_some_iff.mp checked
  obtain ⟨valid, settings, file⟩ : r.valid = true ∧ r.settings = some {} ∧
      r.file = some (Config.fileIn ["p"]) := by simpa using parts
  have ok := ok_of_toOption hr
  have derived : outcome (Config.projectRoot r.file) (pairedProject "") = .ok smallRoot := by
    rw [file]
    exact ok_of_toOption (by decide +kernel)
  have grounded : (pairedProject "").tree.Grounded := by decide +kernel
  have stands : (pairedProject "").tree.Stands ["p"] := by decide +kernel
  have descends {text : String} (relative : (Path.ofString text).root = .relative)
      (down : ".." ∉ (Path.ofString text).names) :
      Descends (pairedProject "").tree ["p"] (Path.ofString text) :=
    ⟨relative, down, fun _ _ _ => (by decide +kernel : (pairedProject "").tree.LinkFree) _⟩
  obtain ⟨-, -, top, same, both⟩ := checked_folders_apart ok valid settings derived
  obtain rfl : ["p"] = top := congrArg Path.names same
  obtain ⟨apart, spared⟩ := both _ grounded stands (descends (by decide) (by decide +kernel))
    (descends (by decide) (by decide +kernel))
  obtain ⟨-, -, still | ⟨place, at_, above, -⟩⟩ :=
    spared ["p", "tmp", "bracefence"] (by decide +kernel)
  · exact ⟨r, ok, valid, settings, derived, grounded, stands, apart, still⟩
  · have docs : (pairedProject "").folderAt (docsPath smallRoot {}) = some ["p", "docs"] := by
      decide +kernel
    obtain rfl := Option.some.inj (docs.symm.trans at_)
    exact absurd above (by decide)

/-- A detour spells the docs folder in another way: the settings pass the check, and cleaning
takes the folder of the copies away. -/
theorem detour_passes_check :
    ((outcome (Config.check none []) (pairedProject "staging_dir: docs/../docs\n")).toOption.map
        fun r => (r.valid, r.settings, r.file)) =
      some (true, some { stagingDir := "docs/../docs" }, some (Config.fileIn ["p"])) ∧
    outcome (Config.projectRoot (some (Config.fileIn ["p"])))
        (pairedProject "staging_dir: docs/../docs\n") = .ok smallRoot ∧
    realOf (pairedProject "staging_dir: docs/../docs\n")
        (stagingPath smallRoot { stagingDir := "docs/../docs" }) =
      realOf (pairedProject "staging_dir: docs/../docs\n")
        (docsPath smallRoot { stagingDir := "docs/../docs" }) ∧
    (pairedProject "staging_dir: docs/../docs\n").view.isFolder
        (stagingPath smallRoot { stagingDir := "docs/../docs" }) = true ∧
    (after (clean smallRoot { stagingDir := "docs/../docs" })
        (pairedProject "staging_dir: docs/../docs\n")).view.isFolder
        (stagingPath smallRoot { stagingDir := "docs/../docs" }) = false := by
  refine ⟨?_, ok_of_toOption ?_, ?_, ?_, ?_⟩ <;> decide +kernel

end DocBraces.Docs
