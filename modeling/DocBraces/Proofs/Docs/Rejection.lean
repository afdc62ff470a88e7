import DocBraces.Proofs.Docs.Staging

/-!
# Rejected patterns

A text that is no pattern is noticed only when candidates are looked for. By then the docs
folder has gone, if that was wanted, and the folder of the copies has been made; but no
file has been written.
-/

set_option autoImplicit false

namespace DocBraces.Docs

open DocBraces.Files DocBraces.Session

variable {s s' : Session} {root : Path} {st : Settings} {cleaning : Option Bool}
  {f : Glob.PatternFault}

def Unpatterned (f : Failure) : Prop := ∀ g, f ≠ .pattern g

theorem target_unpatterned (follow : Bool) (path : String) :
    Fails Unpatterned (target follow path) := by
  unfold target
  split
  · exact .throw nofun
  · refine .get_bind fun s => ?_
    split
    · exact .pure _
    · exact .throw nofun

theorem isFolder_unpatterned (p : Path) : Fails Unpatterned (isFolder p) := by
  refine .bind ((node?_fails _).imp ?_) fun n => ?_
  · rintro _ rfl
    nofun
  · split <;> exact .pure _

theorem unpatterned_of_path {f : Failure} (h : f.OfPath) : Unpatterned f := by
  obtain ⟨_, rfl⟩ | rfl | ⟨_, rfl⟩ := h <;> nofun

theorem makeFolder_unpatterned (p : Path) : Fails Unpatterned (makeFolder p) :=
  .bind (target_unpatterned _ _) fun t => by
    split
    · exact .get_bind fun s => .modify _
    · exact .throw nofun

theorem unlessFolder_unpatterned (p : Path) (fault : Files.Fault) :
    Fails Unpatterned (unlessFolder p (.file fault)) :=
  .bind (isFolder_unpatterned p) fun there => by
    cases there
    · exact .throw nofun
    · exact .pure _

theorem makePath_unpatterned (p : Path) : Fails Unpatterned (makePath p) := by
  unfold makePath
  generalize p.names.length + 1 = depth
  induction depth generalizing p with
  | zero => exact .pure _
  | succ depth ih =>
    refine .tryCatch (makeFolder_unpatterned p) fun f hf => ?_
    split
    · split
      · exact .throw nofun
      · refine .bind (ih p.parent) fun _ => .tryCatch (makeFolder_unpatterned p) fun f hf => ?_
        split
        · exact .throw nofun
        · exact unlessFolder_unpatterned _ _
        · exact .throw hf
    · exact unlessFolder_unpatterned _ _
    · exact .throw hf

theorem dropFolder_unpatterned (p : Path) : Fails Unpatterned (dropFolder p) := by
  unfold dropFolder
  split
  · exact .throw nofun
  · refine .bind (target_unpatterned _ _) fun t => ?_
    split
    · split
      · exact .throw nofun
      · exact .get_bind fun s => .modify _
    · exact .throw nofun

theorem removeTree_unpatterned (p : Path) : Fails Unpatterned (removeTree p) := by
  refine .bind (target_unpatterned _ _) fun t => ?_
  split
  · exact .get_bind fun s => .bind (.modify _) fun _ => .bind (.modify _) fun _ =>
      dropFolder_unpatterned p
  · exact .throw nofun
  · exact .throw nofun
  · exact .throw nofun

theorem stagingLog_unpatterned (level : Nat) (message : String) :
    Fails Unpatterned (stagingLog level message) := .modify _

theorem cleanIfWanted_unpatterned (root : Path) (st : Settings) (cleaning : Option Bool) :
    Fails Unpatterned (cleanIfWanted root st cleaning) := by
  unfold cleanIfWanted clean
  split
  · refine .bind (isFolder_unpatterned _) fun there => ?_
    split
    · exact .bind (removeTree_unpatterned _) fun _ => .bind (stagingLog_unpatterned _ _)
        fun _ => .pure _
    · exact .bind (stagingLog_unpatterned _ _) fun _ => .pure _
  · exact .pure _

theorem codecOf_unpatterned (st : Settings) : Fails Unpatterned (codecOf st) := by
  unfold codecOf
  split
  · exact .pure _
  · exact .throw nofun

theorem stageOne_unpatterned (k : Codec) (out : Path) (result : StagingResult) (source : Path) :
    Fails Unpatterned (stageOne k out result source) := by
  unfold stageOne sanitize
  refine .bind ((isFile_fails _).imp ?_) fun there => ?_
  · rintro _ rfl
    nofun
  · split
    · refine .bind ((readBytes_ofPath _).imp fun _ => unpatterned_of_path) fun bytes => ?_
      split
      · exact .bind (stagingLog_unpatterned _ _) fun _ => .pure _
      · have written := (writeBytes_ofPath (out.child source.baseName) · |>.imp
          fun _ => unpatterned_of_path)
        refine .bind ?_ fun text => .bind (written _) fun _ =>
          .bind (stagingLog_unpatterned _ _) fun _ => .pure _
        split
        · exact .bind (.modify _) fun _ => .pure _
        · exact .pure _
    · exact .bind (stagingLog_unpatterned _ _) fun _ => .pure _

theorem select_rejects {pattern : String} :
    outcome (select root pattern) s = .error (.pattern f) ↔
      Glob.Pattern.ofString pattern = .error f := by
  unfold select
  split
  · next g hg =>
    rw [hg]
    constructor
    · intro h
      cases h
      rfl
    · intro h
      cases h
      rfl
  · next pat hp =>
    rw [hp, outcome_get_bind]
    refine iff_of_false ?_ nofun
    split
    · nofun
    · next g _ => cases g <;> nofun

/-- The first text among patterns that is none, and why. What is before it has been looked
for. -/
def FirstRejected (root : Path) (s : Session) (patterns : List String)
    (f : Glob.PatternFault) : Prop :=
  ∃ earlier pattern later, patterns = earlier ++ pattern :: later ∧
    (∀ p ∈ earlier, ∃ found, outcome (select root p) s = .ok found) ∧
    Glob.Pattern.ofString pattern = .error f

theorem candidates_reject {patterns : List String} :
    outcome (candidates root patterns) s = .error (.pattern f) ↔
      FirstRejected root s patterns f := by
  have rejected : outcome (candidates root patterns) s = .error (.pattern f) ↔
      (patterns.mapM fun pattern => outcome (select root pattern) s) = .error (.pattern f) := by
    rw [outcome_candidates]
    cases patterns.mapM fun pattern => outcome (select root pattern) s with
    | error g => simp [Except.map]
    | ok found => simp [Except.map]
  rw [rejected, mapM_error_iff]
  simp only [select_rejects, FirstRejected]

def looking (root : Path) (st : Settings) (cleaning : Option Bool) (s : Session) : Session :=
  after (makePath (stagingPath root st)) (after (cleanIfWanted root st cleaning) s)

structure AllReady (root : Path) (st : Settings) (cleaning : Option Bool) (s : Session) :
    Prop where
  enabled : st.disabled = false
  cleaned : ∃ gone, outcome (cleanIfWanted root st cleaning) s = .ok gone
  codec : ∃ k, st.codec = .ok k
  made : outcome (makePath (stagingPath root st)) (after (cleanIfWanted root st cleaning) s) =
    .ok ()

theorem readied_rejects (hd : st.disabled = false) :
    outcome (readied root st cleaning) s = .error (.pattern f) ↔
      AllReady root st cleaning s ∧
        FirstRejected root (looking root st cleaning s) st.patterns f := by
  have patterned : ¬ Unpatterned (.pattern f) := fun h => h f rfl
  have looks : ∀ s, after (codecOf st) s = s := codecOf_looks st
  have last : outcome (candidates root st.patterns) (looking root st cleaning s) =
      .error (.pattern f) ↔ FirstRejected root (looking root st cleaning s) st.patterns f :=
    candidates_reject
  unfold readied
  rw [show root.join (Path.ofString st.stagingDir) = stagingPath root st from rfl,
    (cleanIfWanted_unpatterned root st cleaning).bind_error patterned]
  simp only [(codecOf_unpatterned st).bind_error patterned,
    (makePath_unpatterned _).bind_error patterned, looks]
  rw [← last]
  constructor
  · rintro ⟨gone, hg, k, hk, _, hm, h⟩
    refine ⟨⟨hd, ⟨gone, hg⟩, ⟨k, codecOf_ok hk⟩, hm⟩, ?_⟩
    rw [outcome_bind] at h
    split at h
    · cases h
    · next e he => exact he.trans (congrArg _ (Except.error.inj h))
  · rintro ⟨⟨_, ⟨gone, hg⟩, ⟨k, hk⟩, hm⟩, hr⟩
    refine ⟨gone, hg, k, codecOf_of_ok hk _, (), hm, ?_⟩
    unfold looking at hr
    rw [outcome_bind, hr]

theorem AllReady.after_readied (ready : AllReady root st cleaning s) :
    after (readied root st cleaning) s = looking root st cleaning s := by
  obtain ⟨gone, hg⟩ := ready.cleaned
  obtain ⟨k, hk⟩ := ready.codec
  have hm := ready.made
  unfold readied
  rw [show root.join (Path.ofString st.stagingDir) = stagingPath root st from rfl,
    (bind_of_ok hg _).2, (bind_of_ok (codecOf_of_ok hk _) _).2, codecOf_looks,
    (bind_of_ok hm _).2]
  exact (candidates_looks root st.patterns).bind (fun _ => .pure _) _

/-- Preparing the docs fails at a pattern just when all has gone well until candidates are
looked for, and that is how far it comes. -/
theorem prepare_rejects_iff :
    outcome (prepare root st cleaning) s = .error (.pattern f) ↔
      AllReady root st cleaning s ∧
        FirstRejected root (looking root st cleaning s) st.patterns f := by
  cases hd : st.disabled with
  | true =>
    refine iff_of_false ?_ fun h => ?_
    · rw [prepare, stage, hd]
      rintro ⟨⟩
    · have := h.1.enabled
      rw [hd] at this
      cases this
  | false =>
    rw [← readied_rejects hd, prepare_eq root cleaning hd, outcome_bind]
    have patterned : ¬ Unpatterned (.pattern f) := fun h => h f rfl
    cases hr : outcome (readied root st cleaning) s with
    | error g => simp
    | ok found =>
      refine iff_of_false (fun h => ?_) (by simp)
      have spared : Fails Unpatterned (do
          let out := root.join (Path.ofString st.stagingDir)
          let result ← found.2.2.foldlM (stageOne found.2.1 out) { stagingDir := some out }
          stagingLog Log.infoLevel
            s!"Staged {result.written.length} file(s) into {out.toString}"
          return { result with docsCleaned := found.1 }) :=
        .bind (.foldlM (stageOne_unpatterned _ _) _ _) fun _ =>
          .bind (stagingLog_unpatterned _ _) fun _ => .pure _
      exact patterned (spared _ _ h)

theorem after_prepare_rejected (h : outcome (prepare root st cleaning) s = .error (.pattern f)) :
    after (prepare root st cleaning) s = looking root st cleaning s := by
  obtain ⟨ready, rejected⟩ := prepare_rejects_iff.mp h
  have hr := (readied_rejects ready.enabled).mpr ⟨ready, rejected⟩
  rw [prepare_eq root cleaning ready.enabled, after_bind, hr]
  exact ready.after_readied

theorem cleanIfWanted_ok (hd : st.disabled = false) {gone : Bool}
    (h : outcome (cleanIfWanted root st cleaning) s = .ok gone) :
    removedFolder root st cleaning s = none ∧
        Logged s (after (cleanIfWanted root st cleaning) s) ∨
      ∃ place s₁, removedFolder root st cleaning s = some place ∧ Removed place s s₁ ∧
        Logged s₁ (after (cleanIfWanted root st cleaning) s) := by
  unfold cleanIfWanted removedFolder at *
  rw [hd, Bool.false_or]
  cases hw : cleaning.getD st.cleanDocs with
  | false => exact .inl ⟨rfl, .refl s⟩
  | true =>
    rw [hw] at h
    simp only [Bool.not_true, Bool.false_eq_true, if_false, if_true] at h ⊢
    have cleaning := clean_ok rfl h
    generalize after (clean root st) s = s' at cleaning ⊢
    cases cleaning with
    | kept hf hl =>
      refine .inl ⟨?_, hl⟩
      cases hp : s.folderAt (root.join (Path.ofString st.docsDir)) with
      | none => rfl
      | some place =>
        rw [viewed_isFolder.mpr (isFolder_of_folderAt hp)] at hf
        cases hf
    | gone hp removed hl => exact .inr ⟨_, _, hp, removed, hl⟩

/-- A session is as it was but for what has been logged. -/
structure Unaltered (s s' : Session) : Prop where
  alike : Tree.Alike s.tree s'.tree
  nodes : ∀ q, s.logFile ≠ some q → s'.tree.node? q = s.tree.node? q

theorem unaltered_of_logged (h : Logged s s') : Unaltered s s' := ⟨h.alike, fun _ hl => h.node? hl⟩

/-- A folder that is to be removed holds something that is no folder. -/
def HoldsPages (root : Path) (st : Settings) (cleaning : Option Bool) (s : Session) : Prop :=
  ∀ place ∈ removedFolder root st cleaning s, ∃ q n, place <+: q ∧
    s.tree.node? q = some n ∧ n ≠ .folder

/-- What a rejected pattern leaves behind. No file is written, but the folder of the copies
is there, and the docs folder is gone if it was to be removed. -/
structure Rejected (root : Path) (st : Settings) (cleaning : Option Bool)
    (f : Glob.PatternFault) (s s' : Session) : Prop where
  first : FirstRejected root s' st.patterns f
  files : ∀ q, s.logFile ≠ some q → s'.tree.fileAt q =
    bytesWithout q (removedFolder root st cleaning s) (s.tree.fileAt q)
  elsewhere : ∀ q, s.logFile ≠ some q →
    (∀ place ∈ removedFolder root st cleaning s, ¬ place <+: q) →
    s'.tree.node? q = s.tree.node? q ∨
      s.tree.node? q = none ∧ s'.tree.node? q = some .folder
  below : ∀ place ∈ removedFolder root st cleaning s, ∀ q, place <+: q →
    s'.tree.node? q = none ∨ s'.tree.node? q = some .folder
  staging : s'.view.isFolder (stagingPath root st) = true
  unaltered : HoldsPages root st cleaning s → (Unaltered s s' ↔
    removedFolder root st cleaning s = none ∧ s.view.isFolder (stagingPath root st) = true)

section
variable (ready : AllReady root st cleaning s)
include ready

theorem AllReady.files {q : Place} (unlogged : s.logFile ≠ some q) :
    (looking root st cleaning s).tree.fileAt q =
      bytesWithout q (removedFolder root st cleaning s) (s.tree.fileAt q) := by
  have holding := readied_holding root cleaning ready.enabled
    (⟨rfl, unlogged⟩ : Holding q (s.tree.fileAt q) s)
  rw [ready.after_readied] at holding
  exact holding.fileAt

theorem AllReady.elsewhere {q : Place} (unlogged : s.logFile ≠ some q)
    (apart : ∀ place ∈ removedFolder root st cleaning s, ¬ place <+: q) :
    (looking root st cleaning s).tree.node? q = s.tree.node? q ∨
      s.tree.node? q = none ∧ (looking root st cleaning s).tree.node? q = some .folder := by
  obtain ⟨gone, hg⟩ := ready.cleaned
  have same : (after (cleanIfWanted root st cleaning) s).tree.node? q = s.tree.node? q := by
    obtain ⟨_, hl⟩ | ⟨place, s₁, hp, removed, hl⟩ := cleanIfWanted_ok ready.enabled hg
    · exact hl.node? unlogged
    · rw [hl.node? fun h => unlogged (removed.logFile q h), removed.gone,
        if_neg (apart place hp)]
  rw [← same]
  exact (makePath_grown _ _).nodes q

theorem AllReady.below {place : Place} (hp : removedFolder root st cleaning s = some place)
    {q : Place} (hq : place <+: q) :
    (looking root st cleaning s).tree.node? q = none ∨
      (looking root st cleaning s).tree.node? q = some .folder := by
  obtain ⟨gone, hg⟩ := ready.cleaned
  have none_ : (after (cleanIfWanted root st cleaning) s).tree.node? q = none := by
    obtain ⟨hn, _⟩ | ⟨place', s₁, hp', removed, hl⟩ := cleanIfWanted_ok ready.enabled hg
    · rw [hn] at hp
      cases hp
    · obtain rfl : place = place' := Option.some.inj (hp.symm.trans hp')
      exact hl.alike.of_not_file (by rw [removed.gone, if_pos hq]) fun _ => nofun
  obtain h | ⟨_, h⟩ := (makePath_grown (stagingPath root st) _).nodes q
  · exact .inl (h.trans none_)
  · exact .inr h

theorem AllReady.unaltered_iff (pages : HoldsPages root st cleaning s) :
    Unaltered s (looking root st cleaning s) ↔
      removedFolder root st cleaning s = none ∧
        s.view.isFolder (stagingPath root st) = true := by
  obtain ⟨gone, hg⟩ := ready.cleaned
  have grown := makePath_grown (stagingPath root st) (after (cleanIfWanted root st cleaning) s)
  obtain ⟨hn, hl⟩ | ⟨place, s₁, hp, removed, hl⟩ := cleanIfWanted_ok ready.enabled hg
  · refine ⟨fun h => ⟨hn, ?_⟩, fun ⟨_, h⟩ => ?_⟩
    · have here : s.here = (looking root st cleaning s).here := (grown.here.trans hl.here).symm
      exact isFolder_alike h.alike.symm here (makePath_leads ready.made)
    · have there := isFolder_alike hl.alike hl.here h
      rw [looking, makePath_stays there]
      exact unaltered_of_logged hl
  · refine iff_of_false (fun h => ?_) fun h => ?_
    · obtain ⟨q, n, hq, hn, notFolder⟩ := pages place hp
      have left : (looking root st cleaning s).tree.node? q ≠ none ∧
          (looking root st cleaning s).tree.node? q ≠ some .folder := by
        obtain same | ⟨_, _, _, file⟩ := h.alike q
        · rw [← same, hn]
          exact ⟨nofun, fun he => notFolder (Option.some.inj he)⟩
        · rw [file]
          exact ⟨nofun, nofun⟩
      exact (ready.below hp hq).elim left.1 left.2
    · rw [hp] at h
      cases h.1

end

/-- Patterns are looked at after everything else: where one is rejected, the docs folder
has been removed and the folder of the copies made as if there were nothing wrong with the
settings. -/
theorem prepare_rejects (h : outcome (prepare root st cleaning) s = .error (.pattern f)) :
    Rejected root st cleaning f s (after (prepare root st cleaning) s) := by
  obtain ⟨ready, first⟩ := prepare_rejects_iff.mp h
  rw [after_prepare_rejected h]
  exact {
    first := first
    files := fun _ => ready.files
    elsewhere := fun _ => ready.elsewhere
    below := fun _ hp _ => ready.below hp
    staging := makePath_leads ready.made
    unaltered := ready.unaltered_iff }

/-- A project with a page and a text, and settings with a text that is no pattern. -/
def pageProject : Session where
  tree := ⟨[(["p"], .folder), (["p", "docs"], .folder), (["p", "docs", "x.html"], .file [120]),
    (["p", "a.md"], .file (Text.Utf8.encode "\x7ba\x7d".toList)),
    (["p", "bracefence.yml"], .file (Text.Utf8.encode "patterns: ['']\n".toList))]⟩
  here := ["p"]
  programs := fun v _ _ => (.missing, v.tree)
  clock := ⟨"", ""⟩

def emptyPattern : Settings := { patterns := [""] }

theorem pageProject_rejected : outcome (prepare smallRoot emptyPattern (some true)) pageProject =
    .error (.pattern .empty) := by
  refine prepare_rejects_iff.mpr ⟨⟨rfl, ⟨true, ?_⟩, ⟨.default, rfl⟩, ?_⟩, [], "", [], rfl, nofun, ?_⟩
  · exact ok_of_toOption (by decide +kernel)
  · exact ok_of_toOption (by decide +kernel)
  · rfl

theorem prepare_rejects_empty :
    outcome (prepare smallRoot emptyPattern (some true)) pageProject =
        .error (.pattern .empty) ∧
      Rejected smallRoot emptyPattern (some true) .empty pageProject
        (after (prepare smallRoot emptyPattern (some true)) pageProject) :=
  ⟨pageProject_rejected, prepare_rejects pageProject_rejected⟩

/-- Settings pass the check, and yet they are at fault only after the pages are gone. -/
theorem checked_pattern_costs_pages :
    ((outcome (Config.check none []) pageProject).toOption.map
        fun r => (r.valid, r.settings)) = some (true, some emptyPattern) ∧
      outcome (prepare smallRoot emptyPattern (some true)) pageProject =
        .error (.pattern .empty) ∧
      pageProject.tree.node? ["p", "docs", "x.html"] = some (.file [120]) ∧
      pageProject.tree.node? ["p", "tmp"] = none ∧
      (after (prepare smallRoot emptyPattern (some true)) pageProject).tree.node?
        ["p", "docs", "x.html"] = none ∧
      (after (prepare smallRoot emptyPattern (some true)) pageProject).tree.node?
        ["p", "tmp", "bracefence"] = some .folder := by
  refine ⟨by decide +kernel, pageProject_rejected, ?_, ?_, ?_, ?_⟩ <;> decide +kernel

end DocBraces.Docs
