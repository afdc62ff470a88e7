import DocBraces.Config.Check
import DocBraces.Proofs.Docs.Copies

/-! What becomes of a file when the docs are prepared. It can go with the docs folder
that is removed, and each copy that is staged can land on it; nothing else touches it.
Settings that pass the check promise neither. -/

set_option autoImplicit false

namespace DocBraces.Docs

open DocBraces.Files DocBraces.Session

variable {q : Place} {v : Option (List UInt8)} {s : Session}

def cleanIfWanted (root : Path) (st : Settings) (cleaning : Option Bool) : Run Bool :=
  if cleaning.getD st.cleanDocs then clean root st else pure false

/-- What is done before anything is copied: the docs folder may go, and the folder of the
copies is made. -/
def readied (root : Path) (st : Settings) (cleaning : Option Bool) :
    Run (Bool × Codec × List Path) := do
  let docsCleaned ← cleanIfWanted root st cleaning
  let k ← codecOf st
  makePath (root.join (Path.ofString st.stagingDir))
  return (docsCleaned, k, ← candidates root st.patterns)

/-- All copies that are made while the docs are prepared. -/
def copies (root : Path) (st : Settings) (cleaning : Option Bool) (s : Session) : List Copy :=
  if st.disabled then []
  else
    let out := root.join (Path.ofString st.stagingDir)
    match outcome (readied root st cleaning) s with
    | .ok (_, k, sources) =>
      copiesFrom k out { stagingDir := some out } (after (readied root st cleaning) s) sources
    | .error _ => []

/-- The docs folder, if it is there and is to be removed. -/
def removedFolder (root : Path) (st : Settings) (cleaning : Option Bool) (s : Session) :
    Option Place :=
  if st.disabled || !cleaning.getD st.cleanDocs then none
  else s.folderAt (root.join (Path.ofString st.docsDir))

/-- What a place holds once a folder has been removed. -/
def bytesWithout (q : Place) (folder : Option Place) (v : Option (List UInt8)) :
    Option (List UInt8) :=
  match folder with
  | some place => if place <+: q then none else v
  | none => v

theorem stagingLog_keeps (level : Nat) (message : String) :
    Keeps (Holding q v) (stagingLog level message) := log_keeps _ _ _

theorem clean_holding (root : Path) (st : Settings) (h : Holding q v s) :
    Holding q (bytesWithout q (s.folderAt (root.join (Path.ofString st.docsDir))) v)
      (after (clean root st) s) := by
  unfold clean
  dsimp only
  generalize root.join (Path.ofString st.docsDir) = docs
  have tail (w : Option (List UInt8)) : ∀ _ : Unit, Keeps (Holding q w) (do
      stagingLog Log.infoLevel s!"Removed {docs.toString}"
      return true) := fun _ => .bind (stagingLog_keeps _ _) fun _ => .pure _
  rw [after_bind, isFolder_looks]
  cases hp : s.folderAt docs with
  | some place =>
    rw [isFolder_of_folderAt hp]
    exact Keeps.after_bind (tail _) (h.removeTree hp)
  | none =>
    cases outcome (isFolder docs) s with
    | error f => exact h
    | ok there =>
      cases there with
      | false => exact h.record _
      | true =>
        refine Keeps.after_bind (tail _) ?_
        rw [removeTree_of_none hp]
        exact h

theorem codecOf_composes {Q : ∀ {α : Type}, Run α → Prop} (h : Composes Q)
    (fails : ∀ f, Q (throw f : Run Codec)) (st : Settings) : Q (codecOf st) := by
  unfold codecOf
  split
  · exact h.pure _
  · exact fails _

theorem codecOf_looks (st : Settings) : Looks (codecOf st) :=
  codecOf_composes Looks.composes .throw st

theorem select_looks (root : Path) (pattern : String) : Looks (select root pattern) := by
  unfold select
  split
  · exact .throw _
  · refine .bind .get fun s => ?_
    split
    · exact .pure _
    · exact .throw _

theorem candidates_looks (root : Path) (patterns : List String) :
    Looks (candidates root patterns) :=
  .bind (Looks.composes.mapM (select_looks root) patterns) fun _ => .pure _

theorem readied_holding (root : Path) {st : Settings} (cleaning : Option Bool)
    (hd : st.disabled = false) (h : Holding q v s) :
    Holding q (bytesWithout q (removedFolder root st cleaning s) v)
      (after (readied root st cleaning) s) := by
  unfold readied
  refine Keeps.after_bind (fun _ => .bind ((codecOf_looks st).keeps _) fun _ =>
    .bind (makePath_keeps _) fun _ => .bind ((candidates_looks _ _).keeps _) fun _ => .pure _) ?_
  unfold removedFolder cleanIfWanted
  rw [hd, Bool.false_or]
  cases cleaning.getD st.cleanDocs with
  | false =>
    rw [if_neg Bool.false_ne_true, Bool.not_false, if_pos rfl]
    exact h
  | true =>
    rw [if_pos rfl, Bool.not_true, if_neg Bool.false_ne_true]
    exact clean_holding root st h

theorem prepare_eq (root : Path) {st : Settings} (cleaning : Option Bool)
    (hd : st.disabled = false) : prepare root st cleaning = do
      let (docsCleaned, k, sources) ← readied root st cleaning
      let out := root.join (Path.ofString st.stagingDir)
      let result ← sources.foldlM (stageOne k out) { stagingDir := some out }
      stagingLog Log.infoLevel s!"Staged {result.written.length} file(s) into {out.toString}"
      return { result with docsCleaned } := by
  cases hc : cleaning.getD st.cleanDocs <;>
    simp [prepare, stage, readied, cleanIfWanted, hd, hc]

theorem prepare_holding (root : Path) (st : Settings) (cleaning : Option Bool)
    (h : Holding q v s) :
    Holding q (bytesAfter q (copies root st cleaning s)
      (bytesWithout q (removedFolder root st cleaning s) v))
      (after (prepare root st cleaning) s) := by
  cases hd : st.disabled with
  | true =>
    simp only [copies, removedFolder, hd, prepare, stage]
    exact h.record _
  | false =>
    have ready := readied_holding root cleaning hd h
    rw [prepare_eq root cleaning hd, after_bind]
    simp only [copies, hd]
    cases ho : outcome (readied root st cleaning) s with
    | error f => exact ready
    | ok found =>
      exact Keeps.after_bind (fun _ => .bind (stagingLog_keeps _ _) fun _ => .pure _)
        (stageAll_holding _ _ _ _ ready)

/-- A file outlasts the preparation of the docs just when the last copy that lands on it
holds the same, or else none does and the removed docs folder is not above it. -/
theorem prepare_keeps_iff (root : Path) (st : Settings) (cleaning : Option Bool)
    {bs : List UInt8} (source : s.tree.node? q = some (.file bs))
    (unlogged : s.logFile ≠ some q) :
    (after (prepare root st cleaning) s).tree.node? q = some (.file bs) ↔
      match lastAt q (copies root st cleaning s) with
      | some copy => copy.bytes = bs
      | none => ∀ place ∈ removedFolder root st cleaning s, ¬ place <+: q := by
  have h := prepare_holding root st cleaning
    (⟨Tree.fileAt_eq_some.mpr source, unlogged⟩ : Holding q (some bs) s)
  rw [← Tree.fileAt_eq_some, h.fileAt, bytesAfter]
  cases lastAt q (copies root st cleaning s) with
  | some copy => simp
  | none =>
    unfold bytesWithout
    cases removedFolder root st cleaning s with
    | none => simp
    | some place => by_cases hp : place <+: q <;> simp [hp]

/-- Files are safe where the removed folder is not above them and no candidate's copy
leads to them by the time copying begins. -/
theorem prepare_keeps_apart (root : Path) (st : Settings) (cleaning : Option Bool)
    {bs : List UInt8} (source : s.tree.node? q = some (.file bs))
    (unlogged : s.logFile ≠ some q)
    (below : ∀ place ∈ removedFolder root st cleaning s, ¬ place <+: q)
    (apart : ∀ found, outcome (readied root st cleaning) s = .ok found →
      ∀ candidate ∈ found.2.2, (after (readied root st cleaning) s).landing
        ((root.join (Path.ofString st.stagingDir)).child candidate.baseName) ≠ some q) :
    (after (prepare root st cleaning) s).tree.node? q = some (.file bs) := by
  rw [prepare_keeps_iff root st cleaning source unlogged]
  have elsewhere : ∀ copy ∈ copies root st cleaning s, copy.place ≠ q := by
    unfold copies
    split
    · simp
    · dsimp only
      split
      · next found ho => exact copies_elsewhere _ _ _ _ (apart _ ho)
      · simp
  rw [lastAt_eq_none elsewhere]
  exact below

def smallRoot : Path := ⟨.absolute, ["p"]⟩

def smallProject (config : String) : Session where
  tree := ⟨[(["p"], .folder), (["p", "a.md"], .file (Text.Utf8.encode "\x7ba\x7d".toList)),
    (["p", "bracefence.yml"], .file (Text.Utf8.encode config.toList))]⟩
  here := ["p"]
  programs := fun v _ _ => (.missing, v.tree)
  clock := ⟨"", ""⟩

/-- The default layout keeps the source, and staging into the project's own folder does
not. -/
theorem prepare_keeps_iff_small :
    (smallProject "").tree.node? ["p", "a.md"] =
        some (.file (Text.Utf8.encode "\x7ba\x7d".toList)) ∧
      (smallProject "").logFile ≠ some ["p", "a.md"] ∧
      (after (prepare smallRoot {} (some true)) (smallProject "")).tree.node? ["p", "a.md"] =
        some (.file (Text.Utf8.encode "\x7ba\x7d".toList)) ∧
      (after (prepare smallRoot { stagingDir := "." } none)
        (smallProject "")).tree.node? ["p", "a.md"] ≠
        some (.file (Text.Utf8.encode "\x7ba\x7d".toList)) := by
  have there : (smallProject "").tree.node? ["p", "a.md"] =
      some (.file (Text.Utf8.encode "\x7ba\x7d".toList)) := by decide +kernel
  have unlogged : (smallProject "").logFile ≠ some ["p", "a.md"] := nofun
  refine ⟨there, unlogged, ?_, ?_⟩
  · have none_ : lastAt ["p", "a.md"] (copies smallRoot {} (some true) (smallProject "")) =
        none := by decide +kernel
    have stays : removedFolder smallRoot {} (some true) (smallProject "") = none := by
      decide +kernel
    rw [prepare_keeps_iff smallRoot {} (some true) there unlogged, none_, stays]
    nofun
  · have lands : lastAt ["p", "a.md"]
        (copies smallRoot { stagingDir := "." } none (smallProject "")) =
          some ⟨["p", "a.md"], Text.Utf8.encode "｛a｝".toList⟩ := by decide +kernel
    rw [Ne, prepare_keeps_iff smallRoot { stagingDir := "." } none there unlogged, lands]
    decide +kernel

/-- Settings pass the check and yet put the copy of a source in its place. -/
theorem checked_settings_lose_source :
    ((outcome (Config.check none []) (smallProject "staging_dir: .\n")).toOption.map
        fun r => (r.valid, r.settings)) = some (true, some { stagingDir := "." }) ∧
      (outcome (candidates smallRoot ({} : Settings).patterns)
        (smallProject "staging_dir: .\n")).toOption = some [smallRoot.child "a.md"] ∧
      (smallProject "staging_dir: .\n").tree.node? ["p", "a.md"] =
        some (.file (Text.Utf8.encode "\x7ba\x7d".toList)) ∧
      (after (prepare smallRoot { stagingDir := "." } none)
        (smallProject "staging_dir: .\n")).tree.node? ["p", "a.md"] =
        some (.file (Text.Utf8.encode "｛a｝".toList)) := by
  refine ⟨?_, ?_, ?_, ?_⟩ <;> decide +kernel

end DocBraces.Docs
