import DocBraces.Proofs.Docs.Candidates
import DocBraces.Proofs.Docs.Pages
import DocBraces.Proofs.Session.Moving

/-!
# Docs of a project that is elsewhere

What is done for a project starts from its root. If the root is given from the top, the
current folder has no part in it.
-/

set_option autoImplicit false

namespace DocBraces.Docs

open DocBraces.Files DocBraces.Session

variable {root p : Path} {k : Codec} {st : Settings}

theorem stagingLog_placeless (level : Nat) (message : String) :
    Placeless (stagingLog level message) := log_placeless _ _ _

theorem pagesLog_placeless (level : Nat) (message : String) :
    Placeless (pagesLog level message) := log_placeless _ _ _

theorem find_moved (h : p.root ≠ .relative) (s : Session) (place : Place) (pat : Glob.Pattern) :
    Glob.find (s.moved place).view (s.moved place).levels p pat =
      Glob.find s.view s.levels p pat := Glob.find_rooted h _ pat

theorem select_placeless (h : root.root ≠ .relative) (pattern : String) :
    Placeless (select root pattern) := by
  unfold select
  split
  · exact .throw _
  · refine .get_bind (fun s place => ?_) fun s => ?_
    · rw [find_moved h]
    · split
      · exact .pure _
      · exact .throw _

theorem candidates_placeless (h : root.root ≠ .relative) (patterns : List String) :
    Placeless (candidates root patterns) :=
  .bind (.mapM (select_placeless h) patterns) fun _ => .pure _

theorem candidates_root {s : Session} {patterns : List String} {ps : List Path}
    (h : outcome (candidates root patterns) s = .ok ps) : ∀ p ∈ ps, p.root = root.root := by
  obtain ⟨found, hf, rfl⟩ := candidates_ok h
  intro p hp
  obtain ⟨pattern, _, qs, hs, hm⟩ := (mem_flatten_of_mapM hf).mp (Path.mem_sort.mp hp)
  exact select_root hs p hm

theorem codecOf_placeless (st : Settings) : Placeless (codecOf st) := by
  unfold codecOf
  split
  · exact .pure _
  · exact .throw _

theorem sanitize_placeless (k : Codec) (text : List Char) : Placeless (sanitize k text) := by
  unfold sanitize
  split
  · exact .bind (log_placeless _ _ _) fun _ => .pure _
  · exact .pure _

theorem stageOne_placeless {out source : Path} (ho : out.root ≠ .relative)
    (h : source.root ≠ .relative) (result : StagingResult) :
    Placeless (stageOne k out result source) := by
  unfold stageOne
  refine .bind (isFile_placeless h) fun there => ?_
  cases there with
  | false => exact .bind (stagingLog_placeless _ _) fun _ => .pure _
  | true =>
    refine .bind (readBytes_placeless h) fun bytes => ?_
    split
    · exact .bind (stagingLog_placeless _ _) fun _ => .pure _
    · have copy : (out.child source.baseName).root ≠ .relative := ho
      exact .bind (sanitize_placeless _ _) fun _ => .bind (writeBytes_placeless copy _) fun _ =>
        .bind (stagingLog_placeless _ _) fun _ => .pure _

theorem stage_placeless (h : root.root ≠ .relative) (st : Settings) :
    Placeless (stage root st) := by
  have out := Path.join_rooted h (Path.ofString st.stagingDir)
  unfold stage
  split
  · exact .bind (stagingLog_placeless _ _) fun _ => .pure _
  · refine .bind (codecOf_placeless st) fun k => .bind (makePath_placeless out) fun _ => ?_
    refine .bind_of_ok (candidates_placeless h _) fun s sources hs => ?_
    refine .bind (.foldlM (fun source hm result => ?_) _) fun _ =>
      .bind (stagingLog_placeless _ _) fun _ => .pure _
    exact stageOne_placeless out (candidates_root hs source hm ▸ h) result

theorem clean_placeless (h : root.root ≠ .relative) (st : Settings) :
    Placeless (clean root st) := by
  have docs := Path.join_rooted h (Path.ofString st.docsDir)
  unfold clean
  refine .bind (isFolder_placeless docs) fun there => ?_
  cases there with
  | false => exact .bind (stagingLog_placeless _ _) fun _ => .pure _
  | true =>
    exact .bind (removeTree_placeless docs) fun _ => .bind (stagingLog_placeless _ _) fun _ =>
      .pure _

theorem prepare_placeless (h : root.root ≠ .relative) (st : Settings) (cleaning : Option Bool) :
    Placeless (prepare root st cleaning) := by
  have staged := stage_placeless h st
  unfold prepare
  split
  · exact staged
  · dsimp only
    split
    · exact .bind (clean_placeless h st) fun _ => .bind staged fun _ => .pure _
    · exact .bind (.pure _) fun _ => .bind staged fun _ => .pure _

theorem restorePage_placeless (h : p.root ≠ .relative) : Placeless (restorePage p) := by
  unfold restorePage
  refine .bind (isFile_placeless h) fun there => ?_
  cases there with
  | false => exact .pure _
  | true =>
    refine .bind (readBytes_placeless h) fun bytes => ?_
    split
    · exact .throw _
    · dsimp only
      split
      · exact .pure _
      · exact .bind (writeBytes_placeless h _) fun _ => .pure _

theorem restoreNext_placeless (h : p.root ≠ .relative) (result : PagesResult) :
    Placeless (restoreNext result p) := by
  intro place s
  obtain ⟨same, left⟩ := restorePage_placeless h place s
  constructor
  · rw [outcome_restoreNext, outcome_restoreNext, same]
  · rw [after_restoreNext, after_restoreNext, same, left]
    split
    · exact record_moved _ _ _
    · rfl

theorem stopAt_placeless (result : PagesResult) (f : Files.Fault) :
    Placeless (stopAt result f) := .bind (pagesLog_placeless _ _) fun _ => .pure _

theorem restoreAll_placeless {pages : List Path} (h : ∀ p ∈ pages, p.root ≠ .relative)
    (result : PagesResult) : Placeless (restoreAll pages result) := by
  induction pages generalizing result with
  | nil => exact .pure _
  | cons p ps ih =>
    obtain ⟨first, others⟩ := List.forall_mem_cons.mp h
    rw [restoreAll]
    refine .bind (.tryCatch (.map (restoreNext_placeless first _) _) fun e => ?_) fun next => ?_
    · split
      · exact .pure _
      · exact .throw _
    · split
      · exact ih others _
      · exact stopAt_placeless _ _

theorem postprocess_placeless (h : root.root ≠ .relative) (st : Settings) :
    Placeless (postprocess root st) := by
  have docs := Path.join_rooted h (Path.ofString st.docsDir)
  unfold postprocess
  split
  · exact .pure _
  · refine .bind (isFolder_placeless docs) fun there => ?_
    cases there with
    | false => exact .bind (pagesLog_placeless _ _) fun _ => .pure _
    | true =>
      refine .get_bind (fun s place => ?_) fun s => ?_
      · rw [find_moved docs]
      · split
        · next ps hf =>
          have roots : ∀ p ∈ Path.sort ps, p.root ≠ .relative := fun p hp =>
            Glob.find_root _ _ _ _ ps hf p (Path.mem_sort.mp hp) ▸ docs
          exact .bind (restoreAll_placeless roots _) fun _ => .bind (pagesLog_placeless _ _)
            fun _ => .pure _
        · exact .bind (stopAt_placeless _ _) fun _ => .bind (pagesLog_placeless _ _)
            fun _ => .pure _
        · exact .bind (.throw _) fun _ => .bind (pagesLog_placeless _ _) fun _ => .pure _

end DocBraces.Docs
