import DocBraces.Proofs.CommandLine.Filters
import DocBraces.Proofs.Docs.Pages
import DocBraces.Proofs.Docs.Staging

/-!
# Texts there and back

Under settings that have been loaded, a text is sanitized to the same bytes by staging and
by the command for single files, and these bytes are restored to the same bytes by the
post-processing of pages and by the command. They are those of the text itself unless it
had fullwidth braces before.
-/

set_option autoImplicit false

namespace DocBraces.Docs

open DocBraces.Files DocBraces.Session DocBraces.Text DocBraces.CommandLine

variable {s s₁ : Session} {k : Codec} {root out source : Path} {st : Settings}
  {cleaning : Option Bool} {later : List Path} {result r : StagingResult}
  {bytes : List UInt8} {text : List Char} {origin : Place}

/-- In a preparation of the docs it is the turn of a source, with others to come later. -/
inductive Turn (root : Path) (st : Settings) (cleaning : Option Bool) (s : Session) :
    Path → List Path → Session → Prop
  | mk {gone : Bool} {k : Codec} {earlier : List Path} {source : Path} {later : List Path}
      {result : StagingResult} :
      outcome (readied root st cleaning) s = .ok (gone, k, earlier ++ source :: later) →
      outcome (earlier.foldlM (stageOne k (stagingPath root st))
        { stagingDir := some (stagingPath root st) }) (after (readied root st cleaning) s) =
          .ok result →
      Turn root st cleaning s source later (after (earlier.foldlM
        (stageOne k (stagingPath root st)) { stagingDir := some (stagingPath root st) })
          (after (readied root st cleaning) s))

theorem codec_of_readied {gone : Bool} {sources : List Path}
    (h : outcome (readied root st cleaning) s = .ok (gone, k, sources)) : st.codec = .ok k := by
  unfold readied at h
  obtain ⟨_, _, h, _⟩ := ok_of_bind h
  obtain ⟨_, hk, h, _⟩ := ok_of_bind h
  obtain ⟨_, _, h, _⟩ := ok_of_bind h
  obtain ⟨_, _, h, _⟩ := ok_of_bind h
  rw [outcome_pure] at h
  cases h
  exact codecOf_ok hk

/-- What is left of a preparation when a source has its turn: this source, the later ones,
and a note. -/
theorem Turn.onward (turn : Turn root st cleaning s source later s₁)
    (enabled : st.disabled = false) (codec : st.codec = .ok k)
    (h : outcome (prepare root st cleaning) s = .ok r) :
    ∃ before mid last message,
      let copied := after (stageOne k (stagingPath root st) before source) s₁
      outcome (stageOne k (stagingPath root st) before source) s₁ = .ok mid ∧
        outcome (later.foldlM (stageOne k (stagingPath root st)) mid) copied = .ok last ∧
        r.written = last.written ∧
        after (prepare root st cleaning) s = after (stagingLog Log.infoLevel message)
          (after (later.foldlM (stageOne k (stagingPath root st)) mid) copied) := by
  dsimp only
  cases turn with
  | @mk gone k' earlier _ _ before hr he =>
    obtain rfl := Except.ok.inj ((codec_of_readied hr).symm.trans codec)
    rw [prepare_eq root cleaning enabled] at h ⊢
    rw [(bind_of_ok hr _).1] at h
    rw [(bind_of_ok hr _).2]
    dsimp only at h ⊢
    rw [show root.join (Path.ofString st.stagingDir) = stagingPath root st from rfl] at h ⊢
    generalize after (readied root st cleaning) s = ready at *
    obtain ⟨last, hall, h, ha⟩ := ok_of_bind h
    rw [ha]
    obtain ⟨_, _, h, ha⟩ := ok_of_bind h
    rw [ha, after_pure]
    rw [outcome_pure] at h
    obtain rfl := Except.ok.inj h
    rw [List.foldlM_append] at hall ⊢
    rw [(bind_of_ok he _).1, List.foldlM_cons] at hall
    rw [(bind_of_ok he _).2, List.foldlM_cons]
    obtain ⟨mid, hmid, hlater, hb⟩ := ok_of_bind hall
    rw [hb]
    exact ⟨before, mid, last, _, hmid, hlater, rfl, rfl⟩

end DocBraces.Docs
