import DocBraces.Docs.Staging
import DocBraces.Proofs.Session.Contents

/-! The copies that staging makes. One candidate is copied, skipped, or ends the staging,
and of all places only the one where its copy lands holds anything else afterwards. -/

set_option autoImplicit false

namespace DocBraces.Docs

open DocBraces.Files DocBraces.Session

/-- A copy as it is written: where it lands and what it holds. -/
structure Copy where
  place : Place
  bytes : List UInt8
  deriving DecidableEq

/-- The copy of a source that is a text, if there is a place for it. -/
def copyOf (k : Codec) (out : Path) (s : Session) (source : Path) : Option Copy :=
  match s.view.node? true source with
  | some (_, .file bytes) => match Text.Utf8.decode bytes with
    | .ok text => (s.landing (out.child source.baseName)).map
        (⟨·, Text.Utf8.encode (k.sanitize text)⟩)
    | .error _ => none
  | _ => none

def textOf (s : Session) (source : Path) : Option (List Char) :=
  match s.view.node? true source with
  | some (_, .file bytes) => (Text.Utf8.decode bytes).toOption
  | _ => none

theorem copyOf_eq (k : Codec) (out : Path) (s : Session) (source : Path) :
    copyOf k out s source = (textOf s source).bind fun text =>
      (s.landing (out.child source.baseName)).map (⟨·, Text.Utf8.encode (k.sanitize text)⟩) := by
  unfold copyOf textOf
  split
  · next place bytes _ =>
    cases Text.Utf8.decode bytes <;> rfl
  · rfl

theorem landing_of_copyOf {k : Codec} {out : Path} {s : Session} {source : Path} {copy : Copy}
    (h : copyOf k out s source = some copy) :
    s.landing (out.child source.baseName) = some copy.place := by
  unfold copyOf at h
  split at h
  · split at h
    · obtain ⟨place, hp, rfl⟩ := Option.map_eq_some_iff.mp h
      exact hp
    · cases h
  · cases h

inductive Staged (k : Codec) (out : Path) (result : StagingResult) (source : Path)
    (s : Session) : Except Failure StagingResult → Session → Prop
  | failed {f : Failure} {s' : Session} :
      Logged s s' → Staged k out result source s (.error f) s'
  | skipped {s' : Session} :
      textOf s source = none → Logged s s' →
        Staged k out result source s
          (.ok { result with skipped := result.skipped ++ [source.baseName] }) s'
  | copied {copy : Copy} {s₁ s' : Session} :
      copyOf k out s source = some copy → Logged s s₁ →
        Logged { s₁ with tree := s₁.tree.put copy.place (.file copy.bytes) } s' →
          Staged k out result source s
            (.ok { result with written := result.written ++ [out.child source.baseName] }) s'

theorem outcome_sanitize (k : Codec) (text : List Char) (s : Session) :
    outcome (sanitize k text) s = .ok (k.sanitize text) := by
  unfold sanitize
  split <;> rfl

theorem sanitize_logged (k : Codec) (text : List Char) (s : Session) :
    Logged s (after (sanitize k text) s) := by
  unfold sanitize
  split
  · exact .record s _
  · exact .refl s

theorem stageOne_staged (k : Codec) (out : Path) (result : StagingResult) (source : Path)
    (s : Session) :
    Staged k out result source s (outcome (stageOne k out result source) s)
      (after (stageOne k out result source) s) := by
  unfold stageOne
  rw [after_bind, outcome_bind, isFile_looks]
  cases hf : outcome (isFile source) s with
  | error f => exact .failed (.refl s)
  | ok there =>
    have hthere := isFile_ok hf
    cases there with
    | false =>
      refine .skipped ?_ (.record s _)
      unfold textOf
      split
      · next place bytes hv => exact absurd (hthere.mpr ⟨place, bytes, hv⟩) nofun
      · rfl
    | true =>
      dsimp only
      rw [if_pos rfl, after_bind, outcome_bind, readBytes_looks]
      cases hb : outcome (readBytes source) s with
      | error f => exact .failed (.refl s)
      | ok bytes =>
        obtain ⟨place, hv⟩ := readBytes_ok hb
        dsimp only
        cases hd : Text.Utf8.decode bytes with
        | error f => exact .skipped (by simp [textOf, hv, hd, Except.toOption]) (.record s _)
        | ok text =>
          have hs := sanitize_logged k text s
          dsimp only
          rw [after_bind, outcome_bind, outcome_sanitize]
          generalize after (sanitize k text) s = s₁ at hs ⊢
          have hw := outcome_writeBytes (out.child source.baseName)
            (Text.Utf8.encode (k.sanitize text)) s₁
          dsimp only [writeText]
          rw [after_bind, outcome_bind, after_writeBytes]
          cases hp : s₁.landing (out.child source.baseName) with
          | none =>
            rw [hp] at hw
            obtain ⟨f, hf⟩ := hw
            rw [hf]
            exact .failed hs
          | some at_ =>
            rw [hp] at hw
            have copied : copyOf k out s source =
                some ⟨at_, Text.Utf8.encode (k.sanitize text)⟩ := by
              simp [copyOf, hv, hd, ← hs.landing, hp]
            rw [hw]
            exact .copied copied hs (.record _ _)

def copyMade (k : Codec) (out : Path) (s : Session) (source : Path) :
    Except Failure StagingResult → List Copy
  | .ok _ => (copyOf k out s source).toList
  | .error _ => []

/-- The copies that staging makes of sources, in order, until it fails at one. -/
def copiesFrom (k : Codec) (out : Path) : StagingResult → Session → List Path → List Copy
  | _, _, [] => []
  | result, s, source :: rest =>
    match outcome (stageOne k out result source) s with
    | .ok result' => (copyOf k out s source).toList ++
        copiesFrom k out result' (after (stageOne k out result source) s) rest
    | .error _ => []

/-- The last of the copies that land at a place. -/
def lastAt (q : Place) (copies : List Copy) : Option Copy :=
  (copies.filter (·.place = q)).getLast?

def bytesAfter (q : Place) (copies : List Copy) (v : Option (List UInt8)) :
    Option (List UInt8) :=
  match lastAt q copies with
  | some copy => some copy.bytes
  | none => v

theorem lastAt_append (q : Place) (cs ds : List Copy) :
    lastAt q (cs ++ ds) = (lastAt q ds).or (lastAt q cs) := by
  rw [lastAt, List.filter_append, List.getLast?_append]
  rfl

theorem lastAt_eq_none {q : Place} {copies : List Copy} (h : ∀ c ∈ copies, c.place ≠ q) :
    lastAt q copies = none := by
  rw [lastAt, List.getLast?_eq_none_iff, List.filter_eq_nil_iff]
  simpa using h

theorem bytesAfter_append (q : Place) (cs ds : List Copy) (v : Option (List UInt8)) :
    bytesAfter q (cs ++ ds) v = bytesAfter q ds (bytesAfter q cs v) := by
  simp only [bytesAfter, lastAt_append]
  cases lastAt q ds <;> rfl

theorem bytesAfter_singleton (q : Place) (copy : Copy) (v : Option (List UInt8)) :
    bytesAfter q [copy] v = if q = copy.place then some copy.bytes else v := by
  by_cases h : copy.place = q
  · simp [bytesAfter, lastAt, h]
  · simp [bytesAfter, lastAt, h, Ne.symm h]

variable {q : Place} {v : Option (List UInt8)} {s : Session}

/-- One candidate changes a place by its copy only, if it is copied at all. -/
theorem Staged.holding {k : Codec} {out : Path} {result : StagingResult} {source : Path}
    {ending : Except Failure StagingResult} {s' : Session}
    (staged : Staged k out result source s ending s') (h : Holding q v s) :
    Holding q (bytesAfter q (copyMade k out s source ending) v) s' := by
  cases staged with
  | failed hl => exact hl.holding h
  | skipped hc hl =>
    rw [copyMade, copyOf_eq, hc]
    exact hl.holding h
  | @copied copy s₁ _ hc hl hl' =>
    have hp : s₁.landing (out.child source.baseName) = some copy.place :=
      (hl.landing _).trans (landing_of_copyOf hc)
    rw [copyMade, hc, Option.toList_some, bytesAfter_singleton]
    exact hl'.holding ((hl.holding h).put copy.bytes (landing_ne_nil hp))

theorem Staged.landing {k : Codec} {out : Path} {result : StagingResult} {source : Path}
    {ending : Except Failure StagingResult} {s' : Session}
    (staged : Staged k out result source s ending s')
    (hne : s.landing (out.child source.baseName) ≠ some q) {p : Path}
    (h : s'.landing p = some q) : s.landing p = some q := by
  cases staged with
  | failed hl => exact (hl.landing p).symm.trans h
  | skipped _ hl => exact (hl.landing p).symm.trans h
  | @copied copy s₁ _ hc hl hl' =>
    rw [hl'.landing] at h
    have hp := landing_of_copyOf hc
    have hq : q ≠ copy.place := fun hq => hne (hp.trans (congrArg some hq.symm))
    rw [← hl.landing] at hp ⊢
    exact landing_before_put (landing_ne_nil hp) hq h

theorem copies_elsewhere (k : Codec) (out : Path) (result : StagingResult)
    (sources : List Path)
    (apart : ∀ source ∈ sources, s.landing (out.child source.baseName) ≠ some q) :
    ∀ copy ∈ copiesFrom k out result s sources, copy.place ≠ q := by
  induction sources generalizing result s with
  | nil => simp [copiesFrom]
  | cons source rest ih =>
    obtain ⟨first, others⟩ := List.forall_mem_cons.mp apart
    have staged := stageOne_staged k out result source s
    rw [copiesFrom]
    cases ho : outcome (stageOne k out result source) s with
    | error f => simp
    | ok result' =>
      dsimp only
      intro copy hc
      obtain hc | hc := List.mem_append.mp hc
      · rintro rfl
        exact first (landing_of_copyOf (Option.mem_toList.mp hc))
      · exact ih result' (fun other ho h => others other ho (staged.landing first h)) copy hc

theorem stageAll_holding (k : Codec) (out : Path) (result : StagingResult) (sources : List Path)
    (h : Holding q v s) :
    Holding q (bytesAfter q (copiesFrom k out result s sources) v)
      (after (sources.foldlM (stageOne k out) result) s) := by
  induction sources generalizing result v s with
  | nil => exact h
  | cons source rest ih =>
    have one := (stageOne_staged k out result source s).holding h
    rw [List.foldlM_cons, after_bind, copiesFrom]
    cases ho : outcome (stageOne k out result source) s with
    | error f =>
      rw [ho] at one
      exact one
    | ok result' =>
      rw [ho] at one
      dsimp only
      rw [bytesAfter_append]
      exact ih result' one

end DocBraces.Docs
