import Mathlib.Data.List.Nodup
import DocBraces.Proofs.Docs.Staging
import DocBraces.Proofs.Text.Utf8

/-!
# What becomes of copies

Copies are named after their sources alone, and a pattern can reach below the root and
above it. Where two copies have one name, the later one replaces the earlier one, and both
are counted as written.
-/

set_option autoImplicit false

namespace DocBraces.Docs

open DocBraces.Files DocBraces.Session DocBraces.Text

variable {s s' : Session} {k : Codec} {root out : Path} {st : Settings} {q : Place}

/-- A source, where its file is and what it holds, and the place where its copy lands. -/
structure Writing where
  source : Path
  origin : Place
  text : List Char
  place : Place

def Writing.path (out : Path) (w : Writing) : Path := out.child w.source.baseName

def Writing.copy (k : Codec) (w : Writing) : Copy := ⟨w.place, Utf8.encode (k.sanitize w.text)⟩

def Writing.Readable (w : Writing) (s : Session) : Prop :=
  ∃ bytes, s.view.node? true w.source = some (w.origin, .file bytes) ∧
    Utf8.decode bytes = .ok w.text

/-- Sources are read and their copies are written, one after the other. Nothing else is
done but logging. -/
inductive Writes (k : Codec) (out : Path) : List Writing → Session → Session → Prop
  | done (s : Session) : Writes k out [] s s
  | logged {ws : List Writing} {s s₁ s' : Session} :
      Logged s s₁ → Writes k out ws s₁ s' → Writes k out ws s s'
  | write {w : Writing} {ws : List Writing} {s s₁ s' : Session} :
      w.Readable s → Logged s s₁ → s₁.landing (w.path out) = some w.place →
        Writes k out ws { s₁ with tree := s₁.tree.put w.place (.file (w.copy k).bytes) } s' →
          Writes k out (w :: ws) s s'

theorem writing_of_copyOf {source : Path} {copy : Copy}
    (h : copyOf k out s source = some copy) : ∃ w : Writing, w.source = source ∧
      w.Readable s ∧ s.landing (w.path out) = some w.place ∧ w.copy k = copy := by
  unfold copyOf at h
  split at h
  · next origin bytes hv =>
    split at h
    · next text hd =>
      obtain ⟨place, hp, rfl⟩ := Option.map_eq_some_iff.mp h
      exact ⟨⟨source, origin, text, place⟩, rfl, ⟨bytes, hv, hd⟩, hp, rfl⟩
    · cases h
  · cases h

theorem stageAll_writes {sources : List Path} {result r : StagingResult}
    (h : outcome (sources.foldlM (stageOne k out) result) s = .ok r) :
    ∃ ws : List Writing, Writes k out ws s (after (sources.foldlM (stageOne k out) result) s) ∧
      (ws.map Writing.source).Sublist sources ∧
      r.written = result.written ++ ws.map (Writing.path out) := by
  induction sources generalizing s result with
  | nil =>
    obtain rfl := Except.ok.inj h
    exact ⟨[], .done s, .slnil, by simp⟩
  | cons source rest ih =>
    rw [List.foldlM_cons] at h ⊢
    obtain ⟨r₁, h₁, h₂, ha⟩ := ok_of_bind h
    rw [ha]
    obtain ⟨ws, run, sub, written⟩ := ih h₂
    have staged := stageOne_staged k out result source s
    rw [h₁] at staged
    generalize after (stageOne k out result source) s = s₁ at staged run ⊢
    cases staged with
    | skipped _ hl => exact ⟨ws, .logged hl run, sub.cons source, written⟩
    | @copied copy s₀ _ hc hl hl' =>
      obtain ⟨w, rfl, read, lands, rfl⟩ := writing_of_copyOf hc
      refine ⟨w :: ws, .write read hl ?_ (.logged hl' run), sub.cons_cons w.source, ?_⟩
      · rw [hl.landing, lands]
      · rw [written, List.map_cons, List.append_assoc]
        rfl

theorem Writes.noted {ws : List Writing} {s'' : Session} (run : Writes k out ws s s')
    (hl : Logged s' s'') : Writes k out ws s s'' := by
  induction run with
  | done s => exact .logged hl (.done _)
  | logged h _ ih => exact .logged h (ih hl)
  | write read h lands _ ih => exact .write read h lands (ih hl)

theorem Writes.holding {ws : List Writing} {v : Option (List UInt8)}
    (run : Writes k out ws s s') (h : Holding q v s) :
    Holding q (bytesAfter q (ws.map (Writing.copy k)) v) s' := by
  induction run generalizing v with
  | done => exact h
  | logged hl _ ih => exact ih (hl.holding h)
  | @write w ws _ _ _ _ hl lands _ ih =>
    rw [List.map_cons, ← List.singleton_append, bytesAfter_append, bytesAfter_singleton]
    exact ih ((hl.holding h).put _ (landing_ne_nil lands))

theorem lastAt_of_mem {ws : List Writing} {w : Writing} (hw : w ∈ ws) :
    ∃ v ∈ ws, v.place = w.place ∧ lastAt w.place (ws.map (Writing.copy k)) = some (v.copy k) := by
  cases hl : lastAt w.place (ws.map (Writing.copy k)) with
  | none =>
    rw [lastAt, List.getLast?_eq_none_iff, List.filter_eq_nil_iff] at hl
    exact absurd (decide_eq_true (rfl : (w.copy k).place = w.place))
      (hl _ (List.mem_map_of_mem hw))
  | some copy =>
    have there := List.mem_of_getLast? hl
    rw [List.mem_filter, List.mem_map] at there
    obtain ⟨⟨v, hv, rfl⟩, hp⟩ := there
    exact ⟨v, hv, of_decide_eq_true hp, rfl⟩

theorem Writes.last {ws : List Writing} (run : Writes k out ws s s') {w : Writing} (hw : w ∈ ws)
    (unlogged : s.logFile ≠ some w.place) : ∃ v ∈ ws, v.place = w.place ∧
      lastAt w.place (ws.map (Writing.copy k)) = some (v.copy k) ∧
      s'.tree.node? w.place = some (.file (v.copy k).bytes) := by
  obtain ⟨v, hv, hp, hl⟩ := lastAt_of_mem (k := k) hw
  refine ⟨v, hv, hp, hl, Tree.fileAt_eq_some.mp ?_⟩
  have held := run.holding (⟨rfl, unlogged⟩ : Holding w.place (s.tree.fileAt w.place) s)
  rw [held.fileAt, bytesAfter, hl]

/-- All copies hold what their own sources do, sanitized, just when those that land at one
place come from texts that are sanitized alike. -/
theorem Writes.own_iff {ws : List Writing} (run : Writes k out ws s s')
    (unlogged : ∀ w ∈ ws, s.logFile ≠ some w.place) :
    (∀ w ∈ ws, s'.tree.node? w.place = some (.file (w.copy k).bytes)) ↔
      ∀ v ∈ ws, ∀ w ∈ ws, v.place = w.place → k.sanitize v.text = k.sanitize w.text := by
  constructor
  · intro own v hv w hw hp
    have both := own v hv
    rw [hp, own w hw] at both
    exact Utf8.encode_injective (Node.file.inj (Option.some.inj both)).symm
  · intro same w hw
    obtain ⟨v, hv, hp, _, held⟩ := run.last hw (unlogged w hw)
    rw [held, Writing.copy, same v hv w hw hp]
    rfl

/-- A source that no earlier copy has landed on is read as it was in the beginning. -/
theorem Writes.text {ws : List Writing} (run : Writes k out ws s s') {before later : List Writing}
    {w : Writing} (hws : ws = before ++ w :: later)
    (apart : ∀ v ∈ before, v.place ≠ w.origin) (unlogged : s.logFile ≠ some w.origin) :
    ∃ bytes, s.tree.node? w.origin = some (.file bytes) ∧ Utf8.decode bytes = .ok w.text := by
  induction run generalizing before with
  | done => simp at hws
  | logged hl _ ih =>
    obtain ⟨bytes, hn, hd⟩ := ih hws apart (hl.logFile ▸ unlogged)
    exact ⟨bytes, hl.node? unlogged ▸ hn, hd⟩
  | write read hl _ _ ih =>
    cases before with
    | nil =>
      obtain ⟨rfl, _⟩ := List.cons.inj hws
      obtain ⟨bytes, hv, hd⟩ := read
      exact ⟨bytes, target_holds (viewed_iff.mp hv), hd⟩
    | cons v before =>
      obtain ⟨rfl, rest⟩ := List.cons.inj hws
      obtain ⟨first, others⟩ := List.forall_mem_cons.mp apart
      obtain ⟨bytes, hn, hd⟩ := ih rest others (hl.logFile ▸ unlogged)
      rw [Tree.node?_put_of_ne _ _ _ _ first.symm, hl.node? unlogged] at hn
      exact ⟨bytes, hn, hd⟩

theorem spot_of_landing (grounded : s.tree.Grounded) {p : Path} (h : s.landing p = some q) :
    s.tree.Spot q := by
  obtain ⟨t, ho, rfl, notFolder⟩ := landing_iff.mp h
  obtain ⟨_, hn, hr⟩ := opening_ok.mp ho
  obtain hf | spot | ⟨hl, _⟩ := Tree.resolve_grounded grounded hr
  · have there := target_holds (target_ok.mpr ⟨hn, hr⟩)
    cases t with
    | absent place =>
      have none_ : s.tree.node? place = none := there
      rw [Tree.Target.place, none_] at hf
      cases hf
    | present place n =>
      have some_ : s.tree.node? place = some n := there
      rw [Tree.Target.place, some_] at hf
      exact absurd (congrArg _ (Option.some.inj hf)) (notFolder place)
  · exact spot
  · cases hl

theorem landing_put {p : Path} {place : Place} (spot : s.tree.Spot place) (bytes : List UInt8)
    (h : s.landing p = some q) :
    landing { s with tree := s.tree.put place (.file bytes) } p = some q := by
  obtain ⟨t, ho, rfl, notFolder⟩ := landing_iff.mp h
  obtain ⟨hlock, hn, hr⟩ := opening_ok.mp ho
  refine landing_iff.mpr ⟨_, opening_ok.mpr ⟨hlock, hn, Tree.resolve_put_file spot hr⟩, ?_, ?_⟩
  · split
    · next hp => exact hp.symm
    · rfl
  · intro at_
    split
    · nofun
    · exact notFolder at_

theorem viewed_of_landing {p : Path} {n : Node} (h : s.landing p = some q)
    (hn : s.tree.node? q = some n) : s.view.node? true p = some (q, n) := by
  obtain ⟨t, ho, rfl, _⟩ := landing_iff.mp h
  have ht := target_ok.mpr (opening_ok.mp ho).2
  have there := target_holds ht
  cases t with
  | absent place =>
    have none_ : s.tree.node? place = none := there
    rw [Tree.Target.place, none_] at hn
    cases hn
  | present place m =>
    have some_ : s.tree.node? place = some m := there
    rw [Tree.Target.place, some_] at hn
    obtain rfl := Option.some.inj hn
    exact viewed_iff.mpr ht

theorem Writes.landing {ws : List Writing} (run : Writes k out ws s s')
    (grounded : s.tree.Grounded) {p : Path} (h : s.landing p = some q) :
    s'.landing p = some q := by
  induction run with
  | done => exact h
  | logged hl _ ih => exact ih (grounded.alike hl.alike) (by rw [hl.landing, h])
  | write _ hl lands _ ih =>
    have spot := spot_of_landing (grounded.alike hl.alike) lands
    exact ih ((grounded.alike hl.alike).put_file spot _)
      (landing_put spot _ (by rw [hl.landing, h]))

theorem Writes.lands {ws : List Writing} (run : Writes k out ws s s')
    (grounded : s.tree.Grounded) : ∀ w ∈ ws, s'.landing (w.path out) = some w.place := by
  induction run with
  | done => exact List.forall_mem_nil _
  | logged hl _ ih => exact ih (grounded.alike hl.alike)
  | write _ hl lands rest ih =>
    have spot := spot_of_landing (grounded.alike hl.alike) lands
    have grounded' := (grounded.alike hl.alike).put_file spot
    exact List.forall_mem_cons.mpr
      ⟨rest.landing (grounded' _) (landing_put spot _ lands), ih (grounded' _)⟩

theorem Writes.place {ws : List Writing} (run : Writes k out ws s s') (free : s.tree.LinkFree)
    (ho : out.Proper) (entries : ∀ w ∈ ws, IsEntry w.source.baseName) :
    ∀ w ∈ ws, w.place = out.place s.here ++ [w.source.baseName] := by
  induction run with
  | done => exact List.forall_mem_nil _
  | logged hl _ ih =>
    rw [← hl.here]
    exact ih (.alike hl.alike free) entries
  | write _ hl lands _ ih =>
    obtain ⟨first, others⟩ := List.forall_mem_cons.mp entries
    have free' := Tree.LinkFree.alike hl.alike free
    refine List.forall_mem_cons.mpr ⟨?_, ?_⟩
    · rw [← hl.here]
      exact (landing_child free' ho first lands).1
    · rw [← hl.here]
      exact ih (free'.put (landing_ne_nil lands) fun _ => nofun) others

theorem child_injective (p : Path) : Function.Injective p.child := by
  intro m n h
  have := congrArg Path.baseName h
  rwa [Path.baseName_child, Path.baseName_child] at this

theorem paths_nodup_iff (out : Path) (ws : List Writing) :
    (ws.map (Writing.path out)).Nodup ↔ (ws.map fun w => w.source.baseName).Nodup := by
  have : ws.map (Writing.path out) = (ws.map fun w => w.source.baseName).map out.child := by
    rw [List.map_map]
    rfl
  rw [this, List.nodup_map_iff (child_injective out)]

/-- A pattern of one component selects children of the root, by the names of its entries or
by its own. -/
theorem select_names {pattern : String} (flat : Flat pattern) {ps : List Path}
    (h : outcome (select root pattern) s = .ok ps) : ∀ p ∈ ps, ∃ n, p = root.child n ∧
      (n ∈ s.view.names root ∨ n = pattern ∧ IsName pattern) := by
  unfold select at h
  cases hpat : Glob.Pattern.ofString pattern with
  | error f =>
    rw [hpat] at h
    cases h
  | ok pat =>
    rw [hpat] at h
    obtain ⟨name, rfl⟩ := pattern_flat flat hpat
    dsimp only at h
    rw [outcome_get_bind] at h
    split at h
    · next found hf =>
      obtain rfl := Except.ok.inj h
      unfold Glob.find at hf
      split at hf
      · cases hf
      · next short =>
        split at hf
        · dsimp only at hf
          split at hf
          · rw [Glob.select_like, View.scan, if_neg short] at hf
            obtain rfl := Except.ok.inj hf
            intro p hp
            obtain ⟨n, hn, rfl⟩ := List.mem_map.mp hp
            exact ⟨n, rfl, .inl (List.mem_of_mem_filter hn)⟩
          · rw [Glob.select_exactly] at hf
            split at hf
            · cases hf
            · split at hf
              · obtain rfl := Except.ok.inj hf
                exact List.forall_mem_singleton.mpr ⟨pattern, rfl, .inr ⟨rfl, name⟩⟩
              · obtain rfl := Except.ok.inj hf
                exact List.forall_mem_nil _
        · obtain rfl := Except.ok.inj hf
          exact List.forall_mem_nil _
    · cases h

theorem select_child {pattern : String} (flat : Flat pattern) {ps : List Path}
    (h : outcome (select root pattern) s = .ok ps) : ∀ p ∈ ps, root.child p.baseName = p := by
  intro p hp
  obtain ⟨n, rfl, _⟩ := select_names flat h p hp
  rw [Path.baseName_child]

theorem candidates_children {patterns : List String}
    (flat : ∀ pattern ∈ patterns, Flat pattern) {sources : List Path}
    (h : outcome (candidates root patterns) s = .ok sources) :
    ∀ p ∈ sources, root.child p.baseName = p := by
  obtain ⟨found, hf, rfl⟩ := candidates_ok h
  intro p hp
  obtain ⟨pattern, hpat, ps, hs, hm⟩ := (mem_flatten_of_mapM hf).mp (Path.mem_sort.mp hp)
  exact select_child (flat pattern hpat) hs p hm

theorem candidates_nodup {patterns : List String} {sources : List Path}
    (h : outcome (candidates root patterns) s = .ok sources) : sources.Nodup := by
  obtain ⟨found, _, rfl⟩ := candidates_ok h
  exact Path.nodup_sort _

theorem names_nodup {sources : List Path} {ws : List Writing}
    (children : ∀ p ∈ sources, root.child p.baseName = p) (nodup : sources.Nodup)
    (inOrder : (ws.map Writing.source).Sublist sources) :
    (ws.map fun w => w.source.baseName).Nodup := by
  have once := nodup.sublist inOrder
  have same : (ws.map fun w => w.source.baseName).map root.child = ws.map Writing.source := by
    rw [List.map_map]
    refine List.map_congr_left fun w hw => ?_
    exact children _ (inOrder.subset (List.mem_map_of_mem hw))
  rw [← same] at once
  exact once.of_map _

theorem stage_ok (enabled : st.disabled = false) {r : StagingResult}
    (h : outcome (stage root st) s = .ok r) : ∃ k sources, st.codec = .ok k ∧
      let ready := after (makePath (stagingPath root st)) s
      let all := sources.foldlM (stageOne k (stagingPath root st))
        { stagingDir := some (stagingPath root st) }
      outcome (candidates root st.patterns) ready = .ok sources ∧ outcome all ready = .ok r ∧
        Logged (after all ready) (after (stage root st) s) := by
  unfold stage at h ⊢
  rw [enabled, if_neg Bool.false_ne_true] at h ⊢
  obtain ⟨k, hk, h, ha⟩ := ok_of_bind h
  rw [ha]
  rw [codecOf_looks] at h ⊢
  rw [show root.join (Path.ofString st.stagingDir) = stagingPath root st from rfl] at h ⊢
  obtain ⟨_, hm, h, ha⟩ := ok_of_bind h
  rw [ha]
  obtain ⟨sources, hc, h, ha⟩ := ok_of_bind h
  rw [ha]
  rw [candidates_looks] at h ⊢
  obtain ⟨result, hall, h, ha⟩ := ok_of_bind h
  rw [ha]
  obtain ⟨_, hl, h, ha⟩ := ok_of_bind h
  rw [ha]
  obtain rfl := Except.ok.inj h
  exact ⟨k, sources, codecOf_ok hk, hc, hall, .record _ _⟩

theorem stage_of_ok (enabled : st.disabled = false) {sources : List Path} {r : StagingResult}
    (codec : st.codec = .ok k) (made : outcome (makePath (stagingPath root st)) s = .ok ())
    (found : outcome (candidates root st.patterns) (after (makePath (stagingPath root st)) s) =
      .ok sources)
    (all : outcome (sources.foldlM (stageOne k (stagingPath root st))
      { stagingDir := some (stagingPath root st) })
      (after (makePath (stagingPath root st)) s) = .ok r) :
    outcome (stage root st) s = .ok r ∧ ∃ message, after (stage root st) s =
      (after (sources.foldlM (stageOne k (stagingPath root st))
        { stagingDir := some (stagingPath root st) })
        (after (makePath (stagingPath root st)) s)).record
          { logger := stagingLogger, level := Log.infoLevel, message } := by
  have codec_ := codecOf_of_ok codec s
  unfold stage
  rw [enabled, if_neg Bool.false_ne_true, (bind_of_ok codec_ _).1, (bind_of_ok codec_ _).2,
    codecOf_looks]
  rw [show root.join (Path.ofString st.stagingDir) = stagingPath root st from rfl]
  dsimp only
  rw [(bind_of_ok made _).1, (bind_of_ok made _).2, (bind_of_ok found _).1,
    (bind_of_ok found _).2, candidates_looks, (bind_of_ok all _).1, (bind_of_ok all _).2]
  exact ⟨rfl, _, rfl⟩

/-- What staging has done, copy by copy. -/
structure Written (root : Path) (st : Settings) (k : Codec) (sources : List Path)
    (ws : List Writing) (r : StagingResult) (s ready s' : Session) : Prop where
  codec : st.codec = .ok k
  candidates : outcome (candidates root st.patterns) ready = .ok sources
  /-- Candidates have their turn in order, and none has more than one. -/
  inOrder : (ws.map Writing.source).Sublist sources
  nodup : sources.Nodup
  run : Writes k (stagingPath root st) ws ready s'
  written : r.written = ws.map (Writing.path (stagingPath root st))
  /-- Paths are distinct just when the names of the sources are. -/
  distinct_iff : r.written.Nodup ↔ (ws.map fun w => w.source.baseName).Nodup
  /-- The text is the one that the source had, unless an earlier copy has landed there. -/
  text : ∀ before w later, ws = before ++ w :: later → (∀ v ∈ before, v.place ≠ w.origin) →
    s.logFile ≠ some w.origin →
    ∃ bytes, s.tree.node? w.origin = some (.file bytes) ∧ Utf8.decode bytes = .ok w.text
  /-- In the end a path leads to the last of the copies that have landed at its place. -/
  last : s.tree.Grounded → ∀ w ∈ ws, s.logFile ≠ some w.place → ∃ v ∈ ws, v.place = w.place ∧
    lastAt w.place (ws.map (Writing.copy k)) = some (v.copy k) ∧
    s'.view.node? true (w.path (stagingPath root st)) =
      some (w.place, .file (Utf8.encode (k.sanitize v.text)))
  own_iff : (∀ w ∈ ws, s.logFile ≠ some w.place) →
    ((∀ w ∈ ws, s'.tree.node? w.place = some (.file (Utf8.encode (k.sanitize w.text)))) ↔
      ∀ v ∈ ws, ∀ w ∈ ws, v.place = w.place → k.sanitize v.text = k.sanitize w.text)
  /-- Patterns of one component select children of the root, and no two of one name. -/
  flat : (∀ pattern ∈ st.patterns, Flat pattern) →
    (∀ p ∈ sources, root.child p.baseName = p) ∧ r.written.Nodup
  /-- Without links, copies of different names are in different places. -/
  place : s.tree.LinkFree → root.Proper → (∀ w ∈ ws, IsEntry w.source.baseName) →
    ∀ w ∈ ws, w.place = (stagingPath root st).place s.here ++ [w.source.baseName]

/-- Where staging ends well, the copies have been written one after the other, each under
the name of its source, whatever was there before. -/
theorem stage_writes (enabled : st.disabled = false) {r : StagingResult}
    (h : outcome (stage root st) s = .ok r) : ∃ k sources ws,
      Written root st k sources ws r s (after (makePath (stagingPath root st)) s)
        (after (stage root st) s) := by
  obtain ⟨k, sources, codec, hc, hall, hl⟩ := stage_ok enabled h
  obtain ⟨ws, run, inOrder, written⟩ := stageAll_writes hall
  replace run := run.noted hl
  have grown := makePath_grown (stagingPath root st) s
  have grounded := makePath_grounded (stagingPath root st) s
  generalize after (makePath (stagingPath root st)) s = ready at *
  generalize after (stage root st) s = s' at *
  rw [List.nil_append] at written
  have distinct_iff : r.written.Nodup ↔ (ws.map fun w => w.source.baseName).Nodup := by
    rw [written, paths_nodup_iff]
  refine ⟨k, sources, ws, {
    codec := codec
    candidates := hc
    inOrder := inOrder
    nodup := candidates_nodup hc
    run := run
    written := written
    distinct_iff := distinct_iff
    text := ?_
    last := ?_
    own_iff := ?_
    flat := ?_
    place := ?_ }⟩
  · intro before w later hws apart unlogged
    obtain ⟨bytes, hn, hd⟩ := run.text hws apart (grown.logFile ▸ unlogged)
    obtain same | ⟨_, same⟩ := grown.nodes w.origin
    · exact ⟨bytes, same ▸ hn, hd⟩
    · rw [same] at hn
      cases hn
  · intro stands w hw unlogged
    obtain ⟨v, hv, hp, hlast, held⟩ := run.last hw (grown.logFile ▸ unlogged)
    exact ⟨v, hv, hp, hlast, viewed_of_landing (run.lands (grounded stands) w hw) held⟩
  · intro unlogged
    exact run.own_iff fun w hw => grown.logFile ▸ unlogged w hw
  · intro flat
    have children := candidates_children flat hc
    exact ⟨children, distinct_iff.mpr (names_nodup children (candidates_nodup hc) inOrder)⟩
  · intro free proper entries
    rw [← grown.here]
    exact run.place (grown.linkFree free) (proper.join (Path.proper_ofString _)) entries

def pairProject : Session where
  tree := ⟨[(["p"], .folder), (["p", "a.md"], .file (Utf8.encode "\x7ba\x7d".toList)),
    (["p", "sub"], .folder), (["p", "sub", "a.md"], .file (Utf8.encode "\x7bb\x7d".toList))]⟩
  here := ["p"]
  programs := fun v _ _ => (.missing, v.tree)
  clock := ⟨"", ""⟩

def pairSettings : Settings := { patterns := ["*.md", "sub/*.md"] }

def pairSources : List Path := [smallRoot.child "a.md", (smallRoot.child "sub").child "a.md"]

def pairStaging : Path := stagingPath smallRoot pairSettings

/-- The project when candidates are looked for. -/
def pairReady : Session := after (makePath pairStaging) pairProject

theorem pairProject_candidates :
    outcome (candidates smallRoot pairSettings.patterns) pairReady = .ok pairSources := by
  have found : (pairSettings.patterns.mapM fun pattern =>
      outcome (select smallRoot pattern) pairReady).toOption =
        some [[smallRoot.child "a.md"], [(smallRoot.child "sub").child "a.md"]] := by
    decide +kernel
  have sorted : Path.sort pairSources = pairSources :=
    Path.sort_of_ordered (by decide +kernel) (by decide +kernel)
  rw [outcome_candidates, ok_of_toOption found]
  exact congrArg Except.ok sorted

def pairResult : StagingResult where
  stagingDir := some pairStaging
  written := [pairStaging.child "a.md", pairStaging.child "a.md"]

theorem pairProject_stages : outcome (stage smallRoot pairSettings) pairProject = .ok pairResult ∧
    Logged (after (pairSources.foldlM (stageOne .default pairStaging)
      { stagingDir := some pairStaging }) pairReady)
      (after (stage smallRoot pairSettings) pairProject) := by
  have made : outcome (makePath pairStaging) pairProject = .ok () :=
    ok_of_toOption (by decide +kernel)
  have all : outcome (pairSources.foldlM (stageOne .default pairStaging)
      { stagingDir := some pairStaging }) pairReady = .ok pairResult :=
    ok_of_toOption (by decide +kernel)
  obtain ⟨staged, message, said⟩ := stage_of_ok rfl rfl made pairProject_candidates all
  refine ⟨staged, ?_⟩
  rw [said]
  exact .record _ _

theorem stage_writes_pair : pairSettings.disabled = false ∧
    outcome (stage smallRoot pairSettings) pairProject = .ok pairResult ∧
    ∃ k sources ws, Written smallRoot pairSettings k sources ws pairResult pairProject pairReady
      (after (stage smallRoot pairSettings) pairProject) :=
  ⟨rfl, pairProject_stages.1, stage_writes rfl pairProject_stages.1⟩

/-- Of two texts with one name the second one's copy is left, and both are counted. -/
theorem names_shared_lose_copy :
    outcome (candidates smallRoot pairSettings.patterns) pairReady = .ok pairSources ∧
      outcome (stage smallRoot pairSettings) pairProject = .ok pairResult ∧
      ¬ pairResult.written.Nodup ∧
      pairProject.tree.node? ["p", "a.md"] =
        some (.file (Utf8.encode "\x7ba\x7d".toList)) ∧
      (after (stage smallRoot pairSettings) pairProject).tree.node?
        ["p", "tmp", "bracefence", "a.md"] = some (.file (Utf8.encode "｛b｝".toList)) := by
  refine ⟨pairProject_candidates, pairProject_stages.1, by decide +kernel, by decide +kernel, ?_⟩
  rw [pairProject_stages.2.node? (by decide +kernel)]
  decide +kernel

end DocBraces.Docs
