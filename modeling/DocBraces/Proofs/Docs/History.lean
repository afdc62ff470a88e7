import DocBraces.Proofs.Docs.Written

/-!
# Staging again and again

Sources come, change and go between runs of staging, while its folder is left to the runs
alone. After every run the folder holds, under each name that any run so far has written,
the last copy of that name. No run takes a copy away, so that the folder holds just what a
run has written only if the run has written every earlier name again.
-/

set_option autoImplicit false

namespace DocBraces.Docs

open DocBraces.Files DocBraces.Session DocBraces.Text

variable {s s' : Session} {k : Codec} {root out : Path} {st : Settings} {folder q : Place}
  {cs : List Copy}

/-- A path leads to a folder that the log is kept out of, in a tree as file systems keep
trees: entries are in folders and have names for entries. -/
structure Dedicated (out : Path) (folder : Place) (s : Session) : Prop where
  leads : s.view.node? true out = some (folder, .folder)
  grounded : s.tree.Grounded
  named : s.tree.Named
  unlogged : ∀ q, folder <+: q → s.logFile ≠ some q

/-- Below the folder there are copies under names for entries, of those at one place the
last one, and there is nothing else. -/
structure Shelf (out : Path) (folder : Place) (cs : List Copy) (s : Session) : Prop
    extends Dedicated out folder s where
  nodes : ∀ q, folder <+: q → q ≠ folder →
    s.tree.node? q = (lastAt q cs).map fun c => .file c.bytes
  places : ∀ c ∈ cs, ∃ n, IsEntry n ∧ c.place = folder ++ [n]

theorem below_folder (folder : Place) (n : String) :
    folder <+: folder ++ [n] ∧ folder ++ [n] ≠ folder :=
  ⟨List.prefix_append _ _, by simp⟩

/-- A file that is written in a folder comes to be there, unless a link is in its way. -/
theorem landing_in (ho : out.Proper) (leads : s.view.node? true out = some (folder, .folder))
    {n : String} (hn : IsName n) (notUp : n ≠ "..")
    (plain : ∀ target, s.tree.node? (folder ++ [n]) ≠ some (.link target))
    (h : s.landing (out.child n) = some q) : q = folder ++ [n] := by
  obtain ⟨t, hopen, rfl, _⟩ := landing_iff.mp h
  obtain ⟨_, there⟩ := (Tree.resolve_ok ho).mp (View.node?_some.mp leads).2
  obtain ⟨_, names⟩ := (Tree.resolve_ok (ho.child hn)).mp (opening_ok.mp hopen).2.2
  obtain ⟨left, onward⟩ := there.walk_onward
  have names_ : (out.child n).names = out.names ++ [n] := rfl
  have last := Tree.walk_of_leads names
  rw [Path.start_child, names_] at last
  have entry : s.tree.walk true left folder [n] = .ok t :=
    (onward true [n] (by simp)).symm.trans last
  exact (Tree.leads_of_walk entry).entry_place ⟨hn.2.1, notUp⟩ plain

theorem noNul_of_landing {n : String} (h : s.landing (out.child n) = some q) :
    hasNul n = false := by
  obtain ⟨t, hopen, _⟩ := landing_iff.mp h
  rw [← Bool.not_eq_true]
  intro hnul
  have nul : hasNul (out.child n).toString = true :=
    (Path.hasNul_toString _).mpr ⟨n, List.mem_append_right _ (List.mem_singleton.mpr rfl), hnul⟩
  rw [(opening_ok.mp hopen).2.1] at nul
  cases nul

theorem Shelf.landing (shelf : Shelf out folder cs s) (ho : out.Proper) {n : String}
    (hn : IsName n) (notUp : n ≠ "..") (h : s.landing (out.child n) = some q) :
    IsEntry n ∧ q = folder ++ [n] := by
  refine ⟨⟨hn, notUp, noNul_of_landing h⟩, landing_in ho shelf.leads hn notUp ?_ h⟩
  intro target hl
  rw [shelf.nodes _ (below_folder folder n).1 (below_folder folder n).2,
    Option.map_eq_some_iff] at hl
  obtain ⟨c, _, hc⟩ := hl
  cases hc

theorem Dedicated.logged (h : Dedicated out folder s) (hl : Logged s s') :
    Dedicated out folder s' where
  leads := by
    obtain ⟨hn, hr⟩ := View.node?_some.mp h.leads
    obtain ⟨other, hother, rfl | ⟨_, _, _, hf, _⟩⟩ := Tree.resolve_alike hl.alike hr
    · refine View.node?_some.mpr ⟨hn, ?_⟩
      rw [← hother]
      exact congrArg (s'.tree.resolve true · _) hl.here
    · cases hf
  grounded := h.grounded.alike hl.alike
  named := h.named.alike hl.alike
  unlogged := by
    rw [hl.logFile]
    exact h.unlogged

theorem Shelf.logged (shelf : Shelf out folder cs s) (hl : Logged s s') :
    Shelf out folder cs s' where
  toDedicated := shelf.toDedicated.logged hl
  nodes := fun q hq hne => (hl.node? (shelf.unlogged q hq)).trans (shelf.nodes q hq hne)
  places := shelf.places

theorem Shelf.put (shelf : Shelf out folder cs s) {n : String} (hn : IsEntry n)
    (spot : s.tree.Spot (folder ++ [n])) (bytes : List UInt8) :
    Shelf out folder (cs ++ [⟨folder ++ [n], bytes⟩])
      { s with tree := s.tree.put (folder ++ [n]) (.file bytes) } where
  leads := by
    obtain ⟨hnul, hr⟩ := View.node?_some.mp shelf.leads
    refine View.node?_some.mpr ⟨hnul, (Tree.resolve_put_file spot hr).trans ?_⟩
    exact congrArg Except.ok (if_neg (below_folder folder n).2.symm)
  grounded := shelf.grounded.put_file spot bytes
  named := shelf.named.put hn _
  unlogged := shelf.unlogged
  nodes := by
    intro q hq hne
    rw [lastAt_append]
    by_cases hp : q = folder ++ [n]
    · subst hp
      simp [Tree.node?_put_self, lastAt]
    · have elsewhere : lastAt q [(⟨folder ++ [n], bytes⟩ : Copy)] = none :=
        lastAt_eq_none (by simpa using Ne.symm hp)
      rw [elsewhere, Option.none_or]
      exact (Tree.node?_put_of_ne _ _ _ _ hp).trans (shelf.nodes q hq hne)
  places := by
    intro c hc
    obtain hc | hc := List.mem_append.mp hc
    · exact shelf.places c hc
    · exact ⟨n, hn, by rw [List.mem_singleton.mp hc]⟩

def IsChild (root source : Path) : Prop :=
  ∃ n, source = root.child n ∧ IsName n ∧ n ≠ ".."

/-- What is said of candidates: their names are those that have been written and those that
have been skipped, and each copy is where its name is in the folder. -/
def Tally (out : Path) (folder : Place) (names : List String) (made : List Copy)
    (result r : StagingResult) : Prop :=
  ∃ copied others : List String, (copied ++ others).Perm names ∧
    r.written = result.written ++ copied.map out.child ∧
    r.skipped = result.skipped ++ others ∧
    made.map Copy.place = copied.map fun n => folder ++ [n]

theorem Tally.trans {names names' : List String} {made made' : List Copy}
    {r r' r'' : StagingResult} (h : Tally out folder names made r r')
    (h' : Tally out folder names' made' r' r'') :
    Tally out folder (names ++ names') (made ++ made') r r'' := by
  obtain ⟨copied, others, perm, written, skipped, places⟩ := h
  obtain ⟨copied', others', perm', written', skipped', places'⟩ := h'
  have regrouped : ((copied ++ copied') ++ (others ++ others')).Perm
      ((copied ++ others) ++ (copied' ++ others')) := by
    rw [List.perm_iff_count]
    intro n
    simp only [List.count_append]
    omega
  refine ⟨copied ++ copied', others ++ others', regrouped.trans (perm.append perm'), ?_, ?_, ?_⟩
  · rw [written', written, List.map_append, List.append_assoc]
  · rw [skipped', skipped, List.append_assoc]
  · rw [List.map_append, List.map_append, places, places']

theorem Shelf.staged (shelf : Shelf out folder cs s) (ho : out.Proper)
    {result : StagingResult} {source : Path} (child : IsChild root source)
    {ending : Except Failure StagingResult} (staged : Staged k out result source s ending s') :
    Shelf out folder (cs ++ copyMade k out s source ending) s' ∧
      ∀ r, ending = .ok r →
        Tally out folder [source.baseName] (copyMade k out s source ending) result r := by
  obtain ⟨n, rfl, hn, notUp⟩ := child
  cases staged with
  | failed hl =>
    rw [copyMade, List.append_nil]
    refine ⟨shelf.logged hl, ?_⟩
    rintro r ⟨⟩
  | skipped hc hl =>
    rw [copyMade, copyOf_eq, hc, Option.bind_none, Option.toList_none, List.append_nil]
    refine ⟨shelf.logged hl, ?_⟩
    rintro r ⟨⟩
    exact ⟨[], [(root.child n).baseName], .refl _, (List.append_nil _).symm, rfl, rfl⟩
  | @copied copy s₁ _ hc hl hl' =>
    have lands := landing_of_copyOf hc
    rw [Path.baseName_child] at lands
    obtain ⟨entry, place⟩ := shelf.landing ho hn notUp lands
    have before := shelf.logged hl
    rw [← hl.landing, place] at lands
    have spot := spot_of_landing before.grounded lands
    rw [place] at hl'
    have after_ := (before.put entry spot copy.bytes).logged hl'
    rw [copyMade, hc, Option.toList_some]
    refine ⟨by rwa [← place] at after_, ?_⟩
    rintro r ⟨⟩
    refine ⟨[n], [], ?_, ?_, (List.append_nil _).symm, ?_⟩
    · rw [Path.baseName_child]
      exact .refl _
    · rw [Path.baseName_child]
      rfl
    · rw [List.map_singleton, place]
      rfl

theorem Shelf.stageAll (shelf : Shelf out folder cs s) (ho : out.Proper) (k : Codec)
    (result : StagingResult) {sources : List Path} (children : ∀ p ∈ sources, IsChild root p) :
    Shelf out folder (cs ++ copiesFrom k out result s sources)
        (after (sources.foldlM (stageOne k out) result) s) ∧
      ∀ r, outcome (sources.foldlM (stageOne k out) result) s = .ok r →
        Tally out folder (sources.map Path.baseName) (copiesFrom k out result s sources)
          result r := by
  induction sources generalizing cs s result with
  | nil =>
    rw [copiesFrom, List.append_nil]
    refine ⟨shelf, ?_⟩
    rintro r ⟨⟩
    exact ⟨[], [], .refl _, (List.append_nil _).symm, (List.append_nil _).symm, rfl⟩
  | cons source rest ih =>
    obtain ⟨first, others⟩ := List.forall_mem_cons.mp children
    obtain ⟨one, tally⟩ := shelf.staged ho first (stageOne_staged k out result source s)
    rw [List.foldlM_cons, after_bind, outcome_bind, copiesFrom]
    cases hone : outcome (stageOne k out result source) s with
    | error f =>
      rw [hone] at one
      refine ⟨one, ?_⟩
      rintro r ⟨⟩
    | ok result' =>
      rw [hone] at one tally
      obtain ⟨all, tally'⟩ := ih one result' others
      rw [copyMade, List.append_assoc] at all
      exact ⟨all, fun r hr => (tally result' rfl).trans (tally' r hr)⟩

/-- The session once the folder for copies has been made. -/
def ready (root : Path) (st : Settings) (s : Session) : Session :=
  after (makePath (stagingPath root st)) s

/-- Runs of staging, and what happens between them. It starts where the staging path leads
to an empty folder, if need be one that has just been made. Between runs anything may come,
change and go but what is below this folder. With each run come the copies that it makes. -/
inductive History (root : Path) (st : Settings) (folder : Place) : List Copy → Session → Prop
  | start {s : Session} (made : outcome (makePath (stagingPath root st)) s = .ok ())
      (dedicated : Dedicated (stagingPath root st) folder (ready root st s))
      (empty : ∀ q, folder <+: q → q ≠ folder → (ready root st s).tree.node? q = none) :
      History root st folder [] s
  | edited {cs : List Copy} {s s' : Session} (before : History root st folder cs s)
      (made : outcome (makePath (stagingPath root st)) s' = .ok ())
      (dedicated : Dedicated (stagingPath root st) folder (ready root st s'))
      (kept : ∀ q, folder <+: q → q ≠ folder →
        (ready root st s').tree.node? q = (ready root st s).tree.node? q) :
      History root st folder cs s'
  | staged {cs : List Copy} {s : Session} (before : History root st folder cs s) :
      History root st folder (cs ++ copies root st (some false) s) (after (stage root st) s)

theorem candidates_named {patterns : List String} (flat : ∀ pattern ∈ patterns, Flat pattern)
    (named : s.tree.Named) {sources : List Path}
    (h : outcome (candidates root patterns) s = .ok sources) :
    ∀ p ∈ sources, IsChild root p := by
  obtain ⟨found, hf, rfl⟩ := candidates_ok h
  intro p hp
  obtain ⟨pattern, hpat, ps, hs, hm⟩ := (mem_flatten_of_mapM hf).mp (Path.mem_sort.mp hp)
  obtain ⟨n, rfl, hn | ⟨rfl, hn⟩⟩ := select_names (flat pattern hpat) hs p hm
  · unfold View.names at hn
    split at hn
    · next place _ =>
      have entry := named place n (Tree.mem_children.mp hn)
      exact ⟨n, rfl, entry.name, entry.notUp⟩
    · cases hn
  · exact ⟨n, rfl, hn, (flat n hpat).notUp⟩

theorem child_names_nodup {sources : List Path} (children : ∀ p ∈ sources, IsChild root p)
    (nodup : sources.Nodup) : (sources.map Path.baseName).Nodup := by
  refine List.Nodup.map_on (fun p hp p' hp' same => ?_) nodup
  obtain ⟨n, rfl, _⟩ := children p hp
  obtain ⟨n', rfl, _⟩ := children p' hp'
  rw [Path.baseName_child, Path.baseName_child] at same
  rw [same]

theorem Dedicated.isFolder (h : Dedicated out folder s) : s.view.isFolder out = true := by
  rw [View.isFolder, h.leads]

theorem stage_eq (root : Path) (enabled : st.disabled = false) :
    stage root st = do
      let (_, k, sources) ← readied root st (some false)
      let result ← sources.foldlM (stageOne k (stagingPath root st))
        { stagingDir := some (stagingPath root st) }
      stagingLog Log.infoLevel
        s!"Staged {result.written.length} file(s) into {(stagingPath root st).toString}"
      return result := by
  simp [stage, readied, cleanIfWanted, stagingPath, enabled]

/-- Where the codec is fine, candidates are looked for once the folder has been made. -/
theorem readied_made (codec : st.codec = .ok k)
    (made : outcome (makePath (stagingPath root st)) s = .ok ()) :
    after (readied root st (some false)) s = ready root st s ∧
      outcome (readied root st (some false)) s =
        (outcome (candidates root st.patterns) (ready root st s)).map fun sources =>
          (false, k, sources) := by
  have folder_ : root.join (Path.ofString st.stagingDir) = stagingPath root st := rfl
  have kept : outcome (cleanIfWanted root st (some false)) s = .ok false := rfl
  have stays : after (cleanIfWanted root st (some false)) s = s := rfl
  have chosen := codecOf_of_ok codec s
  unfold readied
  rw [folder_, (bind_of_ok kept _).1, (bind_of_ok kept _).2, stays, (bind_of_ok chosen _).1,
    (bind_of_ok chosen _).2, codecOf_looks, (bind_of_ok made _).1, (bind_of_ok made _).2,
    ready, outcome_bind, after_bind, candidates_looks]
  generalize after (makePath (stagingPath root st)) s = s₁
  cases outcome (candidates root st.patterns) s₁ with
  | error f => exact ⟨rfl, rfl⟩
  | ok sources => exact ⟨rfl, rfl⟩

theorem readied_failed (root : Path) (s : Session) {f : Codec.Fault} (codec : st.codec = .error f) :
    after (readied root st (some false)) s = s ∧
      outcome (readied root st (some false)) s = .error (.codec f) := by
  have kept : outcome (cleanIfWanted root st (some false)) s = .ok false := rfl
  have stays : after (cleanIfWanted root st (some false)) s = s := rfl
  have chosen : outcome (codecOf st) s = .error (.codec f) := by
    rw [codecOf, codec]
    rfl
  unfold readied
  rw [(bind_of_ok kept _).1, (bind_of_ok kept _).2, stays, outcome_bind, after_bind, chosen,
    codecOf_looks]
  exact ⟨rfl, rfl⟩

theorem stage_failed (root : Path) (s : Session) (enabled : st.disabled = false) {f : Codec.Fault}
    (codec : st.codec = .error f) :
    after (stage root st) s = s ∧ copies root st (some false) s = [] := by
  obtain ⟨stays, failed⟩ := readied_failed root s codec
  rw [stage_eq root enabled, after_bind, copies, enabled, failed, stays]
  exact ⟨rfl, rfl⟩

theorem Shelf.stage (enabled : st.disabled = false)
    (flat : ∀ pattern ∈ st.patterns, Flat pattern) (proper : root.Proper)
    (codec : st.codec = .ok k) (made : outcome (makePath (stagingPath root st)) s = .ok ())
    (shelf : Shelf (stagingPath root st) folder cs (ready root st s)) :
    Shelf (stagingPath root st) folder (cs ++ copies root st (some false) s)
        (after (stage root st) s) ∧
      ∀ r, outcome (Docs.stage root st) s = .ok r → ∃ names : List String, names.Nodup ∧
        Tally (stagingPath root st) folder names (copies root st (some false) s)
          { stagingDir := some (stagingPath root st) } r := by
  obtain ⟨readied_, looked⟩ := readied_made codec made
  have out_ : (stagingPath root st).Proper := proper.join (Path.proper_ofString _)
  rw [stage_eq root enabled, after_bind, outcome_bind, copies, enabled,
    if_neg Bool.false_ne_true, looked, readied_]
  cases hc : outcome (candidates root st.patterns) (ready root st s) with
  | error f =>
    dsimp only [Except.map]
    rw [List.append_nil]
    refine ⟨shelf, ?_⟩
    rintro r ⟨⟩
  | ok sources =>
    have children := candidates_named flat shelf.named hc
    obtain ⟨all, tally⟩ := shelf.stageAll out_ k
      { stagingDir := some (stagingPath root st) } children
    dsimp only [Except.map]
    rw [after_bind, outcome_bind]
    cases hall : outcome (sources.foldlM (stageOne k (stagingPath root st))
        { stagingDir := some (stagingPath root st) }) (ready root st s) with
    | error f =>
      refine ⟨all, ?_⟩
      rintro r ⟨⟩
    | ok result =>
      refine ⟨all.logged (.record _ _), ?_⟩
      rintro r ⟨⟩
      exact ⟨_, child_names_nodup children (candidates_nodup hc), tally result hall⟩

structure Kept (root : Path) (st : Settings) (folder : Place) (cs : List Copy) (s : Session) :
    Prop where
  made : outcome (makePath (stagingPath root st)) s = .ok ()
  shelf : Shelf (stagingPath root st) folder cs (ready root st s)

theorem ready_there (h : s.view.isFolder (stagingPath root st) = true) : ready root st s = s :=
  makePath_stays h

theorem Shelf.kept (shelf : Shelf (stagingPath root st) folder cs s) :
    Kept root st folder cs s := by
  have there := shelf.isFolder
  refine ⟨makePath_there there, ?_⟩
  rw [ready_there there]
  exact shelf

theorem Kept.stage (enabled : st.disabled = false)
    (flat : ∀ pattern ∈ st.patterns, Flat pattern) (proper : root.Proper)
    (kept : Kept root st folder cs s) :
    Kept root st folder (cs ++ copies root st (some false) s) (after (stage root st) s) := by
  cases codec : st.codec with
  | error f =>
    obtain ⟨stays, none_⟩ := stage_failed root s enabled codec
    rw [stays, none_, List.append_nil]
    exact kept
  | ok k => exact (kept.shelf.stage enabled flat proper codec kept.made).1.kept

theorem History.kept (enabled : st.disabled = false)
    (flat : ∀ pattern ∈ st.patterns, Flat pattern) (proper : root.Proper)
    (history : History root st folder cs s) : Kept root st folder cs s := by
  induction history with
  | start made dedicated empty => exact ⟨made, dedicated, empty, List.forall_mem_nil _⟩
  | edited _ made dedicated below ih =>
    refine ⟨made, dedicated, fun q hq hne => ?_, ih.shelf.places⟩
    rw [below q hq hne]
    exact ih.shelf.nodes q hq hne
  | staged _ ih => exact ih.stage enabled flat proper

/-- What the folder holds after a run, told from what the runs have copied. -/
structure Stocked (out : Path) (folder : Place) (earlier made : List Copy) (r : StagingResult)
    (s' : Session) : Prop where
  /-- Each file in the folder has the bytes of the last copy under its name. -/
  shelf : Shelf out folder (earlier ++ made) s'
  nodup : r.written.Nodup
  /-- What counts as written is what this run has copied. -/
  written_iff : ∀ p, p ∈ r.written ↔ ∃ n, p = out.child n ∧ ∃ c ∈ made, c.place = folder ++ [n]
  /-- No skipped name has been written. -/
  skipped : ∀ n ∈ r.skipped, out.child n ∉ r.written
  /-- A name is there if this run has written it, and else if an earlier one has. -/
  present_iff : ∀ n, s'.tree.node? (folder ++ [n]) ≠ none ↔
    out.child n ∈ r.written ∨ ∃ c ∈ earlier, c.place = folder ++ [n]
  /-- Just what this run has written is there if it has written all earlier names again. -/
  exact_iff : (∀ q, folder <+: q → q ≠ folder →
      (s'.tree.node? q ≠ none ↔ ∃ n, q = folder ++ [n] ∧ out.child n ∈ r.written)) ↔
    ∀ c ∈ earlier, ∀ n, c.place = folder ++ [n] → out.child n ∈ r.written

theorem lastAt_ne_none {copies : List Copy} :
    lastAt q copies ≠ none ↔ ∃ c ∈ copies, c.place = q := by
  simp [lastAt]

theorem Shelf.present_iff (shelf : Shelf out folder cs s) (hq : folder <+: q) (hne : q ≠ folder) :
    s.tree.node? q ≠ none ↔ ∃ c ∈ cs, c.place = q := by
  rw [shelf.nodes q hq hne, ← lastAt_ne_none, Ne, Option.map_eq_none_iff]

theorem Tally.mem_written {names : List String} {made : List Copy} {result r : StagingResult}
    (tally : Tally out folder names made result r) (fresh : result.written = [])
    (p : Path) :
    p ∈ r.written ↔ ∃ n, p = out.child n ∧ ∃ c ∈ made, c.place = folder ++ [n] := by
  obtain ⟨copied, others, _, written, _, places⟩ := tally
  have made_ (n : String) : (∃ c ∈ made, c.place = folder ++ [n]) ↔ n ∈ copied := by
    have : (∃ c ∈ made, c.place = folder ++ [n]) ↔ folder ++ [n] ∈ made.map Copy.place := by
      simp
    rw [this, places]
    simp
  rw [written, fresh, List.nil_append, List.mem_map]
  constructor
  · rintro ⟨n, hn, rfl⟩
    exact ⟨n, rfl, (made_ n).mpr hn⟩
  · rintro ⟨n, rfl, hn⟩
    exact ⟨n, (made_ n).mp hn, rfl⟩

theorem Shelf.stocked {made : List Copy} (shelf : Shelf out folder (cs ++ made) s)
    {names : List String} {result r : StagingResult}
    (tally : Tally out folder names made result r) (nodup : names.Nodup)
    (written : result.written = []) (skipped : result.skipped = []) :
    Stocked out folder cs made r s := by
  have written_iff := tally.mem_written written
  have name_iff (n : String) : out.child n ∈ r.written ↔ ∃ c ∈ made, c.place = folder ++ [n] := by
    rw [written_iff]
    refine ⟨?_, fun h => ⟨n, rfl, h⟩⟩
    rintro ⟨n', same, h⟩
    rwa [child_injective out same]
  have present (n : String) : s.tree.node? (folder ++ [n]) ≠ none ↔
      out.child n ∈ r.written ∨ ∃ c ∈ cs, c.place = folder ++ [n] := by
    rw [shelf.present_iff (below_folder folder n).1 (below_folder folder n).2, name_iff, or_comm]
    simp only [List.mem_append, or_and_right, exists_or]
  refine ⟨shelf, ?_, written_iff, ?_, present, ?_, ?_⟩
  · obtain ⟨copied, others, perm, hw, _, _⟩ := tally
    rw [hw, written, List.nil_append]
    exact (perm.nodup_iff.mpr nodup).of_append_left.map (child_injective out)
  · obtain ⟨copied, others, perm, hw, hs, _⟩ := tally
    intro n hn hm
    rw [hs, skipped, List.nil_append] at hn
    rw [hw, written, List.nil_append, List.mem_map_of_injective (child_injective out)] at hm
    exact (List.nodup_append.mp (perm.nodup_iff.mpr nodup)).2.2 n hm n hn rfl
  · intro exact_ c hc n hp
    obtain ⟨hq, hne⟩ := below_folder folder n
    obtain ⟨n', same, hw⟩ := (exact_ _ hq hne).mp ((present n).mpr (.inr ⟨c, hc, hp⟩))
    obtain rfl : n = n' := by simpa using same
    exact hw
  · intro again q hq hne
    constructor
    · intro there
      obtain ⟨c, hc, rfl⟩ := (shelf.present_iff hq hne).mp there
      obtain ⟨n, _, hp⟩ := shelf.places c hc
      rw [hp] at there
      refine ⟨n, hp, ?_⟩
      obtain hw | ⟨c', hc', hp'⟩ := (present n).mp there
      · exact hw
      · exact again c' hc' n hp'
    · rintro ⟨n, rfl, hw⟩
      exact (present n).mpr (.inl hw)

/-- After any history, a run that ends well leaves in the folder what it has written, and
beside it what earlier runs have written and this one has not. -/
theorem staging_keeps_copies (enabled : st.disabled = false)
    (flat : ∀ pattern ∈ st.patterns, Flat pattern) (proper : root.Proper)
    (history : History root st folder cs s) {r : StagingResult}
    (h : outcome (stage root st) s = .ok r) :
    Stocked (stagingPath root st) folder cs (copies root st (some false) s) r
      (after (stage root st) s) := by
  obtain ⟨k, _, codec, _⟩ := stage_ok enabled h
  have kept := history.kept enabled flat proper
  obtain ⟨shelf, tally⟩ := kept.shelf.stage enabled flat proper codec kept.made
  obtain ⟨names, nodup, tally⟩ := tally r h
  exact shelf.stocked tally nodup rfl rfl

theorem empty_of_entries {t : Tree} (h : ∀ e ∈ t.entries, folder <+: e.1 → e.1 = folder) :
    ∀ q, folder <+: q → q ≠ folder → t.node? q = none := by
  intro q hq hne
  rw [Tree.node?, if_neg ?top, List.lookup_eq_none_iff]
  case top =>
    rintro rfl
    exact hne (List.prefix_nil.mp hq).symm
  intro e he
  rw [bne_iff_ne]
  rintro rfl
  exact hne (h e he hq)

def smallFolder : Place := ["p", "tmp", "bracefence"]

def smallStaging : Path := stagingPath smallRoot {}

/-- The project of one text once that has been staged. -/
def stagedProject : Session :=
  after ([smallRoot.child "a.md"].foldlM (stageOne .default smallStaging)
    { stagingDir := some smallStaging }) (after (makePath smallStaging) (smallProject ""))

def bereftProject : Session :=
  { stagedProject with tree := stagedProject.tree.drop ["p", "a.md"] }

theorem found_of_patterns {patterns : List String} {found : List (List Path)} {sources : List Path}
    (h : (patterns.mapM fun pattern => outcome (select root pattern) s).toOption = some found)
    (sorted : Path.sort found.flatten = sources) :
    outcome (candidates root patterns) s = .ok sources := by
  rw [outcome_candidates, ok_of_toOption h]
  exact congrArg Except.ok sorted

theorem smallProject_stages :
    outcome (stage smallRoot {}) (smallProject "") = .ok
        { stagingDir := some smallStaging, written := [smallStaging.child "a.md"] } ∧
      after (stage smallRoot {}) (smallProject "") = stagedProject := by
  have made : outcome (makePath smallStaging) (smallProject "") = .ok () :=
    ok_of_toOption (by decide +kernel)
  have selected : (({} : Settings).patterns.mapM fun pattern => outcome (select smallRoot pattern)
      (after (makePath smallStaging) (smallProject ""))).toOption =
        some [[smallRoot.child "a.md"], [], [], []] := by
    decide +kernel
  have sorted : Path.sort [smallRoot.child "a.md"] = [smallRoot.child "a.md"] :=
    Path.sort_of_ordered (by decide +kernel) (by decide +kernel)
  have copied : outcome ([smallRoot.child "a.md"].foldlM (stageOne .default smallStaging)
      { stagingDir := some smallStaging }) (after (makePath smallStaging) (smallProject "")) =
        .ok { stagingDir := some smallStaging, written := [smallStaging.child "a.md"] } :=
    ok_of_toOption (by decide +kernel)
  have silent : stagedProject.logging.isNone = true := by decide +kernel
  have run : outcome (stage smallRoot {}) (smallProject "") = .ok
      { stagingDir := some smallStaging, written := [smallStaging.child "a.md"] } ∧
        ∃ message, after (stage smallRoot {}) (smallProject "") =
          stagedProject.record { logger := stagingLogger, level := Log.infoLevel, message } :=
    stage_of_ok rfl rfl made (found_of_patterns selected sorted) copied
  obtain ⟨staged, message, said⟩ := run
  rw [record_silent (Option.isNone_iff_eq_none.mp silent)
    (show Log.infoLevel < Log.warningLevel by decide)] at said
  exact ⟨staged, said⟩

theorem bereftProject_folder : bereftProject.view.isFolder smallStaging = true := by
  decide +kernel

theorem bereftProject_stages :
    outcome (stage smallRoot {}) bereftProject = .ok { stagingDir := some smallStaging } ∧
      after (stage smallRoot {}) bereftProject = bereftProject := by
  have stays : after (makePath smallStaging) bereftProject = bereftProject :=
    makePath_stays bereftProject_folder
  have selected : (({} : Settings).patterns.mapM fun pattern => outcome (select smallRoot pattern)
      (after (makePath smallStaging) bereftProject)).toOption = some [[], [], [], []] := by
    rw [stays]
    decide +kernel
  have sorted : Path.sort [] = [] := Path.sort_of_ordered rfl .nil
  have nothing (t : Session) : outcome (([] : List Path).foldlM (stageOne .default smallStaging)
      { stagingDir := some smallStaging }) t = .ok { stagingDir := some smallStaging } := rfl
  have silent : bereftProject.logging.isNone = true := by decide +kernel
  have run : outcome (stage smallRoot {}) bereftProject = .ok
      { stagingDir := some smallStaging } ∧
        ∃ message, after (stage smallRoot {}) bereftProject =
          (after (([] : List Path).foldlM (stageOne .default smallStaging)
            { stagingDir := some smallStaging }) (after (makePath smallStaging) bereftProject)).record
            { logger := stagingLogger, level := Log.infoLevel, message } :=
    stage_of_ok rfl rfl (makePath_there bereftProject_folder)
      (found_of_patterns selected sorted) (nothing _)
  obtain ⟨staged, message, said⟩ := run
  rw [List.foldlM_nil, stays, after_pure, record_silent (Option.isNone_iff_eq_none.mp silent)
    (show Log.infoLevel < Log.warningLevel by decide)] at said
  exact ⟨staged, said⟩

theorem unlogged_of_none (h : s.logFile.isNone = true) : ∀ q, folder <+: q →
    s.logFile ≠ some q := by
  intro q _
  rw [Option.isNone_iff_eq_none.mp h]
  nofun

theorem bereftProject_history : History smallRoot {} smallFolder
    ([] ++ copies smallRoot {} (some false) (smallProject "")) bereftProject := by
  have first : History smallRoot {} smallFolder [] (smallProject "") := by
    refine .start (ok_of_toOption (by decide +kernel)) ⟨?_, ?_, ?_, unlogged_of_none ?_⟩
      (empty_of_entries ?_)
    all_goals decide +kernel
  have staged := first.staged
  rw [smallProject_stages.2] at staged
  have there : stagedProject.view.isFolder smallStaging = true := by decide +kernel
  refine staged.edited (makePath_there bereftProject_folder) ?_ fun q hq _ => ?_
  · rw [ready_there bereftProject_folder]
    refine ⟨?_, ?_, ?_, unlogged_of_none ?_⟩
    all_goals decide +kernel
  · rw [ready_there bereftProject_folder, ready_there there, bereftProject]
    refine Tree.node?_drop_of_ne _ ?_
    rintro rfl
    exact absurd hq (by decide)

theorem staging_keeps_copies_bereft :
    ({} : Settings).disabled = false ∧ (∀ pattern ∈ ({} : Settings).patterns, Flat pattern) ∧
      smallRoot.Proper ∧
      History smallRoot {} smallFolder
        ([] ++ copies smallRoot {} (some false) (smallProject "")) bereftProject ∧
      outcome (stage smallRoot {}) bereftProject = .ok { stagingDir := some smallStaging } ∧
      Stocked smallStaging smallFolder
        ([] ++ copies smallRoot {} (some false) (smallProject ""))
        (copies smallRoot {} (some false) bereftProject) { stagingDir := some smallStaging }
        (after (stage smallRoot {}) bereftProject) :=
  ⟨rfl, by decide, by decide, bereftProject_history, bereftProject_stages.1,
    staging_keeps_copies rfl (by decide) (by decide) bereftProject_history
      bereftProject_stages.1⟩

/-- The source has gone, the run writes nothing, and yet the copy is in the folder. -/
theorem removed_source_stays_staged :
    outcome (stage smallRoot {}) (smallProject "") = .ok
        { stagingDir := some smallStaging, written := [smallStaging.child "a.md"] } ∧
      after (stage smallRoot {}) (smallProject "") = stagedProject ∧
      History smallRoot {} smallFolder
        ([] ++ copies smallRoot {} (some false) (smallProject "")) bereftProject ∧
      bereftProject.tree.node? ["p", "a.md"] = none ∧
      outcome (stage smallRoot {}) bereftProject = .ok { stagingDir := some smallStaging } ∧
      (after (stage smallRoot {}) bereftProject).tree.node? (smallFolder ++ ["a.md"]) =
        some (.file (Utf8.encode "｛a｝".toList)) := by
  refine ⟨smallProject_stages.1, smallProject_stages.2, bereftProject_history, ?_,
    bereftProject_stages.1, ?_⟩
  · exact Tree.node?_drop_self _ (by decide)
  · rw [bereftProject_stages.2]
    decide +kernel

end DocBraces.Docs
