import DocBraces.Proofs.Docs.Candidates
import DocBraces.Proofs.Session.Folders

/-!
# Staging from end to end

Where there are no links, preparing the docs does what it says and nothing else: the docs
folder goes, the folders of the copies are made, and every candidate that is a text has
its copy there under its own name.
-/

set_option autoImplicit false

namespace DocBraces.Docs

open DocBraces.Files DocBraces.Session DocBraces.Text

variable {s s' : Session} {k : Codec} {root out : Path} {top : Place}

/-- The text that a folder has under a name, if that is a file and holds one. -/
def textIn (t : Tree) (top : Place) (n : String) : Option (List Char) :=
  (t.fileAt (top ++ [n])).bind fun bytes => (Utf8.decode bytes).toOption

theorem textIn_congr {t u : Tree} {n : String}
    (h : t.node? (top ++ [n]) = u.node? (top ++ [n])) : textIn t top n = textIn u top n := by
  rw [textIn, textIn, Tree.fileAt_congr h]

/-- Texts have been copied into a folder under their names, and nothing else has changed
but the log. -/
structure Copied (k : Codec) (folder : Place) (texts : String → Option (List Char))
    (names : List String) (s s' : Session) : Prop where
  copies : ∀ n ∈ names, ∀ text, texts n = some text →
    s'.tree.node? (folder ++ [n]) = some (.file (Utf8.encode (k.sanitize text)))
  elsewhere : ∀ q, (∀ n ∈ names, (texts n).isSome = true → q ≠ folder ++ [n]) →
    s.logFile ≠ some q → s'.tree.node? q = s.tree.node? q
  folders : ∀ q, s.tree.node? q = some .folder → s'.tree.node? q = some .folder
  free : s.tree.LinkFree → s'.tree.LinkFree
  here : s'.here = s.here
  logFile : s'.logFile = s.logFile

variable {folder : Place} {texts : String → Option (List Char)}

theorem Copied.logged (h : Logged s s') {names : List String}
    (none_ : ∀ n ∈ names, texts n = none) : Copied k folder texts names s s' where
  copies := by
    intro n hn text ht
    rw [none_ n hn] at ht
    cases ht
  elsewhere := fun _ _ hl => h.node? hl
  folders := fun _ hq => h.alike.of_not_file hq fun _ => nofun
  free := .alike h.alike
  here := h.here
  logFile := h.logFile

theorem Copied.trans {s'' : Session} {names others : List String}
    (h : Copied k folder texts names s s') (h' : Copied k folder texts others s' s'')
    (unlogged : ∀ n ∈ names, s.logFile ≠ some (folder ++ [n])) :
    Copied k folder texts (names ++ others) s s'' where
  copies := by
    intro n hn text ht
    by_cases ho : n ∈ others
    · exact h'.copies n ho text ht
    · have hn : n ∈ names := (List.mem_append.mp hn).resolve_right ho
      have apart : ∀ m ∈ others, (texts m).isSome = true → folder ++ [n] ≠ folder ++ [m] := by
        intro m hm _ he
        have : n = m := by simpa using he
        exact ho (this ▸ hm)
      rw [h'.elsewhere _ apart (h.logFile ▸ unlogged n hn)]
      exact h.copies n hn text ht
  elsewhere := by
    intro q hq hl
    rw [h'.elsewhere q (fun n hn => hq n (by simp [hn])) (h.logFile ▸ hl),
      h.elsewhere q (fun n hn => hq n (by simp [hn])) hl]
  folders := fun q hq => h'.folders q (h.folders q hq)
  free := fun free => h'.free (h.free free)
  here := h'.here.trans h.here
  logFile := h'.logFile.trans h.logFile

/-- The root and the folder of the copies while candidates are staged. The copies are made
below the root, and the log is neither one of the sources nor one of the copies. -/
structure Bench (root out : Path) (patterns : List String) (top folder : Place)
    (s : Session) : Prop where
  free : s.tree.LinkFree
  there : s.view.node? true root = some (top, .folder)
  way : ∀ q ∈ root.way s.here, s.tree.node? q = some .folder
  place : out.place s.here = folder
  below : top.length < folder.length
  sources : ∀ n, standFor patterns n = true → s.logFile ≠ some (top ++ [n])
  copies : ∀ n, standFor patterns n = true → s.logFile ≠ some (folder ++ [n])

variable {patterns : List String}

theorem Bench.apart (bench : Bench root out patterns top folder s) (n m : String) :
    top ++ [n] ≠ folder ++ [m] := by
  intro h
  have hl := congrArg List.length h
  have := bench.below
  simp at hl
  omega

theorem Bench.source (bench : Bench root out patterns top folder s) {names : List String}
    (h : Copied k folder texts names s s') {n : String} (hn : standFor patterns n = true) :
    s'.tree.node? (top ++ [n]) = s.tree.node? (top ++ [n]) :=
  h.elsewhere _ (fun m _ _ => bench.apart n m) (bench.sources n hn)

theorem Bench.copied (hr : root.Proper) (bench : Bench root out patterns top folder s)
    {names : List String} (h : Copied k folder texts names s s') :
    Bench root out patterns top folder s' := by
  have way : ∀ q ∈ root.way s.here, s'.tree.node? q = some .folder :=
    fun q hq => h.folders q (bench.way q hq)
  have top_ : s'.tree.node? top = some .folder :=
    h.folders top (target_holds (viewed_iff.mp bench.there))
  exact {
    free := h.free bench.free
    there := View.node?_of_folders bench.free hr bench.there h.here way top_
    way := h.here ▸ way
    place := h.here ▸ bench.place
    below := bench.below
    sources := h.logFile ▸ bench.sources
    copies := h.logFile ▸ bench.copies }

def accounted (out : Path) (texts : String → Option (List Char)) (names : List String)
    (result : StagingResult) : StagingResult :=
  { result with
    written := result.written ++ (names.filter fun n => (texts n).isSome).map out.child
    skipped := result.skipped ++ names.filter fun n => (texts n).isNone }

theorem textOf_child (bench : Bench root out patterns top folder s) (hr : root.Proper) {n : String}
    (hn : IsEntry n) {b : Bool} (hf : outcome (isFile (root.child n)) s = .ok b) :
    textOf s (root.child n) = textIn s.tree top n := by
  have short := short_of_isFile hf
  unfold textOf textIn Tree.fileAt
  rw [View.node?_child bench.free hr bench.there hn short]
  have viewed : s.view.tree = s.tree := rfl
  rw [viewed]
  rcases s.tree.node? (top ++ [n]) with _ | _ | _ | _ <;> rfl

/-- The copy of a candidate lands under its name in the folder of the copies. -/
theorem landing_child (free : s.tree.LinkFree) (ho : out.Proper) {n : String} (hn : IsEntry n)
    {place : Place} (h : s.landing (out.child n) = some place) :
    place = out.place s.here ++ [n] ∧ s.tree.node? place ≠ some .folder := by
  obtain ⟨t, hopen, rfl, notFolder⟩ := landing_iff.mp h
  have ht := target_ok.mpr (opening_ok.mp hopen).2
  obtain ⟨hplace, _⟩ := target_spelled free (ho.child hn.name) ht
  have there := target_holds ht
  refine ⟨hplace.trans (Path.place_child _ _ hn), fun hf => ?_⟩
  cases t with
  | absent p =>
    have none_ : s.tree.node? p = none := there
    rw [Tree.Target.place, none_] at hf
    cases hf
  | present p node =>
    have some_ : s.tree.node? p = some node := there
    rw [Tree.Target.place, some_] at hf
    exact notFolder p (congrArg _ (Option.some.inj hf))

theorem Copied.put {n : String} {text : List Char} (ht : texts n = some text)
    (notFolder : s.tree.node? (folder ++ [n]) ≠ some .folder) :
    Copied k folder texts [n] s { s with
      tree := s.tree.put (folder ++ [n]) (.file (Utf8.encode (k.sanitize text))) } := by
  have notNil : folder ++ [n] ≠ [] := by simp
  constructor
  · intro m hm other ho
    obtain rfl := List.mem_singleton.mp hm
    obtain rfl := Option.some.inj (ht.symm.trans ho)
    exact Tree.node?_put_self _ _ _ notNil
  · intro q hq _
    apply Tree.node?_put_of_ne
    apply hq n (by simp)
    rw [ht]
    rfl
  · intro q hq
    rw [← hq]
    apply Tree.node?_put_of_ne
    rintro rfl
    exact notFolder hq
  · exact fun free => free.put notNil fun _ => nofun
  · rfl
  · rfl

structure Wanted (patterns : List String) (n : String) : Prop where
  entry : IsEntry n
  stands : standFor patterns n = true

theorem stageOne_copied (bench : Bench root out patterns top folder s) (hr : root.Proper)
    (ho : out.Proper) {n : String} (hn : Wanted patterns n)
    (ht : texts n = textIn s.tree top n) {result r : StagingResult}
    (h : outcome (stageOne k out result (root.child n)) s = .ok r) :
    r = accounted out texts [n] result ∧
      Copied k folder texts [n] s (after (stageOne k out result (root.child n)) s) := by
  obtain ⟨b, hf, _⟩ := ok_of_bind h
  have text : textOf s (root.child n) = texts n :=
    (textOf_child bench hr hn.entry hf).trans ht.symm
  have staged := stageOne_staged k out result (root.child n) s
  rw [h] at staged
  generalize after (stageOne k out result (root.child n)) s = s' at staged ⊢
  cases staged with
  | skipped hc hl =>
    rw [text] at hc
    refine ⟨?_, .logged hl ?_⟩
    · simp [accounted, hc, Path.baseName_child]
    · simpa using hc
  | @copied copy s₁ _ hc hl hl' =>
    rw [copyOf_eq, text, Path.baseName_child] at hc
    obtain ⟨chars, hchars, hc⟩ := Option.bind_eq_some_iff.mp hc
    obtain ⟨place, hp, rfl⟩ := Option.map_eq_some_iff.mp hc
    have before : Copied k folder texts [] s s₁ := .logged hl (by simp)
    rw [← hl.landing] at hp
    obtain ⟨rfl, notFolder⟩ := landing_child (before.free bench.free) ho hn.entry hp
    have hplace : out.place s₁.here = folder := by rw [before.here, bench.place]
    rw [hplace] at notFolder hl'
    have written := Copied.put (k := k) hchars notFolder
    have noted : Copied k folder texts [] _ s' := .logged hl' (by simp)
    have unlogged : ∀ m ∈ [n], s.logFile ≠ some (folder ++ [m]) :=
      List.forall_mem_singleton.mpr (bench.copies n hn.stands)
    refine ⟨?_, (before.trans written (by simp)).trans noted unlogged⟩
    simp [accounted, hchars, Path.baseName_child]

theorem accounted_accounted (out : Path) (texts : String → Option (List Char))
    (names others : List String) (result : StagingResult) :
    accounted out texts others (accounted out texts names result) =
      accounted out texts (names ++ others) result := by
  simp [accounted]

theorem stageAll_copied (bench : Bench root out patterns top folder s) (hr : root.Proper)
    (ho : out.Proper) {names : List String} (hn : ∀ n ∈ names, Wanted patterns n)
    (ht : ∀ n ∈ names, texts n = textIn s.tree top n) {result r : StagingResult}
    (h : outcome ((names.map root.child).foldlM (stageOne k out) result) s = .ok r) :
    r = accounted out texts names result ∧
      Copied k folder texts names s
        (after ((names.map root.child).foldlM (stageOne k out) result) s) := by
  induction names generalizing s result with
  | nil =>
    obtain rfl := Except.ok.inj h
    exact ⟨by simp [accounted], .logged (.refl s) (by simp)⟩
  | cons n names ih =>
    obtain ⟨first, others⟩ := List.forall_mem_cons.mp hn
    obtain ⟨text, rest⟩ := List.forall_mem_cons.mp ht
    rw [List.map_cons, List.foldlM_cons] at h ⊢
    obtain ⟨r₁, h₁, h₂, ha⟩ := ok_of_bind h
    rw [ha]
    obtain ⟨rfl, one⟩ := stageOne_copied bench hr ho first text h₁
    -- the sources that are still to come are as they were
    have same : ∀ m ∈ names, texts m = textIn
        (after (stageOne k out result (root.child n)) s).tree top m :=
      fun m hm => (rest m hm).trans (textIn_congr (bench.source one (others m hm).stands)).symm
    obtain ⟨hrest, all⟩ := ih (bench.copied hr one) others same h₂
    have unlogged : ∀ m ∈ [n], s.logFile ≠ some (folder ++ [m]) :=
      List.forall_mem_singleton.mpr (bench.copies n first.stands)
    exact ⟨hrest.trans (accounted_accounted _ _ [n] names result), one.trans all unlogged⟩

/-- A path that goes down from the folder that it is joined to. -/
structure Inner (p : Path) : Prop where
  relative : p.root = .relative
  names : p.names ≠ []
  down : ".." ∉ p.names

instance (p : Path) : Decidable (Inner p) :=
  decidable_of_iff (p.root = .relative ∧ p.names ≠ [] ∧ ".." ∉ p.names)
    ⟨fun ⟨h₁, h₂, h₃⟩ => ⟨h₁, h₂, h₃⟩, fun ⟨h₁, h₂, h₃⟩ => ⟨h₁, h₂, h₃⟩⟩

theorem Inner.plain {p : Path} (hp : p.Proper) (inner : Inner p) :
    ∀ n ∈ p.names, n ≠ "." ∧ n ≠ ".." :=
  fun n hn => ⟨(hp n hn).2.1, fun he => inner.down (he ▸ hn)⟩

theorem Inner.place_join {p : Path} (hp : p.Proper) (inner : Inner p) (root : Path)
    (here : Place) : (root.join p).place here = root.place here ++ p.names := by
  rw [Path.place_join _ _ inner.relative, Tree.plainNames_down _ (inner.plain hp)]

theorem Inner.mem_way {p : Path} (hp : p.Proper) (inner : Inner p) (root : Path) {here q : Place} :
    q ∈ (root.join p).way here ↔ q ∈ root.way here ∨
      ∃ ms, ms ≠ [] ∧ ms <+: p.names ∧ q = root.place here ++ ms := by
  rw [Path.way_join _ _ inner.relative, List.mem_append,
    Tree.mem_placesDown _ (inner.plain hp)]

/-- The docs folder is gone with everything in it if it was there and that was wanted;
nothing else has changed but the log. -/
structure Cleaned (place : Place) (gone : Bool) (s s' : Session) : Prop where
  nodes : ∀ q, s.logFile ≠ some q →
    s'.tree.node? q = if gone = true ∧ place <+: q then none else s.tree.node? q
  folders : ∀ q, s.tree.node? q = some .folder → ¬ place <+: q → s'.tree.node? q = some .folder
  fewer : ∀ q, (s'.tree.node? q).isSome = true → (s.tree.node? q).isSome = true
  free : s.tree.LinkFree → s'.tree.LinkFree
  here : s'.here = s.here
  logFile : ∀ q, s'.logFile = some q → s.logFile = some q

theorem Cleaned.kept (place : Place) (h : Logged s s') : Cleaned place false s s' where
  nodes := by
    intro q hl
    rw [if_neg (by simp), h.node? hl]
  folders := fun _ hq _ => h.alike.of_not_file hq fun _ => nofun
  fewer := by
    intro q hq
    rwa [h.alike.isSome]
  free := .alike h.alike
  here := h.here
  logFile := by
    intro q
    rw [h.logFile]
    exact id

theorem Cleaned.removed {place : Place} {s₁ : Session} (h : Removed place s s₁)
    (hl : Logged s₁ s') : Cleaned place true s s' where
  nodes := by
    intro q hq
    rw [hl.node? fun hl => hq (h.logFile q hl), h.gone]
    simp
  folders := by
    intro q hq hp
    have kept : s₁.tree.node? q = some .folder := by rw [h.gone, if_neg hp, hq]
    exact hl.alike.of_not_file kept fun _ => nofun
  fewer := by
    intro q hq
    rw [← hl.alike.isSome, h.gone] at hq
    split at hq
    · cases hq
    · exact hq
  free := fun free => .alike hl.alike (h.linkFree free)
  here := hl.here.trans h.here
  logFile := fun q hq => h.logFile q (hl.logFile ▸ hq)

inductive Cleaning (docs : Path) (s : Session) : Bool → Session → Prop
  | kept {s' : Session} : s.view.isFolder docs = false → Logged s s' → Cleaning docs s false s'
  | gone {place : Place} {s₁ s' : Session} : s.folderAt docs = some place →
      Removed place s s₁ → Logged s₁ s' → Cleaning docs s true s'

theorem clean_ok {st : Settings} {docs : Path}
    (hdocs : root.join (Path.ofString st.docsDir) = docs) {b : Bool}
    (h : outcome (clean root st) s = .ok b) : Cleaning docs s b (after (clean root st) s) := by
  unfold clean at h ⊢
  dsimp only at h ⊢
  rw [hdocs] at h ⊢
  obtain ⟨there, hf, h, ha⟩ := ok_of_bind h
  rw [ha]
  rw [isFolder_looks] at h ⊢
  cases there with
  | false =>
    obtain rfl := Except.ok.inj h
    refine .kept ?_ (.record s _)
    rw [← Bool.not_eq_true, viewed_isFolder, hf]
    nofun
  | true =>
    rw [if_pos rfl] at h ⊢
    obtain ⟨_, hrm, h, ha⟩ := ok_of_bind h
    rw [ha]
    obtain rfl := Except.ok.inj h
    obtain ⟨place, hp, removed⟩ := removeTree_ok hrm
    exact .gone hp removed (.record _ _)

theorem clean_cleaned {st : Settings} (free : s.tree.LinkFree) {docs : Path} (hd : docs.Proper)
    (hdocs : root.join (Path.ofString st.docsDir) = docs) {b : Bool}
    (h : outcome (clean root st) s = .ok b) :
    s.view.isFolder docs = b ∧ Cleaned (docs.place s.here) b s (after (clean root st) s) := by
  have cleaning := clean_ok hdocs h
  generalize after (clean root st) s = s' at cleaning ⊢
  cases cleaning with
  | kept hf hl => exact ⟨hf, .kept _ hl⟩
  | gone hp removed hl =>
    obtain ⟨rfl, _⟩ := target_spelled free hd (folderAt_iff.mp hp)
    exact ⟨viewed_isFolder.mpr (isFolder_of_folderAt hp), .removed removed hl⟩

theorem cleanIfWanted_cleaned {st : Settings} (free : s.tree.LinkFree) {docs : Path}
    (hd : docs.Proper) (hdocs : root.join (Path.ofString st.docsDir) = docs)
    {cleaning : Option Bool} {b : Bool}
    (h : outcome (cleanIfWanted root st cleaning) s = .ok b) :
    (b = true ↔ cleaning.getD st.cleanDocs = true ∧ s.view.isFolder docs = true) ∧
      Cleaned (docs.place s.here) b s (after (cleanIfWanted root st cleaning) s) := by
  unfold cleanIfWanted at h ⊢
  cases hw : cleaning.getD st.cleanDocs with
  | true =>
    rw [hw, if_pos rfl] at h
    rw [if_pos rfl]
    obtain ⟨hb, cleaned⟩ := clean_cleaned free hd hdocs h
    exact ⟨by simp [hb], cleaned⟩
  | false =>
    rw [hw, if_neg Bool.false_ne_true] at h
    rw [if_neg Bool.false_ne_true]
    obtain rfl := Except.ok.inj h
    exact ⟨by simp, .kept _ (.refl s)⟩

def stagingPath (root : Path) (st : Settings) : Path := root.join (Path.ofString st.stagingDir)

def docsPath (root : Path) (st : Settings) : Path := root.join (Path.ofString st.docsDir)

/-- The layout that staging is made for: a root without links whose entries have names,
patterns for these entries, and folders for the copies and the docs that are below the
root. The log is neither one of the sources nor one of the copies. -/
structure Layout (root : Path) (st : Settings) (s : Session) : Prop where
  enabled : st.disabled = false
  free : s.tree.LinkFree
  proper : root.Proper
  there : s.view.isFolder root = true
  named : s.tree.NamedAt (root.place s.here)
  staging : Inner (Path.ofString st.stagingDir)
  docs : Inner (Path.ofString st.docsDir)
  flat : ∀ pattern ∈ st.patterns, Flat pattern
  sources : ∀ n, standFor st.patterns n = true → s.logFile ≠ some (root.place s.here ++ [n])
  copies : ∀ n, standFor st.patterns n = true →
    s.logFile ≠ some ((stagingPath root st).place s.here ++ [n])

/-- The tree in which candidates are looked for: without the docs folder if it is gone, and
with the folders on the way to the copies. -/
structure Readied (root : Path) (st : Settings) (gone : Bool) (s s' : Session) : Prop where
  folders : ∀ q ∈ (stagingPath root st).way s.here, s'.tree.node? q = some .folder
  elsewhere : ∀ q, q ∉ (stagingPath root st).way s.here → s.logFile ≠ some q →
    s'.tree.node? q = if gone = true ∧ (docsPath root st).place s.here <+: q then none
      else s.tree.node? q
  before : ∀ q n, q ∈ (stagingPath root st).way s.here → s.logFile ≠ some q →
    ¬ (gone = true ∧ (docsPath root st).place s.here <+: q) → s.tree.node? q = some n → n = .folder
  here : s'.here = s.here
  logFile : ∀ q, s'.logFile = some q → s.logFile = some q

variable {st : Settings}

theorem Layout.staging_place (layout : Layout root st s) (here : Place) :
    (stagingPath root st).place here = root.place here ++ (Path.ofString st.stagingDir).names :=
  layout.staging.place_join (Path.proper_ofString _) root here

theorem Layout.found (layout : Layout root st s) :
    s.view.node? true root = some (root.place s.here, .folder) ∧
      s.tree.node? (root.place s.here) = some .folder ∧
      ∀ q ∈ root.way s.here, s.tree.node? q = some .folder := by
  have hv := layout.there
  unfold View.isFolder at hv
  split at hv
  · next place hn =>
    have ht := viewed_iff.mp hn
    obtain ⟨rfl, way⟩ : place = root.place s.here ∧ _ :=
      target_spelled layout.free layout.proper ht
    refine ⟨hn, target_holds ht, fun q hq => ?_⟩
    by_cases he : q = root.place s.here
    · subst he
      exact target_holds ht
    · exact way q hq he
  · cases hv

theorem Layout.bench (layout : Layout root st s) {gone : Bool} {s₁ s₂ : Session}
    (cleaned : Cleaned ((docsPath root st).place s.here) gone s s₁)
    (made : Made (stagingPath root st) s₁ s₂) :
    Bench root (stagingPath root st) st.patterns (root.place s.here)
      ((stagingPath root st).place s.here) s₂ := by
  obtain ⟨there, top, _⟩ := layout.found
  have here : s₂.here = s.here := made.here.trans cleaned.here
  have way : ∀ q ∈ root.way s.here, s₂.tree.node? q = some .folder := by
    intro q hq
    apply made.folders q
    rw [cleaned.here]
    exact (layout.staging.mem_way (Path.proper_ofString _) root).mpr (.inl hq)
  -- the root is above the docs, so that it has not gone with them
  have above : ¬ (docsPath root st).place s.here <+: root.place s.here := by
    rw [docsPath, layout.docs.place_join (Path.proper_ofString _)]
    intro h
    have := h.length_le
    have := List.length_pos_iff.mpr layout.docs.names
    rw [List.length_append] at *
    omega
  have top_ := made.folder (cleaned.folders _ top above)
  exact {
    free := made.linkFree (cleaned.free layout.free)
    there := View.node?_of_folders layout.free layout.proper there here way top_
    way := here ▸ way
    place := by rw [here]
    below := by
      have := List.length_pos_iff.mpr layout.staging.names
      rw [layout.staging_place, List.length_append]
      omega
    sources := by
      intro n hn hl
      rw [made.logFile] at hl
      exact layout.sources n hn (cleaned.logFile _ hl)
    copies := by
      intro n hn hl
      rw [made.logFile] at hl
      exact layout.copies n hn (cleaned.logFile _ hl) }

/-- The entries of the root still have names that entries can have: one that is new is the
first folder on the way from there to the copies. -/
theorem Layout.named_still (layout : Layout root st s) {gone : Bool} {s₁ s₂ : Session}
    (cleaned : Cleaned ((docsPath root st).place s.here) gone s s₁)
    (made : Made (stagingPath root st) s₁ s₂) : s₂.tree.NamedAt (root.place s.here) := by
  have proper := Path.proper_ofString st.stagingDir
  intro n hn
  by_cases hw : root.place s.here ++ [n] ∈ (stagingPath root st).way s₁.here
  · rw [cleaned.here] at hw
    obtain hr | ⟨ms, _, hms, he⟩ := (layout.staging.mem_way proper root).mp hw
    · apply layout.named n
      rw [layout.found.2.2 _ hr]
      rfl
    · obtain rfl : [n] = ms := List.append_cancel_left he
      have hm : n ∈ (Path.ofString st.stagingDir).names := hms.subset (by simp)
      have noNul : hasNul n = false := by
        rw [← Bool.not_eq_true]
        intro hnul
        have nul : hasNul (stagingPath root st).toString = true := by
          refine (Path.hasNul_toString _).mpr ⟨n, ?_, hnul⟩
          rw [stagingPath, Path.join_names_of_relative _ _ layout.staging.relative]
          exact List.mem_append_right _ hm
        rw [made.noNul] at nul
        cases nul
      exact ⟨proper n hm, fun he => layout.staging.down (he ▸ hm), noNul⟩
  · rw [made.elsewhere _ hw] at hn
    exact layout.named n (cleaned.fewer _ hn)

theorem Cleaned.readied {gone : Bool} {s₁ s₂ : Session}
    (cleaned : Cleaned ((docsPath root st).place s.here) gone s s₁)
    (made : Made (stagingPath root st) s₁ s₂) : Readied root st gone s s₂ := by
  obtain ⟨_, folders, before, elsewhere, here, logFile⟩ := made
  rw [cleaned.here] at folders before elsewhere
  constructor
  · exact folders
  · intro q hq hl
    rw [elsewhere q hq, cleaned.nodes q hl]
  · intro q n hq hl hd hn
    apply before q n hq
    rw [cleaned.nodes q hl, if_neg hd, hn]
  · exact here.trans cleaned.here
  · exact fun q hq => cleaned.logFile q (logFile ▸ hq)

theorem codecOf_ok {k : Codec} (h : outcome (codecOf st) s = .ok k) : st.codec = .ok k := by
  unfold codecOf at h
  split at h
  · next k' hk =>
    obtain rfl := Except.ok.inj h
    exact hk
  · cases h

theorem codecOf_of_ok {k : Codec} (h : st.codec = .ok k) (s : Session) :
    outcome (codecOf st) s = .ok k := by
  unfold codecOf
  rw [h]
  rfl

theorem readied_ok (layout : Layout root st s) {cleaning : Option Bool} {gone : Bool} {k : Codec}
    {sources : List Path} (h : outcome (readied root st cleaning) s = .ok (gone, k, sources)) :
    let ready := after (readied root st cleaning) s
    st.codec = .ok k ∧
      (gone = true ↔ cleaning.getD st.cleanDocs = true ∧
        s.view.isFolder (docsPath root st) = true) ∧
      Readied root st gone s ready ∧
      Bench root (stagingPath root st) st.patterns (root.place s.here)
        ((stagingPath root st).place s.here) ready ∧
      ready.tree.NamedAt (root.place s.here) ∧
      outcome (candidates root st.patterns) ready = .ok sources := by
  have docs : (docsPath root st).Proper := layout.proper.join (Path.proper_ofString _)
  have staging : (stagingPath root st).Proper := layout.proper.join (Path.proper_ofString _)
  dsimp only
  unfold readied at h ⊢
  rw [show root.join (Path.ofString st.stagingDir) = stagingPath root st from rfl] at h ⊢
  obtain ⟨gone', hg, h, ha⟩ := ok_of_bind h
  rw [ha]
  obtain ⟨k', hk, h, ha⟩ := ok_of_bind h
  rw [ha]
  obtain ⟨_, hm, h, ha⟩ := ok_of_bind h
  rw [ha]
  obtain ⟨ps, hc, h, ha⟩ := ok_of_bind h
  rw [ha]
  rw [outcome_pure] at h
  cases h
  rw [codecOf_looks] at hm hc ⊢
  rw [candidates_looks, after_pure]
  have named : root.join (Path.ofString st.docsDir) = docsPath root st := rfl
  obtain ⟨wanted, cleaned⟩ := cleanIfWanted_cleaned layout.free docs named hg
  have made := makePath_made (cleaned.free layout.free) staging hm
  exact ⟨codecOf_ok hk, wanted, cleaned.readied made, layout.bench cleaned made,
    layout.named_still cleaned made, hc⟩

/-- The order and the repetition of patterns have no say in what is made ready. -/
theorem readied_congr {cleaning : Option Bool} {gone : Bool} {k : Codec} {sources : List Path}
    {others : List String} (same : ∀ pattern, pattern ∈ others ↔ pattern ∈ st.patterns)
    (h : outcome (readied root st cleaning) s = .ok (gone, k, sources)) :
    outcome (readied root { st with patterns := others } cleaning) s = .ok (gone, k, sources) ∧
      after (readied root { st with patterns := others } cleaning) s =
        after (readied root st cleaning) s := by
  unfold readied at h ⊢
  obtain ⟨gone', hg, h, ha⟩ := ok_of_bind h
  obtain ⟨k', hk, h, hb⟩ := ok_of_bind h
  obtain ⟨_, hm, h, hc⟩ := ok_of_bind h
  obtain ⟨ps, hp, h, hd⟩ := ok_of_bind h
  rw [ha, hb, hc, hd]
  have clean_ : cleanIfWanted root { st with patterns := others } cleaning =
      cleanIfWanted root st cleaning := rfl
  have codec_ : codecOf { st with patterns := others } = codecOf st := rfl
  have hp' := candidates_congr same hp
  rw [clean_, codec_, (bind_of_ok hg _).1, (bind_of_ok hg _).2, (bind_of_ok hk _).1,
    (bind_of_ok hk _).2, (bind_of_ok hm _).1, (bind_of_ok hm _).2, (bind_of_ok hp' _).1,
    (bind_of_ok hp' _).2, candidates_looks, candidates_looks]
  rw [candidates_looks] at h
  exact ⟨h, rfl⟩

theorem Copied.noted {names : List String} (h : Copied k folder texts names s s')
    (unlogged : ∀ n ∈ names, s.logFile ≠ some (folder ++ [n])) (level : Nat) (message : String) :
    Copied k folder texts names s (after (stagingLog level message) s') := by
  have noted : Copied k folder texts [] s' (after (stagingLog level message) s') :=
    .logged (.record s' _) (List.forall_mem_nil _)
  have both := h.trans noted unlogged
  rwa [List.append_nil] at both

/-- What there is, and what is said, once the docs have been prepared. The names are those
of the candidates, which are looked for in the tree that is ready for the copies. -/
structure Prepared (root : Path) (st : Settings) (cleaning : Option Bool) (k : Codec)
    (names : List String) (r : StagingResult) (s ready s' : Session) : Prop where
  cleaned : r.docsCleaned = true ↔
    cleaning.getD st.cleanDocs = true ∧ s.view.isFolder (docsPath root st) = true
  readied : Readied root st r.docsCleaned s ready
  ordered : names.Pairwise (· < ·)
  candidates : ∀ n, n ∈ names ↔
    (ready.tree.node? (root.place s.here ++ [n])).isSome = true ∧
      standFor st.patterns n = true
  stagingDir : r.stagingDir = some (stagingPath root st)
  enabled : r.disabled = false
  written : r.written = (names.filter fun n =>
    (textIn ready.tree (root.place s.here) n).isSome).map (stagingPath root st).child
  skipped : r.skipped = names.filter fun n =>
    (textIn ready.tree (root.place s.here) n).isNone
  folders : ∀ q ∈ (stagingPath root st).way s.here, s'.tree.node? q = some .folder
  copies : ∀ n ∈ names, ∀ text, textIn ready.tree (root.place s.here) n = some text →
    s'.tree.node? ((stagingPath root st).place s.here ++ [n]) =
      some (.file (Utf8.encode (k.sanitize text)))
  elsewhere : ∀ q, q ∉ (stagingPath root st).way s.here → s.logFile ≠ some q →
    (∀ n ∈ names, (textIn ready.tree (root.place s.here) n).isSome = true →
      q ≠ (stagingPath root st).place s.here ++ [n]) →
    s'.tree.node? q = if r.docsCleaned = true ∧ (docsPath root st).place s.here <+: q then none
      else s.tree.node? q

/-- Whenever the docs have been prepared, they have been cleaned as it was wanted, each
candidate has been copied if it is a text and named as skipped if it is not, and all else is
as it was. The order and the repetition of patterns have no say in it. -/
theorem prepare_stages (layout : Layout root st s) (cleaning : Option Bool) {r : StagingResult}
    (h : outcome (prepare root st cleaning) s = .ok r) :
    (∃ k names, st.codec = .ok k ∧ Prepared root st cleaning k names r s
      (after (readied root st cleaning) s) (after (prepare root st cleaning) s)) ∧
    ∀ others, (∀ pattern, pattern ∈ others ↔ pattern ∈ st.patterns) →
      outcome (prepare root { st with patterns := others } cleaning) s = .ok r ∧
        after (prepare root { st with patterns := others } cleaning) s =
          after (prepare root st cleaning) s := by
  rw [prepare_eq root cleaning layout.enabled] at h ⊢
  obtain ⟨⟨gone, k, sources⟩, hr, hs, ha⟩ := ok_of_bind h
  obtain ⟨hk, wanted, ready, bench, named, hc⟩ := readied_ok layout hr
  constructor
  · rw [ha]
    generalize after (readied root st cleaning) s = s₁ at *
    have proper : (stagingPath root st).Proper := layout.proper.join (Path.proper_ofString _)
    obtain ⟨names, rfl, ordered, member⟩ :=
      candidates_flat bench.free named layout.proper bench.there layout.flat hc
    have wanted_ : ∀ n ∈ names, Wanted st.patterns n := by
      intro n hn
      obtain ⟨there, stands⟩ := (member n).mp hn
      exact ⟨named n there, stands⟩
    obtain ⟨result, hall, hs, ha'⟩ := ok_of_bind hs
    have texts : ∀ n ∈ names, textIn s₁.tree (root.place s.here) n =
        textIn s₁.tree (root.place s.here) n := fun _ _ => rfl
    obtain ⟨rfl, copied⟩ := stageAll_copied bench layout.proper proper wanted_ texts hall
    obtain ⟨_, hl, hs, ha''⟩ := ok_of_bind hs
    rw [outcome_pure] at hs
    obtain rfl := Except.ok.inj hs
    rw [ha', ha'', after_pure]
    have unlogged : ∀ n ∈ names, s₁.logFile ≠ some ((stagingPath root st).place s.here ++ [n]) :=
      fun n hn => bench.copies n (wanted_ n hn).stands
    have done := copied.noted unlogged
    exact ⟨k, names, hk, {
      cleaned := wanted
      readied := ready
      ordered := ordered
      candidates := member
      stagingDir := rfl
      enabled := rfl
      written := by simp [accounted]
      skipped := by simp [accounted]
      folders := fun q hq => (done _ _).folders q (ready.folders q hq)
      copies := (done _ _).copies
      elsewhere := fun q hq hl hne =>
        ((done _ _).elsewhere q hne fun h => hl (ready.logFile q h)).trans
          (ready.elsewhere q hq hl) }⟩
  · intro others same
    obtain ⟨hr', hafter⟩ := readied_congr same hr
    have enabled : ({ st with patterns := others } : Settings).disabled = false := layout.enabled
    rw [prepare_eq root cleaning enabled, (bind_of_ok hr' _).1, (bind_of_ok hr' _).2, hafter, ha]
    exact ⟨hs, rfl⟩

/-- A root with a text, a file that is no text, a folder with the name of one, and docs. -/
def draftProject : Session where
  tree := ⟨[(["p"], .folder), (["p", "a.md"], .file (Utf8.encode "\x7ba\x7d".toList)),
    (["p", "b.md"], .file [0xFF]), (["p", "c.txt"], .folder), (["p", "docs"], .folder),
    (["p", "docs", "a.html"], .file [])]⟩
  here := ["p"]
  programs := fun v _ _ => (.missing, v.tree)
  clock := ⟨"", ""⟩

def projectRoot : Path := ⟨.absolute, ["p"]⟩

theorem draftProject_layout : Layout projectRoot {} draftProject where
  enabled := rfl
  free := by decide +kernel
  proper := by decide +kernel
  there := by decide +kernel
  named := by decide +kernel
  staging := by decide +kernel
  docs := by decide +kernel
  flat := by decide +kernel
  sources _ _ := nofun
  copies _ _ := nofun

def projectSources : List Path := ["a.md", "b.md", "c.txt"].map projectRoot.child

theorem draftProject_candidates : outcome (candidates projectRoot ({} : Settings).patterns)
    (after (makePath (stagingPath projectRoot {}))
      (after (cleanIfWanted projectRoot {} (some true)) draftProject)) = .ok projectSources := by
  have found : (({} : Settings).patterns.mapM fun pattern => outcome (select projectRoot pattern)
      (after (makePath (stagingPath projectRoot {}))
        (after (cleanIfWanted projectRoot {} (some true)) draftProject))).toOption =
      some [["a.md", "b.md"].map projectRoot.child, [], [projectRoot.child "c.txt"], []] := by
    decide +kernel
  have sorted : Path.sort projectSources = projectSources :=
    Path.sort_of_ordered (by decide +kernel) (by decide +kernel)
  rw [outcome_candidates, ok_of_toOption found]
  exact congrArg Except.ok sorted

theorem draftProject_readied : outcome (readied projectRoot {} (some true)) draftProject =
      .ok (true, .default, projectSources) ∧
    after (readied projectRoot {} (some true)) draftProject =
      after (makePath (stagingPath projectRoot {}))
        (after (cleanIfWanted projectRoot {} (some true)) draftProject) := by
  have cleaned : outcome (cleanIfWanted projectRoot {} (some true)) draftProject = .ok true :=
    ok_of_toOption (by decide +kernel)
  have codec_ : outcome (codecOf {})
      (after (cleanIfWanted projectRoot {} (some true)) draftProject) = .ok .default := rfl
  have made : outcome (makePath (stagingPath projectRoot {}))
      (after (cleanIfWanted projectRoot {} (some true)) draftProject) = .ok () :=
    ok_of_toOption (by decide +kernel)
  unfold readied
  rw [show projectRoot.join (Path.ofString ({} : Settings).stagingDir) =
    stagingPath projectRoot {} from rfl]
  rw [(bind_of_ok cleaned _).1, (bind_of_ok cleaned _).2, (bind_of_ok codec_ _).1,
    (bind_of_ok codec_ _).2, codecOf_looks, (bind_of_ok made _).1, (bind_of_ok made _).2,
    (bind_of_ok draftProject_candidates _).1, (bind_of_ok draftProject_candidates _).2,
    candidates_looks, outcome_pure, after_pure]
  exact ⟨rfl, rfl⟩

theorem prepare_stages_draft : Layout projectRoot {} draftProject ∧ ∃ r k names,
    outcome (prepare projectRoot {} (some true)) draftProject = .ok r ∧
      Prepared projectRoot {} (some true) k names r draftProject
        (after (readied projectRoot {} (some true)) draftProject)
        (after (prepare projectRoot {} (some true)) draftProject) ∧
      r.docsCleaned = true ∧ r.written = [(stagingPath projectRoot {}).child "a.md"] ∧
      r.skipped = ["b.md", "c.txt"] := by
  obtain ⟨hr, ha⟩ := draftProject_readied
  have staged : outcome (projectSources.foldlM (stageOne .default (stagingPath projectRoot {}))
      { stagingDir := some (stagingPath projectRoot {}) })
      (after (readied projectRoot {} (some true)) draftProject) =
      .ok { stagingDir := some (stagingPath projectRoot {}),
            written := [(stagingPath projectRoot {}).child "a.md"],
            skipped := ["b.md", "c.txt"] } := by
    rw [ha]
    exact ok_of_toOption (by decide +kernel)
  have prepared : outcome (prepare projectRoot {} (some true)) draftProject = .ok
      { stagingDir := some (stagingPath projectRoot {}),
        written := [(stagingPath projectRoot {}).child "a.md"],
        skipped := ["b.md", "c.txt"], docsCleaned := true } := by
    rw [prepare_eq _ _ rfl, (bind_of_ok hr _).1]
    dsimp only
    rw [show projectRoot.join (Path.ofString ({} : Settings).stagingDir) =
      stagingPath projectRoot {} from rfl, (bind_of_ok staged _).1]
    rfl
  obtain ⟨⟨k, names, _, done⟩, _⟩ := prepare_stages draftProject_layout (some true) prepared
  exact ⟨draftProject_layout, _, k, names, prepared, done, rfl, rfl, rfl⟩

end DocBraces.Docs
