import DocBraces.Proofs.Docs.Turns
import DocBraces.Proofs.Files.Depth
import DocBraces.Proofs.Files.Rooted

/-!
# Restored pages

The pages below the docs directory are listed first, which fails where folders lie too deep
or a path is too long. Then each has its turn, and a second run finds nothing left to do.
-/

set_option autoImplicit false

namespace DocBraces.Docs

open DocBraces.Files DocBraces.Session DocBraces.Text

variable {s s' : Session}

def pagesBelow (s : Session) (docs : Path) : List Path :=
  match Glob.find s.view s.levels docs pagePattern with
  | .ok found => Path.sort found
  | .error _ => []

def Untouched (s s' : Session) : Prop :=
  ∀ q, s.logFile ≠ some q → s'.tree.node? q = s.tree.node? q

theorem SettledAt.untouched (h : SettledAt (fun _ => False) s s') : Untouched s s' :=
  fun q => h.elsewhere q id

/-- Where nothing has been settled, noting something more touches no other node. -/
theorem SettledAt.record_untouched (h : SettledAt (fun _ => False) s s') (r : Log.Record)
    (distinct : s.tree.Distinct) : Untouched s (s'.record r) := by
  have noted := SettledAt.noted (h.rewritten.distinct distinct) r
  have both : SettledAt (fun _ => False) s (s'.record r) :=
    h.trans noted (fun q => by simp) fun _ => False.elim
  exact fun q hl => both.elsewhere q id hl

def doneNote (docs : Path) (r : PagesResult) : Log.Record where
  logger := pagesLogger
  level := Log.infoLevel
  message := s!"Post-processed {r.scanned} HTML file(s) in {docs.toString} " ++
    s!"({r.changed.length} changed)"

section
variable (root : Path) {st : Settings}

theorem postprocess_disabled (h : st.disabled = true) (s : Session) :
    (postprocess root st).run s = (.ok { disabled := true }, s) := by
  unfold postprocess
  rw [h]
  rfl

def overPages (docs : Path) (s : Session) : Run PagesResult :=
  match Glob.find s.view s.levels docs pagePattern with
  | .ok found => restoreAll (Path.sort found) { docsDir := some docs }
  | .error (.file f) => stopAt { docsDir := some docs } f
  | .error .tooDeep => throw .tooDeep

def finish (docs : Path) (r : PagesResult) : Run PagesResult := do
  pagesLog (doneNote docs r).level (doneNote docs r).message
  return r

theorem postprocess_passes (enabled : st.disabled = false) {docs : Path}
    (hdocs : root.join (Path.ofString st.docsDir) = docs) (there : s.view.isFolder docs = true) :
    outcome (postprocess root st) s = outcome (overPages docs s >>= finish docs) s ∧
      after (postprocess root st) s = after (overPages docs s >>= finish docs) s := by
  unfold postprocess
  dsimp only
  rw [if_neg (by simp [enabled]), hdocs, outcome_bind, after_bind, isFolder_looks,
    viewed_isFolder.mp there]
  dsimp only
  rw [if_pos rfl, outcome_get_bind, after_get_bind]
  unfold overPages
  cases Glob.find s.view s.levels docs pagePattern with
  | ok found => exact ⟨rfl, rfl⟩
  | error f => cases f <;> exact ⟨rfl, rfl⟩

theorem postprocess_there (enabled : st.disabled = false) {docs : Path}
    (hdocs : root.join (Path.ofString st.docsDir) = docs)
    (there : s.view.isFolder docs = true) {r : PagesResult}
    (hr : outcome (overPages docs s) s = .ok r) :
    outcome (postprocess root st) s = .ok r ∧
      after (postprocess root st) s = (after (overPages docs s) s).record (doneNote docs r) := by
  obtain ⟨ho, ha⟩ := postprocess_passes root enabled hdocs there
  rw [ho, ha, (bind_of_ok hr _).1, (bind_of_ok hr _).2]
  exact ⟨rfl, rfl⟩

theorem postprocess_not_there (distinct : s.tree.Distinct)
    (absent : s.view.isFolder (root.join (Path.ofString st.docsDir)) = false) :
    Untouched s (after (postprocess root st) s) := by
  unfold postprocess
  dsimp only
  split
  · exact fun _ _ => rfl
  · rw [after_bind, isFolder_looks]
    cases hf : outcome (isFolder (root.join (Path.ofString st.docsDir))) s with
    | error f => exact fun _ _ => rfl
    | ok there =>
      cases there with
      | true => simp [viewed_isFolder.mpr hf] at absent
      | false => exact SettledAt.record_untouched (.refl fun _ => id) _ distinct

theorem postprocess_run (enabled : st.disabled = false) {docs : Path}
    (hdocs : root.join (Path.ofString st.docsDir) = docs)
    (there : s.view.isFolder docs = true) {found : List Path}
    (hfind : Glob.find s.view s.levels docs pagePattern = .ok found) (distinct : s.tree.Distinct)
    (apart : Unlogged s (Path.sort found)) :
    let ran := after (restoreAll (Path.sort found) { docsDir := some docs }) s
    SettledAt (Reached s (through (Path.sort found) s)) s (after (postprocess root st) s) ∧
      SettledAt (fun _ => False) ran (after (postprocess root st) s) ∧
      ∃ r, outcome (postprocess root st) s = .ok r ∧
        Accounts (Path.sort found) s { docsDir := some docs } r := by
  obtain ⟨settles, r, hr, account⟩ :=
    restoreAll_accounts distinct (Path.sort found) apart { docsDir := some docs }
  have passes : overPages docs s = restoreAll (Path.sort found) { docsDir := some docs } := by
    rw [overPages, hfind]
  obtain ⟨ho, ha⟩ := postprocess_there root enabled hdocs there (passes ▸ hr)
  have noted := SettledAt.noted (settles.rewritten.distinct distinct) (doneNote docs r)
  dsimp only
  rw [ha, passes]
  exact ⟨settles.trans noted (fun q => by simp) apart.through, noted, r, ho, account⟩

theorem postprocess_again (enabled : st.disabled = false) {docs : Path}
    (hdocs : root.join (Path.ofString st.docsDir) = docs)
    (there : s.view.isFolder docs = true) {found : List Path}
    (hfind : Glob.find s.view s.levels docs pagePattern = .ok found) (distinct : s.tree.Distinct)
    (apart : Unlogged s (Path.sort found)) {r : PagesResult}
    (hr : outcome (postprocess root st) s = .ok r)
    (hs : after (postprocess root st) s = s') :
    outcome (postprocess root st) s' = .ok { r with changed := [] } ∧
      Untouched s' (after (postprocess root st) s') := by
  obtain ⟨settles, since, _, ho, account⟩ :=
    postprocess_run root enabled hdocs there hfind distinct apart
  obtain rfl := Except.ok.inj (hr.symm.trans ho)
  rw [hs] at settles since
  have h := settles.rewritten
  obtain ⟨same_, fault, unchanged⟩ := turns_again distinct apart _ since
  obtain ⟨again, hagain, same⟩ := h.find hfind
  obtain ⟨settles', _, r', hr', account'⟩ :=
    postprocess_run root enabled hdocs (h.view.isFolder docs ▸ there) hagain
      (h.distinct distinct) (same ▸ apart.rewritten h)
  rw [same] at settles' account'
  refine ⟨hr'.trans (congrArg _ ?_), (settles'.idle ?_).untouched⟩
  · have legible : ∀ p ∈ through (Path.sort found) s, illegible s' p = illegible s p :=
      fun p hp => settles.illegible (apart.through.mono (by simp [hp]))
    have count : (turns (Path.sort found) s').length = (turns (Path.sort found) s).length := by
      simpa [through] using congrArg List.length same_
    have hd : r'.docsDir = r.docsDir := account'.docsDir.trans account.docsDir.symm
    have hn : r'.scanned = r.scanned := by rw [account'.scanned, account.scanned, count]
    have hc : r'.changed = [] := by
      rw [account'.changed, unchanged]
      rfl
    have hk : r'.skipped = r.skipped := by
      rw [account'.skipped, account.skipped, same_, List.filter_congr legible]
    have he : r'.error = r.error := by rw [account'.error, account.error, fault]
    have hb : r'.disabled = r.disabled := account'.disabled.trans account.disabled.symm
    obtain ⟨_, _, _, _, _, _⟩ := r'
    simp_all
  · rintro q ⟨page, hp, bytes, hf⟩
    rw [same_] at hp
    obtain ⟨other, ho, hn⟩ := fileOf_rewritten h.symm hf
    have now := settles.within q other ⟨page, hp, other, ho⟩ hn
    rw [fileOf_node? hf] at now
    obtain rfl : bytes = settled other := by simpa using now
    exact ⟨_, fileOf_node? hf, settled_settled other⟩

/-- The account and the effect of a run over pages of which the first `k` get through. -/
structure Settles (docs : Path) (pages : List Path) (k : Nat) (s s' : Session)
    (r : PagesResult) : Prop where
  docsDir : r.docsDir = some docs
  enabled : r.disabled = false
  scanned : r.scanned = min (k + 1) pages.length
  error : r.error = (firstFault pages s).map stopText
  error_iff : r.error.isSome = true ↔ k < pages.length
  turns : (turns pages s).map Prod.fst = pages.take k
  changed : r.changed = ((Docs.turns pages s).filter fun turn => changes turn.2 turn.1).map Prod.fst
  skipped : r.skipped = (pages.take k).filter (illegible s)
  restored : ∀ page ∈ pages.take k, ∀ q bytes text, fileOf s page = some (q, bytes) →
    Utf8.decode bytes = .ok text →
      s'.tree.node? q = some (.file (Utf8.encode (Codec.default.restore text)))
  kept : ∀ page ∈ pages.take k, ∀ q bytes fault, fileOf s page = some (q, bytes) →
    Utf8.decode bytes = .error fault → s'.tree.node? q = some (.file bytes)
  elsewhere : ∀ q, ¬ Reached s (pages.take k) q → s.logFile ≠ some q →
    s'.tree.node? q = s.tree.node? q

theorem through_eq_take (s : Session) (pages : List Path) :
    through pages s = pages.take (turns pages s).length := by
  have taken := List.prefix_iff_eq_take.mp (through_initial pages s)
  rwa [through, List.length_map] at taken

theorem Accounts.settles {docs : Path} {pages : List Path} {r : PagesResult}
    (account : Accounts pages s { docsDir := some docs } r)
    (settles : SettledAt (Reached s (through pages s)) s s') :
    Settles docs pages (turns pages s).length s s' r := by
  have take := through_eq_take s pages
  have error_ : r.error = (firstFault pages s).map stopText := account.error.trans Option.or_none
  rw [take] at settles
  refine ⟨account.docsDir, account.disabled, ?_, error_, ?_, take, ?_, ?_, ?_, ?_,
    settles.elsewhere⟩
  · rw [account.scanned, Nat.zero_add]
  · rw [error_, Option.isSome_map, firstFault_isSome]
  · rw [account.changed, List.nil_append]
  · rw [account.skipped, take, List.nil_append]
  · intro page hp q bytes text hf hd
    rw [settles.within q bytes ⟨page, hp, bytes, hf⟩ (fileOf_node? hf), settled_of_ok hd]
  · intro page hp q bytes fault hf hd
    rw [settles.within q bytes ⟨page, hp, bytes, hf⟩ (fileOf_node? hf), settled_of_error hd]

section
variable {docs : Path}

theorem find_pages (there : s.view.isFolder docs = true) :
    Glob.find s.view s.levels docs pagePattern =
      s.view.walk (Glob.select s.view s.levels false [.like (Glob.units "*.html")]) s.levels
        docs := by
  obtain ⟨place, hv⟩ : ∃ place, s.view.node? true docs = some (place, .folder) := by
    unfold View.isFolder at there
    split at there
    · next place hv => exact ⟨place, hv⟩
    · cases there
  rw [Glob.find, if_neg (by simp [View.not_isOverlong hv]), if_pos there]
  rfl

theorem look_error {us : List Glob.Unit} {q : Path} {f : WalkFault}
    (h : Glob.select s.view s.levels false [.like us] q = .error f) :
    s.view.isOverlong q = true ∧ f = .file ⟨.nameTooLong, q.toString⟩ := by
  rw [Glob.select_like] at h
  cases hs : s.view.scan q with
  | ok names => simp [hs, Except.map] at h
  | error g =>
    rw [hs] at h
    obtain rfl := Except.error.inj h
    exact View.scan_error hs

/-- Pages are listed only if no folder lies too deep and no path of one is too long. -/
theorem listed (there : s.view.isFolder docs = true) {ps : List Path}
    (h : Glob.find s.view s.levels docs pagePattern = .ok ps) :
    ¬ s.view.Nests s.levels docs ∧ ∀ q, s.view.Below docs q → s.view.isOverlong q = false := by
  rw [find_pages there] at h
  exact ⟨View.walk_not_nests h, fun q => View.walk_short h⟩

theorem unlisted_file (there : s.view.isFolder docs = true) {f : Fault}
    (h : Glob.find s.view s.levels docs pagePattern = .error (.file f)) :
    ∃ q, s.view.Below docs q ∧ s.view.isOverlong q = true := by
  rw [find_pages there] at h
  exact View.walk_file (fun q g hq => (look_error hq).1) h

theorem unlisted_deep (there : s.view.isFolder docs = true)
    (h : Glob.find s.view s.levels docs pagePattern = .error .tooDeep) :
    s.view.Nests s.levels docs := by
  rw [find_pages there] at h
  exact View.walk_tooDeep (fun q hq => nomatch (look_error hq).2) h

end

theorem postprocess_unlisted (enabled : st.disabled = false) {docs : Path}
    (hdocs : root.join (Path.ofString st.docsDir) = docs)
    (there : s.view.isFolder docs = true) {f : Fault}
    (hfind : Glob.find s.view s.levels docs pagePattern = .error (.file f))
    (distinct : s.tree.Distinct) :
    outcome (postprocess root st) s =
        .ok { docsDir := some docs, error := some (stopText f) } ∧
      Untouched s (after (postprocess root st) s) ∧
      (s.logFile = none → (after (postprocess root st) s).view = s.view ∧
        (after (postprocess root st) s).levels = s.levels) := by
  have passes : overPages docs s = stopAt { docsDir := some docs } f := by
    rw [overPages, hfind]
  obtain ⟨ho, ha⟩ :=
    postprocess_there root enabled hdocs there (passes ▸ outcome_stopAt _ f s)
  rw [ha, passes]
  refine ⟨ho, SettledAt.record_untouched (.noted distinct _) _ distinct, fun silent => ?_⟩
  have stopped : after (stopAt { docsDir := some docs } f) s = s.record (stopNote f) := rfl
  rw [stopped, record_levels, record_levels, view, record_here, record_here,
    record_tree _ ((record_logFile s _).trans silent), record_tree _ silent]
  exact ⟨rfl, rfl⟩

theorem postprocess_deep (enabled : st.disabled = false) {docs : Path}
    (hdocs : root.join (Path.ofString st.docsDir) = docs)
    (there : s.view.isFolder docs = true)
    (hfind : Glob.find s.view s.levels docs pagePattern = .error .tooDeep) :
    outcome (postprocess root st) s = .error .tooDeep ∧ after (postprocess root st) s = s := by
  have passes : overPages docs s = throw .tooDeep := by
    rw [overPages, hfind]
  obtain ⟨ho, ha⟩ := postprocess_passes root enabled hdocs there
  rw [ho, ha, passes]
  exact ⟨rfl, rfl⟩

/-- Postprocessing of a docs directory that is there ends with the right account where its
pages are listed, and a second run with the same one but for the changes, of which there
are none. No list comes of folders that lie too deep, which is a failure, or of a path that
is too long, which is reported; then nothing is touched. Nor is it where the docs directory
is not there, or nothing is to be done. -/
theorem postprocess_settles (root : Path) (st : Settings) (s : Session)
    (distinct : s.tree.Distinct)
    (apart : Unlogged s (pagesBelow s (root.join (Path.ofString st.docsDir)))) :
    let docs := root.join (Path.ofString st.docsDir)
    let s' := after (postprocess root st) s
    (st.disabled = false → s.view.isFolder docs = true →
      match Glob.find s.view s.levels docs pagePattern with
      | .ok found =>
        (¬ s.view.Nests s.levels docs ∧
          ∀ q, s.view.Below docs q → s.view.isOverlong q = false) ∧
        ∃ r, outcome (postprocess root st) s = .ok r ∧
          Settles docs (Path.sort found) (turns (Path.sort found) s).length s s' r ∧
          outcome (postprocess root st) s' = .ok { r with changed := [] } ∧
          Untouched s' (after (postprocess root st) s')
      | .error (.file f) =>
        (∃ q, s.view.Below docs q ∧ s.view.isOverlong q = true) ∧
        outcome (postprocess root st) s =
          .ok { docsDir := some docs, error := some (stopText f) } ∧
        Untouched s s' ∧
        (s.logFile = none → outcome (postprocess root st) s' = outcome (postprocess root st) s ∧
          Untouched s' (after (postprocess root st) s'))
      | .error .tooDeep =>
        s.view.Nests s.levels docs ∧ outcome (postprocess root st) s = .error .tooDeep ∧
        s' = s) ∧
    (st.disabled = true ∨ s.view.isFolder docs = false → Untouched s s') := by
  dsimp only
  refine ⟨fun enabled there => ?_, ?_⟩
  · unfold pagesBelow at apart
    split
    · next found hfind =>
      rw [hfind] at apart
      obtain ⟨settles, _, r, hr, account⟩ :=
        postprocess_run root enabled rfl there hfind distinct apart
      exact ⟨listed there hfind, r, hr, account.settles settles,
        postprocess_again root enabled rfl there hfind distinct apart hr rfl⟩
    · next f hfind =>
      obtain ⟨ho, untouched, same⟩ :=
        postprocess_unlisted root enabled rfl there hfind distinct
      refine ⟨unlisted_file there hfind, ho, untouched, fun silent => ?_⟩
      obtain ⟨view, levels⟩ := same silent
      have tree : (after (postprocess root st) s).tree = s.tree := congrArg View.tree view
      obtain ⟨ho', untouched', _⟩ := postprocess_unlisted root enabled rfl (view ▸ there)
        (by rw [view, levels, hfind]) (tree ▸ distinct)
      exact ⟨ho'.trans ho.symm, untouched'⟩
    · next hfind =>
      exact ⟨unlisted_deep there hfind, postprocess_deep root enabled rfl there hfind⟩
  · rintro (disabled | absent)
    · rw [after, postprocess_disabled root disabled s]
      exact fun _ _ => rfl
    · exact postprocess_not_there root distinct absent

end

/-- A docs directory with a page to restore, one that is no text, a link to the first one,
and three that cannot be written, of which one has nothing to restore. -/
def smallSite : Session where
  tree := ⟨[(["p"], .folder), (["p", "docs"], .folder),
    (["p", "docs", "a.html"], .file (Utf8.encode "｛a｝".toList)),
    (["p", "docs", "b.html"], .file [0xFF]),
    (["p", "docs", "c.html"], .link "a.html"),
    (["p", "docs", "d.html"], .file (Utf8.encode "d".toList)),
    (["p", "docs", "e.html"], .file (Utf8.encode "｛e｝".toList)),
    (["p", "docs", "f.html"], .file (Utf8.encode "｛f｝".toList))]⟩
  here := ["p"]
  locked
    | .reading => []
    | .writing => ["d.html", "e.html", "f.html"].map fun name => ["p", "docs", name]
  programs := fun v _ _ => (.missing, v.tree)
  clock := ⟨"", ""⟩

def siteRoot : Path := ⟨.absolute, ["p"]⟩

def siteDocs : Path := ⟨.absolute, ["p", "docs"]⟩

def sitePages : List Path :=
  ["a.html", "b.html", "c.html", "d.html", "e.html", "f.html"].map siteDocs.child

theorem siteDocs_eq : siteRoot.join (Path.ofString ({} : Settings).docsDir) = siteDocs := by
  decide +kernel

theorem smallSite_there : smallSite.view.isFolder siteDocs = true := by decide +kernel

theorem smallSite_pages :
    Glob.find smallSite.view smallSite.levels siteDocs pagePattern = .ok sitePages :=
  ok_of_toOption (by decide +kernel)

theorem smallSite_sorted : Path.sort sitePages = sitePages :=
  Path.sort_of_ordered (by decide +kernel) (by decide +kernel)

/-- The fifth page ends the work on the small site, since it would have to be written. The
link has nothing left to do, and the last page stays. -/
theorem postprocess_settles_small :
    smallSite.tree.Distinct ∧
      Unlogged smallSite (pagesBelow smallSite
        (siteRoot.join (Path.ofString ({} : Settings).docsDir))) ∧
      ∃ r, outcome (postprocess siteRoot {}) smallSite = .ok r ∧ r.scanned = 5 ∧
        r.error.isSome = true ∧ r.changed = [siteDocs.child "a.html"] ∧
        r.skipped = [siteDocs.child "b.html"] ∧
        (after (postprocess siteRoot {}) smallSite).tree.node? ["p", "docs", "a.html"] =
          some (.file (Utf8.encode "\x7ba\x7d".toList)) ∧
        (after (postprocess siteRoot {}) smallSite).tree.node? ["p", "docs", "f.html"] =
          some (.file (Utf8.encode "｛f｝".toList)) := by
  have distinct : smallSite.tree.Distinct := by
    unfold Tree.Distinct
    decide +kernel
  have apart : Unlogged smallSite (pagesBelow smallSite
      (siteRoot.join (Path.ofString ({} : Settings).docsDir))) := fun _ _ => nofun
  obtain ⟨run, _⟩ := postprocess_settles siteRoot {} smallSite distinct apart
  rw [siteDocs_eq, smallSite_pages] at run
  obtain ⟨_, r, hr, settles, _, _⟩ := run rfl smallSite_there
  rw [smallSite_sorted] at settles
  have four : (turns sitePages smallSite).length = 4 := by decide +kernel
  rw [four] at settles
  refine ⟨distinct, apart, r, hr, ?_, settles.error_iff.mpr (by decide +kernel), ?_, ?_, ?_, ?_⟩
  · rw [settles.scanned]
    decide +kernel
  · rw [settles.changed]
    decide +kernel
  · rw [settles.skipped]
    decide +kernel
  · exact settles.restored (siteDocs.child "a.html") (by decide) _ (Utf8.encode "｛a｝".toList)
      "｛a｝".toList (by decide +kernel) (Utf8.decode_encode _)
  · have elsewhere : ¬ Reached smallSite (sitePages.take 4) ["p", "docs", "f.html"] := by
      rintro ⟨page, hm, bytes, hf⟩
      have places : ∀ p ∈ sitePages.take 4,
          (fileOf smallSite p).map Prod.fst ≠ some ["p", "docs", "f.html"] := by
        decide +kernel
      exact places page hm (congrArg (Option.map Prod.fst) hf)
    rw [settles.elsewhere _ elsewhere nofun]
    decide +kernel

/-- Folders of one name below a docs directory, one in the other. -/
def shaft (name : String) (depth : Nat) : Place := "p" :: "docs" :: List.replicate depth name

def shaftPath (name : String) (depth : Nat) : Path := ⟨.absolute, shaft name depth⟩

/-- A docs directory with a page to restore beside so many folders, one in the other. -/
def shaftSite (name : String) (last : Nat) : Session where
  tree := ⟨(["p"], .folder) :: (["p", "docs", "a.html"], .file (Utf8.encode "｛a｝".toList)) ::
    (List.range (last + 1)).map fun depth => (shaft name depth, .folder)⟩
  here := ["p"]
  programs := fun v _ _ => (.missing, v.tree)
  clock := ⟨"", ""⟩

theorem shaft_succ (name : String) (depth : Nat) :
    shaft name (depth + 1) = shaft name depth ++ [name] := by
  rw [shaft, List.replicate_succ']
  rfl

theorem shaftPath_succ (name : String) (depth : Nat) :
    (shaftPath name depth).child name = shaftPath name (depth + 1) :=
  congrArg (Files.Path.mk .absolute) (shaft_succ name depth).symm

theorem shaftPath_length (name : String) (depth : Nat) :
    (Utf8.encode (shaftPath name depth).toString.toList).length =
      7 + depth * ((Utf8.encode name.toList).length + 1) := by
  have p_ : (Utf8.encode "p".toList).length = 1 := by decide +kernel
  have docs_ : (Utf8.encode "docs".toList).length = 4 := by decide +kernel
  rw [shaftPath, length_toString (show shaft name depth ≠ [] from List.cons_ne_nil _ _), shaft]
  simp only [List.map_cons, List.map_replicate, List.sum_cons, List.sum_replicate_nat, p_, docs_]
  omega

section
variable {name : String} {last depth : Nat}

theorem shaftSite_folder (apart : name ≠ "a.html") (h : depth ≤ last) :
    (shaftSite name last).tree.node? (shaft name depth) = some .folder := by
  have listed : (shaft name depth, Node.folder) ∈ (shaftSite name last).tree.entries :=
    .tail _ (.tail _ (List.mem_map.mpr ⟨depth, List.mem_range.mpr (Nat.lt_succ_of_le h), rfl⟩))
  refine Tree.node?_of_mem (List.cons_ne_nil _ _) listed fun n member => ?_
  obtain same | member := List.mem_cons.mp member
  · exact congrArg Prod.snd same
  obtain same | member := List.mem_cons.mp member
  · have names : List.replicate depth name = ["a.html"] :=
      (List.cons.inj (List.cons.inj (congrArg Prod.fst same)).2).2
    have page : "a.html" ∈ List.replicate depth name := by simp [names]
    exact absurd (List.eq_of_mem_replicate page).symm apart
  · obtain ⟨_, -, same⟩ := List.mem_map.mp member
    exact (congrArg Prod.snd same).symm

theorem shaftSite_next {entry : String}
    (h : (shaftSite name last).tree.node? (shaft name depth ++ [entry]) = some .folder) :
    entry = name ∧ depth + 1 ≤ last := by
  obtain same | member := List.mem_cons.mp (Tree.mem_of_node? (by simp) h)
  · exact absurd (congrArg (List.length ∘ Prod.fst) same) (by simp [shaft])
  obtain same | member := List.mem_cons.mp member
  · exact nomatch congrArg Prod.snd same
  · obtain ⟨i, hi, same⟩ := List.mem_map.mp member
    have names : List.replicate i name = List.replicate depth name ++ [entry] :=
      (List.cons.inj (List.cons.inj (congrArg Prod.fst same)).2).2
    have length : i = depth + 1 := by simpa using congrArg List.length names
    have last_ : entry ∈ List.replicate i name := by simp [names]
    exact ⟨List.eq_of_mem_replicate last_, length ▸ Nat.le_of_lt_succ (List.mem_range.mp hi)⟩

end

section
variable {name : String} {last depth : Nat} (apart : name ≠ "a.html") (entry : IsEntry name)
  (named : (Utf8.encode name.toList).length ≤ nameLimit)
include apart entry named

theorem shaftSite_stands (h : depth ≤ last) :
    (shaftSite name last).tree.Stands (shaft name depth) where
  folders := by
    intro q hq
    rcases q with _ | ⟨_, _ | ⟨_, rest⟩⟩
    · rfl
    · obtain ⟨rfl, -⟩ := List.cons_prefix_cons.mp hq
      rfl
    · obtain ⟨rfl, tail⟩ := List.cons_prefix_cons.mp hq
      obtain ⟨rfl, below⟩ := List.cons_prefix_cons.mp tail
      have all : rest = List.replicate rest.length name :=
        List.eq_replicate_of_mem fun n hn => List.eq_of_mem_replicate (below.subset hn)
      have length : rest.length ≤ depth := below.length_le.trans_eq List.length_replicate
      rw [all]
      exact shaftSite_folder apart (length.trans h)
  names := by
    have above : ∀ n ∈ ["p", "docs"], IsEntry n ∧ (Utf8.encode n.toList).length ≤ nameLimit := by
      decide +kernel
    intro n hn
    obtain rfl | rfl | hn := (List.mem_cons.mp hn).imp_right List.mem_cons.mp
    · exact above "p" (by simp)
    · exact above "docs" (by simp)
    · exact List.eq_of_mem_replicate hn ▸ ⟨entry, named⟩

theorem shaftSite_view (h : depth ≤ last)
    (short : (Utf8.encode (shaftPath name depth).toString.toList).length < pathLimit) :
    (shaftSite name last).view.node? true (shaftPath name depth) =
      some (shaft name depth, .folder) := by
  have stands := shaftSite_stands apart entry named h
  exact View.node?_some.mpr ⟨stands.noNul, stands.resolve_short short true _⟩

theorem shaftSite_long (h : depth ≤ last)
    (long : pathLimit ≤ (Utf8.encode (shaftPath name depth).toString.toList).length) :
    (shaftSite name last).view.isOverlong (shaftPath name depth) = true := by
  have stands := shaftSite_stands apart entry named h
  have fails := stands.resolve_long long true ["p"]
  rw [View.isOverlong, shaftPath, stands.noNul, if_neg Bool.false_ne_true]
  exact fails ▸ rfl

theorem shaftSite_down {e : String} (h : depth ≤ last)
    (entered : (shaftSite name last).view.entry? (shaftPath name depth) e = some .folder) :
    e = name ∧ depth + 1 ≤ last := by
  unfold View.entry? at entered
  split at entered
  · next place there =>
    have short : (Utf8.encode (shaftPath name depth).toString.toList).length < pathLimit := by
      by_contra long
      have long := shaftSite_long apart entry named h (Nat.le_of_not_lt long)
      rw [View.not_isOverlong there] at long
      cases long
    rw [shaftSite_view apart entry named h short] at there
    obtain rfl : shaft name depth = place := by simpa using there
    exact shaftSite_next entered
  · cases entered

theorem shaftSite_enters (h : depth < last)
    (short : (Utf8.encode (shaftPath name depth).toString.toList).length < pathLimit) :
    (shaftSite name last).view.entry? (shaftPath name depth) name = some .folder := by
  rw [View.entry?, shaftSite_view apart entry named h.le short]
  dsimp only
  rw [← shaft_succ]
  exact shaftSite_folder apart h

theorem shaftSite_nests {n : Nat} (h : depth ≤ last)
    (short : ∀ i < last, (Utf8.encode (shaftPath name i).toString.toList).length < pathLimit) :
    (shaftSite name last).view.Nests n (shaftPath name depth) ↔ depth + n ≤ last := by
  induction n generalizing depth with
  | zero => simp [View.Nests, h]
  | succ n ih =>
    rw [View.Nests]
    constructor
    · rintro ⟨e, entered, nests⟩
      obtain ⟨rfl, deeper⟩ := shaftSite_down apart entry named h entered
      rw [shaftPath_succ, ih deeper] at nests
      omega
    · intro deep
      have deeper : depth + 1 ≤ last := by omega
      refine ⟨name, shaftSite_enters apart entry named deeper (short depth deeper), ?_⟩
      rw [shaftPath_succ, ih deeper]
      omega

theorem shaftSite_below {p : Path}
    (below : (shaftSite name last).view.Below (shaftPath name depth) p) (h : depth ≤ last) :
    ∃ deeper ≤ last, p = shaftPath name deeper := by
  generalize hq : shaftPath name depth = q at below
  induction below generalizing depth with
  | refl q => exact ⟨depth, h, hq.symm⟩
  | down entered _ ih =>
    subst hq
    obtain ⟨rfl, deeper⟩ := shaftSite_down apart entry named h entered
    exact ih deeper (shaftPath_succ _ depth).symm

theorem shaftSite_reaches (h : depth ≤ last)
    (short : ∀ i < last, (Utf8.encode (shaftPath name i).toString.toList).length < pathLimit) :
    (shaftSite name last).view.Below (shaftPath name depth) (shaftPath name last) := by
  induction h using Nat.decreasingInduction with
  | self => exact .refl _
  | of_succ depth h ih =>
    rw [← shaftPath_succ] at ih
    exact .down (shaftSite_enters apart entry named h (short depth h)) ih

theorem shaftSite_there : (shaftSite name last).view.isFolder siteDocs = true := by
  have short : (Utf8.encode (shaftPath name 0).toString.toList).length < pathLimit := by
    rw [shaftPath_length, pathLimit]
    omega
  rw [View.isFolder, show siteDocs = shaftPath name 0 from rfl,
    shaftSite_view apart entry named (Nat.zero_le last) short]

/-- Folders with short paths are too deep if there are more of them than levels. -/
theorem shaftSite_tooDeep (deep : walkLevels ≤ last)
    (short : 7 + last * ((Utf8.encode name.toList).length + 1) < pathLimit) :
    outcome (postprocess siteRoot {}) (shaftSite name last) = .error .tooDeep := by
  have there : (shaftSite name last).view.isFolder siteDocs = true :=
    shaftSite_there apart entry named
  have all : ∀ i ≤ last, (Utf8.encode (shaftPath name i).toString.toList).length < pathLimit := by
    intro i hi
    rw [shaftPath_length]
    exact lt_of_le_of_lt (Nat.add_le_add_left (Nat.mul_le_mul_right _ hi) 7) short
  refine (postprocess_deep siteRoot rfl siteDocs_eq there ?_).1
  cases found : Glob.find (shaftSite name last).view walkLevels siteDocs pagePattern with
  | ok pages =>
    refine absurd ?_ (listed there found).1
    exact (shaftSite_nests apart entry named (Nat.zero_le last) fun i hi => all i hi.le).mpr
      ((Nat.zero_add walkLevels).trans_le deep)
  | error f =>
    cases f with
    | tooDeep => exact found
    | file f =>
      obtain ⟨p, below, long⟩ := unlisted_file there found
      obtain ⟨deeper, h, rfl⟩ := shaftSite_below apart entry named below (Nat.zero_le last)
      rw [View.not_isOverlong (shaftSite_view apart entry named h (all deeper h))] at long
      cases long

theorem shaftSite_unlisted (shallow : last < walkLevels)
    (short : 7 + (last - 1) * ((Utf8.encode name.toList).length + 1) < pathLimit)
    (long : pathLimit ≤ 7 + last * ((Utf8.encode name.toList).length + 1)) :
    ∃ f, Glob.find (shaftSite name last).view walkLevels siteDocs pagePattern =
      .error (.file f) := by
  have there : (shaftSite name last).view.isFolder siteDocs = true :=
    shaftSite_there apart entry named
  have before : ∀ i < last,
      (Utf8.encode (shaftPath name i).toString.toList).length < pathLimit := by
    intro i hi
    rw [shaftPath_length]
    exact lt_of_le_of_lt (Nat.add_le_add_left (Nat.mul_le_mul_right _ (by omega)) 7) short
  have nests (n : Nat) := shaftSite_nests apart entry named (n := n) (Nat.zero_le last) before
  cases found : Glob.find (shaftSite name last).view walkLevels siteDocs pagePattern with
  | ok pages =>
    have reached := shaftSite_reaches apart entry named (Nat.zero_le last) before
    have overlong := shaftSite_long apart entry named (Nat.le_refl last)
      (long.trans_eq (shaftPath_length name last).symm)
    rw [(listed there found).2 _ reached] at overlong
    cases overlong
  | error f =>
    cases f with
    | file f => exact ⟨f, rfl⟩
    | tooDeep =>
      have deep := (nests walkLevels).mp (unlisted_deep there found)
      omega

end

def deepSite : Session := shaftSite "d" walkLevels

def longName : String := String.ofList (List.replicate nameLimit 'x')

def longSite : Session := shaftSite longName 16

/-- Where the folders below the docs directory lie too deep, postprocessing fails. Where the
path of one is too long, no page gets its turn, and one that could be restored is not. -/
theorem deep_docs_unrestored :
    (deepSite.view.isFolder siteDocs = true ∧
      outcome (postprocess siteRoot {}) deepSite = .error .tooDeep) ∧
    longSite.view.isFolder siteDocs = true ∧
      ∃ r, outcome (postprocess siteRoot {}) longSite = .ok r ∧ r.scanned = 0 ∧
        r.error.isSome = true ∧
        (after (postprocess siteRoot {}) longSite).tree.node? ["p", "docs", "a.html"] =
          some (.file (Utf8.encode "｛a｝".toList)) := by
  have d_ : (Utf8.encode "d".toList).length = 1 := by decide +kernel
  have long_ : (Utf8.encode longName.toList).length = nameLimit := by decide +kernel
  have entry : IsEntry longName := by decide +kernel
  have apart : longName ≠ "a.html" := by decide +kernel
  have deep : outcome (postprocess siteRoot {}) deepSite = .error .tooDeep :=
    shaftSite_tooDeep (by decide) (by decide) (by rw [d_]; decide) (Nat.le_refl _)
      (by rw [d_]; decide)
  have there : longSite.view.isFolder siteDocs = true := shaftSite_there apart entry long_.le
  obtain ⟨f, unlisted⟩ : ∃ f, Glob.find longSite.view longSite.levels siteDocs pagePattern =
      .error (.file f) :=
    shaftSite_unlisted apart entry long_.le (by decide) (by rw [long_]; decide)
      (by rw [long_]; decide)
  have distinct : longSite.tree.Distinct := by
    unfold Tree.Distinct
    decide +kernel
  obtain ⟨ho, untouched, -⟩ :=
    postprocess_unlisted siteRoot rfl siteDocs_eq there unlisted distinct
  refine ⟨⟨shaftSite_there (by decide) (by decide) (by rw [d_]; decide), deep⟩, there, _, ho, rfl,
    rfl, ?_⟩
  rw [untouched _ nofun]
  decide +kernel

end DocBraces.Docs
