import DocBraces.Proofs.Files.Changing
import DocBraces.Proofs.Session.Failing

/-! Making and removing folders, also where links lead through the tree. Folders are made
where nothing was and the path then leads to one; what is removed is the folder that the
path names, and nothing but what is below it. -/

set_option autoImplicit false

namespace DocBraces.Session

open DocBraces.Files

variable {s s' : Session} {p : Path}

theorem isFolder_iff : s.view.isFolder p = true ↔
    ∃ place, outcome (target true p.toString) s = .ok (.present place .folder) := by
  unfold View.isFolder
  constructor
  · intro h
    split at h
    · next place hn => exact ⟨place, viewed_iff.mp hn⟩
    · cases h
  · rintro ⟨place, ht⟩
    rw [viewed_iff.mpr ht]

theorem isFolder_alike (ht : Tree.Alike s.tree s'.tree) (hh : s'.here = s.here)
    (h : s.view.isFolder p = true) : s'.view.isFolder p = true := by
  obtain ⟨place, ho⟩ := isFolder_iff.mp h
  obtain ⟨hn, hr⟩ := target_ok.mp ho
  obtain ⟨other, hother, rfl | ⟨_, _, _, hf, _⟩⟩ := Tree.resolve_alike ht hr
  · exact isFolder_iff.mpr ⟨place, target_ok.mpr ⟨hn, hh ▸ hother⟩⟩
  · cases hf

structure Grown (s s' : Session) : Prop where
  nodes : ∀ q, s'.tree.node? q = s.tree.node? q ∨
    s.tree.node? q = none ∧ s'.tree.node? q = some .folder
  here : s'.here = s.here
  logFile : s'.logFile = s.logFile

theorem Grown.refl (s : Session) : Grown s s := ⟨fun _ => .inl rfl, rfl, rfl⟩

theorem makeFolder_grown {s₀ : Session} (p : Path) : Keeps (Grown s₀) (makeFolder p) := by
  intro s h
  unfold makeFolder
  rw [after_bind, target_looks]
  split
  · next t ht =>
    split
    · next place =>
      have none_ : s.tree.node? place = none := target_holds ht
      refine ⟨fun q => ?_, h.here, h.logFile⟩
      change (s.tree.put place .folder).node? q = _ ∨ _ ∧ (s.tree.put place .folder).node? q = _
      by_cases hq : q = place
      · subst hq
        rw [Tree.node?_put_self _ _ _ (Tree.ne_nil_of_absent none_)]
        obtain hs | ⟨_, hs⟩ := h.nodes q
        · exact .inr ⟨hs ▸ none_, rfl⟩
        · rw [none_] at hs
          cases hs
      · rw [Tree.node?_put_of_ne _ _ _ _ hq]
        exact h.nodes q
    · exact h
  · exact h

theorem makePath_grown (p : Path) (s : Session) : Grown s (after (makePath p) s) :=
  Keeps.makePath makeFolder_grown p s (.refl s)

theorem makeFolder_grounded (p : Path) : Keeps (fun s => s.tree.Grounded) (makeFolder p) := by
  intro s grounded
  unfold makeFolder
  rw [after_bind, target_looks]
  split
  · next t ht =>
    split
    · next place =>
      have none_ : s.tree.node? place = none := target_holds ht
      obtain h | spot | ⟨_, h⟩ := Tree.resolve_grounded grounded (target_ok.mp ht).2
      · rw [Tree.Target.place, none_] at h
        cases h
      · exact grounded.put spot.above fun _ => rfl
      · rw [Tree.Target.place, none_] at h
        cases h
    · exact grounded
  · exact grounded

theorem makePath_grounded (p : Path) : Keeps (fun s => s.tree.Grounded) (makePath p) :=
  .makePath makeFolder_grounded p

theorem makeFolder_error {f : Failure} (h : outcome (makeFolder p) s = .error f) :
    after (makeFolder p) s = s := by
  unfold makeFolder at h ⊢
  rw [outcome_bind, target_looks] at h
  rw [after_bind, target_looks]
  cases ht : outcome (target false p.toString) s with
  | error g => rfl
  | ok t =>
    rw [ht] at h
    cases t with
    | absent place => cases h
    | present place n => rfl

inductive Has (p : Path) (s : Session) : Session → Prop
  | made : outcome (makeFolder p) s = .ok () → Has p s (after (makeFolder p) s)
  | there : outcome (isFolder p) s = .ok true → Has p s s

theorem unlessFolder_ok {f : Failure} (h : outcome (unlessFolder p f) s = .ok ()) :
    Has p s (after (unlessFolder p f) s) := by
  rw [unlessFolder_keeps (fun t => t = s) p f s rfl]
  unfold unlessFolder at h
  obtain ⟨there, hf, h, _⟩ := ok_of_bind h
  cases there with
  | false => cases h
  | true => exact .there hf

/-- A folder that is there in the end is made first or after those above it. -/
theorem makeFolders_ok {depth : Nat} (h : outcome (makeFolders (depth + 1) p) s = .ok ()) :
    Has p s (after (makeFolders (depth + 1) p) s) ∨
      p.parent ≠ p ∧ outcome (makeFolders depth p.parent) s = .ok () ∧
        Has p (after (makeFolders depth p.parent) s) (after (makeFolders (depth + 1) p) s) := by
  rw [makeFolders] at h ⊢
  rw [outcome_tryCatch] at h
  rw [after_tryCatch]
  cases hm : outcome (makeFolder p) s with
  | ok => exact .inl (.made hm)
  | error e =>
    rw [hm, makeFolder_error hm] at h
    rw [makeFolder_error hm]
    dsimp only at h ⊢
    split at h
    · next path =>
      split at h
      · cases h
      · next hne =>
        rw [if_neg hne]
        obtain ⟨_, hparent, h, ha⟩ := ok_of_bind h
        rw [ha]
        generalize after (makeFolders depth p.parent) s = s₁ at h ⊢
        refine .inr ⟨hne, hparent, ?_⟩
        rw [outcome_tryCatch] at h
        rw [after_tryCatch]
        cases hm₁ : outcome (makeFolder p) s₁ with
        | ok => exact .made hm₁
        | error e =>
          rw [hm₁, makeFolder_error hm₁] at h
          rw [makeFolder_error hm₁]
          dsimp only at h ⊢
          split at h
          · cases h
          · exact unlessFolder_ok h
          · cases h
    · exact .inl (unlessFolder_ok h)
    · cases h

theorem makeFolder_leads (h : outcome (makeFolder p) s = .ok ()) :
    (after (makeFolder p) s).view.isFolder p = true := by
  unfold makeFolder at h ⊢
  obtain ⟨t, ht, h, ha⟩ := ok_of_bind h
  rw [ha]
  rw [target_looks] at h ⊢
  cases t with
  | present place n => cases h
  | absent place =>
    obtain ⟨hn, hr⟩ := target_ok.mp ht
    exact isFolder_iff.mpr ⟨place, target_ok.mpr ⟨hn, Tree.resolve_put_folder hr⟩⟩

theorem Has.leads (h : Has p s s') : s'.view.isFolder p = true := by
  cases h with
  | made hm => exact makeFolder_leads hm
  | there hf => exact viewed_isFolder.mpr hf

theorem makePath_leads (h : outcome (makePath p) s = .ok ()) :
    (after (makePath p) s).view.isFolder p = true := by
  obtain h | ⟨_, _, h⟩ := makeFolders_ok h
  · exact h.leads
  · exact h.leads

theorem makeFolder_taken (h : s.view.isFolder p = true) :
    outcome (makeFolder p) s = .error (.file ⟨.exists, p.toString⟩) := by
  obtain ⟨place, ht⟩ := isFolder_iff.mp h
  obtain ⟨hn, hr⟩ := target_ok.mp ht
  obtain ⟨q, m, hr⟩ := Tree.resolve_unfollowed hr
  unfold makeFolder
  rw [outcome_bind, target_ok.mpr ⟨hn, hr⟩]
  rfl

theorem makePath_stays (h : s.view.isFolder p = true) : after (makePath p) s = s := by
  have taken := makeFolder_taken h
  unfold makePath
  rw [makeFolders, after_tryCatch, taken, makeFolder_error taken]
  exact unlessFolder_keeps (fun t => t = s) _ _ s rfl

theorem makePath_there (h : s.view.isFolder p = true) : outcome (makePath p) s = .ok () := by
  have taken := makeFolder_taken h
  unfold makePath
  rw [makeFolders, outcome_tryCatch, taken, makeFolder_error taken]
  dsimp only
  unfold unlessFolder
  rw [(bind_of_ok (viewed_isFolder.mp h) _).1]
  rfl

structure Removed (place : Place) (s s' : Session) : Prop where
  there : s.tree.node? place = some .folder
  notTop : place ≠ []
  gone : ∀ q, s'.tree.node? q = if place <+: q then none else s.tree.node? q
  here : s'.here = s.here
  logFile : ∀ q, s'.logFile = some q → s.logFile = some q

theorem outcome_setTree_bind {α : Type} (t : Tree) (f : Unit → Run α) (s : Session) :
    outcome (setTree t >>= f) s = outcome (f ()) { s with tree := t } := rfl

theorem outcome_forgetLog_bind {α : Type} (f : Unit → Run α) (s : Session) :
    outcome (forgetLog >>= f) s = outcome (f ()) (after forgetLog s) := rfl

theorem folderAt_cleared {place last : Place} (hp : s.folderAt p = some place)
    (cleared : s'.tree = s.tree.clear place) (here_ : s'.here = s.here)
    (h : s'.folderAt p = some last) : last = place := by
  have cut : ∀ q, s'.tree.node? q = s.tree.node? q ∨ s'.tree.node? q = none := by
    intro q
    rw [cleared, Tree.node?_clear]
    split
    · exact .inr rfl
    · exact .inl rfl
  obtain ⟨hn, hr⟩ := target_ok.mp (folderAt_iff.mp h)
  have same : s.folderAt p = some last :=
    folderAt_iff.mpr (target_ok.mpr ⟨hn, here_ ▸ Tree.resolve_before_cut cut hr⟩)
  exact Option.some.inj (same.symm.trans hp)

theorem dropFolder_removed {place : Place} (hp : s.folderAt p = some place)
    (cleared : s'.tree = s.tree.clear place) (here_ : s'.here = s.here)
    (logFile : ∀ q, s'.logFile = some q → s.logFile = some q)
    (h : outcome (dropFolder p) s' = .ok ()) : Removed place s (after (dropFolder p) s') := by
  obtain ⟨⟨f, hf⟩, _⟩ | ⟨last, hl, notTop, _, ha⟩ := dropFolder_cases p s'
  · exact nomatch hf.symm.trans h
  obtain rfl := folderAt_cleared hp cleared here_ hl
  rw [ha]
  refine ⟨target_holds (folderAt_iff.mp hp), notTop, fun q => ?_, here_, logFile⟩
  change (s'.tree.drop last).node? q = _
  rw [cleared]
  by_cases hq : q = last
  · subst hq
    rw [Tree.node?_drop_self _ notTop, if_pos (List.prefix_refl _)]
  · rw [Tree.node?_drop_of_ne _ hq, Tree.node?_clear]
    simp [hq]

theorem removeTree_ok (h : outcome (removeTree p) s = .ok ()) :
    ∃ place, s.folderAt p = some place ∧ Removed place s (after (removeTree p) s) := by
  unfold removeTree at h ⊢
  obtain ⟨t, ht, h, ha⟩ := ok_of_bind h
  rw [ha]
  rw [target_looks] at h ⊢
  rcases t with ⟨place, _ | _ | _⟩ | place
  · cases h
  · dsimp only at h ⊢
    rw [outcome_get_bind, outcome_setTree_bind, outcome_forgetLog_bind] at h
    rw [after_get_bind, after_setTree_bind, after_forgetLog_bind]
    have hp := folderAt_iff.mpr ht
    refine ⟨place, hp, dropFolder_removed hp rfl rfl (fun q hq => ?_) h⟩
    exact (Option.filter_eq_some_iff.mp hq).1
  · cases h
  · cases h

/-- Removing a folder touches nothing beside it, also where it fails half-way. -/
theorem removeTree_elsewhere {place q : Place} (hp : s.folderAt p = some place)
    (hq : ¬ place <+: q) : (after (removeTree p) s).tree.node? q = s.tree.node? q := by
  have cleared : (s.tree.clear place).node? q = s.tree.node? q := by
    rw [Tree.node?_clear, if_neg fun h => hq h.1]
  unfold removeTree
  rw [after_bind, folderAt_iff.mp hp, target_looks]
  dsimp only
  rw [after_get_bind, after_setTree_bind, after_forgetLog_bind]
  obtain ⟨_, ha⟩ | ⟨last, hl, _, _, ha⟩ := dropFolder_cases p
    (after forgetLog { s with tree := s.tree.clear place })
  · rw [ha]
    exact cleared
  · obtain rfl := folderAt_cleared hp (by rfl) (by rfl) hl
    have other : q ≠ last := by
      rintro rfl
      exact hq (List.prefix_refl _)
    rw [ha]
    exact (Tree.node?_drop_of_ne _ other).trans cleared

end DocBraces.Session
