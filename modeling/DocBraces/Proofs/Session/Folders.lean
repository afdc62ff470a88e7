import DocBraces.Proofs.Files.LinkFree
import DocBraces.Proofs.Session.Making

/-!
# Folders without links

Where there are no links, what a path names is at the place that it spells, so that the
whole tree can be told that making and removing folders leaves.
-/

set_option autoImplicit false

namespace DocBraces.Session

open DocBraces.Files

variable {s s' : Session}

theorem target_spelled (free : s.tree.LinkFree) {p : Path} (hp : p.Proper) {follow : Bool}
    {t : Tree.Target} (h : outcome (target follow p.toString) s = .ok t) :
    t.place = p.place s.here ∧
      ∀ q ∈ p.way s.here, q ≠ t.place → s.tree.node? q = some .folder :=
  Tree.resolve_spelled free hp (target_ok.mp h).2

theorem Removed.linkFree {place : Place} (h : Removed place s s') (free : s.tree.LinkFree) :
    s'.tree.LinkFree := by
  intro q target hq
  rw [h.gone] at hq
  split at hq
  · cases hq
  · exact free q target hq

theorem Grown.linkFree (h : Grown s s') (free : s.tree.LinkFree) : s'.tree.LinkFree := by
  intro q target hq
  obtain hs | ⟨_, hs⟩ := h.nodes q
  · exact free q target (hs ▸ hq)
  · rw [hs] at hq
    cases hq

/-- All places on the way of a path are folders. Those that were there before were, and no
other place has been touched. -/
structure Made (p : Path) (s s' : Session) : Prop where
  noNul : hasNul p.toString = false
  folders : ∀ q ∈ p.way s.here, s'.tree.node? q = some .folder
  before : ∀ q n, q ∈ p.way s.here → s.tree.node? q = some n → n = .folder
  elsewhere : ∀ q, q ∉ p.way s.here → s'.tree.node? q = s.tree.node? q
  here : s'.here = s.here
  logFile : s'.logFile = s.logFile

theorem Made.linkFree {p : Path} (h : Made p s s') (free : s.tree.LinkFree) :
    s'.tree.LinkFree := by
  intro q target hq
  by_cases hw : q ∈ p.way s.here
  · rw [h.folders q hw] at hq
    cases hq
  · rw [h.elsewhere q hw] at hq
    exact free q target hq

theorem Made.folder {p : Path} (h : Made p s s') {q : Place}
    (hq : s.tree.node? q = some .folder) : s'.tree.node? q = some .folder := by
  by_cases hw : q ∈ p.way s.here
  · exact h.folders q hw
  · rw [h.elsewhere q hw, hq]

theorem made_there (free : s.tree.LinkFree) {p : Path} (hp : p.Proper)
    (h : outcome (isFolder p) s = .ok true) : Made p s s := by
  have hv := viewed_isFolder.mpr h
  unfold View.isFolder at hv
  split at hv
  · next place hn =>
    have ht := viewed_iff.mp hn
    obtain ⟨_, way⟩ := target_spelled free hp ht
    have folders : ∀ q ∈ p.way s.here, s.tree.node? q = some .folder := by
      intro q hw
      by_cases hq : q = place
      · subst hq
        exact target_holds ht
      · exact way q hw hq
    refine ⟨(target_ok.mp ht).1, folders, fun q n hw hn => ?_, fun _ _ => rfl, rfl, rfl⟩
    rw [folders q hw] at hn
    exact (Option.some.inj hn).symm
  · cases hv

theorem makeFolder_made (free : s.tree.LinkFree) {p : Path} (hp : p.Proper)
    (h : outcome (makeFolder p) s = .ok ()) : Made p s (after (makeFolder p) s) := by
  unfold makeFolder at h ⊢
  obtain ⟨t, ht, h, ha⟩ := ok_of_bind h
  rw [ha]
  rw [target_looks] at h ⊢
  cases t with
  | present place n => cases h
  | absent place =>
    obtain ⟨_, way⟩ := target_spelled free hp ht
    have none_ : s.tree.node? place = none := target_holds ht
    change Made p s { s with tree := s.tree.put place .folder }
    refine ⟨(target_ok.mp ht).1, fun q hw => ?_, fun q n hw hn => ?_, fun q hw => ?_, rfl, rfl⟩
    · by_cases hq : q = place
      · subst hq
        exact Tree.node?_put_self _ _ _ (Tree.ne_nil_of_absent none_)
      · rw [Tree.node?_put_of_ne _ _ _ _ hq]
        exact way q hw hq
    · by_cases hq : q = place
      · subst hq
        rw [none_] at hn
        cases hn
      · rw [way q hw hq] at hn
        exact (Option.some.inj hn).symm
    · refine Tree.node?_put_of_ne _ _ _ _ ?_
      rintro rfl
      exact hw (Tree.resolve_absent free hp (target_ok.mp ht).2)

theorem Has.all {p : Path} (h : Has p s s') (free : s.tree.LinkFree) (hp : p.Proper) :
    Made p s s' := by
  cases h with
  | made hm => exact makeFolder_made free hp hm
  | there hf => exact made_there free hp hf

theorem names_of_parent_ne {p : Path} (hne : p.parent ≠ p) :
    ∃ init last, p.names = init ++ [last] := by
  refine (List.eq_nil_or_concat' p.names).resolve_left fun hn => hne ?_
  obtain ⟨root, names⟩ := p
  obtain rfl : names = [] := hn
  rfl

theorem parent_shorter {p : Path} (hne : p.parent ≠ p) :
    p.parent.names.length < p.names.length := by
  obtain ⟨init, last, hl⟩ := names_of_parent_ne hne
  simp [Path.parent, hl]

theorem way_of_parent {p : Path} (hne : p.parent ≠ p) {here q : Place}
    (h : q ∈ p.parent.way here) : q ∈ p.way here := by
  obtain ⟨init, last, hl⟩ := names_of_parent_ne hne
  unfold Path.way at h ⊢
  rw [Path.start_parent, Path.parent, hl, List.dropLast_concat] at h
  rw [hl, Tree.placesDown_append, ← List.cons_append]
  exact List.mem_append_left _ h

theorem Made.child {p : Path} {s₁ s₂ : Session} (hne : p.parent ≠ p) (h : Made p.parent s s₁)
    (h' : Made p s₁ s₂) : Made p s s₂ := by
  obtain ⟨_, folders, before, elsewhere, here, logFile⟩ := h
  obtain ⟨noNul, folders', before', elsewhere', here', logFile'⟩ := h'
  rw [here] at folders' before' elsewhere'
  refine ⟨noNul, folders', fun q n hw hn => ?_, fun q hw => ?_, here'.trans here,
    logFile'.trans logFile⟩
  · by_cases hp : q ∈ p.parent.way s.here
    · exact before q n hp hn
    · exact before' q n hw ((elsewhere q hp).trans hn)
  · rw [elsewhere' q hw, elsewhere q fun hp => hw (way_of_parent hne hp)]

theorem makeFolders_made (depth : Nat) {p : Path} (hd : p.names.length < depth)
    (free : s.tree.LinkFree) (hp : p.Proper) (h : outcome (makeFolders depth p) s = .ok ()) :
    Made p s (after (makeFolders depth p) s) := by
  induction depth generalizing p s with
  | zero => omega
  | succ depth ih =>
    obtain own | ⟨hne, hparent, own⟩ := makeFolders_ok h
    · exact own.all free hp
    · have shorter : p.parent.names.length < depth := by
        have := parent_shorter hne
        omega
      have above := ih shorter free hp.parent hparent
      exact above.child hne (own.all (above.linkFree free) hp)

theorem makePath_made (free : s.tree.LinkFree) {p : Path} (hp : p.Proper)
    (h : outcome (makePath p) s = .ok ()) : Made p s (after (makePath p) s) :=
  makeFolders_made _ (Nat.lt_succ_self _) free hp h

end DocBraces.Session
