import Mathlib.Data.List.Nodup
import DocBraces.Proofs.Files.Selection
import DocBraces.Proofs.Files.Sorting
import DocBraces.Proofs.Session.Failing

/-! Sessions that differ in nothing but what their files hold and in what has been said. A
path leads to the same place in both, opens in both or in neither, and the same paths are
selected in them. -/

set_option autoImplicit false

namespace DocBraces.Files.Tree

def places (t : Tree) : List Place := t.entries.map Prod.fst

def Distinct (t : Tree) : Prop := t.places.Nodup

theorem mem_places {t : Tree} {p : Place} {n : Node} (hp : p ≠ [])
    (h : t.node? p = some n) : p ∈ t.places :=
  List.mem_map.mpr ⟨(p, n), mem_of_node? hp h, rfl⟩

theorem places_put {t : Tree} (ht : t.Distinct) {p : Place} {old : List UInt8}
    (h : t.node? p = some (.file old)) (bs : List UInt8) :
    t.places.Perm (t.put p (.file bs)).places := by
  have rest : (t.entries.filter fun e => e.1 != p).map Prod.fst = t.places.filter (· != p) := by
    rw [places, List.filter_map]
    rfl
  have there : p ∈ t.places := mem_places (ne_nil_of_file h) h
  change t.places.Perm (p :: (t.entries.filter fun e => e.1 != p).map Prod.fst)
  rw [rest, ← List.Nodup.erase_eq_filter ht p]
  exact List.perm_cons_erase there

theorem Alike.refl (t : Tree) : t.Alike t := fun _ => .inl rfl

theorem Alike.trans {t u w : Tree} (h : t.Alike u) (h' : u.Alike w) : t.Alike w := by
  intro p
  obtain hp | ⟨a, b, ha, hb⟩ := h p
  · rw [hp]
    exact h' p
  · obtain hq | ⟨c, d, _, hd⟩ := h' p
    · exact .inr ⟨a, b, ha, hq ▸ hb⟩
    · exact .inr ⟨a, d, ha, hd⟩

end DocBraces.Files.Tree

namespace DocBraces.Session

open DocBraces.Files

/-- The second session comes of the first one by what files hold and by what is said. -/
structure Rewritten (s s' : Session) : Prop where
  alike : s.tree.Alike s'.tree
  places : s.tree.places.Perm s'.tree.places
  here : s'.here = s.here
  locked : s'.locked = s.locked
  levels : s'.levels = s.levels
  logFile : s'.logFile = s.logFile

namespace Rewritten

variable {s s' : Session}

theorem refl (s : Session) : Rewritten s s := ⟨.refl _, .rfl, rfl, rfl, rfl, rfl⟩

theorem trans {s'' : Session} (h : Rewritten s s') (h' : Rewritten s' s'') : Rewritten s s'' :=
  ⟨h.alike.trans h'.alike, h.places.trans h'.places, h'.here.trans h.here,
    h'.locked.trans h.locked, h'.levels.trans h.levels, h'.logFile.trans h.logFile⟩

theorem symm (h : Rewritten s s') : Rewritten s' s :=
  ⟨h.alike.symm, h.places.symm, h.here.symm, h.locked.symm, h.levels.symm, h.logFile.symm⟩

theorem distinct (h : Rewritten s s') (hs : s.tree.Distinct) : s'.tree.Distinct :=
  h.places.nodup_iff.mp hs

theorem put (hs : s.tree.Distinct) {place : Place} {old : List UInt8}
    (h : s.tree.node? place = some (.file old)) (bs : List UInt8) :
    Rewritten s { s with tree := s.tree.put place (.file bs) } :=
  ⟨Tree.alike_put bs h, Tree.places_put hs h bs, rfl, rfl, rfl, rfl⟩

theorem record (hs : s.tree.Distinct) (r : Log.Record) : Rewritten s (s.record r) := by
  unfold Session.record
  split
  · split
    · exact .refl s
    · exact ⟨.refl _, .rfl, rfl, rfl, rfl, rfl⟩
  · dsimp only
    split
    · next place =>
      unfold appendTo
      split
      · next old ho => exact ⟨Tree.alike_put _ ho, Tree.places_put hs ho _, rfl, rfl, rfl, rfl⟩
      · exact ⟨.refl _, .rfl, rfl, rfl, rfl, rfl⟩
    · exact ⟨.refl _, .rfl, rfl, rfl, rfl, rfl⟩

theorem view (h : Rewritten s s') : s.view.Alike s'.view := ⟨h.alike, h.here.symm⟩

theorem target (h : Rewritten s s') {follow : Bool} {path : String} {t : Tree.Target}
    (ht : outcome (target follow path) s = .ok t) :
    ∃ t', outcome (Session.target follow path) s' = .ok t' ∧ t.Like t' := by
  obtain ⟨hn, hr⟩ := target_ok.mp ht
  obtain ⟨t', hr', hlike⟩ := Tree.resolve_alike h.alike hr
  exact ⟨t', target_ok.mpr ⟨hn, h.here ▸ hr'⟩, hlike⟩

theorem target_error (h : Rewritten s s') {follow : Bool} {path : String} {f : Failure}
    (ht : outcome (Session.target follow path) s = .error f) :
    outcome (Session.target follow path) s' = .error f := by
  unfold Session.target at ht ⊢
  split at ht
  · next hn =>
    rw [if_pos hn]
    exact ht
  · next hn =>
    rw [if_neg hn]
    rw [outcome_get_bind] at ht ⊢
    split at ht
    · cases ht
    · next c hr =>
      rw [h.here, Tree.resolve_error_alike h.alike hr]
      exact ht

theorem denies (h : Rewritten s s') (a : Access) (path : String) :
    s'.denies a path = s.denies a path := by
  unfold Session.denies
  rw [h.locked, h.here]

theorem opening (h : Rewritten s s') {a : Access} {path : String} {t : Tree.Target}
    (ho : outcome (opening a path) s = .ok t) :
    ∃ t', outcome (Session.opening a path) s' = .ok t' ∧ t.Like t' := by
  obtain ⟨hl, ht⟩ := opening_ok.mp ho
  obtain ⟨t', ht', hlike⟩ := h.target (target_ok.mpr ht)
  exact ⟨t', opening_ok.mpr ⟨(h.denies a path).trans hl, target_ok.mp ht'⟩, hlike⟩

theorem opening_error (h : Rewritten s s') {a : Access} {path : String} {f : Failure}
    (ho : outcome (Session.opening a path) s = .error f) :
    outcome (Session.opening a path) s' = .error f := by
  rw [outcome_opening] at ho ⊢
  rw [h.denies]
  split at ho
  · next denied => exact (if_pos denied).trans ho
  · next open_ => exact (if_neg open_).trans (h.target_error ho)

theorem readBytes_error (h : Rewritten s s') {p : Path} {f : Failure}
    (hr : outcome (readBytes p) s = .error f) : outcome (readBytes p) s' = .error f := by
  unfold readBytes at hr ⊢
  rw [outcome_bind, opening_looks] at hr ⊢
  cases ho : outcome (Session.opening .reading p.toString) s with
  | error g =>
    rw [ho] at hr
    rw [h.opening_error ho]
    exact hr
  | ok t =>
    rw [ho] at hr
    obtain ⟨t', ho', rfl | ⟨place, a, b, rfl, rfl⟩⟩ := h.opening ho
    · rw [ho']
      dsimp only at hr ⊢
      split at hr
      · cases hr
      · exact hr
      · exact hr
    · cases hr

theorem writeBytes (h : Rewritten s s') (p : Path) (bytes : List UInt8) :
    outcome (writeBytes p bytes) s' = outcome (writeBytes p bytes) s := by
  unfold Session.writeBytes
  rw [outcome_bind, outcome_bind, opening_looks, opening_looks]
  cases ho : outcome (Session.opening .writing p.toString) s with
  | error f => rw [h.opening_error ho]
  | ok t =>
    obtain ⟨t', ho', rfl | ⟨place, a, b, rfl, rfl⟩⟩ := h.opening ho
    · rw [ho']
      rcases t with ⟨place, _ | _ | _⟩ | place <;> rfl
    · rw [ho']
      rfl

theorem node? (h : Rewritten s s') (path : String) :
    outcome (node? path) s = outcome (Session.node? path) s' ∨ ∃ a b,
      outcome (Session.node? path) s = .ok (some (.file a)) ∧
        outcome (Session.node? path) s' = .ok (some (.file b)) := by
  unfold Session.node?
  split
  · exact .inl rfl
  · rw [outcome_get_bind, outcome_get_bind, h.here]
    cases hr : s.tree.resolve true s.here path with
    | error c =>
      rw [Tree.resolve_error_alike h.alike hr]
      cases c <;> exact .inl rfl
    | ok t =>
      obtain ⟨t', hr', rfl | ⟨place, a, b, rfl, rfl⟩⟩ := Tree.resolve_alike h.alike hr
      · rw [hr']
        cases t <;> exact .inl rfl
      · rw [hr']
        exact .inr ⟨a, b, rfl, rfl⟩

theorem asked (h : Rewritten s s') (path : String) (answer : Option Node → Bool)
    (same : ∀ a b, answer (some (.file a)) = answer (some (.file b))) :
    outcome (answer <$> Session.node? path) s = outcome (answer <$> Session.node? path) s' := by
  rw [outcome_map, outcome_map]
  obtain hn | ⟨a, b, ha, hb⟩ := h.node? path
  · rw [hn]
  · rw [ha, hb]
    exact congrArg Except.ok (same a b)

theorem isFile (h : Rewritten s s') (p : Path) :
    outcome (isFile p) s = outcome (Session.isFile p) s' := by
  have eq : Session.isFile p = (fun n => n.any Node.isFile) <$> Session.node? p.toString := by
    rw [← bind_pure_comp]
    refine bind_congr fun n => ?_
    rcases n with _ | _ | _ | _ <;> rfl
  rw [eq]
  exact h.asked _ _ fun _ _ => rfl

theorem find (h : Rewritten s s') {root : Path} {pat : Glob.Pattern} {ps : List Path}
    (hp : Glob.find s.view s.levels root pat = .ok ps) :
    ∃ qs, Glob.find s'.view s'.levels root pat = .ok qs ∧ Path.sort qs = Path.sort ps := by
  obtain ⟨qs, hq, same⟩ := (h.view.find s.levels root pat).ok hp
  rw [h.levels]
  exact ⟨qs, hq, (Path.sort_congr (Glob.find_root _ _ _ _ _ hp) same).symm⟩

end Rewritten

end DocBraces.Session
