import DocBraces.Proofs.Files.Walking

/-! Where names lead once things have been taken out of a tree, or a folder has come to
where nothing was, or a file has been written. -/

set_option autoImplicit false

namespace DocBraces.Files.Tree

variable {t u : Tree} {follow : Bool} {links : Nat} {here : Place} {names : List String}

/-- With things taken away, names lead to nothing that they did not lead to before. -/
theorem Leads.before_cut (cut : ∀ q, u.node? q = t.node? q ∨ u.node? q = none) {p : Place}
    {n : Node} (h : Leads u follow links here names (.present p n)) :
    Leads t follow links here names (.present p n) := by
  have there {q : Place} {m : Node} (hm : u.node? q = some m) : t.node? q = some m := by
    obtain hq | hq := cut q
    · rw [← hq, hm]
    · rw [hm] at hq
      cases hq
  generalize hf : Target.present p n = found at h
  induction h with
  | here hn => exact .here (there hn)
  | dot _ ih => exact .dot (ih hf)
  | up _ ih => exact .up (ih hf)
  | free => cases hf
  | file hs hn => exact .file hs (there hn)
  | folder hs hn _ ih => exact .folder hs (there hn) (ih hf)
  | stop hs hn hl => exact .stop hs (there hn) hl
  | jump hs hn hr _ ih => exact .jump hs (there hn) hr (ih hf)

theorem resolve_before_cut (cut : ∀ q, u.node? q = t.node? q ∨ u.node? q = none) {p : Place}
    {n : Node} {s : String} (h : u.resolve follow here s = .ok (.present p n)) :
    t.resolve follow here s = .ok (.present p n) := by
  obtain ⟨he, hl, hh, hw⟩ := resolve_iff.mp h
  refine resolve_iff.mpr ⟨he, hl, hh.imp_right fun hn => ?_, hw.before_cut cut⟩
  obtain hq | hq := cut here
  · rw [← hq, hn]
  · rw [hn] at hq
    cases hq

theorem Leads.put_folder {p : Place} (h : Leads t false links here names (.absent p)) :
    Leads (t.put p .folder) true links here names (.present p .folder) := by
  have none_ : t.node? p = none := h.holds
  have self : (t.put p .folder).node? p = some .folder :=
    node?_put_self t p _ (ne_nil_of_absent none_)
  have same {q : Place} {m : Node} (hm : t.node? q = some m) :
      (t.put p .folder).node? q = some m := by
    rw [node?_put_of_ne t p q, hm]
    rintro rfl
    rw [none_] at hm
    cases hm
  generalize hf : Target.absent p = found at h
  induction h with
  | here => cases hf
  | dot _ ih => exact .dot (ih hf)
  | up _ ih => exact .up (ih hf)
  | free hs _ =>
    cases hf
    exact .folder hs self (.here self)
  | file => cases hf
  | folder hs hn _ ih => exact .folder hs (same hn) (ih hf)
  | stop => cases hf
  | jump hs hn _ _ ih => exact .jump hs (same hn) nofun (ih hf)

/-- What is found with all links followed is there with the last one left aside: itself, or
the link. -/
theorem Leads.unfollowed {p : Place} {n : Node}
    (h : Leads t true links here names (.present p n)) :
    ∃ q m, Leads t false links here names (.present q m) := by
  generalize hf : Target.present p n = found at h
  induction h with
  | here hn => exact ⟨_, _, .here hn⟩
  | dot _ ih =>
    obtain ⟨q, m, h⟩ := ih hf
    exact ⟨q, m, .dot h⟩
  | up _ ih =>
    obtain ⟨q, m, h⟩ := ih hf
    exact ⟨q, m, .up h⟩
  | free => cases hf
  | file hs hn => exact ⟨_, _, .file hs hn⟩
  | folder hs hn _ ih =>
    obtain ⟨q, m, h⟩ := ih hf
    exact ⟨q, m, .folder hs hn h⟩
  | stop _ _ hl => cases hl
  | @jump _ _ _ target rest _ hs hn _ _ ih =>
    cases rest with
    | nil => exact ⟨_, _, .stop hs hn rfl⟩
    | cons name rest =>
      obtain ⟨q, m, h⟩ := ih hf
      exact ⟨q, m, .jump hs hn (fun _ => nofun) h⟩

theorem resolve_put_folder {p : Place} {s : String}
    (h : t.resolve false here s = .ok (.absent p)) :
    (t.put p .folder).resolve true here s = .ok (.present p .folder) := by
  obtain ⟨he, hl, hh, hw⟩ := resolve_iff.mp h
  refine resolve_iff.mpr ⟨he, hl, hh.imp_right fun hn => ?_, hw.put_folder⟩
  rw [node?_put_of_ne t p here, hn]
  rintro rfl
  have none_ : t.node? here = none := hw.holds
  rw [none_] at hn
  cases hn

theorem resolve_unfollowed {p : Place} {n : Node} {s : String}
    (h : t.resolve true here s = .ok (.present p n)) :
    ∃ q m, t.resolve false here s = .ok (.present q m) := by
  obtain ⟨he, hl, hh, hw⟩ := resolve_iff.mp h
  obtain ⟨q, m, hw⟩ := hw.unfollowed
  exact ⟨q, m, resolve_iff.mpr ⟨he, hl, hh, hw⟩⟩

structure Spot (t : Tree) (q : Place) : Prop where
  above : ∃ top name, q = top ++ [name] ∧ t.node? top = some .folder
  file : ∀ n, t.node? q = some n → n.isFile = true

theorem Spot.ne_nil {q : Place} (spot : Spot t q) : q ≠ [] := by
  obtain ⟨top, name, rfl, _⟩ := spot.above
  simp

theorem Spot.passed {q p : Place} {n : Node} (spot : Spot t q) (bs : List UInt8)
    (hn : t.node? p = some n) (hf : n.isFile = false) :
    (t.put q (.file bs)).node? p = some n := by
  rw [node?_put_of_ne t q p, hn]
  rintro rfl
  rw [spot.file n hn] at hf
  cases hf

/-- What names lead to when a file has been written: the file, if that is its place. -/
theorem Leads.put_file {q : Place} {bs : List UInt8} {found : Target} (spot : Spot t q)
    (h : Leads t follow links here names found) :
    Leads (t.put q (.file bs)) follow links here names
      (if found.place = q then .present q (.file bs) else found) := by
  have self : (t.put q (.file bs)).node? q = some (.file bs) := node?_put_self t q _ spot.ne_nil
  have same {p : Place} (hp : p ≠ q) : (t.put q (.file bs)).node? p = t.node? p :=
    node?_put_of_ne t q p _ hp
  induction h with
  | here hn =>
    split
    · next hp =>
      obtain rfl := hp
      exact .here self
    · next hp => exact .here ((same hp).trans hn)
  | dot _ ih => exact .dot ih
  | up _ ih => exact .up ih
  | free hs hn =>
    split
    · next hp =>
      obtain rfl := hp
      exact .file hs self
    · next hp => exact .free hs ((same hp).trans hn)
  | file hs hn =>
    split
    · next hp =>
      obtain rfl := hp
      exact .file hs self
    · next hp => exact .file hs ((same hp).trans hn)
  | folder hs hn _ ih => exact .folder hs (spot.passed bs hn rfl) ih
  | @stop _ here name target hs hn hl =>
    have there := spot.passed bs hn rfl
    rw [if_neg]
    · exact .stop hs there hl
    · intro hp
      have hp : here ++ [name] = q := hp
      rw [hp, self] at there
      cases there
  | jump hs hn hr _ ih => exact .jump hs (spot.passed bs hn rfl) hr ih

theorem resolve_put_file {q : Place} {bs : List UInt8} {found : Target} {s : String}
    (spot : Spot t q) (h : t.resolve follow here s = .ok found) :
    (t.put q (.file bs)).resolve follow here s =
      .ok (if found.place = q then .present q (.file bs) else found) := by
  obtain ⟨he, hl, hh, hw⟩ := resolve_iff.mp h
  exact resolve_iff.mpr ⟨he, hl, hh.imp_right fun hn => spot.passed bs hn rfl, hw.put_file spot⟩

def Grounded (t : Tree) : Prop :=
  ∀ p name, (t.node? (p ++ [name])).isSome = true → t.node? p = some .folder

theorem grounded_iff : t.Grounded ↔
    ∀ e ∈ t.entries, e.1 ≠ [] → t.node? e.1.dropLast = some .folder := by
  constructor
  · intro grounded e he hne
    apply grounded e.1.dropLast (e.1.getLast hne)
    rw [List.dropLast_append_getLast, node?, if_neg hne, List.lookup_isSome_iff]
    exact ⟨e, he, beq_self_eq_true _⟩
  · intro h p name hs
    rw [node?, if_neg (by simp), List.lookup_isSome_iff] at hs
    obtain ⟨e, he, hp⟩ := hs
    have hp : p ++ [name] = e.1 := beq_iff_eq.mp hp
    have above := h e he (by simp [← hp])
    rwa [← hp, List.dropLast_concat] at above

instance : Decidable t.Grounded := decidable_of_iff' _ grounded_iff

theorem Grounded.alike (grounded : t.Grounded) (h : Alike t u) : u.Grounded := by
  intro p name hs
  rw [← h.isSome] at hs
  exact h.of_not_file (grounded p name hs) fun _ => nofun

/-- Things can be put in a folder, but for a folder only where nothing else is above. -/
theorem Grounded.put (grounded : t.Grounded) {q : Place} {n : Node}
    (above : ∃ top name, q = top ++ [name] ∧ t.node? top = some .folder)
    (safe : t.node? q = some .folder → n = .folder) : (t.put q n).Grounded := by
  obtain ⟨top, name, rfl, above⟩ := above
  intro p other hs
  have there : t.node? p = some .folder := by
    by_cases hp : p ++ [other] = top ++ [name]
    · obtain ⟨rfl, _⟩ := List.append_inj' hp rfl
      exact above
    · rw [node?_put_of_ne t _ _ _ hp] at hs
      exact grounded p other hs
  by_cases hp : p = top ++ [name]
  · subst hp
    rw [node?_put_self t _ _ (by simp), safe there]
  · rw [node?_put_of_ne t _ _ _ hp, there]

theorem Grounded.put_file (grounded : t.Grounded) {q : Place} (spot : Spot t q)
    (bs : List UInt8) : (t.put q (.file bs)).Grounded := by
  refine grounded.put spot.above fun h => ?_
  cases spot.file _ h

theorem Grounded.above (grounded : t.Grounded) (h : t.node? here = some .folder) :
    t.node? here.dropLast = some .folder := by
  obtain rfl | ⟨top, name, rfl⟩ := List.eq_nil_or_concat' here
  · exact h
  · rw [List.dropLast_concat]
    exact grounded top name (by rw [h]; rfl)

theorem Grounded.folder_above (grounded : t.Grounded) {p q : Place} (h : t.node? p = some .folder)
    (hq : q <+: p) : t.node? q = some .folder := by
  induction p using List.reverseRecOn with
  | nil =>
    obtain rfl := List.prefix_nil.mp hq
    exact h
  | append_singleton top name ih =>
    obtain rfl | hq := List.prefix_concat_iff.mp hq
    · exact h
    · exact ih (grounded top name (by rw [h]; rfl)) hq

theorem folder_of_link {target : String} (start : t.node? here = some .folder) :
    t.node? (if isRooted target then [] else here) = some .folder := by
  split
  · rfl
  · exact start

/-- Names lead from a folder to a folder or a spot, or to a link that is left aside. -/
theorem Leads.grounded (grounded : t.Grounded) {found : Target}
    (h : Leads t follow links here names found) (start : t.node? here = some .folder) :
    t.node? found.place = some .folder ∨ Spot t found.place ∨
      follow = false ∧ (t.node? found.place).isSome = true := by
  induction h with
  | here => exact .inl start
  | dot _ ih => exact ih start
  | up _ ih => exact ih (grounded.above start)
  | @free _ here name _ hn =>
    refine .inr (.inl ⟨⟨here, name, rfl, start⟩, fun n h => ?_⟩)
    rw [Target.place, hn] at h
    cases h
  | @file _ here name _ _ hn =>
    refine .inr (.inl ⟨⟨here, name, rfl, start⟩, fun n h => ?_⟩)
    rw [Target.place, hn] at h
    obtain rfl := Option.some.inj h
    rfl
  | folder _ hn _ ih => exact ih hn
  | stop _ hn hl => exact .inr (.inr ⟨hl, by rw [Target.place, hn]; rfl⟩)
  | jump _ _ _ _ ih => exact ih (folder_of_link start)

theorem resolve_grounded (grounded : t.Grounded) {found : Target} {s : String}
    (h : t.resolve follow here s = .ok found) :
    t.node? found.place = some .folder ∨ Spot t found.place ∨
      follow = false ∧ (t.node? found.place).isSome = true := by
  obtain ⟨_, _, hh, hw⟩ := resolve_iff.mp h
  refine hw.grounded grounded ?_
  split
  · rfl
  · next hs => exact hh.resolve_left hs

end DocBraces.Files.Tree
