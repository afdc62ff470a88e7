import DocBraces.Proofs.Session.Keeping

/-! What the activities of a session do to the bytes at one place. Making folders and
logging leave them alone, removing a folder takes away those below it, and writing
changes them only where the path leads. -/

set_option autoImplicit false

namespace DocBraces.Session

open DocBraces.Files

/-- A place and what the file there holds, if there is one. The log is kept elsewhere. -/
structure Holding (q : Place) (v : Option (List UInt8)) (s : Session) : Prop where
  fileAt : s.tree.fileAt q = v
  unlogged : s.logFile ≠ some q

variable {q : Place} {v : Option (List UInt8)} {s : Session}

theorem Holding.setTree (h : Holding q v s) {t : Tree} {w : Option (List UInt8)}
    (ht : t.fileAt q = w) : Holding q w { s with tree := t } :=
  ⟨ht, h.unlogged⟩

theorem fileAt_appendTo_of_ne (t : Tree) {p : Place} (bytes : List UInt8) (h : q ≠ p) :
    (appendTo t p bytes).fileAt q = t.fileAt q := by
  unfold appendTo
  split
  · exact Tree.fileAt_put_of_ne t _ h
  · rfl

theorem Holding.record (h : Holding q v s) (r : Log.Record) : Holding q v (s.record r) := by
  unfold Session.record
  split
  · split
    · exact h
    · exact ⟨h.fileAt, h.unlogged⟩
  · refine ⟨?_, h.unlogged⟩
    dsimp only
    split
    · next place hl =>
      have hne : q ≠ place := by
        rintro rfl
        exact h.unlogged hl
      rw [fileAt_appendTo_of_ne _ _ hne, h.fileAt]
    · exact h.fileAt

theorem log_keeps (logger : String) (level : Nat) (message : String) :
    Keeps (Holding q v) (log logger level message) := fun _ h => h.record _

theorem forgetLog_keeps : Keeps (Holding q v) forgetLog := fun _ h =>
  ⟨h.fileAt, fun hl => h.unlogged (Option.filter_eq_some_iff.mp hl).1⟩

theorem target_ok {follow : Bool} {path : String} {t : Tree.Target} :
    outcome (target follow path) s = .ok t ↔
      hasNul path = false ∧ s.tree.resolve follow s.here path = .ok t := by
  unfold target
  split
  · simp_all
  · rw [outcome_get_bind]
    split
    · next h => simp_all
    · next h => simp_all [fault]

theorem viewed_iff {follow : Bool} {p : Path} {place : Place} {n : Node} :
    s.view.node? follow p = some (place, n) ↔
      outcome (target follow p.toString) s = .ok (.present place n) := by
  rw [target_ok]
  unfold View.node?
  split
  · simp_all
  · simp only [Session.view]
    split <;> simp_all

/-- The folder that a path names, a link at its end left aside. -/
def folderAt (s : Session) (p : Path) : Option Place :=
  match s.view.node? false p with
  | some (place, .folder) => some place
  | _ => none

theorem folderAt_iff {p : Path} {place : Place} : s.folderAt p = some place ↔
    outcome (target false p.toString) s = .ok (.present place .folder) := by
  rw [← viewed_iff]
  unfold folderAt
  split <;> simp_all

theorem target_holds {follow : Bool} {path : String} {t : Tree.Target}
    (h : outcome (target follow path) s = .ok t) : t.Holds s.tree :=
  (Tree.resolve_iff.mp (target_ok.mp h).2).2.2.2.holds

theorem isFolder_of_folderAt {p : Path} {place : Place} (h : s.folderAt p = some place) :
    outcome (isFolder p) s = .ok true := by
  obtain ⟨hn, hr⟩ := target_ok.mp (folderAt_iff.mp h)
  obtain ⟨he, hl, hh, hw⟩ := Tree.resolve_iff.mp hr
  have hf : s.tree.resolve true s.here p.toString = .ok (.present place .folder) :=
    Tree.resolve_iff.mpr ⟨he, hl, hh, hw.followed⟩
  have hnode : outcome (node? p.toString) s = .ok (some .folder) := by
    unfold node?
    rw [if_neg (by simp [hn]), outcome_get_bind, hf]
    rfl
  unfold isFolder
  rw [outcome_bind, hnode]
  rfl

theorem makeFolder_keeps (p : Path) : Keeps (Holding q v) (makeFolder p) := by
  intro s hs
  unfold makeFolder
  rw [after_bind, target_looks]
  split
  · next t ht =>
    split
    · next place =>
      rw [after_get_bind]
      exact hs.setTree (Tree.fileAt_put_folder s.tree q (target_holds ht) ▸ hs.fileAt)
    · exact hs
  · exact hs

theorem unlessFolder_keeps (P : Session → Prop) (p : Path) (f : Failure) :
    Keeps P (unlessFolder p f) :=
  .bind ((isFolder_looks p).keeps P) fun there => by
    cases there
    · exact .throw f
    · exact .pure _

/-- What outlasts the making of one folder outlasts the making of all on a way. -/
theorem Keeps.makePath {P : Session → Prop} (h : ∀ p, Keeps P (makeFolder p)) (p : Path) :
    Keeps P (makePath p) := by
  unfold Session.makePath
  generalize p.names.length + 1 = depth
  induction depth generalizing p with
  | zero => exact .pure _
  | succ depth ih =>
    refine .tryCatch (h p) fun f => ?_
    split
    · split
      · exact .throw _
      · refine .bind (ih p.parent) fun _ => .tryCatch (h p) fun f => ?_
        split
        · exact .throw _
        · exact unlessFolder_keeps _ _ _
        · exact .throw _
    · exact unlessFolder_keeps _ _ _
    · exact .throw _

theorem makePath_keeps (p : Path) : Keeps (Holding q v) (makePath p) := .makePath makeFolder_keeps p

theorem after_setTree_bind {α : Type} (t : Tree) (f : Unit → Run α) (s : Session) :
    after (setTree t >>= f) s = after (f ()) { s with tree := t } := rfl

theorem after_forgetLog_bind {α : Type} (f : Unit → Run α) (s : Session) :
    after (forgetLog >>= f) s = after (f ()) (after forgetLog s) := rfl

theorem removeTree_of_none {p : Path} (h : s.folderAt p = none) :
    after (removeTree p) s = s := by
  unfold removeTree
  rw [after_bind, target_looks]
  split
  · next t ht =>
    split
    · next place =>
      rw [folderAt_iff.mpr ht] at h
      cases h
    · rfl
    · rfl
    · rfl
  · rfl

theorem dropFolder_cases (p : Path) (s : Session) :
    ((∃ f, outcome (dropFolder p) s = .error f) ∧ after (dropFolder p) s = s) ∨
      ∃ place, s.folderAt p = some place ∧ place ≠ [] ∧ outcome (dropFolder p) s = .ok () ∧
        after (dropFolder p) s = { s with tree := s.tree.drop place } := by
  unfold dropFolder
  split
  · exact .inl ⟨⟨_, rfl⟩, rfl⟩
  · rw [outcome_bind, after_bind, target_looks]
    cases ht : outcome (target false p.toString) s with
    | error f => exact .inl ⟨⟨f, rfl⟩, rfl⟩
    | ok t =>
      rcases t with ⟨place, _ | _ | _⟩ | place
      · exact .inl ⟨⟨_, rfl⟩, rfl⟩
      · dsimp only
        split
        · exact .inl ⟨⟨_, rfl⟩, rfl⟩
        · next hne =>
          exact .inr ⟨place, folderAt_iff.mpr ht, by simpa using hne, rfl, rfl⟩
      · exact .inl ⟨⟨_, rfl⟩, rfl⟩
      · exact .inl ⟨⟨_, rfl⟩, rfl⟩

theorem Holding.removeTree {p : Path} {place : Place} (h : Holding q v s)
    (hp : s.folderAt p = some place) :
    Holding q (if place <+: q then none else v) (after (removeTree p) s) := by
  have ht := folderAt_iff.mp hp
  have cleared : Holding q (if place <+: q then none else v)
      { s with tree := s.tree.clear place } := by
    refine h.setTree ?_
    rw [Tree.fileAt_clear _ _ (target_holds ht), h.fileAt]
  have forgotten := forgetLog_keeps _ cleared
  generalize (if place <+: q then none else v) = w at forgotten ⊢
  unfold Session.removeTree
  rw [after_bind, ht, target_looks]
  dsimp only
  rw [after_get_bind, after_setTree_bind, after_forgetLog_bind]
  obtain ⟨_, ha⟩ | ⟨last, hl, _, _, ha⟩ := dropFolder_cases p
    (after forgetLog { s with tree := s.tree.clear place })
  · rwa [ha]
  · rw [ha]
    refine forgotten.setTree ?_
    rw [Tree.fileAt_drop _ _ (target_holds (folderAt_iff.mp hl)), forgotten.fileAt]

/-- The place of the file that writing a path makes or changes. -/
def landing (s : Session) (p : Path) : Option Place :=
  match outcome (opening .writing p.toString) s with
  | .ok (.present _ .folder) => none
  | .ok t => some t.place
  | .error _ => none

theorem outcome_opening (a : Access) (path : String) (s : Session) :
    outcome (opening a path) s = if s.denies a path then .error (.file ⟨.denied, path⟩)
      else outcome (target true path) s := by
  unfold opening
  rw [outcome_get_bind]
  split <;> rfl

theorem opening_ok {a : Access} {path : String} {t : Tree.Target} :
    outcome (opening a path) s = .ok t ↔ s.denies a path = false ∧ hasNul path = false ∧
      s.tree.resolve true s.here path = .ok t := by
  rw [outcome_opening, ← target_ok]
  cases s.denies a path <;> simp

theorem landing_iff {p : Path} {place : Place} : s.landing p = some place ↔
    ∃ t, outcome (opening .writing p.toString) s = .ok t ∧ t.place = place ∧
      ∀ at_, t ≠ .present at_ .folder := by
  unfold landing
  cases outcome (opening .writing p.toString) s with
  | error f => simp
  | ok t =>
    cases t with
    | absent at_ => simp
    | present at_ n => cases n <;> simp

theorem landing_of_alike {s' : Session} (ht : Tree.Alike s.tree s'.tree) (hh : s'.here = s.here)
    (hl : s'.locked = s.locked) {p : Path} {place : Place} (h : s.landing p = some place) :
    s'.landing p = some place := by
  obtain ⟨t, ho, rfl, hf⟩ := landing_iff.mp h
  obtain ⟨hlock, hn, hr⟩ := opening_ok.mp ho
  obtain ⟨other, hother, hlike⟩ := Tree.resolve_alike ht hr
  have unlocked : s'.denies .writing p.toString = false := by rwa [denies, hl, hh]
  refine landing_iff.mpr ⟨other, opening_ok.mpr ⟨unlocked, hn, hh ▸ hother⟩, ?_⟩
  obtain rfl | ⟨at_, a, b, rfl, rfl⟩ := hlike
  · exact ⟨rfl, hf⟩
  · exact ⟨rfl, fun _ => nofun⟩

theorem appendTo_alike (t : Tree) (place : Place) (bytes : List UInt8) :
    Tree.Alike t (appendTo t place bytes) := by
  unfold appendTo
  split
  · next old h => exact Tree.alike_put _ h
  · exact fun _ => .inl rfl

theorem record_alike (s : Session) (r : Log.Record) : Tree.Alike s.tree (s.record r).tree := by
  unfold Session.record
  split
  · split <;> exact fun _ => .inl rfl
  · dsimp only
    split
    · exact appendTo_alike _ _ _
    · exact fun _ => .inl rfl

theorem node?_record (r : Log.Record) (h : s.logFile ≠ some q) :
    (s.record r).tree.node? q = s.tree.node? q := by
  unfold Session.record
  split
  · split <;> rfl
  · dsimp only
    split
    · next place hp =>
      unfold appendTo
      split
      · have hne : q ≠ place := by
          rintro rfl
          exact h hp
        exact Tree.node?_put_of_ne _ _ _ _ hne
      · rfl
    · rfl

theorem record_tree (r : Log.Record) (h : s.logFile = none) : (s.record r).tree = s.tree := by
  unfold Session.record
  split
  · split <;> rfl
  · rw [h]

/-- A record changes the tree and what has been said, and no other field of a session. -/
theorem record_eq (s : Session) (r : Log.Record) :
    ∃ tree errors, s.record r = { s with tree, errors } := by
  unfold Session.record
  split
  · split
    · exact ⟨s.tree, s.errors, rfl⟩
    · exact ⟨s.tree, _, rfl⟩
  · exact ⟨_, _, rfl⟩

theorem record_logFile (s : Session) (r : Log.Record) : (s.record r).logFile = s.logFile := by
  obtain ⟨_, _, h⟩ := record_eq s r
  rw [h]

theorem record_here (s : Session) (r : Log.Record) : (s.record r).here = s.here := by
  obtain ⟨_, _, h⟩ := record_eq s r
  rw [h]

theorem record_locked (s : Session) (r : Log.Record) : (s.record r).locked = s.locked := by
  obtain ⟨_, _, h⟩ := record_eq s r
  rw [h]

theorem record_levels (s : Session) (r : Log.Record) : (s.record r).levels = s.levels := by
  obtain ⟨_, _, h⟩ := record_eq s r
  rw [h]

theorem landing_record (s : Session) (r : Log.Record) (p : Path) :
    (s.record r).landing p = s.landing p := by
  have there := record_alike s r
  refine Option.ext fun place => ⟨fun h => ?_, fun h => ?_⟩
  · exact landing_of_alike there.symm (record_here s r).symm (record_locked s r).symm h
  · exact landing_of_alike there (record_here s r) (record_locked s r) h

/-- A session becomes another one by logging alone. -/
inductive Logged : Session → Session → Prop
  | refl (s : Session) : Logged s s
  | record (s : Session) (r : Log.Record) : Logged s (s.record r)

theorem Logged.holding {s' : Session} (hl : Logged s s') (h : Holding q v s) :
    Holding q v s' := by
  cases hl with
  | refl => exact h
  | record r => exact h.record r

theorem Logged.alike {s' : Session} (hl : Logged s s') : Tree.Alike s.tree s'.tree := by
  cases hl with
  | refl => exact fun _ => .inl rfl
  | record r => exact record_alike s r

theorem Logged.node? {s' : Session} (hl : Logged s s') (h : s.logFile ≠ some q) :
    s'.tree.node? q = s.tree.node? q := by
  cases hl with
  | refl => rfl
  | record r => exact node?_record r h

theorem Logged.logFile {s' : Session} (hl : Logged s s') : s'.logFile = s.logFile := by
  cases hl with
  | refl => rfl
  | record r => exact record_logFile s r

theorem Logged.here {s' : Session} (hl : Logged s s') : s'.here = s.here := by
  cases hl with
  | refl => rfl
  | record r => exact record_here s r

theorem Logged.landing {s' : Session} (hl : Logged s s') (p : Path) :
    s'.landing p = s.landing p := by
  cases hl with
  | refl => rfl
  | record r => exact landing_record s r p

theorem record_silent (h : s.logging = none) {r : Log.Record} (hr : r.level < Log.warningLevel) :
    s.record r = s := by
  rw [Session.record, h]
  exact if_pos hr

theorem after_writeBytes (p : Path) (bytes : List UInt8) (s : Session) :
    after (writeBytes p bytes) s = match s.landing p with
      | some place => { s with tree := s.tree.put place (.file bytes) }
      | none => s := by
  unfold writeBytes landing
  rw [after_bind, opening_looks]
  cases outcome (opening .writing p.toString) s with
  | error f => rfl
  | ok t =>
    cases t with
    | absent place => rfl
    | present place n => cases n <;> rfl

theorem outcome_writeBytes (p : Path) (bytes : List UInt8) (s : Session) :
    match s.landing p with
    | some _ => outcome (writeBytes p bytes) s = .ok ()
    | none => ∃ f, outcome (writeBytes p bytes) s = .error f := by
  unfold writeBytes landing
  rw [outcome_bind]
  cases outcome (opening .writing p.toString) s with
  | error f => exact ⟨f, rfl⟩
  | ok t =>
    cases t with
    | absent place => rfl
    | present place n =>
      cases n with
      | folder => exact ⟨_, rfl⟩
      | file bs => rfl
      | link target => rfl

theorem landing_ne_nil {p : Path} {place : Place} (h : s.landing p = some place) :
    place ≠ [] := by
  obtain ⟨t, ho, rfl, hf⟩ := landing_iff.mp h
  have there := target_holds (target_ok.mpr (opening_ok.mp ho).2)
  rintro hp
  cases t with
  | absent at_ =>
    obtain rfl : at_ = [] := hp
    simp [Tree.Target.Holds, Tree.node?] at there
  | present at_ n =>
    obtain rfl : at_ = [] := hp
    obtain rfl : n = .folder := by simpa [Tree.Target.Holds, Tree.node?] using there.symm
    exact hf [] rfl

theorem Holding.put (h : Holding q v s) {place : Place} (bytes : List UInt8)
    (hp : place ≠ []) : Holding q (if q = place then some bytes else v)
      { s with tree := s.tree.put place (.file bytes) } := by
  refine h.setTree ?_
  split
  · next hq =>
    subst hq
    exact Tree.fileAt_put_self _ _ hp
  · next hq => rw [Tree.fileAt_put_of_ne _ _ hq, h.fileAt]

theorem landing_before_put {place : Place} {bytes : List UInt8} {p : Path}
    (hp : place ≠ []) (hne : q ≠ place)
    (h : landing { s with tree := s.tree.put place (.file bytes) } p = some q) :
    s.landing p = some q := by
  obtain ⟨t, ho, rfl, hf⟩ := landing_iff.mp h
  obtain ⟨hlock, hn, hr⟩ := opening_ok.mp ho
  exact landing_iff.mpr ⟨t, opening_ok.mpr ⟨hlock, hn, Tree.resolve_before_put hr hne hp⟩,
    rfl, hf⟩

theorem node?_ok {p : Path} {n : Option Node} (h : outcome (node? p.toString) s = .ok n) :
    n = (s.view.node? true p).map (·.2) := by
  unfold Session.node? at h
  unfold View.node? Session.view
  by_cases hnul : hasNul p.toString = true
  · rw [if_pos hnul] at h ⊢
    cases h
    rfl
  · rw [if_neg hnul] at h ⊢
    rw [outcome_get_bind] at h
    dsimp only
    cases hr : s.tree.resolve true s.here p.toString with
    | error c =>
      rw [hr] at h
      cases c <;> first | (cases h; rfl) | cases h
    | ok t =>
      rw [hr] at h
      cases t <;> (cases h; rfl)

theorem isFile_ok {p : Path} {b : Bool} (h : outcome (isFile p) s = .ok b) :
    b = true ↔ ∃ place bs, s.view.node? true p = some (place, .file bs) := by
  unfold isFile at h
  rw [outcome_bind, node?_looks] at h
  cases hn : outcome (node? p.toString) s with
  | error f => simp [hn] at h
  | ok n =>
    rw [hn, node?_ok hn] at h
    cases hv : s.view.node? true p with
    | none =>
      rw [hv] at h
      cases h
      simp
    | some found =>
      obtain ⟨place, node⟩ := found
      rw [hv] at h
      cases node <;> (cases h; simp)

theorem readBytes_ok {p : Path} {bytes : List UInt8} (h : outcome (readBytes p) s = .ok bytes) :
    ∃ place, s.view.node? true p = some (place, .file bytes) := by
  unfold readBytes at h
  rw [outcome_bind, opening_looks] at h
  cases ho : outcome (opening .reading p.toString) s with
  | error f => simp [ho] at h
  | ok t =>
    rw [ho] at h
    have hv := (opening_ok.mp ho).2
    cases t with
    | absent place => simp [fault] at h
    | present place n =>
      cases n with
      | file bs =>
        obtain rfl : bs = bytes := by simpa using h
        exact ⟨place, viewed_iff.mpr (target_ok.mpr hv)⟩
      | folder => simp [fault] at h
      | link target => simp [fault] at h

theorem opened_of_landing {p : Path} {place : Place} (h : s.landing p = some place) :
    ∃ t, outcome (target true p.toString) s = .ok t ∧ t.place = place := by
  obtain ⟨t, ho, ht, -⟩ := landing_iff.mp h
  exact ⟨t, target_ok.mpr (opening_ok.mp ho).2, ht⟩

theorem viewed_of_landing {p : Path} {bytes : List UInt8} (h : s.landing p = some q)
    (held : s.tree.node? q = some (.file bytes)) :
    s.view.node? true p = some (q, .file bytes) := by
  obtain ⟨t, ho, rfl⟩ := opened_of_landing h
  have there := target_holds ho
  rw [viewed_iff, ho]
  cases t with
  | absent place => exact nomatch (show s.tree.node? place = none from there).symm.trans held
  | present place n =>
    obtain rfl := Option.some.inj ((show s.tree.node? place = some n from there).symm.trans held)
    rfl

theorem readBytes_of_viewed {p : Path} {bytes : List UInt8}
    (h : s.view.node? true p = some (q, .file bytes)) :
    outcome (readBytes p) s = if s.denies .reading p.toString then
      .error (.file ⟨.denied, p.toString⟩) else .ok bytes := by
  unfold readBytes
  rw [outcome_bind, outcome_opening, viewed_iff.mp h]
  cases s.denies .reading p.toString <;> rfl

end DocBraces.Session
