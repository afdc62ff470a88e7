import DocBraces.Proofs.Docs.Settling

/-!
# Pages in turn

One page after the other has its turn. A page that is no text is passed over, and a page
that cannot be opened for what is to be done with it ends the work. The account that is
given of this is right, and over what was left behind the same pages get through again.
-/

set_option autoImplicit false

namespace DocBraces.Docs

open DocBraces.Files DocBraces.Session DocBraces.Text

variable {s s' : Session}

def skipNote (page : Path) (f : Utf8.Fault) : Log.Record where
  logger := pagesLogger
  level := Log.warningLevel
  message := s!"Skipping {page.toString}: not valid UTF-8 ({f.message})"

theorem outcome_restoreNext (result : PagesResult) (page : Path) (s : Session) :
    outcome (restoreNext result page) s = match outcome (restorePage page) s with
      | .ok true => .ok { result with
          scanned := result.scanned + 1, changed := result.changed ++ [page] }
      | .ok false => .ok { result with scanned := result.scanned + 1 }
      | .error (.undecodable _) => .ok { result with
          scanned := result.scanned + 1, skipped := result.skipped ++ [page] }
      | .error f => .error f := by
  unfold restoreNext
  dsimp only
  rw [outcome_bind, outcome_tryCatch, outcome_bind]
  cases outcome (restorePage page) s with
  | error f => cases f <;> rfl
  | ok changed => cases changed <;> rfl

theorem after_restoreNext (result : PagesResult) (page : Path) (s : Session) :
    after (restoreNext result page) s = match outcome (restorePage page) s with
      | .error (.undecodable f) => (after (restorePage page) s).record (skipNote page f)
      | _ => after (restorePage page) s := by
  unfold restoreNext
  dsimp only
  rw [after_bind, outcome_tryCatch, after_tryCatch, outcome_bind, after_bind]
  cases outcome (restorePage page) s with
  | error f => cases f <;> rfl
  | ok changed => cases changed <;> rfl

theorem reached_one {page : Path} {place : Place} {bytes : List UInt8}
    (h : fileOf s page = some (place, bytes)) {q : Place} : Reached s [page] q ↔ q = place := by
  constructor
  · rintro ⟨p, hp, other, ho⟩
    obtain rfl := List.mem_singleton.mp hp
    rw [h] at ho
    exact (congrArg Prod.fst (Option.some.inj ho)).symm
  · rintro rfl
    exact ⟨page, by simp, bytes, h⟩

theorem restorePage_settles (distinct : s.tree.Distinct) {page : Path}
    (goes : stopOf s page = none) :
    SettledAt (Reached s [page]) s (after (restorePage page) s) := by
  have same {place : Place} {bytes : List UInt8} (hf : fileOf s page = some (place, bytes))
      (hb : settled bytes = bytes) : SettledAt (Reached s [page]) s s := by
    refine ⟨.refl s, fun q other hq hn => ?_, fun _ _ _ => rfl⟩
    obtain rfl := (reached_one hf).mp hq
    rw [fileOf_node? hf] at hn
    obtain rfl : bytes = other := by simpa using hn
    rw [hb]
    exact fileOf_node? hf
  have one := restorePage_restored page s
  have stops {f : Fault} : outcome (restorePage page) s ≠ .error (.file f) :=
    fun h => nomatch goes.symm.trans (stopOf_eq_some.mpr h)
  generalize outcome (restorePage page) s = ending at one stops
  generalize after (restorePage page) s = s₁ at one ⊢
  cases one with
  | barred => exact absurd rfl stops
  | denied => exact absurd rfl stops
  | nothing hf =>
    refine .refl ?_
    rintro q ⟨p, hp, bytes, hb⟩
    obtain rfl := List.mem_singleton.mp hp
    rw [hf] at hb
    cases hb
  | illegible hf hd => exact same hf (settled_of_error hd)
  | kept hf _ hb => exact same hf hb
  | @changed place bytes text hf _ _ =>
    have hn := fileOf_node? hf
    refine ⟨.put distinct hn _, fun q other hq ho => ?_, fun q hq _ => ?_⟩
    · obtain rfl := (reached_one hf).mp hq
      rw [hn] at ho
      obtain rfl : bytes = other := by simpa using ho
      exact Tree.node?_put_self _ _ _ (Tree.ne_nil_of_file hn)
    · exact Tree.node?_put_of_ne _ _ _ _ fun h => hq ((reached_one hf).mpr h)

theorem restoreNext_settles (distinct : s.tree.Distinct) (result : PagesResult) {page : Path}
    (apart : Unlogged s [page]) (goes : stopOf s page = none) :
    SettledAt (Reached s [page]) s (after (restoreNext result page) s) := by
  have one := restorePage_settles distinct goes
  rw [after_restoreNext]
  split
  · next f _ =>
    have noted := SettledAt.noted (one.rewritten.distinct distinct) (skipNote page f)
    exact one.trans noted (fun q => by simp) apart
  · exact one

theorem changes_eq (distinct : s.tree.Distinct) {page : Path} (goes : stopOf s page = none) :
    changes s page = match fileOf s page with
      | some (_, bytes) => settled bytes != bytes
      | none => false := by
  have one := restorePage_settles distinct goes
  unfold changes
  generalize after (restorePage page) s = s₁ at one ⊢
  cases hf : fileOf s page with
  | none =>
    rw [fileOf_none one.rewritten hf]
    rfl
  | some found =>
    obtain ⟨q, bytes⟩ := found
    obtain ⟨other, ho, hn⟩ := fileOf_rewritten one.rewritten hf
    rw [one.within q bytes ((reached_one hf).mpr rfl) (fileOf_node? hf)] at hn
    obtain rfl : settled bytes = other := by simpa using hn
    rw [ho]
    by_cases hb : settled bytes = bytes
    · simp [hb]
    · have hne : some bytes ≠ some (settled bytes) := fun h => hb (Option.some.inj h).symm
      exact (bne_iff_ne.mpr hne).trans (bne_iff_ne.mpr hb).symm

theorem restoreNext_accounts (distinct : s.tree.Distinct) (result : PagesResult) {page : Path}
    (goes : stopOf s page = none) :
    outcome (restoreNext result page) s = .ok { result with
      scanned := result.scanned + 1
      changed := result.changed ++ [page].filter (changes s)
      skipped := result.skipped ++ [page].filter (illegible s) } := by
  have hc := changes_eq distinct goes
  have one := restorePage_restored page s
  have stops {f : Fault} : outcome (restorePage page) s ≠ .error (.file f) :=
    fun h => nomatch goes.symm.trans (stopOf_eq_some.mpr h)
  rw [outcome_restoreNext, List.filter_singleton, List.filter_singleton, hc]
  unfold illegible
  generalize outcome (restorePage page) s = ending at one stops ⊢
  generalize after (restorePage page) s = s₁ at one
  cases one with
  | barred => exact absurd rfl stops
  | denied => exact absurd rfl stops
  | nothing hf => simp [hf]
  | illegible hf hd => simp [hf, hd, settled_of_error hd]
  | kept hf hd hb => simp [hf, hd, hb]
  | changed hf hd hb => simp [hf, hd, bne_iff_ne.mpr hb]

theorem restoreNext_stops (result : PagesResult) {page : Path} {f : Fault}
    (h : stopOf s page = some f) : outcome (restoreNext result page) s = .error (.file f) ∧
      after (restoreNext result page) s = s := by
  rw [outcome_restoreNext, after_restoreNext, stopOf_eq_some.mp h]
  exact ⟨rfl, restorePage_stops h⟩

/-- The pages that get through, each with the session in which it has its turn. The first
page that ends the work does not, nor do those after it. -/
def turns : List Path → Session → List (Path × Session)
  | [], _ => []
  | page :: pages, s => match stopOf s page with
    | none => (page, s) :: turns pages (after (restoreNext {} page) s)
    | some _ => []

def through (pages : List Path) (s : Session) : List Path := (turns pages s).map Prod.fst

/-- The fault of the page that ends the work, if one does. -/
def firstFault : List Path → Session → Option Fault
  | [], _ => none
  | page :: pages, s => match stopOf s page with
    | none => firstFault pages (after (restoreNext {} page) s)
    | some f => some f

def stopText (f : Fault) : String := s!"{f.cause.name}: {f.message}"

def stopNote (f : Fault) : Log.Record where
  logger := pagesLogger
  level := Log.warningLevel
  message := s!"HTML post-processing failed: {stopText f}"

theorem outcome_stopAt (result : PagesResult) (f : Fault) (s : Session) :
    outcome (stopAt result f) s = .ok { result with error := some (stopText f) } := rfl

theorem outcome_restoreAll_cons (page : Path) (pages : List Path) (result : PagesResult)
    (s : Session) : outcome (restoreAll (page :: pages) result) s =
      match outcome (restoreNext result page) s with
      | .ok next => outcome (restoreAll pages next) (after (restoreNext result page) s)
      | .error (.file f) => .ok { result with
          scanned := result.scanned + 1, error := some (stopText f) }
      | .error f => .error f := by
  have hm : after (Sum.inl (β := Fault) <$> restoreNext result page) s =
      after (restoreNext result page) s := after_map _ _ _
  rw [restoreAll, outcome_bind, outcome_tryCatch, after_tryCatch, outcome_map, hm]
  cases outcome (restoreNext result page) s with
  | error f => cases f <;> rfl
  | ok next => rfl

theorem after_restoreAll_cons (page : Path) (pages : List Path) (result : PagesResult)
    (s : Session) : after (restoreAll (page :: pages) result) s =
      match outcome (restoreNext result page) s with
      | .ok next => after (restoreAll pages next) (after (restoreNext result page) s)
      | .error (.file f) => after (stopAt { result with scanned := result.scanned + 1 } f)
          (after (restoreNext result page) s)
      | .error _ => after (restoreNext result page) s := by
  have hm : after (Sum.inl (β := Fault) <$> restoreNext result page) s =
      after (restoreNext result page) s := after_map _ _ _
  rw [restoreAll, after_bind, outcome_tryCatch, after_tryCatch, outcome_map, hm]
  cases outcome (restoreNext result page) s with
  | error f => cases f <;> rfl
  | ok next => rfl

theorem after_restoreNext_eq (result : PagesResult) (page : Path) (s : Session) :
    after (restoreNext result page) s = after (restoreNext {} page) s := by
  rw [after_restoreNext, after_restoreNext]

section
variable {page : Path} (pages : List Path)

theorem turns_cons (goes : stopOf s page = none) : turns (page :: pages) s =
    (page, s) :: turns pages (after (restoreNext {} page) s) := by
  rw [turns, goes]

theorem turns_stop {f : Fault} (stops : stopOf s page = some f) : turns (page :: pages) s = [] := by
  rw [turns, stops]

theorem through_cons (goes : stopOf s page = none) : through (page :: pages) s =
    page :: through pages (after (restoreNext {} page) s) := by
  rw [through, turns_cons pages goes]
  rfl

theorem through_stop {f : Fault} (stops : stopOf s page = some f) :
    through (page :: pages) s = [] := by
  rw [through, turns_stop pages stops]
  rfl

theorem firstFault_cons (goes : stopOf s page = none) : firstFault (page :: pages) s =
    firstFault pages (after (restoreNext {} page) s) := by
  rw [firstFault, goes]

theorem firstFault_stop {f : Fault} (stops : stopOf s page = some f) :
    firstFault (page :: pages) s = some f := by
  rw [firstFault, stops]

theorem through_initial (s : Session) : through pages s <+: pages := by
  induction pages generalizing s with
  | nil => exact List.prefix_refl _
  | cons page pages ih =>
    cases hstop : stopOf s page with
    | some f =>
      rw [through_stop pages hstop]
      exact List.nil_prefix
    | none =>
      rw [through_cons pages hstop]
      exact List.cons_prefix_cons.mpr ⟨rfl, ih _⟩

theorem Unlogged.through (h : Unlogged s pages) : Unlogged s (through pages s) :=
  h.mono fun _ => ((through_initial pages s).subset ·)

theorem firstFault_isSome (s : Session) :
    (firstFault pages s).isSome = true ↔ (turns pages s).length < pages.length := by
  induction pages generalizing s with
  | nil => simp [firstFault, turns]
  | cons page pages ih =>
    cases hstop : stopOf s page with
    | some f => simp [firstFault_stop pages hstop, turns_stop pages hstop]
    | none =>
      rw [firstFault_cons pages hstop, turns_cons pages hstop, ih, List.length_cons,
        List.length_cons, Nat.add_lt_add_iff_right]

end

structure Accounts (pages : List Path) (s : Session) (result r : PagesResult) : Prop where
  docsDir : r.docsDir = result.docsDir
  disabled : r.disabled = result.disabled
  scanned : r.scanned = result.scanned + min ((turns pages s).length + 1) pages.length
  changed : r.changed = result.changed ++
    ((turns pages s).filter fun turn => changes turn.2 turn.1).map Prod.fst
  skipped : r.skipped = result.skipped ++ (through pages s).filter (illegible s)
  error : r.error = ((firstFault pages s).map stopText).or result.error

/-- A run settles the files of the pages that get through, and gives account of it. -/
theorem restoreAll_accounts (distinct : s.tree.Distinct) (pages : List Path)
    (apart : Unlogged s pages) (result : PagesResult) :
    SettledAt (Reached s (through pages s)) s (after (restoreAll pages result) s) ∧
      ∃ r, outcome (restoreAll pages result) s = .ok r ∧ Accounts pages s result r := by
  induction pages generalizing s result with
  | nil =>
    refine ⟨.refl ?_, result, rfl, ?_⟩
    · rintro q ⟨page, hm, _⟩
      cases hm
    · constructor <;> simp [turns, through, firstFault]
  | cons page pages ih =>
    cases hstop : stopOf s page with
    | some f =>
      obtain ⟨ho, ha⟩ := restoreNext_stops result hstop
      have none_ := through_stop pages hstop
      rw [outcome_restoreAll_cons, after_restoreAll_cons, ho, ha, none_]
      refine ⟨.record distinct ?_ _, _, rfl, ?_⟩
      · rintro q ⟨p, hm, _⟩
        cases hm
      · constructor <;> simp [none_, turns_stop pages hstop, firstFault_stop pages hstop]
    | none =>
      have ho := restoreNext_accounts distinct result hstop
      have one := restoreNext_settles distinct result (apart.mono (by simp)) hstop
      have rest : Unlogged s pages := apart.mono (by simp_all)
      obtain ⟨more, r, hr, account⟩ := ih (one.rewritten.distinct distinct)
        (rest.rewritten one.rewritten) { result with
          scanned := result.scanned + 1
          changed := result.changed ++ [page].filter (changes s)
          skipped := result.skipped ++ [page].filter (illegible s) }
      have all := through_cons pages hstop
      have every := turns_cons pages hstop
      have fault := firstFault_cons pages hstop
      rw [← after_restoreNext_eq result] at all every fault
      rw [outcome_restoreAll_cons, after_restoreAll_cons, ho, all]
      dsimp only
      generalize after (restoreNext result page) s = s₁ at *
      refine ⟨?_, r, hr, account.docsDir, account.disabled, ?_, ?_, ?_, ?_⟩
      · refine one.trans more (fun q => ?_) (all ▸ apart.through)
        rw [reached_cons]
        exact or_congr_right ⟨.rewritten one.rewritten, .rewritten one.rewritten.symm⟩
      · rw [account.scanned, every, List.length_cons, List.length_cons]
        dsimp only
        omega
      · rw [account.changed, every, List.append_assoc, List.filter_cons]
        cases hc : changes s page <;> simp [hc]
      · have legible : ∀ p ∈ through pages s₁, illegible s₁ p = illegible s p := by
          intro p hp
          have hm : p ∈ pages := (through_initial pages s₁).subset hp
          exact one.illegible (apart.mono (by simp [hm]))
        rw [account.skipped, all, List.append_assoc, List.filter_congr legible]
        cases hi : illegible s page <;> simp [hi]
      · rw [account.error, fault]

/-- Nothing is left to do for a page that leads to settled bytes. -/
theorem settled_idle (distinct : s.tree.Distinct) (result : PagesResult) {page : Path}
    (apart : Unlogged s [page]) (goes : stopOf s page = none)
    (fixed : ∀ q bytes, fileOf s page = some (q, bytes) → settled bytes = bytes) :
    SettledAt (fun _ => False) s (after (restoreNext result page) s) ∧
      changes s page = false := by
  constructor
  · refine (restoreNext_settles distinct result apart goes).idle ?_
    rintro q ⟨p, hm, bytes, hf⟩
    obtain rfl := List.mem_singleton.mp hm
    exact ⟨bytes, fileOf_node? hf, fixed q bytes hf⟩
  · rw [changes_eq distinct goes]
    split
    · next q bytes hf => simp [fixed q bytes hf]
    · rfl

/-- Where a run has been, and nothing but notes since, a second run gets through the same
pages, ends with the same fault, and changes none of them. -/
theorem turns_again (distinct : s.tree.Distinct) {pages : List Path} (apart : Unlogged s pages)
    (result : PagesResult) {u : Session}
    (since : SettledAt (fun _ => False) (after (restoreAll pages result) s) u) :
    through pages u = through pages s ∧ firstFault pages u = firstFault pages s ∧
      ((turns pages u).filter fun turn => changes turn.2 turn.1) = [] := by
  induction pages generalizing s u result with
  | nil => exact ⟨rfl, rfl, rfl⟩
  | cons page pages ih =>
    have until_ : SettledAt (Reached s (through (page :: pages) s)) s u :=
      (restoreAll_accounts distinct (page :: pages) apart result).1.trans since
        (fun q => by simp) apart.through
    have here : Unlogged s [page] := apart.mono (by simp)
    cases hstop : stopOf s page with
    | some f =>
      rw [through_stop pages hstop] at until_
      have still : stopOf u page = some f := by
        rw [← hstop]
        refine stopOf_congr until_.rewritten (until_.content (fun q _ => ?_) here)
        rintro ⟨p, hm, _⟩
        cases hm
      rw [through_stop pages hstop, through_stop pages still, firstFault_stop pages hstop,
        firstFault_stop pages still, turns_stop pages still]
      exact ⟨rfl, rfl, rfl⟩
    | none =>
      have one := restoreNext_settles distinct result here hstop
      rw [after_restoreAll_cons, restoreNext_accounts distinct result hstop] at since
      rw [through_cons pages hstop] at until_
      have fixed : ∀ q bytes, fileOf u page = some (q, bytes) → settled bytes = bytes := by
        intro q bytes hf
        obtain ⟨other, ho, hn⟩ := fileOf_rewritten until_.rewritten.symm hf
        have now := until_.within q other ⟨page, by simp, other, ho⟩ hn
        rw [fileOf_node? hf] at now
        cases now
        exact settled_settled other
      have goes := stopOf_settled until_.rewritten hstop fixed
      have distinct_ := until_.rewritten.distinct distinct
      obtain ⟨idle, unmoved⟩ :=
        settled_idle distinct_ {} (here.rewritten until_.rewritten) goes fixed
      have rest : Unlogged s pages := apart.mono (by simp_all)
      obtain ⟨same, fault, unchanged⟩ := ih (one.rewritten.distinct distinct)
        (rest.rewritten one.rewritten) _
        (since.trans idle (fun q => by simp) fun _ => False.elim)
      rw [after_restoreNext_eq result] at same fault
      rw [through_cons pages goes, through_cons pages hstop, firstFault_cons pages goes,
        firstFault_cons pages hstop, turns_cons pages goes, List.filter_cons, unmoved,
        if_neg Bool.false_ne_true]
      exact ⟨congrArg _ same, fault, unchanged⟩

end DocBraces.Docs
