import DocBraces.Docs.Pages
import DocBraces.Proofs.Braces.Restoring
import DocBraces.Proofs.Session.Rewriting
import DocBraces.Proofs.Text.Utf8

/-!
# Settled files

Restoring a page settles the file that the page leads to: a text is restored, and what is
no text stays. What is settled stays so. What files hold has no say in where pages lead
and in whether they can be read.
-/

set_option autoImplicit false

namespace DocBraces.Docs

open DocBraces.Files DocBraces.Session DocBraces.Text

/-- The bytes of a page once it has been restored. Those that are no text stay. -/
def settled (bytes : List UInt8) : List UInt8 :=
  match Utf8.decode bytes with
  | .ok text => Utf8.encode (Codec.default.restore text)
  | .error _ => bytes

theorem settled_of_ok {bytes : List UInt8} {text : List Char} (h : Utf8.decode bytes = .ok text) :
    settled bytes = Utf8.encode (Codec.default.restore text) := by
  rw [settled, h]

theorem settled_of_error {bytes : List UInt8} {f : Utf8.Fault}
    (h : Utf8.decode bytes = .error f) : settled bytes = bytes := by
  rw [settled, h]

theorem decode_settled {bytes : List UInt8} {text : List Char}
    (h : Utf8.decode bytes = .ok text) :
    Utf8.decode (settled bytes) = .ok (Codec.default.restore text) := by
  rw [settled_of_ok h, Utf8.decode_encode]

theorem settled_settled (bytes : List UInt8) : settled (settled bytes) = settled bytes := by
  cases h : Utf8.decode bytes with
  | error f => rw [settled_of_error h, settled_of_error h]
  | ok text =>
    have free := Codec.default.restore_free text
    rw [settled_of_ok (decode_settled h), (Codec.default.restore_eq_self_iff _).mpr free,
      settled_of_ok h]

theorem settled_eq_self_iff {bytes : List UInt8} {text : List Char}
    (h : Utf8.decode bytes = .ok text) :
    settled bytes = bytes ↔ Codec.default.restore text = text := by
  rw [settled_of_ok h, ← Utf8.encode_of_decode h]
  exact ⟨Utf8.encode_injective, congrArg _⟩

/-- The file that a path leads to, and what it holds. -/
def fileOf (s : Session) (p : Path) : Option (Place × List UInt8) :=
  match s.view.node? true p with
  | some (place, .file bytes) => some (place, bytes)
  | _ => none

theorem fileOf_eq_some {s : Session} {p : Path} {place : Place} {bytes : List UInt8} :
    fileOf s p = some (place, bytes) ↔ s.view.node? true p = some (place, .file bytes) := by
  unfold fileOf
  split <;> simp_all

theorem fileOf_node? {s : Session} {p : Path} {place : Place} {bytes : List UInt8}
    (h : fileOf s p = some (place, bytes)) : s.tree.node? place = some (.file bytes) :=
  target_holds (viewed_iff.mp (fileOf_eq_some.mp h))

theorem fileOf_rewritten {s s' : Session} (h : Rewritten s s') {p : Path} {place : Place}
    {bytes : List UInt8} (hf : fileOf s p = some (place, bytes)) :
    ∃ other, fileOf s' p = some (place, other) ∧ s'.tree.node? place = some (.file other) := by
  obtain ⟨m, hm, hlike⟩ := h.view.node? (fileOf_eq_some.mp hf)
  obtain ⟨other, rfl⟩ : ∃ other, m = .file other := by
    obtain rfl | ⟨a, b, _, rfl⟩ := hlike
    · exact ⟨bytes, rfl⟩
    · exact ⟨b, rfl⟩
  have there := fileOf_eq_some.mpr hm
  exact ⟨other, there, fileOf_node? there⟩

theorem fileOf_none {s s' : Session} (h : Rewritten s s') {p : Path} (hf : fileOf s p = none) :
    fileOf s' p = none := by
  cases ho : fileOf s' p with
  | none => rfl
  | some found =>
    obtain ⟨place, bytes⟩ := found
    obtain ⟨other, hother, _⟩ := fileOf_rewritten h.symm ho
    rw [hf] at hother
    cases hother

def Barred (s : Session) (page : Path) (f : Fault) : Prop :=
  outcome (isFile page) s = .error (.file f) ∨
    outcome (isFile page) s = .ok true ∧ outcome (readBytes page) s = .error (.file f)

inductive Restored (page : Path) (s : Session) : Except Failure Bool → Session → Prop
  | barred {f : Fault} : Barred s page f → Restored page s (.error (.file f)) s
  | nothing : fileOf s page = none → Restored page s (.ok false) s
  | illegible {place : Place} {bytes : List UInt8} {f : Utf8.Fault} :
      fileOf s page = some (place, bytes) → Utf8.decode bytes = .error f →
        Restored page s (.error (.undecodable f)) s
  | kept {place : Place} {bytes : List UInt8} {text : List Char} :
      fileOf s page = some (place, bytes) → Utf8.decode bytes = .ok text →
        settled bytes = bytes → Restored page s (.ok false) s
  | denied {place : Place} {bytes : List UInt8} :
      fileOf s page = some (place, bytes) → settled bytes ≠ bytes →
        Restored page s (.error (.file ⟨.denied, page.toString⟩)) s
  | changed {place : Place} {bytes : List UInt8} {text : List Char} :
      fileOf s page = some (place, bytes) → Utf8.decode bytes = .ok text →
        settled bytes ≠ bytes → Restored page s (.ok true)
          { s with tree := s.tree.put place (.file (settled bytes)) }

theorem fileOf_of_readBytes {p : Path} {s : Session} {bytes : List UInt8}
    (h : outcome (readBytes p) s = .ok bytes) : ∃ place, fileOf s p = some (place, bytes) :=
  (readBytes_ok h).imp fun _ => fileOf_eq_some.mpr

theorem landing_of_fileOf {p : Path} {s : Session} {place : Place} {bytes : List UInt8}
    (h : fileOf s p = some (place, bytes)) :
    s.landing p = if s.denies .writing p.toString then none else some place := by
  unfold Session.landing
  rw [outcome_opening, viewed_iff.mp (fileOf_eq_some.mp h)]
  cases s.denies .writing p.toString <;> rfl

theorem writeBytes_denied {p : Path} {s : Session} (h : s.denies .writing p.toString = true)
    (bytes : List UInt8) :
    outcome (writeBytes p bytes) s = .error (.file ⟨.denied, p.toString⟩) := by
  unfold writeBytes
  rw [outcome_bind, outcome_opening, if_pos h]

theorem restorePage_barred {page : Path} {s : Session} {f : Fault} (h : Barred s page f) :
    outcome (restorePage page) s = .error (.file f) := by
  unfold restorePage
  rw [outcome_bind, isFile_looks]
  obtain hf | ⟨hf, hr⟩ := h
  · rw [hf]
  · rw [hf]
    dsimp only
    rw [if_pos rfl, outcome_bind, hr]

theorem restorePage_restored (page : Path) (s : Session) :
    Restored page s (outcome (restorePage page) s) (after (restorePage page) s) := by
  unfold restorePage
  rw [outcome_bind, after_bind, isFile_looks]
  cases hf : outcome (isFile page) s with
  | error f =>
    obtain rfl := isFile_fails page s f hf
    exact .barred (.inl hf)
  | ok there =>
    have hthere := isFile_ok hf
    cases there with
    | false =>
      refine .nothing ?_
      cases hp : fileOf s page with
      | none => rfl
      | some found => exact absurd (hthere.mpr ⟨_, _, fileOf_eq_some.mp hp⟩) nofun
    | true =>
      dsimp only
      rw [if_pos rfl, outcome_bind, after_bind, readBytes_looks]
      cases hr : outcome (readBytes page) s with
      | error f =>
        obtain ⟨fault, rfl⟩ := readBytes_fails (hasNul_of_isFile hf) s f hr
        exact .barred (.inr ⟨hf, hr⟩)
      | ok bytes =>
        obtain ⟨place, hp⟩ := fileOf_of_readBytes hr
        have hl := landing_of_fileOf hp
        dsimp only
        cases hd : Utf8.decode bytes with
        | error f => exact .illegible hp hd
        | ok text =>
          dsimp only
          split
          · next he => exact .kept hp hd ((settled_eq_self_iff hd).mpr he)
          · next he =>
            have unsettled : settled bytes ≠ bytes := fun h => he ((settled_eq_self_iff hd).mp h)
            have hw := outcome_writeBytes page (Utf8.encode (Codec.default.restore text)) s
            rw [writeText, outcome_bind, after_bind, after_writeBytes, hl]
            rw [hl] at hw
            cases hden : s.denies .writing page.toString with
            | true =>
              rw [writeBytes_denied hden]
              exact .denied hp unsettled
            | false =>
              rw [hden] at hw
              rw [show outcome (writeBytes page _) s = .ok () from hw, ← settled_of_ok hd]
              exact .changed hp hd unsettled

theorem Barred.rewritten {s s' : Session} (h : Rewritten s s') {page : Path} {f : Fault}
    (hb : Barred s page f) : Barred s' page f := by
  unfold Barred
  rw [← h.isFile]
  exact hb.imp_right fun ⟨hf, hr⟩ => ⟨hf, h.readBytes_error hr⟩

theorem readBytes_congr {s s' : Session} (h : Rewritten s s') {p : Path}
    (same : (fileOf s' p).map Prod.snd = (fileOf s p).map Prod.snd) :
    outcome (readBytes p) s' = outcome (readBytes p) s := by
  cases hr : outcome (readBytes p) s with
  | error f => exact h.readBytes_error hr
  | ok bytes =>
    cases hr' : outcome (readBytes p) s' with
    | error f => exact nomatch hr.symm.trans (h.symm.readBytes_error hr')
    | ok other =>
      obtain ⟨place, hp⟩ := fileOf_of_readBytes hr
      obtain ⟨place', hp'⟩ := fileOf_of_readBytes hr'
      rw [hp, hp'] at same
      exact congrArg _ (Option.some.inj same)

theorem restorePage_congr {s s' : Session} (h : Rewritten s s') {page : Path}
    (same : (fileOf s' page).map Prod.snd = (fileOf s page).map Prod.snd) :
    outcome (restorePage page) s' = outcome (restorePage page) s := by
  unfold restorePage
  rw [outcome_bind, outcome_bind, isFile_looks, isFile_looks, ← h.isFile]
  cases outcome (isFile page) s with
  | error f => rfl
  | ok there =>
    cases there with
    | false => rfl
    | true =>
      dsimp only
      rw [if_pos rfl, outcome_bind, outcome_bind, readBytes_looks, readBytes_looks,
        readBytes_congr h same]
      cases outcome (readBytes page) s with
      | error f => rfl
      | ok bytes =>
        dsimp only
        split
        · rfl
        · next text _ =>
          split
          · rfl
          · rw [writeText, outcome_bind, outcome_bind, h.writeBytes]
            cases outcome (writeBytes page (Utf8.encode (Codec.default.restore text))) s <;> rfl

/-- The fault that a page ends the work with, if it does. -/
def stopOf (s : Session) (page : Path) : Option Fault :=
  match outcome (restorePage page) s with
  | .error (.file f) => some f
  | _ => none

theorem stopOf_eq_some {s : Session} {page : Path} {f : Fault} :
    stopOf s page = some f ↔ outcome (restorePage page) s = .error (.file f) := by
  unfold stopOf
  split <;> simp_all

theorem stopOf_congr {s s' : Session} (h : Rewritten s s') {page : Path}
    (same : (fileOf s' page).map Prod.snd = (fileOf s page).map Prod.snd) :
    stopOf s' page = stopOf s page := by
  rw [stopOf, stopOf, restorePage_congr h same]

theorem restorePage_stops {s : Session} {page : Path} {f : Fault} (h : stopOf s page = some f) :
    after (restorePage page) s = s := by
  have one := restorePage_restored page s
  rw [stopOf_eq_some.mp h] at one
  generalize after (restorePage page) s = s₁ at one ⊢
  cases one <;> rfl

/-- A page that has got through once gets through when its file has been settled. -/
theorem stopOf_settled {s s' : Session} (h : Rewritten s s') {page : Path}
    (goes : stopOf s page = none)
    (fixed : ∀ q bytes, fileOf s' page = some (q, bytes) → settled bytes = bytes) :
    stopOf s' page = none := by
  cases hstop : stopOf s' page with
  | none => rfl
  | some f =>
    have one := restorePage_restored page s'
    rw [stopOf_eq_some.mp hstop] at one
    generalize after (restorePage page) s' = s₁ at one
    cases one with
    | barred hb =>
      rw [stopOf_eq_some.mpr (restorePage_barred (hb.rewritten h.symm))] at goes
      cases goes
    | denied hf unsettled => exact absurd (fixed _ _ hf) unsettled

def illegible (s : Session) (page : Path) : Bool :=
  match fileOf s page with
  | some (_, bytes) => match Utf8.decode bytes with
    | .ok _ => false
    | .error _ => true
  | none => false

/-- What the file that a page leads to holds is other once the page has had its turn. -/
def changes (s : Session) (page : Path) : Bool :=
  (fileOf s page).map Prod.snd != (fileOf (after (restorePage page) s) page).map Prod.snd

/-- The place of a file that one of the pages leads to. -/
def Reached (s : Session) (pages : List Path) (q : Place) : Prop :=
  ∃ page ∈ pages, ∃ bytes, fileOf s page = some (q, bytes)

/-- The log is kept in no file that a page leads to. -/
def Unlogged (s : Session) (pages : List Path) : Prop :=
  ∀ q, Reached s pages q → s.logFile ≠ some q

/-- The files at some places have been settled, and of all other places only that of the
log can have another node. -/
structure SettledAt (places : Place → Prop) (s s' : Session) : Prop where
  rewritten : Rewritten s s'
  within : ∀ q bytes, places q → s.tree.node? q = some (.file bytes) →
    s'.tree.node? q = some (.file (settled bytes))
  elsewhere : ∀ q, ¬ places q → s.logFile ≠ some q → s'.tree.node? q = s.tree.node? q

variable {s s' : Session}

theorem Reached.rewritten (h : Rewritten s s') {pages : List Path} {q : Place}
    (hr : Reached s pages q) : Reached s' pages q := by
  obtain ⟨page, hm, bytes, hf⟩ := hr
  obtain ⟨other, ho, _⟩ := fileOf_rewritten h hf
  exact ⟨page, hm, other, ho⟩

theorem Reached.mono {pages others : List Path} (h : ∀ p ∈ pages, p ∈ others) {q : Place}
    (hr : Reached s pages q) : Reached s others q := by
  obtain ⟨page, hm, found⟩ := hr
  exact ⟨page, h page hm, found⟩

theorem reached_cons {page : Path} {pages : List Path} {q : Place} :
    Reached s (page :: pages) q ↔ Reached s [page] q ∨ Reached s pages q := by
  constructor
  · rintro ⟨p, hm, found⟩
    obtain rfl | hm := List.mem_cons.mp hm
    · exact .inl ⟨p, by simp, found⟩
    · exact .inr ⟨p, hm, found⟩
  · rintro (h | h)
    · exact h.mono (by simp)
    · exact h.mono (by simp_all)

theorem Unlogged.rewritten (h : Rewritten s s') {pages : List Path} (hu : Unlogged s pages) :
    Unlogged s' pages := by
  intro q hq
  rw [h.logFile]
  exact hu q (hq.rewritten h.symm)

theorem Unlogged.mono {pages others : List Path} (h : ∀ p ∈ pages, p ∈ others)
    (hu : Unlogged s others) : Unlogged s pages :=
  fun q hq => hu q (hq.mono h)

theorem SettledAt.refl {places : Place → Prop} (h : ∀ q, ¬ places q) : SettledAt places s s :=
  ⟨.refl s, fun q _ hq => absurd hq (h q), fun _ _ _ => rfl⟩

theorem SettledAt.record (hs : s.tree.Distinct) {places : Place → Prop} (h : ∀ q, ¬ places q)
    (r : Log.Record) : SettledAt places s (s.record r) :=
  ⟨.record hs r, fun q _ hq => absurd hq (h q), fun _ _ hl => node?_record r hl⟩

theorem SettledAt.noted (hs : s.tree.Distinct) (r : Log.Record) :
    SettledAt (fun _ => False) s (s.record r) := .record hs (fun _ => id) r

theorem SettledAt.trans {first second both : Place → Prop} {s'' : Session}
    (h : SettledAt first s s') (h' : SettledAt second s' s'')
    (hb : ∀ q, both q ↔ first q ∨ second q) (hu : ∀ q, both q → s.logFile ≠ some q) :
    SettledAt both s s'' := by
  refine ⟨h.rewritten.trans h'.rewritten, fun q bytes hq hn => ?_, fun q hq hl => ?_⟩
  · have hl : s'.logFile ≠ some q := h.rewritten.logFile ▸ hu q hq
    by_cases hf : first q
    · have hn' := h.within q bytes hf hn
      by_cases hs : second q
      · rw [h'.within q _ hs hn', settled_settled]
      · rw [h'.elsewhere q hs hl, hn']
    · have hs : second q := ((hb q).mp hq).resolve_left hf
      have hn' := (h.elsewhere q hf (hu q hq)).trans hn
      exact h'.within q bytes hs hn'
  · have hf : ¬ first q := fun hf => hq ((hb q).mpr (.inl hf))
    have hs : ¬ second q := fun hs => hq ((hb q).mpr (.inr hs))
    rw [h'.elsewhere q hs (h.rewritten.logFile ▸ hl), h.elsewhere q hf hl]

theorem SettledAt.fileOf {places : Place → Prop} (h : SettledAt places s s') {page : Path}
    {q : Place} {bytes : List UInt8} (hf : fileOf s page = some (q, bytes))
    (hl : s.logFile ≠ some q) : fileOf s' page = some (q, settled bytes) ∨
      ¬ places q ∧ Docs.fileOf s' page = some (q, bytes) := by
  obtain ⟨other, ho, hn'⟩ := fileOf_rewritten h.rewritten hf
  have hn := fileOf_node? hf
  by_cases hq : places q
  · rw [h.within q bytes hq hn] at hn'
    cases hn'
    exact .inl ho
  · rw [h.elsewhere q hq hl, hn] at hn'
    cases hn'
    exact .inr ⟨hq, ho⟩

theorem SettledAt.idle {places : Place → Prop} (h : SettledAt places s s')
    (fixed : ∀ q, places q → ∃ bytes, s.tree.node? q = some (.file bytes) ∧
      settled bytes = bytes) : SettledAt (fun _ => False) s s' := by
  refine ⟨h.rewritten, fun _ _ => False.elim, fun q _ hl => ?_⟩
  by_cases hq : places q
  · obtain ⟨bytes, hn, hb⟩ := fixed q hq
    rw [h.within q bytes hq hn, hb, hn]
  · exact h.elsewhere q hq hl

/-- A page that leads to no settled place leads to the same bytes as before. -/
theorem SettledAt.content {places : Place → Prop} (h : SettledAt places s s') {page : Path}
    (aside : ∀ q, Reached s [page] q → ¬ places q) (apart : Unlogged s [page]) :
    (Docs.fileOf s' page).map Prod.snd = (Docs.fileOf s page).map Prod.snd := by
  cases hf : Docs.fileOf s page with
  | none => rw [fileOf_none h.rewritten hf]
  | some found =>
    obtain ⟨q, bytes⟩ := found
    have reached : Reached s [page] q := ⟨page, by simp, bytes, hf⟩
    obtain ⟨other, ho, hn⟩ := fileOf_rewritten h.rewritten hf
    rw [h.elsewhere q (aside q reached) (apart q reached), fileOf_node? hf] at hn
    cases hn
    rw [ho]

theorem SettledAt.illegible {places : Place → Prop} (h : SettledAt places s s') {page : Path}
    (hu : Unlogged s [page]) : illegible s' page = illegible s page := by
  unfold Docs.illegible
  cases hf : Docs.fileOf s page with
  | none => rw [fileOf_none h.rewritten hf]
  | some found =>
    obtain ⟨q, bytes⟩ := found
    obtain ho | ⟨_, ho⟩ := h.fileOf hf (hu q ⟨page, by simp, bytes, hf⟩)
    · rw [ho]
      dsimp only
      cases hd : Utf8.decode bytes with
      | error f => rw [settled_of_error hd, hd]
      | ok text => rw [decode_settled hd]
    · rw [ho]

end DocBraces.Docs
