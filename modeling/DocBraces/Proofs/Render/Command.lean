import DocBraces.Render.Command

/-!
# How commands end

A command that was run comes to a page, to a fault that is reported, or it strays: it could
not be started although it is there, or what it wrote is no text. What a fault says follows
from how the command ended.
-/

set_option autoImplicit false

namespace DocBraces.Render

open DocBraces.Text

def Failure.IsFault (f : Failure) : Prop := ∃ fault, f = .fault fault

/-- The bytes are text, which reads so once line endings are unified. -/
def ReadsAs (bytes : List UInt8) (text : List Char) : Prop :=
  ∃ cs, Utf8.decode bytes = .ok cs ∧ unifyNewlines cs = text

/-- Endings that come to a page: status zero, and two streams of text. -/
def Ending.Succeeds (e : Ending) (html : List Char) : Prop :=
  ∃ output errors note, e = .exited 0 output errors ∧ ReadsAs output html ∧ ReadsAs errors note

/-- Endings that come to a fault: there is no such program, it took too long, or it ended
with another status and two streams of text. -/
inductive Ending.Faults (program : String) (limit : Limit) : Ending → Fault → Prop
  | missing : Faults program limit .missing (.missing program)
  | timedOut : Faults program limit .timedOut (.timedOut program limit.shown)
  | exited {status : Int} {output errors : List UInt8} {html note : List Char} :
      status ≠ 0 → ReadsAs output html → ReadsAs errors note →
        Faults program limit (.exited status output errors) (.exited program status (trim note))

/-- Endings that come to neither. -/
inductive Ending.Strays : Ending → Failure → Prop
  | refused (fault : Files.Fault) : Strays (.refused fault) (.refused fault)
  | embeddedNul : Strays .embeddedNul .embeddedNul
  | output {status : Int} {output errors : List UInt8} {fault : Utf8.Fault} :
      Utf8.decode output = .error fault →
        Strays (.exited status output errors) (.undecodable fault)
  | errors {status : Int} {output errors : List UInt8} {html : List Char} {fault : Utf8.Fault} :
      ReadsAs output html → Utf8.decode errors = .error fault →
        Strays (.exited status output errors) (.undecodable fault)

theorem Ending.Strays.not_fault {e : Ending} {f : Failure} (h : e.Strays f) : ¬ f.IsFault := by
  rintro ⟨fault, rfl⟩
  cases h

theorem decodeOutput_ok_iff {bytes : List UInt8} {text : List Char} :
    decodeOutput bytes = .ok text ↔ ReadsAs bytes text := by
  unfold decodeOutput ReadsAs
  cases Utf8.decode bytes <;> simp

theorem decodeOutput_error_iff {bytes : List UInt8} {f : Failure} :
    decodeOutput bytes = .error f ↔
      ∃ fault, Utf8.decode bytes = .error fault ∧ f = .undecodable fault := by
  unfold decodeOutput
  cases Utf8.decode bytes <;> simp [eq_comm]

theorem decodeOutput_cases (bytes : List UInt8) :
    (∃ text, ReadsAs bytes text) ∨ ∃ fault, Utf8.decode bytes = .error fault := by
  cases h : Utf8.decode bytes with
  | ok cs => exact .inl ⟨_, cs, h, rfl⟩
  | error fault => exact .inr ⟨fault, rfl⟩

variable {program : String} {limit : Limit} {e : Ending}

theorem Ending.Succeeds.page {html : List Char} (h : e.Succeeds html) :
    e.page program limit = .ok html := by
  obtain ⟨output, errors, note, rfl, ho, he⟩ := h
  rw [Ending.page, decodeOutput_ok_iff.mpr ho, decodeOutput_ok_iff.mpr he]
  rfl

theorem Ending.Faults.page {fault : Fault} (h : e.Faults program limit fault) :
    e.page program limit = .error (.fault fault) := by
  cases h with
  | missing => rfl
  | timedOut => rfl
  | exited hs ho he =>
    rw [Ending.page, decodeOutput_ok_iff.mpr ho, decodeOutput_ok_iff.mpr he]
    exact if_neg hs

theorem Ending.Strays.page {f : Failure} (h : e.Strays f) : e.page program limit = .error f := by
  cases h with
  | refused => rfl
  | embeddedNul => rfl
  | output ho =>
    rw [Ending.page, decodeOutput_error_iff.mpr ⟨_, ho, rfl⟩]
    rfl
  | errors ho he =>
    rw [Ending.page, decodeOutput_ok_iff.mpr ho, decodeOutput_error_iff.mpr ⟨_, he, rfl⟩]
    rfl

theorem ending_cases (program : String) (limit : Limit) (e : Ending) :
    (∃ html, e.Succeeds html) ∨ (∃ fault, e.Faults program limit fault) ∨ ∃ f, e.Strays f := by
  cases e with
  | missing => exact .inr (.inl ⟨_, .missing⟩)
  | refused fault => exact .inr (.inr ⟨_, .refused fault⟩)
  | embeddedNul => exact .inr (.inr ⟨_, .embeddedNul⟩)
  | timedOut => exact .inr (.inl ⟨_, .timedOut⟩)
  | exited status output errors =>
    obtain ⟨html, ho⟩ | ⟨fault, ho⟩ := decodeOutput_cases output
    · obtain ⟨note, he⟩ | ⟨fault, he⟩ := decodeOutput_cases errors
      · by_cases hs : status = 0
        · exact .inl ⟨html, output, errors, note, by rw [hs], ho, he⟩
        · exact .inr (.inl ⟨_, .exited hs ho he⟩)
      · exact .inr (.inr ⟨_, .errors ho he⟩)
    · exact .inr (.inr ⟨_, .output ho⟩)

theorem page_ok_iff {html : List Char} : e.page program limit = .ok html ↔ e.Succeeds html := by
  refine ⟨fun h => ?_, fun h => h.page⟩
  obtain ⟨other, hs⟩ | ⟨fault, hf⟩ | ⟨f, hf⟩ := ending_cases program limit e
  · rw [hs.page] at h
    exact Except.ok.inj h ▸ hs
  · rw [hf.page] at h
    cases h
  · rw [hf.page] at h
    cases h

theorem page_fault_iff {fault : Fault} :
    e.page program limit = .error (.fault fault) ↔ e.Faults program limit fault := by
  refine ⟨fun h => ?_, fun h => h.page⟩
  obtain ⟨html, hs⟩ | ⟨other, hf⟩ | ⟨f, hf⟩ := ending_cases program limit e
  · rw [hs.page] at h
    cases h
  · rw [hf.page] at h
    exact Failure.fault.inj (Except.error.inj h) ▸ hf
  · rw [hf.page] at h
    exact absurd ⟨fault, Except.error.inj h⟩ hf.not_fault

theorem page_strays_iff {f : Failure} :
    e.page program limit = .error f ∧ ¬ f.IsFault ↔ e.Strays f := by
  refine ⟨fun ⟨h, hf⟩ => ?_, fun h => ⟨h.page, h.not_fault⟩⟩
  obtain ⟨html, hs⟩ | ⟨fault, hs⟩ | ⟨g, hs⟩ := ending_cases program limit e
  · rw [hs.page] at h
    cases h
  · rw [hs.page] at h
    exact absurd ⟨fault, (Except.error.inj h).symm⟩ hf
  · rw [hs.page] at h
    exact Except.error.inj h ▸ hs

/-- What comes of a command follows from how it ends. -/
structure Follows (e : Ending) (program : String) (limit : Limit)
    (result : Except Failure (List Char)) : Prop where
  makes : ∀ html, result = .ok html ↔ e.Succeeds html
  faults : ∀ fault, result = .error (.fault fault) ↔ e.Faults program limit fault
  strays : ∀ f, result = .error f ∧ ¬ f.IsFault ↔ e.Strays f

theorem page_follows (e : Ending) (program : String) (limit : Limit) :
    Follows e program limit (e.page program limit) :=
  ⟨fun _ => page_ok_iff, fun _ => page_fault_iff, fun _ => page_strays_iff⟩

theorem rendererOf_nil {ω : Type} (run : Command → StateM ω Ending) (limit : Limit) :
    rendererOf run [] limit = .error (.fault .noCommand) := rfl

/-- A program with its arguments is a renderer: it is run once, and what it comes to is the
page of its ending. -/
theorem rendererOf_cons {ω : Type} (run : Command → StateM ω Ending) (program : String)
    (words : List String) (limit : Limit) : ∃ r, rendererOf run (program :: words) limit = .ok r ∧
      ∀ source w, (r source).run w =
        ((run (.of (program :: words) limit source) w).1.page program limit,
          (run (.of (program :: words) limit source) w).2) :=
  ⟨_, rfl, fun _ _ => rfl⟩

theorem rendererOf_keeps {ω : Type} {P : ω → Prop} {run : Command → StateM ω Ending}
    {words : List String} {limit : Limit} {r : ActiveRenderer ω Failure} {source : List Char}
    {w : ω} (made : rendererOf run words limit = .ok r)
    (kept : ∀ w, P w → P (run (.of words limit source) w).2) (h : P w) :
    P ((r source).run w).2 := by
  cases words with
  | nil =>
    rw [rendererOf_nil] at made
    cases made
  | cons program words =>
    obtain ⟨r', made', runs⟩ := rendererOf_cons run program words limit
    obtain rfl := Except.ok.inj (made.symm.trans made')
    rw [runs]
    exact kept w h

end DocBraces.Render
