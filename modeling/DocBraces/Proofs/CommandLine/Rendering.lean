import DocBraces.Proofs.CommandLine.Filters
import DocBraces.Proofs.Config.Checking
import DocBraces.Proofs.Render.Command
import DocBraces.Proofs.Render.Fallback

/-!
# Rendering from the command line

The command that renders runs the commands of the settings. It prints their faults and
ends with status one; where a command of the settings strays, nothing catches that.
Settings that name no primary command end it as well, and the check lets them pass if the
fallback is switched off.
-/

set_option autoImplicit false

namespace DocBraces.CommandLine

open DocBraces.Files DocBraces.Session

/-- What a run of some words on a source comes to, and the session it leaves. -/
def ran (words : List String) (source : List Char) (s : Session) : Render.Ending × Session :=
  Session.runCommand (.of words .default source) s

variable (fb : FallbackSettings) (source : List Char) (s : Session)

/-- What the fallback comes to, once it has been noted that it is tried. -/
def ranAgain : Render.Ending :=
  (ran fb.fallback source (logRemark .retrying (ran fb.primary source s).2)).1

/-- The primary command succeeds with a page that the fallback is run for. -/
structure Retried (html : List Char) : Prop where
  primary : fb.primary ≠ []
  succeeds : (ran fb.primary source s).1.Succeeds html
  fallback : fb.fallback ≠ []
  worth : Render.worthRetrying fb.enabled source html = true

/-- How rendering strays: by a command that is run and strays. -/
inductive RenderingStrays : Render.Failure → Prop
  | primary {f : Render.Failure} :
      fb.primary ≠ [] → (ran fb.primary source s).1.Strays f → RenderingStrays f
  | fallback {html : List Char} {f : Render.Failure} :
      Retried fb source s html → (ranAgain fb source s).Strays f → RenderingStrays f

def RunFails (words : List String) (e : Render.Ending) (f : Render.Failure) : Prop :=
  ∃ program rest, words = program :: rest ∧ e.page program .default = .error f

/-- How rendering with the commands of the settings ends. -/
inductive Renders : Except Render.Failure Render.Page → Prop
  | noCommand : fb.primary = [] → Renders (.error (.fault .noCommand))
  | fails {f : Render.Failure} :
      RunFails fb.primary (ran fb.primary source s).1 f → Renders (.error f)
  | makes {html : List Char} :
      fb.primary ≠ [] → (ran fb.primary source s).1.Succeeds html → ¬ Retried fb source s html →
        Renders (.ok { html })
  | failsAgain {html : List Char} {f : Render.Failure} :
      Retried fb source s html → RunFails fb.fallback (ranAgain fb source s) f →
        Renders (.error f)
  | makesAgain {html other : List Char} :
      Retried fb source s html → (ranAgain fb source s).Succeeds other →
        Renders (.ok (.ofRetry html other))

theorem renderPage_nil (h : fb.primary = []) :
    renderPage fb source s = (.error (.fault .noCommand), s) := by
  unfold renderPage renderersOf
  rw [h, Render.rendererOf_nil]
  rfl

variable {fb source s}

theorem renderPage_cons {program : String} {words : List String}
    (h : fb.primary = program :: words) : (renderPage fb source s).1 =
      ((ran fb.primary source s).1.page program .default).bind fun html =>
        match fb.fallback with
        | [] => .ok { html }
        | second :: _ =>
          if Render.worthRetrying fb.enabled source html then
            ((ranAgain fb source s).page second .default).map (.ofRetry html)
          else .ok { html } := by
  obtain ⟨enabled, primary, fallback⟩ := fb
  obtain rfl : primary = program :: words := h
  obtain ⟨one, hone, first⟩ :=
    Render.rendererOf_cons Session.runCommand program words .default
  unfold renderPage
  cases fallback with
  | nil =>
    have made : renderersOf ⟨enabled, program :: words, []⟩ = .ok (one, none) := by
      rw [renderersOf, hone]
      rfl
    rw [made]
    dsimp only
    rw [Render.renderIn_run, first, ← ran]
    cases (ran (program :: words) source s).1.page program .default <;> rfl
  | cons second rest =>
    obtain ⟨other, hother, again⟩ :=
      Render.rendererOf_cons Session.runCommand second rest .default
    have made : renderersOf ⟨enabled, program :: words, second :: rest⟩ =
        .ok (one, some other) := by
      rw [renderersOf, hone, hother]
      rfl
    rw [made]
    dsimp only
    rw [Render.renderIn_run, first, ← ran]
    cases (ran (program :: words) source s).1.page program .default with
    | error f => rfl
    | ok html =>
      dsimp only [Except.bind]
      split
      · rw [Render.retrying, again, ← ran, ranAgain]
        cases (ran (second :: rest) source _).1.page second .default with
        | error f => rfl
        | ok better =>
          dsimp only [Except.map, Render.Page.ofRetry]
          split <;> rfl
      · rfl

theorem runFails_strays_iff {words : List String} {e : Render.Ending} {f : Render.Failure} :
    RunFails words e f ∧ ¬ f.IsFault ↔ words ≠ [] ∧ e.Strays f := by
  constructor
  · rintro ⟨⟨program, rest, rfl, h⟩, hf⟩
    exact ⟨List.cons_ne_nil _ _, Render.page_strays_iff.mp ⟨h, hf⟩⟩
  · rintro ⟨hw, h⟩
    obtain ⟨program, rest, rfl⟩ := List.exists_cons_of_ne_nil hw
    exact ⟨⟨program, rest, rfl, h.page⟩, h.not_fault⟩

theorem run_cases {words : List String} (h : words ≠ []) (e : Render.Ending) :
    (∃ html, e.Succeeds html) ∨ ∃ f, RunFails words e f := by
  obtain ⟨program, rest, rfl⟩ := List.exists_cons_of_ne_nil h
  cases hp : e.page program .default with
  | ok html => exact .inl ⟨html, Render.page_ok_iff.mp hp⟩
  | error f => exact .inr ⟨f, program, rest, rfl, hp⟩

theorem Renders.renderPage {r : Except Render.Failure Render.Page} (h : Renders fb source s r) :
    (renderPage fb source s).1 = r := by
  cases h with
  | noCommand hp => rw [renderPage_nil _ _ _ hp]
  | fails h =>
    obtain ⟨program, words, hp, he⟩ := h
    rw [renderPage_cons hp, he]
    rfl
  | @makes html hp hs hno =>
    obtain ⟨program, words, hp'⟩ := List.exists_cons_of_ne_nil hp
    rw [renderPage_cons hp', hs.page]
    dsimp only [Except.bind]
    cases hf : fb.fallback with
    | nil => rfl
    | cons second rest =>
      exact if_neg fun worth => hno ⟨hp, hs, by simp [hf], worth⟩
  | @failsAgain html f h he =>
    obtain ⟨program, words, hp⟩ := List.exists_cons_of_ne_nil h.primary
    obtain ⟨second, rest, hf, he⟩ := he
    rw [renderPage_cons hp, h.succeeds.page, hf]
    dsimp only [Except.bind]
    rw [if_pos h.worth, he]
    rfl
  | @makesAgain html other h hs =>
    obtain ⟨program, words, hp⟩ := List.exists_cons_of_ne_nil h.primary
    obtain ⟨second, rest, hf⟩ := List.exists_cons_of_ne_nil h.fallback
    rw [renderPage_cons hp, h.succeeds.page, hf]
    dsimp only [Except.bind]
    rw [if_pos h.worth, hs.page]
    rfl

variable (fb source s) in
theorem renders : ∃ r, Renders fb source s r := by
  by_cases hp : fb.primary = []
  · exact ⟨_, .noCommand hp⟩
  · obtain ⟨html, hs⟩ | ⟨f, hf⟩ := run_cases hp (ran fb.primary source s).1
    · by_cases hyes : Retried fb source s html
      · obtain ⟨other, ho⟩ | ⟨f, hf⟩ := run_cases hyes.fallback (ranAgain fb source s)
        · exact ⟨_, .makesAgain hyes ho⟩
        · exact ⟨_, .failsAgain hyes hf⟩
      · exact ⟨_, .makes hp hs hyes⟩
    · exact ⟨_, .fails hf⟩

theorem renders_iff {r : Except Render.Failure Render.Page} :
    Renders fb source s r ↔ (renderPage fb source s).1 = r := by
  refine ⟨fun h => h.renderPage, ?_⟩
  rintro rfl
  obtain ⟨r, h⟩ := renders fb source s
  rwa [h.renderPage]

theorem renders_strays_iff {f : Render.Failure} :
    Renders fb source s (.error f) ∧ ¬ f.IsFault ↔ RenderingStrays fb source s f := by
  constructor
  · rintro ⟨h, hf⟩
    cases h with
    | noCommand => exact absurd ⟨_, rfl⟩ hf
    | fails h =>
      obtain ⟨hp, hs⟩ := runFails_strays_iff.mp ⟨h, hf⟩
      exact .primary hp hs
    | failsAgain h he => exact .fallback h (runFails_strays_iff.mp ⟨he, hf⟩).2
  · intro h
    cases h with
    | primary hp hs =>
      obtain ⟨h, hf⟩ := runFails_strays_iff.mpr ⟨hp, hs⟩
      exact ⟨.fails h, hf⟩
    | fallback h hs =>
      obtain ⟨he, hf⟩ := runFails_strays_iff.mpr ⟨h.fallback, hs⟩
      exact ⟨.failsAgain h he, hf⟩

/-- The words of a command are missing just if the settings name no primary command. -/
theorem renders_noCommand_iff :
    Renders fb source s (.error (.fault .noCommand)) ↔ fb.primary = [] := by
  have none_ {words : List String} {e : Render.Ending} :
      ¬ RunFails words e (.fault .noCommand) := by
    rintro ⟨program, rest, _, h⟩
    cases Render.page_fault_iff.mp h
  refine ⟨fun h => ?_, .noCommand⟩
  cases h with
  | noCommand hp => exact hp
  | fails h => exact absurd h none_
  | failsAgain _ h => exact absurd h none_

def OfRenderer (f : Failure) : Prop := ∃ failure, f = .render failure

theorem not_ofRenderer_of_path {f : Failure} (h : f.OfPath) : ¬ OfRenderer f := by
  rintro ⟨failure, rfl⟩
  obtain ⟨_, h⟩ | h | ⟨_, h⟩ := h <;> cases h

theorem loadSettings_fails (scope : Scope) : FailsAs (¬ OfRenderer ·) (loadSettings scope) := by
  intro s f h
  cases (Config.loadSettings_strays_iff scope s f).mp h with
  | search hc => exact not_ofRenderer_of_path (Config.choose_fails _ s f hc)
  | look _ hl => exact not_ofRenderer_of_path (.inl ⟨_, isFile_fails _ s f hl⟩)
  | read _ _ _ hs =>
    rintro ⟨failure, rfl⟩
    cases hs

theorem readSource_fails (word : String) : FailsAs (¬ OfRenderer ·) (readSource word) := by
  unfold readSource
  dsimp only
  split
  · refine .bind (.run .get) fun _ => .bind (.pure _) fun bytes => ?_
    split
    · exact .pure _
    · exact .bind (sayLine_unfailing _).failsAs fun _ => .exit _
  · refine .bind (.run ((readBytes_ofPath _).imp fun _ => not_ofRenderer_of_path)) fun bytes => ?_
    split
    · exact .pure _
    · exact .bind (sayLine_unfailing _).failsAs fun _ => .exit _

theorem writeOutput_fails (text : List Char) (output : Option Path) :
    FailsAs (¬ OfRenderer ·) (writeOutput text output) := by
  cases output with
  | none => exact (say_unfailing _).failsAs
  | some p => exact .run ((writeBytes_ofPath p _).imp fun _ => not_ofRenderer_of_path)

theorem deliverPage_fails (scope : Scope) (output : Option String) (json : Bool)
    (page : Render.Page) : FailsAs (¬ OfRenderer ·) (deliverPage scope output json page) := by
  unfold deliverPage
  dsimp only
  split
  · split
    · exact .bind (writeOutput_fails _ _) fun _ => (sayLine_unfailing _).failsAs
    · exact (sayLine_unfailing _).failsAs
  · refine .bind (writeOutput_fails _ _) fun _ => ?_
    split
    · exact (complain_unfailing _).failsAs
    · exact .pure _

section

variable {scope : Scope} {word : String} {output : Option String} {json : Bool}
  {st : Settings} {text : List Char} {s₁ s₂ : Session}

variable (scope output json) in
theorem conclude_fault (f : Render.Fault) (s : Session) :
    ending (conclude scope output json (.error (.fault f))) s = .ok (.error 1) ∧
      left (conclude scope output json (.error (.fault f))) s = left (reportFault json f) s := by
  have reported : Ends (reportFault json f) s () (left (reportFault json f) s) := by
    unfold reportFault
    split <;> exact ⟨rfl, rfl⟩
  exact ⟨reported.ending_bind, reported.left_bind⟩

theorem conclude_fails_iff {r : Except Render.Failure Render.Page} {f : Render.Failure} :
    ending (conclude scope output json r) s = .error (.render f) ↔
      r = .error f ∧ ¬ f.IsFault := by
  constructor
  · intro h
    cases r with
    | ok page => exact absurd ⟨f, rfl⟩ (deliverPage_fails scope output json page s _ h)
    | error g =>
      cases g with
      | fault fault =>
        rw [(conclude_fault scope output json fault s).1] at h
        cases h
      | _ =>
        obtain rfl := Failure.render.inj (Except.error.inj h)
        exact ⟨rfl, fun ⟨_, hf⟩ => nomatch hf⟩
  · rintro ⟨rfl, hf⟩
    cases f with
    | fault fault => exact absurd ⟨fault, rfl⟩ hf
    | _ => rfl

/-- The command has got its settings and its source. -/
def Begins (scope : Scope) (word : String) (s : Session) (st : Settings) (text : List Char)
    (s₂ : Session) : Prop :=
  ∃ s₁, Ends (loadSettings scope) s st s₁ ∧ Ends (readSource word) s₁ text s₂

variable (output json) in
theorem render_concludes (h : Begins scope word s st text s₂) :
    let r := (renderPage st.fallback text s₂).1
    let s₃ := (renderPage st.fallback text s₂).2
    ending (render scope word output json) s = ending (conclude scope output json r) s₃ ∧
      left (render scope word output json) s = left (conclude scope output json r) s₃ := by
  obtain ⟨s₁, loads, reads⟩ := h
  have rendered := Ends.lift (renderPage st.fallback text) s₂
  exact ⟨loads.ending_bind.trans (reads.ending_bind.trans rendered.ending_bind),
    loads.left_bind.trans (reads.left_bind.trans rendered.left_bind)⟩

theorem render_strays_iff {f : Render.Failure} :
    ending (render scope word output json) s = .error (.render f) ↔
      ∃ st text s₂, Begins scope word s st text s₂ ∧ RenderingStrays st.fallback text s₂ f := by
  have strays {st : Settings} {text : List Char} {s₂ : Session}
      (h : Begins scope word s st text s₂) :
      ending (render scope word output json) s = .error (.render f) ↔
        RenderingStrays st.fallback text s₂ f := by
    rw [(render_concludes output json h).1, conclude_fails_iff, ← renders_iff, renders_strays_iff]
  constructor
  · intro h
    -- neither the settings nor the source fail as a renderer does
    obtain ⟨st, s₁, loads, h'⟩ :=
      ((loadSettings_fails scope).bind_error (not_not.mpr ⟨f, rfl⟩)).mp h
    obtain ⟨text, s₂, reads, -⟩ :=
      ((readSource_fails word).bind_error (not_not.mpr ⟨f, rfl⟩)).mp h'
    exact ⟨st, text, s₂, ⟨s₁, loads, reads⟩, (strays ⟨s₁, loads, reads⟩).mp h⟩
  · rintro ⟨st, text, s₂, h, hs⟩
    exact (strays h).mpr hs

variable (scope word output json s) in
/-- A command as a renderer comes to a page just if it succeeds, and to a fault just if it
faults. The command that renders ends with a failure of a renderer just if a command that it
runs strays; it ends with status one and says why if there is a fault, and delivers the
page if there is one. -/
theorem rendering_strays_iff :
    (∀ {ω : Type} (run : Render.Command → StateM ω Render.Ending) (program : String)
      (words : List String) (limit : Render.Limit),
      ∃ r, Render.rendererOf run (program :: words) limit = .ok r ∧ ∀ source w,
        let ended := run (.of (program :: words) limit source) w
        ((r source).run w).2 = ended.2 ∧
          Render.Follows ended.1 program limit ((r source).run w).1) ∧
    (∀ f, ending (render scope word output json) s = .error (.render f) ↔
      ∃ st text s₂, Begins scope word s st text s₂ ∧ RenderingStrays st.fallback text s₂ f) ∧
    ∀ st text s₂, Begins scope word s st text s₂ →
      let s₃ := (renderPage st.fallback text s₂).2
      (∃ f, RenderingStrays st.fallback text s₂ f) ∨
      (∃ fault, Renders st.fallback text s₂ (.error (.fault fault)) ∧
        ending (render scope word output json) s = .ok (.error 1) ∧
        left (render scope word output json) s = left (reportFault json fault) s₃) ∨
      ∃ page, Renders st.fallback text s₂ (.ok page) ∧
        ending (render scope word output json) s =
          ending (deliverPage scope output json page) s₃ ∧
        left (render scope word output json) s = left (deliverPage scope output json page) s₃ := by
  refine ⟨fun run program words limit => ?_, fun f => render_strays_iff, ?_⟩
  · obtain ⟨r, hr, runs⟩ := Render.rendererOf_cons run program words limit
    refine ⟨r, hr, fun source w => ?_⟩
    rw [runs]
    exact ⟨rfl, Render.page_follows _ _ _⟩
  · intro st text s₂ h s₃
    obtain ⟨ends, leaves⟩ := render_concludes output json h
    obtain ⟨r, hr⟩ := renders st.fallback text s₂
    rw [hr.renderPage] at ends leaves
    cases r with
    | ok page => exact .inr (.inr ⟨page, hr, ends, leaves⟩)
    | error f =>
      by_cases hf : f.IsFault
      · obtain ⟨fault, rfl⟩ := hf
        obtain ⟨exits, reports⟩ := conclude_fault scope output json fault s₃
        exact .inr (.inl ⟨fault, hr, ends.trans exits, leaves.trans reports⟩)
      · exact .inl ⟨f, renders_strays_iff.mp ⟨hr, hf⟩⟩

end

theorem readSource_hyphen {s : Session} {text : List Char}
    (decoded : Text.Utf8.decode s.input = .ok text) : Ends (readSource "-") s text s := by
  unfold readSource
  rw [if_pos rfl]
  refine .bind (.run (a := s) rfl) (.bind (.pure _ _) ?_)
  dsimp only
  rw [decoded]
  exact .pure _ _

theorem begins_hyphen {scope : Scope} {s : Session} {st : Settings} {text : List Char}
    (loaded : outcome (Config.load scope.config s.environment) s = .ok st)
    (decoded : Text.Utf8.decode (after (Config.load scope.config s.environment) s).input =
      .ok text) :
    Begins scope "-" s st text (after (Config.load scope.config s.environment) s) :=
  ⟨_, loadSettings_ends loaded, readSource_hyphen decoded⟩

/-- The options in front of a command ask for nothing. -/
def plainScope : Scope := ⟨false, false, none⟩

/-- Where no program is there, that is reported. -/
theorem missing_renderer_is_reported :
    ∃ st s₂, Begins plainScope "-" (Config.configured []) st [] s₂ ∧
      Renders st.fallback [] s₂ (.error (.fault (.missing "pandoc"))) ∧
      ending (render plainScope "-" none false) (Config.configured []) = .ok (.error 1) := by
  have begins : Begins plainScope "-" (Config.configured []) {} []
      (after (Config.load none []) (Config.configured [])) :=
    begins_hyphen (ok_of_toOption (by decide +kernel)) (by decide +kernel)
  have made : Renders {} [] (after (Config.load none []) (Config.configured []))
      (.error (.fault (.missing "pandoc"))) := renders_iff.mpr (by decide +kernel)
  generalize after (Config.load none []) (Config.configured []) = s₂ at begins made
  refine ⟨_, _, begins, made, ?_⟩
  obtain ⟨f, strays⟩ | ⟨_, _, ends, -⟩ | ⟨page, makes, -⟩ :=
    (rendering_strays_iff (Config.configured []) plainScope "-" none false).2.2 _ _ _ begins
  · obtain ⟨fails, hf⟩ := renders_strays_iff.mpr strays
    have same := fails.renderPage.symm.trans made.renderPage
    exact absurd ⟨_, Except.error.inj same⟩ hf
  · exact ends
  · cases makes.renderPage.symm.trans made.renderPage

/-- The root of the file system is there, but cannot be started. One program writes an octet
that starts no character. -/
def fewPrograms (v : View) (_ : Environment) (c : Render.Command) : Render.Ending × Tree :=
  match c.words with
  | ["/"] => (.refused ⟨.denied, "/"⟩, v.tree)
  | ["printf", "\\377"] => (.exited 0 [0xFF] [], v.tree)
  | _ => (.missing, v.tree)

/-- A folder with a configuration, and few programs at hand. -/
def smallProject (settings : String) : Session :=
  { Config.configured (Text.Utf8.encode settings.toList) with programs := fewPrograms }

def rendererFailure? {α : Type} : Except Failure α → Option Render.Failure
  | .error (.render f) => some f
  | _ => none

theorem error_of_rendererFailure? {α : Type} {x : Except Failure α} {f : Render.Failure}
    (h : rendererFailure? x = some f) : x = .error (.render f) := by
  unfold rendererFailure? at h
  split at h
  · rw [Option.some.inj h]
  · cases h

/-- A command that cannot be started has come to no page, and neither has one that writes what
is no text. None of this is a fault. -/
theorem refused_renderer_escapes :
    ((Render.commandRenderer (fun c => (fewPrograms ⟨⟨[]⟩, []⟩ [] c).1) ["/"] .default).bind
        fun r => r ['x']) = .error (.refused ⟨.denied, "/"⟩) ∧
      outcome (runWords ["render", "-"]) (smallProject "fallback: \x7bprimary: [/]\x7d\n") =
        .error (.render (.refused ⟨.denied, "/"⟩)) ∧
      outcome (runWords ["render", "-"])
          (smallProject "fallback: \x7bprimary: [printf, '\\377']\x7d\n") =
        .error (.render (.undecodable ⟨0, [0xFF], .start⟩)) ∧
      ∀ f : Render.Failure, f = .refused ⟨.denied, "/"⟩ ∨ f = .undecodable ⟨0, [0xFF], .start⟩ →
        ¬ f.IsFault := by
  refine ⟨by decide +kernel, error_of_rendererFailure? (by decide +kernel),
    error_of_rendererFailure? (by decide +kernel), ?_⟩
  rintro f (rfl | rfl) ⟨fault, h⟩ <;> cases h

/-- The command ends because the settings name no command that it could run. -/
def EndsWithoutCommand (scope : Scope) (word : String) (s : Session) : Prop :=
  ∃ st text s₂, Begins scope word s st text s₂ ∧
    Renders st.fallback text s₂ (.error (.fault .noCommand))

theorem unnamed_reports {scope : Scope} {word : String} {s : Session} {st : Settings}
    {text : List Char} {s₂ : Session} (begins : Begins scope word s st text s₂)
    (named : st.fallback.primary = []) (output : Option String) (json : Bool) :
    ending (render scope word output json) s = .ok (.error 1) ∧
      left (render scope word output json) s = left (reportFault json .noCommand) s₂ := by
  obtain ⟨ends, leaves⟩ := render_concludes output json begins
  rw [renderPage_nil _ _ _ named] at ends leaves
  obtain ⟨exits, reports⟩ := conclude_fault scope output json .noCommand s₂
  exact ⟨ends.trans exits, leaves.trans reports⟩

/-- Under settings that load, the command ends so just if no primary command is named. -/
theorem endsWithoutCommand_iff {scope : Scope} {s : Session} {st : Settings}
    (loaded : outcome (Config.load scope.config s.environment) s = .ok st) (word : String) :
    EndsWithoutCommand scope word s ↔
      st.fallback.primary = [] ∧ ∃ text s₂, Begins scope word s st text s₂ := by
  constructor
  · rintro ⟨st', text, s₂, ⟨s₁, loads, reads⟩, made⟩
    obtain ⟨rfl, -⟩ := (loadSettings_ends loaded).unique loads
    exact ⟨renders_noCommand_iff.mp made, text, s₂, s₁, loads, reads⟩
  · rintro ⟨named, text, s₂, begins⟩
    exact ⟨st, text, s₂, begins, renders_noCommand_iff.mpr named⟩

/-- A check finds settings valid although they name no primary command just if the fallback
is switched off, be it by the environment or by the settings. Under these settings the
command that renders never gets further than its source, and under all others it never
ends for want of a command. -/
theorem checked_rendering {scope : Scope} {s : Session} {r : Config.CheckResult}
    (checked : outcome (Config.check scope.config s.environment) s = .ok r) :
    r.settings = none ∧ r.valid = false ∨
      ∃ given st, Config.Given scope.config s given ∧
        st = given.override (.ofEnvironment s.environment) ∧
        outcome (Config.load scope.config s.environment) s = .ok st ∧ r.settings = some st ∧
        (r.valid = true ↔ Path.ofString st.stagingDir ≠ Path.ofString st.docsDir ∧
          (given.fallback.primary = [] → Config.SwitchedOff given.fallback s.environment)) ∧
        ∀ s', outcome (Config.load scope.config s'.environment) s' = .ok st → ∀ word,
          (EndsWithoutCommand scope word s' ↔
            given.fallback.primary = [] ∧ ∃ text s₂, Begins scope word s' st text s₂) ∧
          (given.fallback.primary = [] → ∀ text s₂, Begins scope word s' st text s₂ →
            ∀ output json, ending (render scope word output json) s' = .ok (.error 1) ∧
              left (render scope word output json) s' =
                left (reportFault json .noCommand) s₂) := by
  refine (Config.check_ok checked).imp_right ?_
  rintro ⟨st, loaded, settings, valid⟩
  obtain ⟨given, hgiven, hst⟩ := Config.load_ok_iff.mp loaded
  have same : given.fallback.primary = st.fallback.primary := by
    rw [hst]
    rfl
  refine ⟨given, st, hgiven, hst, loaded, settings, ?_⟩
  rw [same]
  refine ⟨?_, fun s' loaded' word =>
    ⟨endsWithoutCommand_iff loaded' word, fun named _ _ begins => unnamed_reports begins named⟩⟩
  rw [valid, Config.settingsErrors_isEmpty_iff, Config.switchedOff_iff, ← hst,
    ← Bool.not_eq_true, ← not_imp_not, not_not]

/-- Settings without a command that pass the check, since they switch the fallback off. -/
def unnamedProject : Session := smallProject "fallback: \x7benabled: false, primary: []\x7d\n"

/-- Checked settings end the command that renders. -/
theorem checked_settings_name_no_renderer :
    ∃ r, outcome (Config.check plainScope.config unnamedProject.environment) unnamedProject =
      .ok r ∧ r.valid = true ∧ EndsWithoutCommand plainScope "-" unnamedProject := by
  have passes : ((outcome (Config.check plainScope.config unnamedProject.environment)
      unnamedProject).toOption.map (·.valid)) = some true := by decide +kernel
  obtain ⟨r, checked, valid⟩ := Option.map_eq_some_iff.mp passes
  have checked := ok_of_toOption checked
  refine ⟨r, checked, valid, ?_⟩
  have loaded : outcome (Config.load plainScope.config unnamedProject.environment)
      unnamedProject = .ok { fallback := { enabled := false, primary := [] } } :=
    ok_of_toOption (by decide +kernel)
  obtain ⟨-, invalid⟩ | ⟨given, st, -, hst, loaded', -, -, ends⟩ := checked_rendering checked
  · rw [valid] at invalid
    cases invalid
  · obtain rfl := Except.ok.inj (loaded'.symm.trans loaded)
    have named : given.fallback.primary = [] := (congrArg (·.fallback.primary) hst).symm
    exact (ends _ loaded "-").1.mpr ⟨named, [], _, begins_hyphen loaded (by decide +kernel)⟩

/-- The check has nothing to say against settings that name no command, and rendering ends
for want of one. -/
theorem unnamed_renderer_passes_check :
    ((outcome (Config.check none []) unnamedProject).toOption.map
        fun r => (r.valid, r.errors)) = some (true, []) ∧
      outcome (runWords ["render", "-"]) unnamedProject = .ok 1 ∧
      (after (runWords ["render", "-"]) unnamedProject).output =
        "❌ Renderer command is empty\n" :=
  ⟨by decide +kernel, ok_of_toOption (by decide +kernel), by decide +kernel⟩

end DocBraces.CommandLine
