import DocBraces.Proofs.CommandLine.Elsewhere
import DocBraces.Proofs.CommandLine.Rendering
import DocBraces.Proofs.Docs.Written
import DocBraces.Proofs.Session.Peers

/-!
# Commands for single files deliver all or nothing

A command that turns one file into another does all its reading, decoding and transforming
before it writes for the first time, and writes once. So it leaves every file alone unless
it ends well, and the output holds what is made of the source as it was before, even
where the output is the source.
-/

set_option autoImplicit false

namespace DocBraces

open DocBraces.Files DocBraces.Session

namespace Config

theorem load_observes (file : Option Path) (e : Environment) : Observes (load file e) :=
  load_composes Observes.catches
    (choose_composes Observes.catches.toComposes .isFile .currentFolder .realPath file)
    .isFile .readBytes .log e

end Config

namespace CommandLine

variable {α β : Type}

/-- An act ends with a value and in a session as wished, or else it ends early with a status
other than zero, or fails, and the tree is the given one. -/
def Reaches (t : Tree) (act : Act α) (s : Session) (wished : α → Session → Prop) : Prop :=
  match ending act s with
  | .ok (.ok a) => wished a (left act s)
  | .ok (.error n) => n ≠ 0 ∧ (left act s).tree = t
  | .error _ => (left act s).tree = t

namespace Reaches

variable {t : Tree} {s : Session} {act : Act α} {wished : α → Session → Prop}

theorem pure {a : α} (h : wished a s) : Reaches t (pure a) s wished := h

theorem exit {n : Nat} (h : n ≠ 0) (same : s.tree = t) :
    Reaches t (exit n : Act α) s wished := ⟨h, same⟩

theorem bind {f : α → Act β} {wished' : β → Session → Prop} (h : Reaches t act s wished)
    (hf : ∀ a s', wished a s' → Reaches t (f a) s' wished') :
    Reaches t (act >>= f) s wished' := by
  unfold Reaches at h ⊢
  rw [ending_bind, left_bind]
  rcases ha : ending act s with e | (n | a)
  · rw [ha] at h
    exact h
  · rw [ha] at h
    exact h
  · rw [ha] at h
    exact hf a _ h

theorem stop {f : α → Act β} {wished' : β → Session → Prop}
    (h : Reaches t act s fun _ _ => False) : Reaches t (act >>= f) s wished' :=
  h.bind fun _ _ => False.elim

theorem imp {wished' : α → Session → Prop} (h : Reaches t act s wished)
    (hw : ∀ a s', wished a s' → wished' a s') : Reaches t act s wished' := by
  unfold Reaches at h ⊢
  split
  · next he =>
    rw [he] at h
    exact hw _ _ h
  · next he =>
    rw [he] at h
    exact h
  · next he =>
    rw [he] at h
    exact h

variable {s₀ : Session}

/-- An activity that only looks and talks stays in the tree, and ends as it does at first. -/
theorem run {r : Run α} (h : Observes r) (peers : Peers s₀ s) :
    Reaches s₀.tree (run r) s fun a s' => Peers s₀ s' ∧ outcome r s₀ = .ok a := by
  have left_ := peers.trans (h.kept peers.unlogged')
  have same := h.same peers
  unfold Reaches
  rw [ending_run, left_run, same]
  cases outcome r s₀ with
  | error e => exact left_.tree
  | ok a => exact ⟨left_, rfl⟩

theorem lift (m : StateM Session α) :
    Reaches t (CommandLine.run (ExceptT.lift m)) s fun a s' => a = (m s).1 ∧ s' = (m s).2 :=
  ⟨rfl, rfl⟩

theorem get : Reaches t (CommandLine.run MonadState.get) s fun a s' => a = s ∧ s' = s := ⟨rfl, rfl⟩

theorem say (text : String) (peers : Peers s₀ s) :
    Reaches t (say text) s fun _ s' => Peers s₀ s' :=
  peers.trans ((Observes.print _).kept peers.unlogged')

theorem sayLine (text : String) (peers : Peers s₀ s) :
    Reaches t (sayLine text) s fun _ s' => Peers s₀ s' := say _ peers

theorem complain (text : String) (peers : Peers s₀ s) :
    Reaches t (complain text) s fun _ s' => Peers s₀ s' :=
  peers.trans ((Observes.complain _).kept peers.unlogged')

theorem then_exit {talk : Act Unit} {n : Nat}
    (h : Reaches s₀.tree talk s fun _ s' => Peers s₀ s') (hn : n ≠ 0) :
    Reaches s₀.tree (talk >>= fun _ => (CommandLine.exit n : Act α)) s wished :=
  h.bind fun _ _ peers => .exit hn peers.tree

theorem refuse (spec : CommandSpec) (takesCommand : Bool) (f : Fault) (peers : Peers s₀ s) :
    Reaches s₀.tree (refuse spec takesCommand f : Act α) s wished :=
  .then_exit (complain _ peers) (by decide)

theorem forIn {γ : Type} {f : γ → β → Act (ForInStep β)} {I : Session → Prop}
    (hf : ∀ x b s, I s → Reaches t (f x b) s fun _ s' => I s') (xs : List γ) (b : β) (hs : I s) :
    Reaches t (forIn xs b f) s fun _ s' => I s' := by
  induction xs generalizing b s with
  | nil => exact .pure hs
  | cons x xs ih =>
    rw [List.forIn_cons]
    refine .bind (hf x b s hs) fun step s' hs' => ?_
    cases step with
    | done b => exact .pure hs'
    | yield b => exact ih b hs'

end Reaches

/-- Neither help nor the version is asked for. -/
def NoHelp (gs : Givens) : Prop := ∀ g ∈ gs, g.1 ≠ .help ∧ g.1 ≠ .version

theorem answerFirst_pure (page : List String) {gs : Givens} (h : NoHelp gs) :
    answerFirst page gs = pure () := by
  fun_induction answerFirst page gs with
  | case1 => rfl
  | case2 => exact absurd rfl (h _ (.head _)).1
  | case3 => exact absurd rfl (h _ (.head _)).2
  | case4 _ _ _ _ ih => exact ih fun g hg => h g (.tail _ hg)

section

variable {s₀ s : Session}

theorem checkPath_reaches (spec : CommandSpec) (takesCommand : Bool) (o : OptionSpec)
    (word : String) (peers : Peers s₀ s) :
    Reaches s₀.tree (checkPath spec takesCommand o word) s fun _ s' => Peers s₀ s' := by
  unfold checkPath
  split
  · exact .bind (.run (.throw _) peers) nofun
  · refine .bind .get fun now s' h => ?_
    obtain ⟨-, rfl⟩ := h
    split
    · split
      · exact .refuse _ _ _ peers
      · exact .pure peers
    · exact .pure peers

theorem checkPathValues_reaches (spec : CommandSpec) (takesCommand : Bool) (gs : Givens)
    (peers : Peers s₀ s) :
    Reaches s₀.tree (checkPathValues spec takesCommand gs) s fun _ s' => Peers s₀ s' := by
  unfold checkPathValues
  refine .bind (.forIn (I := Peers s₀) (fun o _ s peers => ?_) _ _ peers) fun _ _ h => .pure h
  split
  · exact .bind (checkPath_reaches _ _ _ _ peers) fun _ _ h => .pure h
  · exact .pure peers

theorem readGivens_reaches {spec : CommandSpec} {takesCommand : Bool} {page words : List String}
    (plain : ∀ gs rest, readWords spec.options (!takesCommand) none words = .ok (gs, rest) →
      NoHelp gs) (peers : Peers s₀ s) :
    Reaches s₀.tree (readGivens spec takesCommand page words) s fun r s' =>
      Peers s₀ s' ∧ readWords spec.options (!takesCommand) none words = .ok r := by
  unfold readGivens
  split
  · exact .refuse _ _ _ peers
  · next gs rest read =>
    rw [answerFirst_pure page (plain gs rest read), pure_bind]
    exact .bind (checkPathValues_reaches _ _ gs peers) fun _ _ peers => .pure ⟨peers, read⟩

theorem readGroup_reaches {g : Group} {words : List String}
    (plain : ∀ gs rest, readWords g.spec.options false none words = .ok (gs, rest) → NoHelp gs)
    (peers : Peers s₀ s) : Reaches s₀.tree (readGroup g words) s fun r s' =>
      Peers s₀ s' ∧ readWords g.spec.options false none words = .ok r := by
  unfold readGroup
  split
  · exact .bind (.complain _ peers) fun _ _ peers => .stop (.exit (by decide) peers.tree)
  · exact readGivens_reaches plain peers

theorem checkSource_reaches (spec : CommandSpec) (word : String) (peers : Peers s₀ s) :
    Reaches s₀.tree (checkSource spec word) s fun _ s' => Peers s₀ s' := by
  unfold checkSource
  split
  · exact .pure peers
  · split
    · exact .bind (.run (.throw _) peers) nofun
    · refine .bind .get fun now s' h => ?_
      obtain ⟨-, rfl⟩ := h
      dsimp only
      split
      · exact .refuse _ _ _ peers
      · split
        · exact .refuse _ _ _ peers
        · exact .pure peers
      · exact .refuse _ _ _ peers

theorem readAction_reaches {a : Action} (argument : a.argument = some "SOURCE")
    {words : List String}
    (plain : ∀ own more, readWords a.options true none words = .ok (own, more) → NoHelp own)
    (peers : Peers s₀ s) : Reaches s₀.tree (readAction a words) s fun r s' =>
      Peers s₀ s' ∧ readWords a.options true none words = .ok (r.1, [r.2]) := by
  have named : a.spec.argument = some "SOURCE" := argument
  unfold readAction
  dsimp only
  rw [named]
  refine .bind (readGivens_reaches plain peers) fun ⟨own, rest⟩ s₁ ⟨peers, read⟩ => ?_
  cases rest with
  | nil => exact .stop (.refuse _ _ _ peers)
  | cons word extra =>
    refine .bind (checkSource_reaches a.spec word peers) fun _ s₂ peers => ?_
    rw [pure_bind]
    dsimp only
    split
    · next none_ =>
      obtain rfl := List.isEmpty_iff.mp none_
      exact .pure ⟨peers, read⟩
    · exact .stop (.refuse _ _ _ peers)

theorem setupLogging_observes {r : Log.Request} (noFile : r.filePath? = none) :
    Observes (setupLogging r) := by
  unfold setupLogging
  rw [noFile]
  exact ⟨fun _ => rfl, fun unlogged => ⟨rfl, rfl, rfl, rfl, rfl, rfl, rfl, unlogged, rfl⟩⟩

theorem environment_reaches {t : Tree} (peers : Peers s₀ s) :
    Reaches t environment s fun e s' => e = s₀.environment ∧ s' = s :=
  ⟨peers.environment, rfl⟩

theorem startLogging_reaches (gs : Givens) (peers : Peers s₀ s)
    (noFile : Log.nonempty? (s₀.environment.get? logFileVariable) = none) :
    Reaches s₀.tree (startLogging gs) s fun _ s' => Peers s₀ s' := by
  unfold startLogging
  refine .bind (environment_reaches peers) fun e s' h => ?_
  obtain ⟨rfl, rfl⟩ := h
  refine .imp (.run (setupLogging_observes ?_) peers) fun _ _ h => h.1
  exact noFile

theorem loadSettings_reaches (scope : Scope) (peers : Peers s₀ s) :
    Reaches s₀.tree (loadSettings scope) s fun st s' =>
      Peers s₀ s' ∧ outcome (Config.load scope.config s₀.environment) s₀ = .ok st := by
  unfold loadSettings
  refine .bind (environment_reaches peers) fun e s' h => ?_
  obtain ⟨rfl, rfl⟩ := h
  have loading := Config.load_observes scope.config s₀.environment
  refine .bind (.run (.tryCatch (loading.map Sum.inl) fun f => ?_) peers)
    fun loaded s₁ ⟨peers, ends⟩ => ?_
  · split
    · exact .pure _
    · exact .throw _
  · cases loaded with
    | inl st =>
      refine .pure ⟨peers, ?_⟩
      rw [outcome_tryCatch, outcome_map] at ends
      cases loads : outcome (Config.load scope.config s₀.environment) s₀ with
      | error f =>
        rw [loads] at ends
        cases f <;> cases ends
      | ok st' =>
        rw [loads] at ends
        obtain rfl := Sum.inl.inj (Except.ok.inj ends)
        rfl
    | inr f => exact .then_exit (.sayLine _ peers) (by decide)

/-- The bytes that a word stands for as a source: those of the file, or for a hyphen the
standard input. -/
def Provides (s : Session) (word : String) (bytes : List UInt8) : Prop :=
  if word = "-" then bytes = s.input else outcome (readBytes (Path.ofString word)) s = .ok bytes

theorem readSource_reaches (word : String) (peers : Peers s₀ s) :
    Reaches s₀.tree (readSource word) s fun text s' => Peers s₀ s' ∧
      ∃ bytes, Provides s₀ word bytes ∧ Text.Utf8.decode bytes = .ok text := by
  unfold readSource
  split
  · next hyphen =>
    refine .bind .get fun now s' h => ?_
    obtain ⟨rfl, rfl⟩ := h
    rw [pure_bind]
    have provided : Provides s₀ word s'.input := by rw [Provides, if_pos hyphen, peers.input]
    dsimp only
    split
    · next decoded => exact .pure ⟨peers, _, provided, decoded⟩
    · exact .then_exit (.sayLine _ peers) (by decide)
  · next named =>
    refine .bind (.run (.readBytes _) peers) fun bytes s' ⟨peers, read⟩ => ?_
    have provided : Provides s₀ word bytes := by rwa [Provides, if_neg named]
    dsimp only
    split
    · next decoded => exact .pure ⟨peers, _, provided, decoded⟩
    · exact .then_exit (.sayLine _ peers) (by decide)

/-- The text has been written to the output, if there is one, and no other file has been
touched. -/
def Written (s : Session) (output : Option Path) (text : List Char) (s' : Session) : Prop :=
  match output with
  | none => Peers s s'
  | some p => ∃ place, s.landing p = some place ∧
      Peers { s with tree := s.tree.put place (.file (Text.Utf8.encode text)) } s'

theorem Written.talk {output : Option Path} {text : List Char} {s' s'' : Session}
    (h : Written s output text s') (talk : Peers s' s'') : Written s output text s'' := by
  cases output with
  | none => exact Peers.trans h talk
  | some p =>
    obtain ⟨place, lands, peers⟩ := h
    exact ⟨place, lands, peers.trans talk⟩

theorem writeOutput_reaches (text : List Char) (output : Option Path) (peers : Peers s₀ s) :
    Reaches s₀.tree (writeOutput text output) s fun _ s' => Written s₀ output text s' := by
  cases output with
  | none => exact .say _ peers
  | some p =>
    have written := outcome_writeBytes p (Text.Utf8.encode text) s
    have leaves := after_writeBytes p (Text.Utf8.encode text) s
    unfold writeOutput Reaches writeText
    dsimp only
    rw [ending_run, left_run, leaves]
    cases lands : s.landing p with
    | none =>
      rw [lands] at written
      obtain ⟨f, hf⟩ := written
      rw [hf]
      exact peers.tree
    | some place =>
      rw [lands] at written
      dsimp only at written
      rw [written]
      refine ⟨place, (peers.landing p).symm.trans lands, ?_⟩
      exact ⟨by rw [peers.tree], peers.here, peers.locked, peers.unreadable, peers.environment,
        peers.programs, peers.input, peers.unlogged, peers.unlogged'⟩

/-- What a command with these options makes of a text in a session. -/
inductive Makes (s : Session) (config : Option Path) (text : List Char) :
    Action → List Char → Prop
  | sanitize {st : Settings} {k : Codec} :
      outcome (Config.load config s.environment) s = .ok st → st.codec = .ok k →
        Makes s config text .sanitize (k.sanitize text)
  | restore : Makes s config text .restore (Codec.default.restore text)
  | render {st : Settings} {page : Render.Page} :
      outcome (Config.load config s.environment) s = .ok st →
        Renders st.fallback text s (.ok page) → Makes s config text .render page.html

/-- The source has been read and decoded, and what the command makes of it in the session as
it was at first has been written. -/
def Delivers (s : Session) (config : Option Path) (a : Action) (word : String)
    (output : Option Path) (s' : Session) : Prop :=
  ∃ bytes text result, Provides s word bytes ∧ Text.Utf8.decode bytes = .ok text ∧
    Makes s config text a result ∧ Written s output result s'

theorem restore_reaches (config : Option Path) (word : String) (output : Option Path)
    (peers : Peers s₀ s) : Reaches s₀.tree (restore word output) s fun _ s' =>
      Delivers s₀ config .restore word output s' := by
  unfold restore
  refine .bind (readSource_reaches word peers) fun text s₁ ⟨peers, bytes, provided, decoded⟩ => ?_
  refine .imp (writeOutput_reaches _ output peers) fun _ s' written => ?_
  exact ⟨bytes, text, _, provided, decoded, .restore, written⟩

theorem codecOf_observes (st : Settings) : Observes (Docs.codecOf st) :=
  Docs.codecOf_composes Observes.catches.toComposes .throw st

theorem sanitize_observes (k : Codec) (text : List Char) : Observes (Docs.sanitize k text) := by
  unfold Docs.sanitize
  split
  · exact .bind (.log _ _ _) fun _ => .pure _
  · exact .pure _

theorem codec_of_codecOf {st : Settings} {k : Codec} (h : outcome (Docs.codecOf st) s = .ok k) :
    st.codec = .ok k := by
  unfold Docs.codecOf at h
  split at h
  · next k' hk =>
    obtain rfl := Except.ok.inj h
    exact hk
  · cases h

theorem sanitize_reaches (scope : Scope) (word : String) (output : Option Path)
    (peers : Peers s₀ s) : Reaches s₀.tree (sanitize scope word output) s fun _ s' =>
      Delivers s₀ scope.config .sanitize word output s' := by
  unfold sanitize
  refine .bind (loadSettings_reaches scope peers) fun st s₁ ⟨peers, loads⟩ => ?_
  refine .bind (.run (codecOf_observes st) peers) fun k s₂ ⟨peers, coded⟩ => ?_
  refine .bind (readSource_reaches word peers) fun text s₃ ⟨peers, bytes, provided, decoded⟩ => ?_
  refine .bind (.run (sanitize_observes k text) peers) fun result s₄ ⟨peers, made⟩ => ?_
  rw [Docs.outcome_sanitize] at made
  obtain rfl := Except.ok.inj made
  refine .imp (writeOutput_reaches _ output peers) fun _ s' written => ?_
  exact ⟨bytes, text, _, provided, decoded, .sanitize loads (codec_of_codecOf coded), written⟩

variable {fb : FallbackSettings} {source : List Char}

theorem ran_peers (words : List String) (source : List Char) (h : Peers s₀ s) :
    (ran words source s).1 = (ran words source s₀).1 ∧
      Peers (ran words source s₀).2 (ran words source s).2 := by
  have started : s.start s.tree (.of words .default source) =
      s₀.start s₀.tree (.of words .default source) := by
    unfold Session.start
    rw [h.tree, h.here, h.environment, h.programs]
  unfold ran Session.runCommand
  dsimp only
  rw [started]
  refine ⟨rfl, rfl, h.here, h.locked, h.unreadable, h.environment, h.programs, h.input, ?_, ?_⟩
  · rw [h.unlogged]
    rfl
  · rw [h.unlogged']
    rfl

theorem ranAgain_peers (h : Peers s₀ s) : ranAgain fb source s = ranAgain fb source s₀ := by
  have first := (ran_peers fb.primary source h).2
  have remarked : Peers (logRemark .retrying (ran fb.primary source s₀).2)
      (logRemark .retrying (ran fb.primary source s).2) :=
    ((Peers.refl first.unlogged).record _).symm.trans (first.record _)
  exact (ran_peers fb.fallback source remarked).1

theorem renderPage_peers (h : Peers s₀ s) :
    (renderPage fb source s).1 = (renderPage fb source s₀).1 := by
  cases hp : fb.primary with
  | nil => rw [renderPage_nil _ _ _ hp, renderPage_nil _ _ _ hp]
  | cons program words =>
    rw [renderPage_cons hp, renderPage_cons hp, (ran_peers _ _ h).1, ranAgain_peers h]

/-- The commands in the settings leave the files alone, whatever they are given to read. -/
def Harmless (fb : FallbackSettings) (s : Session) : Prop :=
  ∀ words, words = fb.primary ∨ words = fb.fallback → ∀ source, (ran words source s).2.tree = s.tree

theorem Harmless.ran (harmless : Harmless fb s₀) {words : List String}
    (named : words = fb.primary ∨ words = fb.fallback) (peers : Peers s₀ s) :
    Peers s₀ (ran words source s).2 := by
  refine Peers.trans ?_ (ran_peers words source peers).2
  refine ⟨harmless words named source, rfl, rfl, rfl, rfl, rfl, rfl, peers.unlogged, ?_⟩
  unfold CommandLine.ran Session.runCommand
  dsimp only
  rw [peers.unlogged]
  rfl

theorem renderersOf_ok {primary : Render.ActiveRenderer Session Render.Failure}
    {fallback : Option (Render.ActiveRenderer Session Render.Failure)}
    (h : renderersOf fb = .ok (primary, fallback)) :
    Render.rendererOf Session.runCommand fb.primary .default = .ok primary ∧
      ∀ second ∈ fallback,
        Render.rendererOf Session.runCommand fb.fallback .default = .ok second := by
  unfold renderersOf at h
  cases hp : Render.rendererOf Session.runCommand fb.primary .default with
  | error f =>
    rw [hp] at h
    cases h
  | ok one =>
    rw [hp] at h
    dsimp only [bind, Except.bind] at h
    split at h
    · cases h
      exact ⟨rfl, nofun⟩
    · cases hf : Render.rendererOf Session.runCommand fb.fallback .default with
      | error f =>
        rw [hf] at h
        cases h
      | ok other =>
        rw [hf] at h
        cases h
        exact ⟨rfl, fun _ hs => congrArg _ (Option.some.inj hs)⟩

theorem Harmless.renderPage (harmless : Harmless fb s₀) (peers : Peers s₀ s) :
    Peers s₀ (renderPage fb source s).2 := by
  unfold CommandLine.renderPage
  cases made : renderersOf fb with
  | error f => exact peers
  | ok renderers =>
    obtain ⟨primary, fallback⟩ := renderers
    obtain ⟨first, again⟩ := renderersOf_ok made
    refine Render.renderIn_keeps (fun r w h => h.record _) (fun w h => ?_)
      (fun second hs w h => ?_) peers
    · exact Render.rendererOf_keeps first (fun _ => harmless.ran (.inl rfl)) h
    · exact Render.rendererOf_keeps (again second hs) (fun _ => harmless.ran (.inr rfl)) h

theorem Written.unlogged {output : Option Path} {text : List Char} {s' : Session}
    (h : Written s output text s') : s'.logFile = none := by
  cases output with
  | none => exact Peers.unlogged' h
  | some p => exact h.choose_spec.2.unlogged'

theorem Reaches.talk {t : Tree} {output : Option Path} {text : List Char} {act : Act Unit}
    (h : Written s₀ output text s)
    (talks : ∀ {s₀}, Peers s₀ s → Reaches t act s fun _ s' => Peers s₀ s') :
    Reaches t act s fun _ s' => Written s₀ output text s' :=
  (talks (.refl h.unlogged)).imp fun _ _ peers => h.talk peers

theorem deliverPage_reaches (scope : Scope) (output : Option String) (json : Bool)
    (page : Render.Page) (peers : Peers s₀ s) :
    Reaches s₀.tree (deliverPage scope output json page) s fun _ s' =>
      Written s₀ (nonemptyPath output) page.html s' := by
  unfold deliverPage
  dsimp only
  split
  · split
    · refine .bind (writeOutput_reaches _ _ peers) fun _ s' written => ?_
      exact .talk written (.sayLine _)
    · next none_ =>
      rw [Option.not_isSome_iff_eq_none.mp none_]
      exact .sayLine _ peers
  · refine .bind (writeOutput_reaches _ _ peers) fun _ s' written => ?_
    split
    · exact .talk written (.complain _)
    · exact .pure written

theorem reportFault_reaches {t : Tree} (json : Bool) (f : Render.Fault) (peers : Peers s₀ s) :
    Reaches t (reportFault json f) s fun _ s' => Peers s₀ s' := by
  unfold reportFault
  split <;> exact .sayLine _ peers

theorem render_reaches {scope : Scope} (word : String) (output : Option String) (json : Bool)
    (harmless : ∀ st, outcome (Config.load scope.config s₀.environment) s₀ = .ok st →
      Harmless st.fallback s₀) (peers : Peers s₀ s) :
    Reaches s₀.tree (render scope word output json) s fun _ s' =>
      Delivers s₀ scope.config .render word (nonemptyPath output) s' := by
  unfold render
  refine .bind (loadSettings_reaches scope peers) fun st s₁ ⟨peers, loads⟩ => ?_
  refine .bind (readSource_reaches word peers) fun text s₂ ⟨peers, bytes, provided, decoded⟩ => ?_
  refine .bind (.lift _) fun r s₃ h => ?_
  obtain ⟨rfl, rfl⟩ := h
  -- the renderers leave the files alone, so that the page is written from a peer
  have kept : Peers s₀ (renderPage st.fallback text s₂).2 := (harmless st loads).renderPage peers
  rw [renderPage_peers peers]
  generalize (renderPage st.fallback text s₂).2 = s₃ at kept
  cases hr : (renderPage st.fallback text s₀).1 with
  | error f =>
    cases f with
    | fault fault => exact .then_exit (reportFault_reaches json fault kept) (by decide)
    | _ => exact kept.tree
  | ok page =>
    refine .imp (deliverPage_reaches scope output json page kept) fun _ s' written => ?_
    exact ⟨bytes, text, _, provided, decoded, .render loads (renders_iff.mpr hr), written⟩

/-- A call of a command that turns one file into another. -/
structure Call where
  config : Option Path
  action : Action
  source : String
  output : Option Path

/-- The words make the call. -/
inductive Calls (words : List String) : Call → Prop
  | mk {gs own : Givens} {w source : String} {ws : List String} {a : Action} :
      readWords mainOptions false none words = .ok (gs, w :: ws) →
        Group.main.commands.lookup w = some (.action a) →
          readWords a.options true none ws = .ok (own, [source]) →
            Calls words ⟨nonemptyPath (Givens.value? gs .config), a, source,
              nonemptyPath (Givens.value? own .output)⟩

/-- As far as the words can be read, they call a command for single files, and ask neither for
help nor for the version. -/
def ForFile (words : List String) : Prop :=
  ∀ gs rest, readWords mainOptions false none words = .ok (gs, rest) → NoHelp gs ∧
    ∃ w ws a, rest = w :: ws ∧ Group.main.commands.lookup w = some (.action a) ∧
      ∀ own more, readWords a.options true none ws = .ok (own, more) → NoHelp own

/-- What is rendered with leaves the files alone, where rendering is called for. -/
def HarmlessIn (words : List String) (s : Session) : Prop :=
  ∀ c, Calls words c → c.action = .render →
    ∀ st, outcome (Config.load c.config s.environment) s = .ok st → Harmless st.fallback s

theorem main_actions {w : String} {a : Action}
    (h : Group.main.commands.lookup w = some (.action a)) :
    a = .render ∨ a = .restore ∨ a = .sanitize := by
  have member : (w, Command.action a) ∈ Group.main.commands := mem_of_lookup h
  simp only [Group.commands, List.mem_cons, Prod.mk.injEq, Command.action.injEq, reduceCtorEq,
    and_false, List.not_mem_nil, or_false, false_or] at member
  exact member.imp And.right (Or.imp And.right And.right)

theorem perform_reaches {words ws : List String} {gs : Givens} {w : String} {a : Action}
    (read : readWords mainOptions false none words = .ok (gs, w :: ws))
    (found : Group.main.commands.lookup w = some (.action a))
    (plain : ∀ own more, readWords a.options true none ws = .ok (own, more) → NoHelp own)
    (harmless : HarmlessIn words s₀) (peers : Peers s₀ s) :
    Reaches s₀.tree (perform (Scope.ofGivens gs) a ws) s fun _ s' =>
      ∃ c, Calls words c ∧ Delivers s₀ c.config c.action c.source c.output s' := by
  have argument : a.argument = some "SOURCE" := by
    obtain rfl | rfl | rfl := main_actions found <;> rfl
  unfold perform
  refine .bind (readAction_reaches argument plain peers) fun ⟨own, source⟩ s₁ ⟨peers, own_⟩ => ?_
  have call := Calls.mk read found own_
  dsimp only
  obtain rfl | rfl | rfl := main_actions found
  · exact (render_reaches source _ _ (harmless _ call rfl) peers).imp fun _ _ h => ⟨_, call, h⟩
  · exact (restore_reaches _ source _ peers).imp fun _ _ h => ⟨_, call, h⟩
  · exact (sanitize_reaches _ source _ peers).imp fun _ _ h => ⟨_, call, h⟩

/-- No log file is open, and none is asked for. -/
structure Unlogged (s : Session) : Prop where
  closed : s.logFile = none
  unnamed : Log.nonempty? (s.environment.get? logFileVariable) = none

theorem dispatch_reaches {words : List String} (forFile : ForFile words) (unlogged : Unlogged s)
    (harmless : HarmlessIn words s) : Reaches s.tree (dispatch words) s fun _ s' =>
      ∃ c, Calls words c ∧ Delivers s c.config c.action c.source c.output s' := by
  unfold dispatch
  refine .bind (readGroup_reaches (fun gs rest read => (forFile gs rest read).1)
    (.refl unlogged.closed)) fun ⟨gs, rest⟩ s₁ ⟨peers, read⟩ => ?_
  obtain ⟨-, w, ws, a, rfl, found, plain⟩ := forFile gs rest read
  have command : findCommand .main (w :: ws) = pure (.action a, ws) := by
    unfold findCommand
    dsimp only
    rw [found]
  dsimp only
  rw [command, pure_bind]
  refine .bind (startLogging_reaches gs peers unlogged.unnamed) fun _ s₂ peers => ?_
  exact perform_reaches read found plain harmless peers

/-- The file that the output leads to holds the text, and no other has changed. Without an
output, none has. -/
def Delivered (s : Session) (output : Option Path) (text : List Char) (s' : Session) : Prop :=
  match output with
  | none => s'.tree = s.tree
  | some p => ∃ place, s.landing p = some place ∧
      s'.tree.node? place = some (.file (Text.Utf8.encode text)) ∧
      (∀ q, q ≠ place → s'.tree.node? q = s.tree.node? q) ∧
      (s.tree.Grounded → s'.view.node? true p = some (place, .file (Text.Utf8.encode text)) ∧
        (s.denies .reading p.toString = false →
          outcome (readBytes p) s' = .ok (Text.Utf8.encode text)))

theorem Written.delivered {output : Option Path} {text : List Char} {s' : Session}
    (h : Written s output text s') : Delivered s output text s' := by
  cases output with
  | none => exact Peers.tree h
  | some p =>
    obtain ⟨place, lands, peers⟩ := h
    have held : s'.tree.node? place = some (.file (Text.Utf8.encode text)) := by
      rw [peers.tree]
      exact Tree.node?_put_self _ _ _ (landing_ne_nil lands)
    refine ⟨place, lands, held, fun q hq => ?_, fun grounded => ?_⟩
    · rw [peers.tree]
      exact Tree.node?_put_of_ne _ _ _ _ hq
    · have still : s'.landing p = some place := by
        rw [peers.landing]
        exact Docs.landing_put (Docs.spot_of_landing grounded lands) _ lands
      have viewed := viewed_of_landing still held
      refine ⟨viewed, fun open_ => ?_⟩
      have same : s'.denies .reading p.toString = false := (peers.denies _ _).trans open_
      rw [readBytes_of_viewed viewed, if_neg (by simp [same])]

/-- A command line for a single file leaves all files alone unless it ends with status zero.
If it does, the source was text, and the output holds what the command makes of that text in
the session as it was before. -/
theorem single_file_delivers {words : List String} (forFile : ForFile words)
    (unlogged : Unlogged s) (harmless : HarmlessIn words s) :
    let s' := after (runWords words) s
    (outcome (runWords words) s ≠ .ok 0 → s'.tree = s.tree) ∧
      (outcome (runWords words) s = .ok 0 → ∃ c bytes text result, Calls words c ∧
        Provides s c.source bytes ∧ Text.Utf8.decode bytes = .ok text ∧
          Makes s c.config text c.action result ∧ Delivered s c.output result s') := by
  have reached := dispatch_reaches forFile unlogged harmless
  have ends : outcome (runWords words) s = match ending (dispatch words) s with
      | .ok (.ok ()) => .ok 0
      | .ok (.error n) => .ok n
      | .error f => .error f := by
    unfold runWords ending
    rw [outcome_bind]
    rcases outcome (dispatch words).run s with f | (n | u) <;> rfl
  have leaves : after (runWords words) s = left (dispatch words) s := by
    unfold runWords left
    rw [after_bind]
    rcases outcome (dispatch words).run s with f | (n | u) <;> rfl
  dsimp only
  rw [ends, leaves]
  unfold Reaches at reached
  generalize ending (dispatch words) s = ended at reached
  rcases ended with f | (n | u)
  · exact ⟨fun _ => reached, nofun⟩
  · exact ⟨fun _ => reached.2, fun h => absurd (Except.ok.inj h) reached.1⟩
  · obtain ⟨c, calls, bytes, text, result, provided, decoded, made, written⟩ := reached
    refine ⟨fun h => absurd rfl h, fun _ => ?_⟩
    exact ⟨c, bytes, text, result, calls, provided, decoded, made, written.delivered⟩

end

/-- A page whose renderer puts a mark in front of what it reads. -/
def markedProject : Session where
  tree := ⟨[(["p"], .folder), (["p", "a.md"], .file (Text.Utf8.encode ['x']))]⟩
  here := ["p"]
  programs := fun v _ c => (.exited 0 (Text.Utf8.encode ['>'] ++ c.input) [], v.tree)
  clock := ⟨"", ""⟩

def inPlaceWords : List String := ["render", "a.md", "-o", "./a.md"]

theorem inPlaceWords_forFile : ForFile inPlaceWords := by
  have read : readWords mainOptions false none inPlaceWords = .ok ([], inPlaceWords) := rfl
  have own_ : readWords Action.render.options true none ["a.md", "-o", "./a.md"] =
      .ok ([(.output, .value "./a.md")], ["a.md"]) := rfl
  intro gs rest h
  obtain ⟨rfl, rfl⟩ := Prod.mk.inj (Except.ok.inj (read.symm.trans h))
  refine ⟨nofun, "render", _, .render, rfl, rfl, fun own more h => ?_⟩
  obtain ⟨rfl, -⟩ := Prod.mk.inj (Except.ok.inj (own_.symm.trans h))
  simp [NoHelp]

/-- A page that is rendered into its own source, by another path. -/
theorem rendered_in_place :
    ForFile inPlaceWords ∧ Unlogged markedProject ∧ HarmlessIn inPlaceWords markedProject ∧
      outcome (runWords inPlaceWords) markedProject = .ok 0 ∧
      (after (runWords inPlaceWords) markedProject).tree.node? ["p", "a.md"] =
        some (.file (Text.Utf8.encode ['>', 'x'])) ∧
      ∃ c bytes text result, Calls inPlaceWords c ∧ Provides markedProject c.source bytes ∧
        Text.Utf8.decode bytes = .ok text ∧ Makes markedProject c.config text c.action result ∧
        Delivered markedProject c.output result (after (runWords inPlaceWords) markedProject) := by
  have unlogged : Unlogged markedProject := ⟨rfl, rfl⟩
  have harmless : HarmlessIn inPlaceWords markedProject := fun _ _ _ _ _ _ _ _ => rfl
  have ends : outcome (runWords inPlaceWords) markedProject = .ok 0 :=
    ok_of_toOption (by decide +kernel)
  exact ⟨inPlaceWords_forFile, unlogged, harmless, ends, by decide +kernel,
    (single_file_delivers inPlaceWords_forFile unlogged harmless).2 ends⟩

end CommandLine

end DocBraces
