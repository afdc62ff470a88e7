import DocBraces.Proofs.CommandLine.Acting

/-!
# Loading the configuration

Loading ends with settings, with a fault of the configuration, or it strays: the search
for the file fails, or the file is no UTF-8, or a value in it does not fit its tag. What
strays is caught by nobody, so that checking the configuration and every command that
loads it end with the same failure, and in no other case.
-/

set_option autoImplicit false

namespace DocBraces.Config

open DocBraces.Files DocBraces.Session DocBraces.Text

/-- Bytes of a file that make loading fail with more than a fault of the configuration. -/
inductive Strays (bytes : List UInt8) : Failure → Prop
  | undecodable {fault : Utf8.Fault} :
      Utf8.decode bytes = .error fault → Strays bytes (.undecodable fault)
  | unfit {text : List Char} {failure : Yaml.Failure} :
      Utf8.decode bytes = .ok text → Yaml.load (unifyNewlines text) = .error failure →
        failure ≠ .malformed → Strays bytes (.data failure)

/-- The file that is named, else the one that is found. -/
def choose (file : Option Path) : Run (Option Path) :=
  match file with
  | some p => pure (some p)
  | none => find none

/-- The session once the loading of a file has been logged. -/
def announced (s : Session) (p : Path) : Session := after
  (debug s!"Loading config from {p.toString}") s

/-- How loading from a session strays. -/
inductive Astray (s : Session) (file : Option Path) : Failure → Prop
  | search {f : Failure} : outcome (choose file) s = .error f → Astray s file f
  | look {p : Path} {f : Failure} :
      outcome (choose file) s = .ok (some p) → outcome (isFile p) s = .error f → Astray s file f
  | read {p : Path} {bytes : List UInt8} {f : Failure} :
      outcome (choose file) s = .ok (some p) → outcome (isFile p) s = .ok true →
        outcome (readBytes p) (announced s p) = .ok bytes → Strays bytes f → Astray s file f

/-- A fault of the configuration, which the commands report. -/
def IsFault (f : Failure) : Prop := ∃ fault, f = .config fault

theorem Strays.not_fault {bytes : List UInt8} {f : Failure} (h : Strays bytes f) :
    ¬ IsFault f := by
  rintro ⟨fault, rfl⟩
  cases h

theorem not_fault_of_path {f : Failure} (h : f.OfPath) : ¬ IsFault f := by
  rintro ⟨fault, rfl⟩
  obtain ⟨_, h⟩ | h | ⟨_, h⟩ := h <;> cases h

section
variable {Q : ∀ {α : Type}, Run α → Prop}

theorem searchFrom_composes (h : Composes Q) (looks : ∀ p, Q (isFile p)) (limit : Nat)
    (folder : Path) : Q (searchFrom limit folder) := by
  induction limit generalizing folder with
  | zero => exact h.pure _
  | succ limit ih =>
    refine h.bind (looks _) fun there => ?_
    cases there with
    | true => exact h.pure _
    | false =>
      rw [if_neg Bool.false_ne_true]
      split
      · exact h.pure _
      · exact ih _

theorem choose_composes (h : Composes Q) (looks : ∀ p, Q (isFile p)) (here : Q currentFolder)
    (resolves : ∀ p, Q (realPath p)) (file : Option Path) : Q (choose file) := by
  cases file with
  | some p => exact h.pure _
  | none =>
    exact h.bind here fun _ => h.bind (resolves _) fun _ => searchFrom_composes h looks _ _

end

theorem choose_looks (file : Option Path) : Looks (choose file) :=
  choose_composes Looks.composes isFile_looks (.bind .get fun _ => .pure _) realPath_looks _

theorem choose_fails (file : Option Path) : Fails Failure.OfPath (choose file) :=
  choose_composes (Fails.composes _) (fun p => (isFile_fails p).imp fun _ hf => .inl ⟨_, hf⟩)
    (.get_bind fun _ => .pure _) (fun p => (realPath_fails p).imp fun _ hf => .inr hf) _

theorem Astray.not_fault {s : Session} {file : Option Path} {f : Failure}
    (h : Astray s file f) : ¬ IsFault f := by
  cases h with
  | search hc => exact not_fault_of_path (choose_fails file s f hc)
  | @look p _ _ hl =>
    rw [isFile_fails p s f hl]
    exact nofun
  | read _ _ _ hs => exact hs.not_fault

def settingsIn (file : Path) (bytes : List UInt8) : Except Failure Settings :=
  match Utf8.decode bytes with
  | .error fault => .error (.undecodable fault)
  | .ok text => match Yaml.load (unifyNewlines text) with
    | .error .malformed => .error (.config (.malformed file.toString))
    | .error failure => .error (.data failure)
    | .ok d => (settingsOf file d).mapError .config

theorem settingsIn_strays_iff (file : Path) (bytes : List UInt8) (f : Failure) :
    settingsIn file bytes = .error f ∧ ¬ IsFault f ↔ Strays bytes f := by
  unfold settingsIn
  constructor
  · rintro ⟨he, hf⟩
    split at he
    · next fault hd =>
      obtain rfl := Except.error.inj he
      exact .undecodable hd
    · next text hd =>
      split at he
      · obtain rfl := Except.error.inj he
        exact absurd ⟨_, rfl⟩ hf
      · next failure hm hy =>
        obtain rfl := Except.error.inj he
        exact .unfit hd hy hm
      · next d hy =>
        cases hs : settingsOf file d with
        | ok st => simp [hs, Except.mapError] at he
        | error fault =>
          rw [hs] at he
          obtain rfl := Except.error.inj he
          exact absurd ⟨_, rfl⟩ hf
  · intro h
    refine ⟨?_, h.not_fault⟩
    cases h with
    | undecodable hd => rw [hd]
    | unfit hd hy hm =>
      rw [hd]
      dsimp only
      rw [hy]
      split <;> simp_all

theorem outcome_readText (p : Path) (s : Session) :
    outcome (readText p) s = match outcome (readBytes p) s with
      | .ok bytes => match Utf8.decode bytes with
        | .ok text => .ok (unifyNewlines text)
        | .error fault => .error (.undecodable fault)
      | .error (.file fault) => .error (.config (.unreadable p.toString fault))
      | .error f => .error f := by
  unfold readText
  rw [outcome_bind, outcome_tryCatch]
  cases outcome (readBytes p) s with
  | error f => cases f <;> rfl
  | ok bytes =>
    dsimp only
    cases Utf8.decode bytes <;> rfl

theorem outcome_parse (p : Path) (text : List Char) (s : Session) :
    outcome (parse p text) s = match Yaml.load text with
      | .ok d => .ok d
      | .error .malformed => .error (.config (.malformed p.toString))
      | .error failure => .error (.data failure) := by
  unfold parse
  rcases Yaml.load text with failure | d
  · cases failure <;> rfl
  · rfl

theorem outcome_debug_bind {α : Type} (message : String) (f : Unit → Run α) (s : Session) :
    outcome (debug message >>= f) s = outcome (f ()) (after (debug message) s) := rfl

theorem outcome_loadFile (p : Path) (s : Session) :
    outcome (loadFile p) s = match outcome (isFile p) s with
      | .error f => .error f
      | .ok false => .error (.config (.missing p.toString))
      | .ok true => match outcome (readBytes p) (announced s p) with
        | .ok bytes => settingsIn p bytes
        | .error (.file fault) => .error (.config (.unreadable p.toString fault))
        | .error f => .error f := by
  unfold loadFile
  rw [outcome_bind, isFile_looks]
  rcases outcome (isFile p) s with f | (_ | _)
  · rfl
  · rfl
  · dsimp only
    rw [if_pos rfl, outcome_debug_bind, ← announced, outcome_bind, outcome_readText]
    rcases outcome (readBytes p) (announced s p) with f | bytes
    · cases f <;> rfl
    · unfold settingsIn
      dsimp only
      rcases Utf8.decode bytes with fault | text
      · rfl
      · dsimp only
        rw [outcome_bind, outcome_parse]
        rcases Yaml.load (unifyNewlines text) with failure | d
        · cases failure <;> rfl
        · dsimp only
          cases settingsOf p d <;> rfl

theorem loadFile_strays_iff (p : Path) (s : Session) (f : Failure) :
    outcome (loadFile p) s = .error f ∧ ¬ IsFault f ↔
      outcome (isFile p) s = .error f ∨ outcome (isFile p) s = .ok true ∧
        ∃ bytes, outcome (readBytes p) (announced s p) = .ok bytes ∧ Strays bytes f := by
  rw [outcome_loadFile]
  rcases hp : outcome (isFile p) s with g | (_ | _)
  · have hg : ¬ IsFault g := by
      rw [isFile_fails p s g hp]
      exact nofun
    dsimp only
    constructor
    · rintro ⟨h, _⟩
      obtain rfl := Except.error.inj h
      exact .inl rfl
    · rintro (h | ⟨h, _⟩)
      · obtain rfl := Except.error.inj h
        exact ⟨rfl, hg⟩
      · cases h
  · constructor
    · rintro ⟨h, hf⟩
      obtain rfl := Except.error.inj h
      exact absurd ⟨_, rfl⟩ hf
    · rintro (h | ⟨h, _⟩) <;> cases h
  · rcases hb : outcome (readBytes p) (announced s p) with g | bytes
    · obtain ⟨fault, rfl⟩ := readBytes_fails (hasNul_of_isFile hp) _ _ hb
      constructor
      · rintro ⟨h, hf⟩
        obtain rfl := Except.error.inj h
        exact absurd ⟨_, rfl⟩ hf
      · rintro (h | ⟨_, _, h, _⟩) <;> cases h
    · dsimp only
      rw [settingsIn_strays_iff]
      constructor
      · exact fun h => .inr ⟨rfl, bytes, rfl, h⟩
      · rintro (h | ⟨_, other, h, hs⟩)
        · cases h
        · obtain rfl := Except.ok.inj h
          exact hs

theorem outcome_applyEnvironment (st : Settings) (e : Environment) (s : Session) :
    outcome (applyEnvironment st e) s = .ok (st.override (.ofEnvironment e)) := by
  unfold applyEnvironment
  dsimp only
  split <;> rfl

theorem load_eq (file : Option Path) (e : Environment) :
    load file e = choose file >>= fun file => match file with
      | none => do
        debug s!"No {fileName} found — using defaults"
        applyEnvironment {} e
      | some p => loadFile p >>= fun st => applyEnvironment st e := by
  cases file <;> rfl

theorem outcome_load (file : Option Path) (e : Environment) (s : Session) :
    outcome (load file e) s = match outcome (choose file) s with
      | .error f => .error f
      | .ok none => .ok (({} : Settings).override (.ofEnvironment e))
      | .ok (some p) => (outcome (loadFile p) s).map (·.override (.ofEnvironment e)) := by
  rw [load_eq, outcome_bind, choose_looks]
  rcases outcome (choose file) s with f | (_ | p)
  · rfl
  · dsimp only
    rw [outcome_debug_bind, outcome_applyEnvironment]
  · dsimp only
    rw [outcome_bind]
    cases outcome (loadFile p) s with
    | error f => rfl
    | ok st => exact outcome_applyEnvironment st e _

theorem load_strays_iff (file : Option Path) (e : Environment) (s : Session) (f : Failure) :
    outcome (load file e) s = .error f ∧ ¬ IsFault f ↔ Astray s file f := by
  rw [outcome_load]
  constructor
  · rintro ⟨h, hf⟩
    rcases hc : outcome (choose file) s with g | (_ | p)
    · rw [hc] at h
      obtain rfl := Except.error.inj h
      exact .search hc
    · rw [hc] at h
      cases h
    · rw [hc] at h
      dsimp only at h
      rcases hl : outcome (loadFile p) s with g | st
      · rw [hl] at h
        obtain rfl := Except.error.inj h
        obtain hp | ⟨hp, bytes, hb, hs⟩ := (loadFile_strays_iff p s g).mp ⟨hl, hf⟩
        · exact .look hc hp
        · exact .read hc hp hb hs
      · rw [hl] at h
        cases h
  · intro h
    refine ⟨?_, h.not_fault⟩
    cases h with
    | search hc => rw [hc]
    | @look p _ hc hp =>
      have hl := ((loadFile_strays_iff p s f).mpr (.inl hp)).1
      rw [hc]
      dsimp only
      rw [hl]
      rfl
    | @read p bytes _ hc hp hb hs =>
      have hl := ((loadFile_strays_iff p s f).mpr (.inr ⟨hp, bytes, hb, hs⟩)).1
      rw [hc]
      dsimp only
      rw [hl]
      rfl

theorem choose_again {file found : Option Path} {s : Session}
    (h : outcome (choose file) s = .ok found) : outcome (choose found) s = .ok found := by
  cases found with
  | some p => rfl
  | none =>
    cases file with
    | none => exact h
    | some p => cases h

theorem Astray.congr {file other : Option Path} {s : Session} {f : Failure}
    (h : outcome (choose file) s = outcome (choose other) s) (ha : Astray s file f) :
    Astray s other f := by
  cases ha with
  | search hc => exact .search (h ▸ hc)
  | look hc hp => exact .look (h ▸ hc) hp
  | read hc hp hb hs => exact .read (h ▸ hc) hp hb hs

def checkChosen (e : Environment) (file : Option Path) : Run CheckResult := do
  let warnings := if file.isNone then [s!"No {fileName} found — using defaults."] else []
  try
    let s ← load file e
    let errors := settingsErrors s
    return { valid := errors.isEmpty, settings := some s, file, errors,
             warnings := warnings ++ settingsWarnings s }
  catch
    | .config f => return { file, errors := [f.message], warnings }
    | f => throw f

theorem check_eq (file : Option Path) (e : Environment) :
    check file e = choose file >>= checkChosen e := by
  cases file <;> rfl

theorem checkChosen_fails_iff (file : Option Path) (e : Environment) (s : Session)
    (f : Failure) : outcome (checkChosen e file) s = .error f ↔
      outcome (load file e) s = .error f ∧ ¬ IsFault f := by
  unfold checkChosen
  dsimp only
  rw [outcome_bind, outcome_tryCatch, outcome_bind]
  rcases outcome (load file e) s with g | st
  · cases g with
    | config fault =>
      constructor
      · exact nofun
      · rintro ⟨h, hf⟩
        obtain rfl := Except.error.inj h
        exact absurd ⟨fault, rfl⟩ hf
    | _ =>
      constructor
      · intro h
        obtain rfl := Except.error.inj h
        exact ⟨rfl, fun ⟨_, hf⟩ => nomatch hf⟩
      · rintro ⟨h, _⟩
        obtain rfl := Except.error.inj h
        rfl
  · constructor
    · exact nofun
    · rintro ⟨h, _⟩
      cases h

theorem check_strays_iff (file : Option Path) (e : Environment) (s : Session) (f : Failure) :
    outcome (check file e) s = .error f ↔ Astray s file f := by
  rw [check_eq, outcome_bind, choose_looks]
  rcases hc : outcome (choose file) s with g | found
  · constructor
    · intro h
      obtain rfl := Except.error.inj h
      exact .search hc
    · intro h
      cases h <;> simp_all
  · have same := hc.trans (choose_again hc).symm
    dsimp only
    rw [checkChosen_fails_iff, load_strays_iff]
    exact ⟨.congr same.symm, .congr same⟩

open CommandLine

theorem ending_environment_bind {α : Type} (f : Environment → Act α) (s : Session) :
    ending (environment >>= f) s = ending (f s.environment) s := rfl

theorem loadSettings_strays_iff (scope : Scope) (s : Session) (f : Failure) :
    ending (loadSettings scope) s = .error f ↔ Astray s scope.config f := by
  rw [← load_strays_iff scope.config s.environment]
  unfold loadSettings
  rw [ending_environment_bind, ending_bind, ending_run, outcome_tryCatch, outcome_map]
  rcases outcome (load scope.config s.environment) s with g | st
  · cases g with
    | config fault =>
      constructor
      · exact nofun
      · rintro ⟨h, hf⟩
        obtain rfl := Except.error.inj h
        exact absurd ⟨fault, rfl⟩ hf
    | _ =>
      constructor
      · intro h
        obtain rfl := Except.error.inj h
        exact ⟨rfl, fun ⟨_, hf⟩ => nomatch hf⟩
      · rintro ⟨h, _⟩
        obtain rfl := Except.error.inj h
        rfl
  · constructor
    · exact nofun
    · rintro ⟨h, _⟩
      cases h

theorem sayValid_unfailing (file : Option Path) (st : Settings) :
    Unfailing (sayValid file st) := by
  have tail : Unfailing (do
      sayLine s!"   Staging: {st.stagingDir}"
      sayLine s!"   Docs: {st.docsDir}"
      let patterns := ", ".intercalate st.patterns
      sayLine ("   Patterns: " ++ if patterns.isEmpty then "(none)" else patterns)) :=
    .bind (sayLine_unfailing _) fun _ => .bind (sayLine_unfailing _) fun _ => sayLine_unfailing _
  unfold sayValid
  refine .bind (sayLine_unfailing _) fun _ => ?_
  cases file with
  | none => exact tail
  | some p => exact .bind (sayLine_unfailing _) fun _ => tail

theorem warnings_unfailing (r : CheckResult) : Unfailing (do
    unless r.warnings.isEmpty do
      sayLine ""
      sayLine "⚠️  Warnings:"
      sayItems r.warnings
    sayLine ""
    unless r.valid do exit 1) := by
  have verdict : Unfailing (do
      sayLine ""
      unless r.valid do exit 1) := by
    refine .bind (sayLine_unfailing _) fun _ => ?_
    split
    · exact .pure _
    · exact .exit _
  dsimp only
  split
  · exact verdict
  · refine .bind (sayLine_unfailing _) fun _ => .bind (sayLine_unfailing _) fun _ => ?_
    exact .bind (sayItems_unfailing _) fun _ => verdict

theorem check_command_strays_iff (scope : Scope) (json : Bool) (s : Session) (f : Failure) :
    ending (CommandLine.check scope json) s = .error f ↔ Astray s scope.config f := by
  rw [← check_strays_iff scope.config s.environment]
  unfold CommandLine.check
  rw [ending_environment_bind, ending_bind, ending_run]
  rcases outcome (check scope.config s.environment) s with g | r
  · exact ⟨fun h => congrArg _ (Except.error.inj h), fun h => congrArg _ (Except.error.inj h)⟩
  · refine iff_of_false ((?_ : Unfailing _) _ _) nofun
    dsimp only
    split
    · exact .bind (sayLine_unfailing _) fun _ => .exit _
    · split
      · exact .bind (sayValid_unfailing _ _) fun _ => warnings_unfailing r
      · refine .bind (sayLine_unfailing _) fun _ => ?_
        exact .bind (sayItems_unfailing _) fun _ => warnings_unfailing r

/-- Loading ends with settings or with a fault of the configuration unless it strays, and
what strays is what ends the check, the loading of settings by a command, and the command
that checks: nothing else does. -/
theorem loading_strays_iff (file : Option Path) (s : Session) (f : Failure) :
    (∀ e, outcome (load file e) s = .error f ∧ ¬ IsFault f ↔ Astray s file f) ∧
      (∀ e, outcome (check file e) s = .error f ↔ Astray s file f) ∧
      (∀ verbose quiet, ending (loadSettings ⟨verbose, quiet, file⟩) s = .error f ↔
        Astray s file f) ∧
      ∀ verbose quiet json, ending (CommandLine.check ⟨verbose, quiet, file⟩ json) s = .error f ↔
        Astray s file f :=
  ⟨fun e => load_strays_iff file e s f, fun e => check_strays_iff file e s f,
    fun _ _ => loadSettings_strays_iff _ s f, fun _ _ json => check_command_strays_iff _ json s f⟩

/-- A folder with nothing but a configuration file. -/
def configured (bytes : List UInt8) : Session where
  tree := ⟨[(["p"], .folder), (["p", "bracefence.yml"], .file bytes)]⟩
  here := ["p"]
  programs := fun v _ _ => (.missing, v.tree)
  clock := ⟨"", ""⟩

/-- One octet that starts no character ends loading, checking and the command that checks
with a failure of decoding. -/
theorem undecodable_configuration_escapes :
    outcome (load none []) (configured [0xFF]) = .error (.undecodable ⟨0, [0xFF], .start⟩) ∧
      outcome (check none []) (configured [0xFF]) = .error (.undecodable ⟨0, [0xFF], .start⟩) ∧
      outcome (runWords ["config", "check"]) (configured [0xFF]) =
        .error (.undecodable ⟨0, [0xFF], .start⟩) := by
  refine ⟨?_, ?_, ?_⟩
  · rfl
  · rfl
  · rfl

end DocBraces.Config
