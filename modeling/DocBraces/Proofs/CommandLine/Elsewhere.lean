import DocBraces.Proofs.CommandLine.Acting
import DocBraces.Proofs.Config.Nearest
import DocBraces.Proofs.Docs.Elsewhere

/-!
# Commands that are run elsewhere

From a folder below the root of a project the commands for its docs do what they do from
the root: the search ends at the same configuration, and all else is asked for from the top.
-/

set_option autoImplicit false

namespace DocBraces.CommandLine

open DocBraces.Files DocBraces.Session

variable {α β : Type} {place : Place} {s : Session}

def SameAct (place : Place) (act : Act α) (s : Session) : Prop := SameFrom place act.run s

theorem SameAct.bind {act : Act α} {f : α → Act β} (h : SameAct place act s)
    (hf : ∀ a, ending act s = .ok (.ok a) → SameAct place (f a) (left act s)) :
    SameAct place (act >>= f) s := by
  unfold SameAct
  rw [ExceptT.run_bind]
  refine SameFrom.bind h fun r hr => ?_
  cases r with
  | ok a => exact hf a hr
  | error n => exact Placeless.pure _ _ _

theorem ok_of_ending_run {r : Run α} {a : α} (h : ending (run r) s = .ok (.ok a)) :
    outcome r s = .ok a := by
  rw [ending_run] at h
  cases ho : outcome r s with
  | error f =>
    rw [ho] at h
    cases h
  | ok b =>
    rw [ho] at h
    cases h
    rfl

theorem SameAct.run {r : Run α} (h : SameFrom place r s) : SameAct place (run r) s := by
  unfold SameAct
  change SameFrom place (ExceptT.run (ExceptT.lift r)) s
  rw [ExceptT.run_lift]
  exact h.map _

def Steady (act : Act α) : Prop := ∀ place s, SameAct place act s

namespace Steady

theorem pure (a : α) : Steady (pure a) := fun _ _ => ⟨rfl, rfl⟩

theorem exit (n : Nat) : Steady (exit n : Act α) := fun _ _ => ⟨rfl, rfl⟩

theorem run {r : Run α} (h : Placeless r) : Steady (run r) := fun place s => .run (h place s)

theorem bind {act : Act α} {f : α → Act β} (h : Steady act) (hf : ∀ a, Steady (f a)) :
    Steady (act >>= f) := fun place s => (h place s).bind fun a _ => hf a place _

theorem say (text : String) : Steady (say text) := run (.print _)

theorem sayLine (text : String) : Steady (sayLine text) := say _

theorem sayJson (j : Report.Json) : Steady (sayJson j) := sayLine _

theorem complain (text : String) : Steady (complain text) := run (.complain _)

theorem refuse (spec : CommandSpec) (takesCommand : Bool) (f : Fault) :
    Steady (refuse spec takesCommand f : Act α) := bind (complain _) fun _ => exit 2

theorem forM {f : α → Act Unit} (hf : ∀ a, Steady (f a)) (xs : List α) : Steady (xs.forM f) := by
  induction xs with
  | nil => exact pure _
  | cons x xs ih => exact bind (hf x) fun _ => ih

theorem environment : Steady environment := fun _ _ => ⟨rfl, rfl⟩

end Steady

theorem value_of_bind {act : Act α} {f : α → Act β} {b : β}
    (h : ending (act >>= f) s = .ok (.ok b)) : ∃ a, ending act s = .ok (.ok a) ∧
      ending (f a) (left act s) = .ok (.ok b) ∧ left (act >>= f) s = left (f a) (left act s) := by
  rw [ending_bind] at h
  rw [left_bind]
  rcases ha : ending act s with e | (n | a)
  · rw [ha] at h
    cases h
  · rw [ha] at h
    cases h
  · rw [ha] at h
    exact ⟨a, rfl, h, rfl⟩

def Exits (act : Act α) : Prop := ∀ s a, ending act s ≠ .ok (.ok a)

theorem Exits.exit (n : Nat) : Exits (exit n : Act α) := fun _ _ => nofun

theorem Exits.first {act : Act α} (h : Exits act) (f : α → Act β) : Exits (act >>= f) := by
  intro s b hb
  obtain ⟨a, ha, _⟩ := value_of_bind hb
  exact h s a ha

theorem Exits.bind (act : Act α) {f : α → Act β} (hf : ∀ a, Exits (f a)) :
    Exits (act >>= f) := by
  intro s b hb
  obtain ⟨a, _, hb, _⟩ := value_of_bind hb
  exact hf a _ b hb

theorem Exits.refuse (spec : CommandSpec) (takesCommand : Bool) (f : Fault) :
    Exits (refuse spec takesCommand f : Act α) := .bind _ fun _ => .exit 2

/-- An act that reads words. From another folder it reads the same, and it leaves the
session as it is if it ends with a value. -/
structure Reads (act : Act α) : Prop where
  steady : Steady act
  quiet : ∀ s a, ending act s = .ok (.ok a) → left act s = s

namespace Reads

theorem pure (a : α) : Reads (pure a) := ⟨.pure a, fun _ _ _ => rfl⟩

theorem of_exits {act : Act α} (steady : Steady act) (h : Exits act) : Reads act :=
  ⟨steady, fun s a ha => absurd ha (h s a)⟩

theorem refuse (spec : CommandSpec) (takesCommand : Bool) (f : Fault) :
    Reads (refuse spec takesCommand f : Act α) := of_exits (.refuse _ _ _) (.refuse _ _ _)

theorem bind {act : Act α} {f : α → Act β} (h : Reads act) (hf : ∀ a, Reads (f a)) :
    Reads (act >>= f) where
  steady := h.steady.bind fun a => (hf a).steady
  quiet := by
    intro s b hb
    obtain ⟨a, ha, hb, left_⟩ := value_of_bind hb
    rw [h.quiet s a ha] at hb left_
    exact left_.trans ((hf a).quiet s b hb)

theorem forIn {f : α → β → Act (ForInStep β)} {xs : List α} (hf : ∀ a ∈ xs, ∀ b, Reads (f a b))
    (b : β) : Reads (forIn xs b f) := by
  induction xs generalizing b with
  | nil => exact pure b
  | cons x xs ih =>
    obtain ⟨first, others⟩ := List.forall_mem_cons.mp hf
    rw [List.forIn_cons]
    refine bind (first b) fun step => ?_
    cases step with
    | done b => exact pure b
    | yield b => exact ih others b

theorem ending_bind {act : Act α} {f : α → Act β} {a : α} (h : Reads act)
    (ha : ending act s = .ok (.ok a)) : ending (act >>= f) s = ending (f a) s := by
  rw [CommandLine.ending_bind, ha, h.quiet s a ha]

end Reads

theorem answerFirst_reads (page : List String) (gs : Givens) : Reads (answerFirst page gs) := by
  fun_induction answerFirst page gs with
  | case1 => exact .pure _
  | case2 => exact .of_exits (.bind (.say _) fun _ => .exit 0) (.bind _ fun _ => .exit 0)
  | case3 => exact .of_exits (.bind (.sayLine _) fun _ => .exit 0) (.bind _ fun _ => .exit 0)
  | case4 _ _ _ _ ih => exact ih

/-- No path is given but the empty one, which leads nowhere from every folder. -/
def Unplaced (spec : CommandSpec) (gs : Givens) : Prop :=
  ∀ o ∈ spec.options.filter (·.takesValue), ∀ v, Givens.value? gs o.switch = some v → v = ""

theorem checkPath_reads (spec : CommandSpec) (takesCommand : Bool) (o : OptionSpec) :
    Reads (checkPath spec takesCommand o "") := ⟨fun _ _ => ⟨rfl, rfl⟩, fun _ _ _ => rfl⟩

theorem checkPathValues_reads {spec : CommandSpec} (takesCommand : Bool) {gs : Givens}
    (unplaced : Unplaced spec gs) : Reads (checkPathValues spec takesCommand gs) := by
  unfold checkPathValues
  refine .bind (.forIn (fun o ho _ => ?_) _) fun _ => .pure _
  split
  · next v hv =>
    obtain rfl := unplaced o ho v hv
    exact .bind (checkPath_reads _ _ _) fun _ => .pure _
  · exact .pure _

theorem readGivens_reads {spec : CommandSpec} {takesCommand : Bool} {words : List String}
    (unplaced : ∀ gs rest, readWords spec.options (!takesCommand) none words = .ok (gs, rest) →
      Unplaced spec gs) (page : List String) :
    Reads (readGivens spec takesCommand page words) := by
  unfold readGivens
  split
  · exact .refuse _ _ _
  · next gs rest hr =>
    exact .bind (answerFirst_reads _ _) fun _ =>
      .bind (checkPathValues_reads _ (unplaced gs rest hr)) fun _ => .pure _

theorem readGroup_reads {g : Group} {words : List String}
    (unplaced : ∀ gs rest, readWords g.options false none words = .ok (gs, rest) →
      Unplaced g.spec gs) : Reads (readGroup g words) := by
  have rest : Reads (readGivens g.spec true g.page words) := readGivens_reads unplaced _
  unfold readGroup
  split
  · refine .of_exits (.bind (.complain _) fun _ => .bind (.exit 2) fun _ => rest.steady) ?_
    exact .bind _ fun _ => (Exits.exit 2).first _
  · exact rest

def Valueless (options : List OptionSpec) : Prop := options.filter (·.takesValue) = []

theorem Valueless.unplaced {spec : CommandSpec} (h : Valueless spec.options) (gs : Givens) :
    Unplaced spec gs := by
  intro o ho
  rw [h] at ho
  cases ho

theorem findCommand_reads {g : Group} (valueless : Valueless g.options) (words : List String) :
    Reads (findCommand g words) := by
  unfold findCommand
  split
  · exact .refuse _ _ _
  · split
    · exact .pure _
    · split
      · exact .bind (readGroup_reads fun gs _ _ => valueless.unplaced gs) fun _ => .refuse _ _ _
      · exact .refuse _ _ _

theorem readAction_reads {a : Action} (h : a.argument = none) (valueless : Valueless a.options)
    (words : List String) : Reads (readAction a words) := by
  have none_ : a.spec.argument = none := h
  unfold readAction
  dsimp only
  rw [none_]
  refine .bind (readGivens_reads (fun gs _ _ => Valueless.unplaced valueless gs) _)
    fun ⟨gs, rest⟩ => .bind (.pure _) fun _ => ?_
  split
  · exact .pure _
  · exact .bind (.refuse _ _ _) fun _ => .pure _

/-- Only a command of the group is found, and it is named by the first word. -/
theorem findCommand_ok {g : Group} (valueless : Valueless g.options) {words rest : List String}
    {command : Command} (h : ending (findCommand g words) s = .ok (.ok (command, rest))) :
    left (findCommand g words) s = s ∧
      ∃ w, words = w :: rest ∧ g.commands.lookup w = some command := by
  refine ⟨(findCommand_reads valueless words).quiet s _ h, ?_⟩
  unfold findCommand at h
  cases words with
  | nil => exact absurd h (Exits.refuse _ _ _ s _)
  | cons w ws =>
    dsimp only at h
    split at h
    · next c hc =>
      obtain ⟨rfl, rfl⟩ := Prod.mk.inj (Except.ok.inj (Except.ok.inj h))
      exact ⟨w, rfl, hc⟩
    · split at h
      · exact absurd h (Exits.bind _ (fun _ => Exits.refuse _ _ _) s _)
      · exact absurd h (Exits.refuse _ _ _ s _)

theorem readGroup_ok {g : Group} {words rest : List String} {gs : Givens}
    (h : ending (readGroup g words) s = .ok (.ok (gs, rest))) :
    readWords g.options false none words = .ok (gs, rest) := by
  unfold readGroup at h
  split at h
  · exact absurd h (Exits.bind _ (fun _ => (Exits.exit 2).first _) s _)
  · unfold readGivens at h
    split at h
    · exact absurd h (Exits.refuse _ _ _ s _)
    · next read =>
      obtain ⟨_, _, h, _⟩ := value_of_bind h
      obtain ⟨_, _, h, _⟩ := value_of_bind h
      obtain ⟨rfl, rfl⟩ := Prod.mk.inj (Except.ok.inj (Except.ok.inj h))
      exact read

section
variable {root : Place} {names : List String} {scope : Scope}

theorem loadSettings_same (below : Config.Below root names s)
    (near : names.length < Config.searchLimit) (here : s.here = root)
    (found : scope.config = none) : SameAct (root ++ names) (loadSettings scope) s := by
  unfold loadSettings
  refine .bind (Steady.environment _ _) fun e _ => ?_
  rw [found]
  refine .bind (.run (.tryCatch ((below.load_same near here e).map _) fun f => ?_))
    fun loaded _ => ?_
  · split
    · exact Placeless.pure _ _ _
    · exact Placeless.throw _ _ _
  · split
    · exact Steady.pure _ _ _
    · exact Steady.bind (.sayLine _) (fun _ => .exit 1) _ _

theorem loadSettings_keeps {P : Session → Prop} (closed : ∀ s r, P s → P (s.record r))
    {st : Settings} (h : ending (loadSettings scope) s = .ok (.ok st)) (hs : P s) :
    P (left (loadSettings scope) s) := by
  have loading : Keeps P (Config.load scope.config s.environment) :=
    Config.load_keeps closed _ _
  unfold loadSettings at h ⊢
  obtain ⟨e, he, h, left_⟩ := value_of_bind h
  obtain rfl : s.environment = e := Except.ok.inj (Except.ok.inj he)
  rw [left_]
  obtain ⟨loaded, _, h, left_⟩ := value_of_bind h
  rw [left_]
  rw [left_run] at h ⊢
  cases loaded with
  | inl st' =>
    dsimp only
    rw [left_pure]
    refine Keeps.tryCatch ?_ (fun f => ?_) s hs
    · rw [← bind_pure_comp]
      exact .bind loading fun _ => .pure _
    · split
      · exact .pure _
      · exact .throw _
  | inr f => exact absurd h (Exits.bind _ (fun _ => .exit 1) _ _)

theorem record_keeps_below (place : Place) : ∀ s r,
    Config.Below root names s ∧ s.here = place →
      Config.Below root names (s.record r) ∧ (s.record r).here = place :=
  fun s r h => ⟨h.1.alike (record_alike s r), (record_here s r).trans h.2⟩

theorem findRoot_ends (below : Config.Below root names s) {pre : Place} (hp : pre <+: names)
    (near : names.length < Config.searchLimit) (here : s.here = root ++ pre)
    (found : scope.config = none) :
    ending (findRoot scope) s = .ok (.ok (pathOfPlace root)) := by
  unfold findRoot
  rw [found, ending_run]
  change (outcome (Config.find none >>= Config.projectRoot) s).map _ = _
  rw [(bind_of_ok (below.find hp near here) _).1, Config.find_looks, below.projectRoot]
  rfl

theorem findRoot_same (below : Config.Below root names s)
    (near : names.length < Config.searchLimit) (here : s.here = root)
    (found : scope.config = none) : SameAct (root ++ names) (findRoot scope) s := by
  have file := below.find List.nil_prefix near (here.trans (List.append_nil _).symm)
  unfold findRoot
  rw [found]
  refine .run (SameFrom.bind (below.find_same near here) fun other ho => ?_)
  obtain rfl : some (Config.fileIn root) = other := Except.ok.inj (file.symm.trans ho)
  rw [Config.find_looks]
  refine .of_looks (realPath_looks _) ?_
  exact (below.moved _).projectRoot.trans below.projectRoot.symm

/-- Whatever is done with the settings and the root of a project is done in the same way
from a folder below the root. -/
theorem project_same {f : Settings → Path → Act β}
    (hf : ∀ st p, p.root ≠ .relative → Steady (f st p)) (below : Config.Below root names s)
    (near : names.length < Config.searchLimit) (here : s.here = root)
    (found : scope.config = none) : SameAct (root ++ names) (do
      let st ← loadSettings scope
      let p ← findRoot scope
      f st p) s := by
  refine (loadSettings_same below near here found).bind fun st hst => ?_
  obtain ⟨below', here'⟩ := loadSettings_keeps (record_keeps_below root) hst ⟨below, here⟩
  refine (findRoot_same below' near here' found).bind fun p hp => ?_
  rw [findRoot_ends below' List.nil_prefix near (here'.trans (List.append_nil _).symm) found] at hp
  obtain rfl : pathOfPlace root = p := Except.ok.inj (Except.ok.inj hp)
  have rooted : (pathOfPlace root).root ≠ .relative := nofun
  exact hf st _ rooted _ _

theorem sayItems_steady (items : List String) : Steady (sayItems items) :=
  .forM (fun _ => .sayLine _) items

theorem prepare_same (cleaning : Option Bool) (json : Bool)
    (below : Config.Below root names s) (near : names.length < Config.searchLimit)
    (here : s.here = root) (found : scope.config = none) :
    SameAct (root ++ names) (prepare scope cleaning json) s := by
  refine project_same (fun st p h => ?_) below near here found
  refine .bind (.run (Docs.prepare_placeless h st cleaning)) fun r => ?_
  have skipped := Steady.forM (fun n => .sayLine s!"   ⊘ {n} (skipped)") r.skipped
  have listed : Steady (do
      if scope.verbose then sayItems (r.written.map Path.baseName)
      r.skipped.forM fun n => sayLine s!"   ⊘ {n} (skipped)") := by
    dsimp only
    split
    · exact .bind (sayItems_steady _) fun _ => skipped
    · exact skipped
  split
  · exact .sayJson _
  · split
    · exact .sayLine _
    · dsimp only
      split
      · exact .bind (.sayLine _) fun _ => .bind (.sayLine _) fun _ => listed
      · exact .bind (.sayLine _) fun _ => listed

theorem clean_same (below : Config.Below root names s)
    (near : names.length < Config.searchLimit) (here : s.here = root)
    (found : scope.config = none) : SameAct (root ++ names) (clean scope) s := by
  refine project_same (fun st p h => ?_) below near here found
  refine .bind (.run (Docs.clean_placeless h st)) fun gone => ?_
  split
  · exact .sayLine _
  · exact .sayLine _

theorem postprocess_same (json : Bool) (below : Config.Below root names s)
    (near : names.length < Config.searchLimit) (here : s.here = root)
    (found : scope.config = none) :
    SameAct (root ++ names) (postprocess scope json) s := by
  refine project_same (fun st p h => ?_) below near here found
  refine .bind (.run (Docs.postprocess_placeless h st)) fun r => ?_
  split
  · exact .sayJson _
  · split
    · exact .sayLine _
    · split
      · exact .sayLine _
      · dsimp only
        split
        · exact .bind (.sayLine _) fun _ => .sayLine _
        · exact .sayLine _

theorem perform_same {a : Action} (docs : a.group = .docs) (words : List String)
    (below : Config.Below root names s) (near : names.length < Config.searchLimit)
    (here : s.here = root) (found : scope.config = none) :
    SameAct (root ++ names) (perform scope a words) s := by
  have noArgument : a.argument = none := by
    cases a <;> first | rfl | cases docs
  have valueless : Valueless a.options := by
    cases a <;> first | rfl | cases docs
  have reading := readAction_reads noArgument valueless words
  unfold perform
  refine .bind (reading.steady _ _) fun read hr => ?_
  rw [reading.quiet s read hr]
  obtain ⟨gs, source⟩ := read
  cases a with
  | prepare => exact prepare_same _ _ below near here found
  | clean => exact clean_same below near here found
  | postprocess => exact postprocess_same _ below near here found
  | _ => cases docs

/-- Words that call a command for the docs and name no configuration. -/
def ForDocs (words : List String) : Prop := ∀ gs rest,
  readWords mainOptions false none words = .ok (gs, rest) →
    (Scope.ofGivens gs).config = none ∧ ∃ more, rest = "docs" :: more

theorem ForDocs.unplaced {words : List String} (h : ForDocs words) (gs : Givens)
    (rest : List String) (read : readWords Group.main.options false none words = .ok (gs, rest)) :
    Unplaced Group.main.spec gs := by
  have nowhere := (h gs rest read).1
  intro o ho v hv
  have config : o.switch = .config := by
    have each : ∀ o ∈ Group.main.spec.options.filter (·.takesValue), o.switch = .config := by
      decide
    exact each o ho
  change nonemptyPath (Givens.value? gs .config) = none at nowhere
  rw [config] at hv
  rw [hv, nonemptyPath, Option.map_eq_none_iff, Option.filter_eq_none_iff] at nowhere
  simpa using nowhere v

/-- The file for the log, if there is one, is named from the top, and is none that could be
taken for a configuration of a folder below the root. -/
structure LogApart (root : Place) (names : List String) (s : Session) : Prop where
  rooted : ∀ path ∈ Log.nonempty? (s.environment.get? logFileVariable),
    Tree.isRooted path = true
  apart : ∀ path ∈ Log.nonempty? (s.environment.get? logFileVariable), ∀ place,
    outcome (openLog path) s = .ok place →
      ∀ pre, pre <+: names → pre ≠ [] → place ≠ root ++ pre ++ [Config.fileName]

theorem LogApart.moved (log : LogApart root names s) (place : Place) :
    LogApart root names (s.moved place) where
  rooted := log.rooted
  apart := by
    intro path hpath q hq
    rw [(openLog_placeless (log.rooted path hpath) place s).outcome] at hq
    exact log.apart path hpath q hq

theorem startLogging_same (log : LogApart root names s) (gs : Givens) :
    SameAct place (startLogging gs) s := by
  unfold startLogging
  refine .bind (Steady.environment _ _) fun e he => ?_
  obtain rfl : s.environment = e := Except.ok.inj (Except.ok.inj he)
  refine .run (setupLogging_placeless ?_ _ _)
  exact log.rooted

theorem startLogging_leaves (log : LogApart root names s) (below : Config.Below root names s)
    {gs : Givens} (h : ending (startLogging gs) s = .ok (.ok ())) :
    Config.Below root names (left (startLogging gs) s) ∧
      (left (startLogging gs) s).here = s.here := by
  unfold startLogging at h ⊢
  obtain ⟨e, he, h, left_⟩ := value_of_bind h
  obtain rfl : s.environment = e := Except.ok.inj (Except.ok.inj he)
  rw [left_]
  dsimp only at h ⊢
  rw [left_run]
  refine below.setupLogging ?_ (ok_of_ending_run h)
  exact log.apart

theorem docs_commands {w : String} {command : Command}
    (h : Group.docs.commands.lookup w = some command) :
    ∃ a, command = .action a ∧ a.group = .docs := by
  have each : ∀ named ∈ Group.docs.commands, ∃ a, named.2 = .action a ∧ a.group = .docs := by
    intro named hn
    simp only [Group.commands, List.mem_cons, List.not_mem_nil, or_false] at hn
    obtain rfl | rfl | rfl := hn <;> exact ⟨_, rfl, rfl⟩
  exact each _ (mem_of_lookup h)

theorem dispatch_same {words : List String} (forDocs : ForDocs words)
    (log : LogApart root names s) (below : Config.Below root names s)
    (near : names.length < Config.searchLimit) (here : s.here = root) :
    SameAct (root ++ names) (dispatch words) s := by
  have reading := readGroup_reads (g := .main) forDocs.unplaced
  unfold dispatch
  refine .bind (reading.steady _ _) fun ⟨gs, rest⟩ hg => ?_
  obtain ⟨found, more, rfl⟩ := forDocs gs rest (readGroup_ok hg)
  rw [reading.quiet s _ hg]
  have named : findCommand .main ("docs" :: more) = pure (.group .docs, more) := rfl
  dsimp only
  rw [named, pure_bind]
  refine .bind (startLogging_same log gs) fun _ hs => ?_
  obtain ⟨below', here'⟩ := startLogging_leaves log below hs
  generalize left (startLogging gs) s = s₁ at below' here'
  have valueless : Valueless Group.docs.options := rfl
  have reading' {ws : List String} : Reads (readGroup .docs ws) :=
    readGroup_reads fun gs _ _ => valueless.unplaced gs
  refine .bind (reading'.steady _ _) fun ⟨gs', rest⟩ hg => ?_
  rw [reading'.quiet s₁ _ hg]
  refine .bind ((findCommand_reads valueless _).steady _ _) fun ⟨command, rest⟩ hc => ?_
  obtain ⟨same, w, _, named⟩ := findCommand_ok valueless hc
  obtain ⟨a, rfl, docs⟩ := docs_commands named
  rw [same]
  exact perform_same docs rest below' near (here'.trans here) found

/-- From a folder below the root of a project, as far down as the search reaches up, the
commands for the docs end as they do from the root, and print and leave the same. The
settings come from the configuration in the root, and the root is where that is. -/
theorem docs_from_below {words : List String} (forDocs : ForDocs words)
    (log : LogApart root names s) (below : Config.Below root names s)
    (near : names.length < Config.searchLimit) (here : s.here = root) :
    let there := s.moved (root ++ names)
    outcome (runWords words) there = outcome (runWords words) s ∧
      after (runWords words) there = (after (runWords words) s).moved (root ++ names) ∧
      ∀ gs, (Scope.ofGivens gs).config = none → ending (startLogging gs) there = .ok (.ok ()) →
        let s₁ := left (startLogging gs) there
        outcome (Config.load none s₁.environment) s₁ =
            outcome (Config.load (some (Config.fileIn root)) s₁.environment) s₁ ∧
          ∀ st, ending (loadSettings (Scope.ofGivens gs)) s₁ = .ok (.ok st) →
            ending (findRoot (Scope.ofGivens gs))
              (left (loadSettings (Scope.ofGivens gs)) s₁) = .ok (.ok (pathOfPlace root)) := by
  have whole := dispatch_same forDocs log below near here
  have same : SameFrom (root ++ names) (runWords words) s := by
    refine SameFrom.bind whole fun r _ => ?_
    cases r <;> exact Placeless.pure _ _ _
  refine ⟨same.outcome, same.after, fun gs found started => ?_⟩
  obtain ⟨below₁, here₁⟩ := startLogging_leaves (log.moved _) (below.moved _) started
  generalize left (startLogging gs) (s.moved (root ++ names)) = s₁ at below₁ here₁
  constructor
  · have file := below₁.find (List.prefix_refl names) near here₁
    change outcome (Config.find none >>= _) s₁ = _
    rw [(bind_of_ok file _).1, Config.find_looks]
    rfl
  · intro st loaded
    obtain ⟨below₂, here₂⟩ := loadSettings_keeps (record_keeps_below _) loaded ⟨below₁, here₁⟩
    exact findRoot_ends below₂ (List.prefix_refl names) near here₂ found

end

/-- A project with a folder and a docs directory. -/
def loggedTree : Tree := ⟨[(["p"], .folder), (["p", "bracefence.yml"], .file []),
  (["p", "d"], .folder), (["p", "docs"], .folder)]⟩

def loggedProject (logFile : String) : Session where
  tree := loggedTree
  here := ["p"]
  environment := [(logFileVariable, logFile)]
  programs := fun v _ _ => (.missing, v.tree)
  clock := ⟨"", ""⟩

theorem docsClean_forDocs : ForDocs ["docs", "clean"] := by
  have read : readWords mainOptions false none ["docs", "clean"] =
      .ok ([], ["docs", "clean"]) := rfl
  intro gs rest h
  obtain ⟨rfl, rfl⟩ : [] = gs ∧ ["docs", "clean"] = rest := by simpa [read] using h
  exact ⟨rfl, _, rfl⟩

theorem prefix_of_one {α : Type} {pre : List α} {a : α} (h : pre <+: [a]) (hne : pre ≠ []) :
    pre = [a] := by
  cases pre with
  | nil => exact absurd rfl hne
  | cons b rest =>
    obtain ⟨rfl, hr⟩ := List.cons_prefix_cons.mp h
    rw [List.prefix_nil.mp hr]

theorem loggedProject_below (logFile : String) :
    Config.Below ["p"] ["d"] (loggedProject logFile) where
  file := ⟨[], show loggedTree.node? ["p", "bracefence.yml"] = _ by decide +kernel⟩
  stands := show loggedTree.Stands ["p", "d"] by decide +kernel
  bare := by
    intro pre hp hne
    obtain rfl := prefix_of_one hp hne
    exact show loggedTree.node? ["p", "d", "bracefence.yml"] = none by decide +kernel
  short := by decide +kernel

theorem loggedProject_apart : LogApart ["p"] ["d"] (loggedProject "/p/run.log") := by
  have named : Log.nonempty? ((loggedProject "/p/run.log").environment.get? logFileVariable) =
      some "/p/run.log" := by decide +kernel
  have opened : outcome (openLog "/p/run.log") (loggedProject "/p/run.log") =
      .ok ["p", "run.log"] := ok_of_toOption (by decide +kernel)
  refine ⟨fun path hpath => ?_, fun path hpath place ho pre hp hne => ?_⟩
  · obtain rfl := Option.some.inj (named.symm.trans hpath)
    decide +kernel
  · obtain rfl := Option.some.inj (named.symm.trans hpath)
    obtain rfl := Except.ok.inj (opened.symm.trans ho)
    obtain rfl := prefix_of_one hp hne
    decide +kernel

theorem docs_from_below_logged :
    ForDocs ["docs", "clean"] ∧ LogApart ["p"] ["d"] (loggedProject "/p/run.log") ∧
      Config.Below ["p"] ["d"] (loggedProject "/p/run.log") ∧
      ["d"].length < Config.searchLimit ∧ (loggedProject "/p/run.log").here = ["p"] ∧
      outcome (runWords ["docs", "clean"]) ((loggedProject "/p/run.log").moved ["p", "d"]) =
        outcome (runWords ["docs", "clean"]) (loggedProject "/p/run.log") ∧
      after (runWords ["docs", "clean"]) ((loggedProject "/p/run.log").moved ["p", "d"]) =
        (after (runWords ["docs", "clean"]) (loggedProject "/p/run.log")).moved ["p", "d"] := by
  have near : ["d"].length < Config.searchLimit := by decide
  obtain ⟨ends, leaves, _⟩ := docs_from_below docsClean_forDocs loggedProject_apart
    (loggedProject_below _) near rfl
  exact ⟨docsClean_forDocs, loggedProject_apart, loggedProject_below _, near, rfl, ends, leaves⟩

/-- The log of this project is what its folder would hold its configuration in. -/
def misloggedProject : Session := loggedProject "/p/d/bracefence.yml"

theorem misloggedProject_rooted : ∀ path ∈
    Log.nonempty? (misloggedProject.environment.get? logFileVariable),
      Tree.isRooted path = true := by
  have named : Log.nonempty? (misloggedProject.environment.get? logFileVariable) =
      some "/p/d/bracefence.yml" := by decide +kernel
  intro path hpath
  obtain rfl := Option.some.inj (named.symm.trans hpath)
  decide +kernel

theorem dispatch_docsClean {s s₁ : Session} (started : ending (startLogging []) s = .ok (.ok ()))
    (left_ : left (startLogging []) s = s₁) :
    ending (dispatch ["docs", "clean"]) s = ending (clean (Scope.ofGivens [])) s₁ := by
  have first : ending (readGroup .main ["docs", "clean"]) s =
      .ok (.ok ([], ["docs", "clean"])) := rfl
  have second : ending (readGroup .docs ["clean"]) s₁ = .ok (.ok ([], ["clean"])) := rfl
  have clean_ : ending (findCommand .docs ["clean"]) s₁ = .ok (.ok (.action .clean, [])) := rfl
  have last : ending (readAction .clean []) s₁ = .ok (.ok ([], "")) := rfl
  have reading := readGroup_reads (g := .main) docsClean_forDocs.unplaced
  have valueless : Valueless Group.docs.options := rfl
  unfold dispatch
  rw [reading.ending_bind first]
  dsimp only
  have named : findCommand .main ["docs", "clean"] = pure (.group .docs, ["clean"]) := rfl
  rw [named, pure_bind, ending_bind, started, left_]
  dsimp only
  rw [(readGroup_reads fun gs _ _ => valueless.unplaced gs).ending_bind second,
    (findCommand_reads valueless _).ending_bind clean_]
  dsimp only
  unfold perform
  have noValue : Valueless Action.clean.options := rfl
  exact (readAction_reads rfl noValue _).ending_bind last

/-- Where the path of the configuration would be too long, no settings are found. -/
theorem docsClean_overlong {s : Session} {place : Place} (stands : s.tree.Stands place)
    (here : s.here = place) (plain : s.environment = [])
    (long : pathLimit ≤ (Text.Utf8.encode (Config.fileIn place).toString.toList).length) :
    outcome (runWords ["docs", "clean"]) s =
      .error (.file ⟨.nameTooLong, (Config.fileIn place).toString⟩) := by
  obtain ⟨s₁, started, left_, stands₁, here₁⟩ : ∃ s₁,
      ending (startLogging []) s = .ok (.ok ()) ∧ left (startLogging []) s = s₁ ∧
        s₁.tree.Stands place ∧ s₁.here = place := by
    cases s with
    | mk tree here locked unreadable levels environment programs clock logging logFile input output
        errors =>
      obtain rfl : environment = [] := plain
      exact ⟨_, rfl, rfl, stands, here⟩
  have sought : ending (loadSettings (Scope.ofGivens [])) s₁ =
      .error (.file ⟨.nameTooLong, (Config.fileIn place).toString⟩) :=
    (Config.loadSettings_strays_iff _ _ _).mpr (.search (Config.find_overlong stands₁ here₁ long))
  have whole : outcome (dispatch ["docs", "clean"]).run s =
      .error (.file ⟨.nameTooLong, (Config.fileIn place).toString⟩) := by
    rw [← ending, dispatch_docsClean started left_, clean, ending_bind, sought]
  rw [runWords, outcome_bind, whole]

def deepName : String := String.ofList (List.replicate 254 'a')

def deepNames : Place := List.replicate 16 deepName

def deepTree : Tree := ⟨[(["p", "bracefence.yml"], .file []), (["p", "docs"], .folder)] ++
  deepNames.inits.map fun names => ("p" :: names, .folder)⟩

def deepProject : Session where
  tree := deepTree
  here := ["p"]
  programs := fun v _ _ => (.missing, v.tree)
  clock := ⟨"", ""⟩

theorem deepName_toList : deepName.toList = List.replicate 254 'a' := String.toList_ofList

theorem deepName_length : (Text.Utf8.encode deepName.toList).length = 254 := by
  rw [deepName_toList]
  decide +kernel

theorem deepName_ne {n : String} (h : n.toList.length ≠ 254) : deepName ≠ n := by
  rintro rfl
  rw [deepName_toList] at h
  exact h List.length_replicate

theorem deepName_entry : IsEntry deepName where
  name := ⟨deepName_ne (by decide), deepName_ne (by decide), by
    rw [deepName_toList]
    decide +kernel⟩
  notUp := deepName_ne (by decide)
  noNul := by
    rw [hasNul, deepName_toList]
    decide +kernel

theorem deepName_notFileName : Config.fileName ∉ deepNames := fun h =>
  deepName_ne (by decide) (List.eq_of_mem_replicate h).symm

theorem deepTree_stands : deepTree.Stands ("p" :: deepNames) where
  folders := by
    intro q hq
    cases q with
    | nil => rfl
    | cons n rest =>
      obtain ⟨rfl, hrest⟩ := List.cons_prefix_cons.mp hq
      have listed : ("p" :: rest, Node.folder) ∈ deepTree.entries :=
        List.mem_append_right _ (List.mem_map.mpr ⟨rest, (List.mem_inits _ _).mpr hrest, rfl⟩)
      refine Tree.node?_of_mem (List.cons_ne_nil _ _) listed fun node member => ?_
      simp only [deepTree, List.cons_append, List.nil_append, List.mem_cons, List.mem_map,
        Prod.mk.injEq, List.cons.injEq, true_and] at member
      obtain ⟨rfl, -⟩ | ⟨-, rfl⟩ | ⟨_, -, -, rfl⟩ := member
      · exact absurd (hrest.subset (List.mem_singleton_self _)) deepName_notFileName
      all_goals rfl
  names := by
    intro n hn
    obtain rfl | hn := List.mem_cons.mp hn
    · exact ⟨by decide +kernel, by decide +kernel⟩
    · obtain rfl := List.eq_of_mem_replicate hn
      exact ⟨deepName_entry, by rw [deepName_length]; decide⟩

theorem deepTree_bare {pre : Place} (hne : pre ≠ []) :
    deepTree.node? (["p"] ++ pre ++ [Config.fileName]) = none := by
  rw [Tree.node?, if_neg (by simp), List.lookup_eq_none_iff]
  rintro ⟨place, node⟩ listed
  rw [bne_iff_ne]
  intro same
  obtain rfl : ["p"] ++ pre ++ [Config.fileName] = place := same
  have last : Config.fileName ∈ pre ++ [Config.fileName] := List.mem_concat_self
  simp only [deepTree, List.cons_append, List.nil_append, List.mem_cons, List.mem_map,
    List.mem_inits, Prod.mk.injEq, List.cons.injEq, true_and] at listed
  obtain ⟨short, -⟩ | ⟨other, -⟩ | ⟨names, hnames, rfl, -⟩ := listed
  · exact hne (by simpa using congrArg List.length short)
  · have wrong := congrArg List.getLast? other
    rw [List.getLast?_concat] at wrong
    exact absurd wrong (by decide)
  · exact deepName_notFileName (hnames.subset last)

theorem deepNames_long :
    pathLimit ≤ (Text.Utf8.encode (Config.fileIn ("p" :: deepNames)).toString.toList).length := by
  have names : Config.fileIn ("p" :: deepNames) =
      ⟨.absolute, "p" :: deepNames ++ [Config.fileName]⟩ := rfl
  rw [names, length_toString (by simp)]
  simp only [List.cons_append, List.map_cons, List.map_append, deepNames, List.map_replicate,
    deepName_length, List.sum_cons, List.sum_append]
  decide +kernel

/-- From below, a log that is opened in the folder is found as its configuration. And a path
that is too long for a configuration cannot be looked at. -/
theorem docs_clean_differs_below :
    (Config.Below ["p"] ["d"] misloggedProject ∧ misloggedProject.here = ["p"] ∧
      (∀ path ∈ Log.nonempty? (misloggedProject.environment.get? logFileVariable),
        Tree.isRooted path = true) ∧
      outcome (runWords ["docs", "clean"]) misloggedProject = .ok 0 ∧
      (after (runWords ["docs", "clean"]) misloggedProject).tree.node? ["p", "docs"] = none ∧
      (after (runWords ["docs", "clean"]) (misloggedProject.moved ["p", "d"])).tree.node?
        ["p", "docs"] = some .folder) ∧
    ((∃ bytes, deepProject.tree.node? ["p", "bracefence.yml"] = some (.file bytes)) ∧
      deepProject.tree.Stands ("p" :: deepNames) ∧ deepNames.length ≤ 19 ∧
      (∀ pre, pre <+: deepNames → pre ≠ [] →
        deepProject.tree.node? (["p"] ++ pre ++ ["bracefence.yml"]) = none) ∧
      deepProject.here = ["p"] ∧ deepProject.environment = [] ∧
      outcome (runWords ["docs", "clean"]) deepProject = .ok 0 ∧
      outcome (runWords ["docs", "clean"]) (deepProject.moved ("p" :: deepNames)) =
        .error (.file ⟨.nameTooLong, (Config.fileIn ("p" :: deepNames)).toString⟩)) := by
  refine ⟨⟨loggedProject_below _, rfl, misloggedProject_rooted,
      ok_of_toOption (by decide +kernel), by decide +kernel, by decide +kernel⟩,
    ⟨[], by decide +kernel⟩, deepTree_stands, by decide, ?_, rfl, rfl,
      ok_of_toOption (by decide +kernel),
      docsClean_overlong deepTree_stands rfl rfl deepNames_long⟩
  exact fun pre _ hne => deepTree_bare hne

end DocBraces.CommandLine
