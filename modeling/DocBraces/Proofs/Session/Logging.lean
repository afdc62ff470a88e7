import DocBraces.Proofs.Session.Failing

/-!
# Logging over whole runs

Setups and records follow each other in any order. What a setup asks for replaces all
that earlier ones asked for, but for libraries, which stay held once they are. A record
goes where the levels let it, and the log file grows by the records that reach it, in
their order.
-/

set_option autoImplicit false

namespace DocBraces.Log

namespace Request

variable (r : Request)

/-- The level from which on the console takes records. -/
def consoleFrom : ℕ := levelOf (nonempty? r.level)

/-- The level from which on the file takes records: that of the console if none is named. -/
def fileFrom : ℕ :=
  ((nonempty? r.fileLevel).map fun name => levelOf (some name)).getD r.consoleFrom

def Holds : Prop := r.holdLibraries = true ∧ debugLevel < r.consoleFrom

end Request

def OfLibrary (logger : String) : Prop :=
  ∃ name ∈ Logging.libraryLoggers, logger = name ∨ ∃ rest, logger = name ++ "." ++ rest

namespace Logging

structure Fulfils (l : Logging) (r : Request) : Prop where
  console : l.console = ⟨r.consoleFrom, consoleLayout r.consoleFrom⟩
  file : l.file = r.filePath?.map fun _ => ⟨r.fileFrom, .dated⟩
  rootLevel : l.rootLevel =
    (r.filePath?.map fun _ => min r.consoleFrom r.fileFrom).getD r.consoleFrom

theorem setup_fulfils (held : Bool) (r : Request) : (setup held r).Fulfils r := by
  unfold setup
  cases hfile : r.filePath? <;> cases hlevel : nonempty? r.fileLevel <;> constructor <;>
    simp [Request.consoleFrom, Request.fileFrom, hfile, hlevel]

theorem setup_held (held : Bool) (r : Request) :
    (setup held r).held = true ↔ held = true ∨ r.Holds := by
  unfold setup Request.Holds
  cases r.filePath? <;> simp [Request.consoleFrom]

theorem isUnder_iff (logger name : String) :
    isUnder logger name = true ↔ logger = name ∨ ∃ rest, logger = name ++ "." ++ rest := by
  rw [isUnder, Bool.or_eq_true, beq_iff_eq, List.isPrefixOf_iff_prefix]
  refine or_congr_right ⟨?_, ?_⟩
  · rintro ⟨rest, h⟩
    refine ⟨String.ofList rest, String.toList_inj.mp ?_⟩
    rw [String.toList_append, String.toList_ofList, h]
  · rintro ⟨rest, rfl⟩
    exact ⟨rest.toList, String.toList_append.symm⟩

theorem any_isUnder_iff (logger : String) :
    libraryLoggers.any (isUnder logger) = true ↔ OfLibrary logger := by
  rw [List.any_eq_true]
  exact exists_congr fun name => and_congr_right fun _ => isUnder_iff logger name

/-- Once libraries are held, their records have to be warnings at least. -/
def Admits (l : Logging) (r : Record) : Prop :=
  l.held = true → OfLibrary r.logger → warningLevel ≤ r.level

theorem threshold_le_iff (l : Logging) (r : Record) (h : l.rootLevel ≤ r.level) :
    l.threshold r.logger ≤ r.level ↔ l.Admits r := by
  rw [threshold, Admits, ← any_isUnder_iff]
  split
  · next hb =>
    rw [Bool.and_eq_true] at hb
    simp [hb]
  · next hb =>
    rw [Bool.and_eq_true] at hb
    simp only [h, true_iff]
    exact fun hheld hunder => absurd ⟨hheld, hunder⟩ hb

variable {l : Logging} {q : Request} {r : Record}

theorem Fulfils.root_le_console (h : l.Fulfils q) : l.rootLevel ≤ q.consoleFrom := by
  rw [h.rootLevel]
  cases q.filePath? with
  | none => exact le_refl _
  | some path => exact Nat.min_le_left _ _

theorem Fulfils.root_le_file (h : l.Fulfils q) (there : q.filePath?.isSome = true) :
    l.rootLevel ≤ q.fileFrom := by
  obtain ⟨path, hpath⟩ := Option.isSome_iff_exists.mp there
  rw [h.rootLevel, hpath]
  exact Nat.min_le_right _ _

theorem reachesConsole_iff (h : l.Fulfils q) (hr : 0 < r.level) :
    l.reachesConsole r = true ↔ q.consoleFrom ≤ r.level ∧ l.Admits r := by
  rw [reachesConsole, passes, h.console]
  simp only [Bool.and_eq_true, decide_eq_true_eq, hr, true_and]
  rw [and_comm]
  exact and_congr_right fun hle => l.threshold_le_iff r (h.root_le_console.trans hle)

theorem reachesFile_iff (h : l.Fulfils q) (hr : 0 < r.level) :
    l.reachesFile r = true ↔ q.filePath?.isSome = true ∧ q.fileFrom ≤ r.level ∧ l.Admits r := by
  rw [reachesFile, passes, h.file]
  cases hpath : q.filePath? with
  | none => simp
  | some path =>
    have hroot := h.root_le_file (by rw [hpath]; rfl)
    simp only [Bool.and_eq_true, decide_eq_true_eq, hr, true_and, Option.map_some, Option.any_some,
      Option.isSome_some]
    rw [and_comm]
    exact and_congr_right fun hle => l.threshold_le_iff r (hroot.trans hle)

theorem consoleText_eq (h : l.Fulfils q) (clock : Clock) (r : Record) :
    l.consoleText clock r = if l.reachesConsole r then
      (consoleLayout q.consoleFrom).render clock r ++ "\n" else "" := by
  rw [consoleText, h.console]

theorem fileText_eq (h : l.Fulfils q) (clock : Clock) (r : Record) :
    l.fileText clock r = if l.reachesFile r then Layout.dated.render clock r ++ "\n" else "" := by
  rw [fileText]
  cases hl : l.file with
  | none => simp [reachesFile, hl]
  | some f =>
    rw [h.file, Option.map_eq_some_iff] at hl
    obtain ⟨path, _, rfl⟩ := hl
    rfl

end Logging

end DocBraces.Log

namespace DocBraces.Session

open DocBraces.Files DocBraces.Log

/-- What a program does to its logging. -/
inductive LogStep where
  | setup (r : Request)
  | record (r : Record)

def LogStep.act : LogStep → Run Unit
  | setup r => setupLogging r
  | record r => modify fun s => s.record r

def perform (steps : List LogStep) : Run Unit := steps.forM LogStep.act

def LogStep.request? : LogStep → Option Request
  | setup r => some r
  | record _ => none

def requests (steps : List LogStep) : List Request := steps.filterMap LogStep.request?

/-- What the file at a place holds, nothing if there is none. -/
def contents (s : Session) (q : Place) : List UInt8 := (s.tree.fileAt q).getD []

/-- The line that a record adds to the log file, if the place is that of the log file. -/
def delivered (s : Session) (q : Place) (r : Record) : String :=
  if s.logFile = some q ∧ (s.logging.any fun l => l.reachesFile r) = true then
    Layout.dated.render s.clock r ++ "\n"
  else ""

/-- The lines that are delivered to a place, in their order. -/
def filed (q : Place) : List LogStep → Session → List Char
  | [], _ => []
  | .setup r :: steps, s => filed q steps (after (setupLogging r) s)
  | .record r :: steps, s => (s.delivered q r).toList ++ filed q steps (s.record r)

/-- What is left of the setups so far: nothing, or what the last one asked for with the
libraries held by any of them, and a log file that is open if it named one. -/
inductive Left : List Request → Session → Prop
  | fresh {s : Session} (h : s.logging = none) : Left [] s
  | last {before : List Request} {r : Request} {s : Session} {l : Logging}
      (logging : s.logging = some l) (fulfils : l.Fulfils r)
      (held : l.held = true ↔ ∃ q ∈ before ++ [r], q.Holds)
      (named : s.logFile.isSome = r.filePath?.isSome)
      (opened : ∀ place, s.logFile = some place → (s.tree.fileAt place).isSome = true) :
      Left (before ++ [r]) s

theorem Left.held {asked : List Request} {s : Session} (h : Left asked s) :
    s.logging.any (·.held) = true ↔ ∃ q ∈ asked, q.Holds := by
  cases h with
  | fresh h => simp [h]
  | last logging _ held => simpa [logging] using held

variable {s : Session}

theorem openLog_leaves {path : String} {place : Place}
    (h : outcome (openLog path) s = .ok place) :
    (∃ bytes, s.tree.node? place = some (.file bytes)) ∧ after (openLog path) s = s ∨
      s.tree.node? place = none ∧
        after (openLog path) s = { s with tree := s.tree.put place (.file []) } := by
  unfold openLog at h ⊢
  dsimp only at h ⊢
  rw [outcome_get_bind] at h
  rw [after_get_bind]
  generalize (plainPath s.here (Path.ofString path)).toString = full at h ⊢
  rw [outcome_bind, opening_looks] at h
  rw [after_bind, opening_looks]
  cases ho : outcome (opening .writing full) s with
  | error f => simp [ho] at h
  | ok found =>
    rw [ho] at h
    have there : found.Holds s.tree := target_holds (target_ok.mpr (opening_ok.mp ho).2)
    cases found with
    | present p n =>
      cases n with
      | file bs =>
        obtain rfl : p = place := Except.ok.inj h
        exact .inl ⟨⟨bs, there⟩, rfl⟩
      | folder => simp [fault] at h
      | link target => simp [fault] at h
    | absent p =>
      obtain rfl : p = place := Except.ok.inj h
      exact .inr ⟨there, rfl⟩

theorem openLog_ok {path : String} {place : Place} (h : outcome (openLog path) s = .ok place) :
    ∃ t, after (openLog path) s = { s with tree := t } ∧ (t.fileAt place).isSome = true ∧
      ∀ q, (t.fileAt q).getD [] = s.contents q := by
  obtain ⟨⟨bs, there⟩, left⟩ | ⟨free, left⟩ := openLog_leaves h
  · exact ⟨s.tree, left, by rw [Tree.fileAt_eq_some.mpr there]; rfl, fun _ => rfl⟩
  · have self : (s.tree.put place (.file [])).fileAt place = some [] :=
      Tree.fileAt_put_self _ _ (Tree.ne_nil_of_absent free)
    refine ⟨s.tree.put place (.file []), left, by rw [self]; rfl, fun q => ?_⟩
    by_cases hq : q = place
    · subst hq
      rw [self, contents, Tree.fileAt, free]
      rfl
    · rw [Tree.fileAt_put_of_ne _ _ hq, contents]

/-- A setup that ends well replaces the logging and opens the log file, which keeps what it
holds. -/
theorem setupLogging_ok {r : Request} (h : outcome (setupLogging r) s = .ok ()) :
    ∃ t logFile, after (setupLogging r) s =
        { s with tree := t, logging := some (.setup (s.logging.any (·.held)) r), logFile } ∧
      logFile.isSome = r.filePath?.isSome ∧
      (∀ place, logFile = some place → (t.fileAt place).isSome = true) ∧
      ∀ q, (t.fileAt q).getD [] = s.contents q := by
  unfold setupLogging at h ⊢
  obtain ⟨logFile, hlog, -, hafter⟩ := ok_of_bind h
  rw [hafter]
  cases hpath : r.filePath? with
  | none =>
    rw [hpath] at hlog
    obtain rfl : none = logFile := Except.ok.inj hlog
    exact ⟨s.tree, none, rfl, rfl, nofun, fun _ => rfl⟩
  | some path =>
    rw [hpath] at hlog
    have hmap : Option.mapM openLog (some path) = some <$> openLog path := rfl
    rw [hmap, outcome_map] at hlog
    rw [hmap, after_map]
    cases ho : outcome (openLog path) s with
    | error f => simp [ho, Except.map] at hlog
    | ok place =>
      rw [ho] at hlog
      obtain rfl : some place = logFile := Except.ok.inj hlog
      obtain ⟨t, ht, opened, same⟩ := openLog_ok ho
      rw [ht]
      refine ⟨t, some place, rfl, rfl, ?_, same⟩
      rintro other ⟨⟩
      exact opened

theorem Left.setup {asked : List Request} {r : Request} (hs : Left asked s)
    (h : outcome (setupLogging r) s = .ok ()) :
    Left (asked ++ [r]) (after (setupLogging r) s) ∧
      ∀ q, (after (setupLogging r) s).contents q = s.contents q := by
  obtain ⟨t, logFile, hafter, named, opened, same⟩ := setupLogging_ok h
  rw [hafter]
  refine ⟨.last rfl (Logging.setup_fulfils _ r) ?_ named opened, same⟩
  rw [Logging.setup_held, hs.held]
  simp [or_and_right, exists_or]

theorem record_of_some {l : Logging} (hl : s.logging = some l) (r : Record) :
    s.record r = { s with
      tree := match s.logFile with
        | some place => appendTo s.tree place (Text.Utf8.encode (l.fileText s.clock r).toList)
        | none => s.tree
      errors := s.errors ++ l.consoleText s.clock r } := by
  cases s
  cases hl
  rfl

theorem fileAt_appendTo_self (t : Tree) {p : Place} (bytes : List UInt8)
    (h : (t.fileAt p).isSome = true) :
    (appendTo t p bytes).fileAt p = some ((t.fileAt p).getD [] ++ bytes) := by
  obtain ⟨old, hold⟩ := Option.isSome_iff_exists.mp h
  have hnode := Tree.fileAt_eq_some.mp hold
  have hne : p ≠ [] := by
    rintro rfl
    simp [Tree.node?] at hnode
  rw [appendTo, hnode, hold]
  exact Tree.fileAt_put_self _ _ hne

theorem delivered_eq {l : Logging} {q : Request} (hl : s.logging = some l) (h : l.Fulfils q)
    {place : Place} (hplace : s.logFile = some place) (r : Record) :
    s.delivered place r = l.fileText s.clock r := by
  rw [delivered, Logging.fileText_eq h, hl, Option.any_some]
  simp [hplace]

theorem delivered_elsewhere {place : Place} (h : s.logFile ≠ some place) (r : Record) :
    s.delivered place r = "" :=
  if_neg fun hd => h hd.1

theorem fileAt_record {l : Logging} {q : Request} (hl : s.logging = some l) (h : l.Fulfils q)
    (opened : ∀ place, s.logFile = some place → (s.tree.fileAt place).isSome = true) (r : Record)
    (place : Place) : (s.record r).tree.fileAt place =
      if s.logFile = some place then
        some (s.contents place ++ Text.Utf8.encode (s.delivered place r).toList)
      else s.tree.fileAt place := by
  rw [record_of_some hl]
  by_cases hplace : s.logFile = some place
  · rw [if_pos hplace, delivered_eq hl h hplace, hplace]
    exact fileAt_appendTo_self _ _ (opened place hplace)
  · rw [if_neg hplace]
    dsimp only
    split
    · next other hother =>
      exact fileAt_appendTo_of_ne _ _ fun heq => hplace (heq ▸ hother)
    · rfl

theorem Left.record {asked : List Request} (hs : Left asked s) (r : Record) :
    Left asked (s.record r) ∧ ∀ q, (s.record r).contents q =
      s.contents q ++ Text.Utf8.encode (s.delivered q r).toList := by
  cases hs with
  | fresh h =>
    obtain ⟨tree, logging⟩ : (s.record r).tree = s.tree ∧ (s.record r).logging = none := by
      unfold Session.record
      split
      · split <;> exact ⟨rfl, h⟩
      · next l hl => exact nomatch h.symm.trans hl
    exact ⟨.fresh logging, fun q => by simp [contents, tree, delivered, h, Text.Utf8.encode]⟩
  | @last before last _ l logging fulfils held named opened =>
    have hfile := fileAt_record logging fulfils opened r
    have hlogging : (s.record r).logging = some l := by
      rw [record_of_some logging]
      exact logging
    refine ⟨.last hlogging fulfils held (by rw [record_logFile, named]) fun place hplace => ?_,
      fun q => ?_⟩
    · rw [record_logFile] at hplace
      rw [hfile, if_pos hplace]
      rfl
    · rw [contents, hfile]
      split
      · rfl
      · next hq => simp [contents, delivered_elsewhere hq, Text.Utf8.encode]

theorem outcome_perform_cons {step : LogStep} {steps : List LogStep}
    (h : outcome (perform (step :: steps)) s = .ok ()) :
    outcome step.act s = .ok () ∧ outcome (perform steps) (after step.act s) = .ok () ∧
      after (perform (step :: steps)) s = after (perform steps) (after step.act s) := by
  obtain ⟨⟨⟩, hstep, hrest, hafter⟩ := ok_of_bind (f := fun _ => perform steps) h
  exact ⟨hstep, hrest, hafter⟩

/-- Steps that all end well leave what their setups ask for, and in every file what was in it
and what is delivered to it. -/
theorem Left.perform {asked : List Request} (hs : Left asked s) (steps : List LogStep)
    (h : outcome (perform steps) s = .ok ()) :
    Left (asked ++ requests steps) (after (perform steps) s) ∧
      ∀ q, (after (Session.perform steps) s).contents q =
        s.contents q ++ Text.Utf8.encode (filed q steps s) := by
  induction steps generalizing asked s with
  | nil =>
    rw [requests, List.filterMap_nil, List.append_nil]
    exact ⟨hs, fun q => (List.append_nil _).symm⟩
  | cons step steps ih =>
    obtain ⟨hstep, hrest, hafter⟩ := outcome_perform_cons h
    rw [hafter]
    cases step with
    | setup r =>
      obtain ⟨hleft, hcontents⟩ := hs.setup hstep
      obtain ⟨hall, hfiled⟩ := ih hleft hrest
      rw [List.append_assoc] at hall
      exact ⟨hall, fun q => (hfiled q).trans (by rw [hcontents]; rfl)⟩
    | record r =>
      obtain ⟨hleft, hcontents⟩ := hs.record r
      obtain ⟨hall, hfiled⟩ := ih hleft hrest
      have hsplit (q : Place) : filed q (.record r :: steps) s =
          (s.delivered q r).toList ++ filed q steps (s.record r) := rfl
      refine ⟨hall, fun q => (hfiled q).trans ?_⟩
      rw [hcontents, hsplit, Text.Utf8.encode, Text.Utf8.encode, Text.Utf8.encode,
        List.flatMap_append, List.append_assoc]

/-- How logging stands once steps have been performed of which a request is the last one:
as it asks for, but for the libraries, which any request may have held. -/
structure LoggingAfter (steps : List LogStep) (r : Request) (s : Session) (l : Logging) : Prop where
  logging : s.logging = some l
  console : l.console = ⟨r.consoleFrom, consoleLayout r.consoleFrom⟩
  file : l.file = r.filePath?.map fun _ => ⟨r.fileFrom, .dated⟩
  rootLevel : l.rootLevel =
    (r.filePath?.map fun _ => min r.consoleFrom r.fileFrom).getD r.consoleFrom
  named : s.logFile.isSome = r.filePath?.isSome
  held : l.held = true ↔ ∃ q ∈ requests steps, q.holdLibraries = true ∧ debugLevel < q.consoleFrom

theorem Left.loggingAfter {steps : List LogStep} {r : Request} (h : Left (requests steps) s)
    (hlast : (requests steps).getLast? = some r) :
    ∃ l, LoggingAfter steps r s l ∧ l.Fulfils r := by
  generalize hasked : requests steps = asked at h
  cases h with
  | fresh => simp [hasked] at hlast
  | @last before last _ l logging fulfils held named opened =>
    obtain rfl : last = r := by simpa [hasked] using hlast
    rw [← hasked] at held
    exact ⟨l, ⟨logging, fulfils.console, fulfils.file, fulfils.rootLevel, named, held⟩, fulfils⟩

/-- From a session without logging, setups and records in any order leave one console and,
if the last setup named it, one file, both as that setup asks. Libraries are held just if
some setup held them. A record reaches a sink from the sink's level on, and those of held
libraries from warnings on. Every file holds what it held before and then, line by line,
the records that have reached it. -/
theorem logging_after (steps : List LogStep) (r : Request) (s : Session)
    (fresh : s.logging = none) (ends : outcome (perform steps) s = .ok ())
    (hlast : (requests steps).getLast? = some r) :
    ∃ l, LoggingAfter steps r (after (perform steps) s) l ∧
      (∀ name ∈ Logging.libraryLoggers,
        l.threshold name = if l.held then warningLevel else l.rootLevel) ∧
      (∀ rec : Record, 0 < rec.level →
        (l.reachesConsole rec = true ↔ r.consoleFrom ≤ rec.level ∧
          (l.held = true → OfLibrary rec.logger → warningLevel ≤ rec.level)) ∧
        (l.reachesFile rec = true ↔ r.filePath?.isSome = true ∧ r.fileFrom ≤ rec.level ∧
          (l.held = true → OfLibrary rec.logger → warningLevel ≤ rec.level))) ∧
      (∀ rec : Record, ((after (perform steps) s).record rec).errors =
        (after (perform steps) s).errors ++ if l.reachesConsole rec then
          (consoleLayout r.consoleFrom).render (after (perform steps) s).clock rec ++ "\n"
        else "") ∧
      ∀ place, (after (perform steps) s).contents place =
        s.contents place ++ Text.Utf8.encode (filed place steps s) := by
  obtain ⟨hleft, hcontents⟩ := (Left.fresh fresh).perform steps ends
  rw [List.nil_append] at hleft
  obtain ⟨l, hafter, hfulfils⟩ := hleft.loggingAfter hlast
  refine ⟨l, hafter, fun name hname => ?_, fun rec hpos => ⟨?_, ?_⟩, fun rec => ?_, hcontents⟩
  · have hlibrary : Logging.libraryLoggers.any (Logging.isUnder name) = true :=
      (Logging.any_isUnder_iff name).mpr ⟨name, hname, .inl rfl⟩
    rw [Logging.threshold, hlibrary, Bool.and_true]
  · exact Logging.reachesConsole_iff hfulfils hpos
  · exact Logging.reachesFile_iff hfulfils hpos
  · rw [record_of_some hafter.logging, ← Logging.consoleText_eq hfulfils]

def emptyFolder : Session where
  tree := ⟨[(["p"], .folder)]⟩
  here := ["p"]
  programs := fun v _ _ => (.missing, v.tree)
  clock := ⟨"2024-05-01", "10:00:00"⟩

/-- The first setup holds the libraries; the second asks for everything on the console and
keeps to errors in the same file. -/
def twoSetups : List LogStep :=
  [.setup { level := some "info", file := some "run.log" },
    .record ⟨"yaml", 20, "held", 0⟩, .record ⟨"app", 20, "first", 0⟩,
    .setup { level := some "DEBUG", file := some "run.log", fileLevel := some "ERROR" },
    .record ⟨"yaml.reader", 20, "still held", 0⟩, .record ⟨"app", 10, "console", 0⟩,
    .record ⟨"app", 40, "second", 0⟩]

/-- After both setups the library is still held, and the file has one line of each. -/
theorem logging_after_twoSetups :
    emptyFolder.logging = none ∧ outcome (perform twoSetups) emptyFolder = .ok () ∧
    (∃ r, (requests twoSetups).getLast? = some r ∧ r.consoleFrom = 10) ∧
    ((after (perform twoSetups) emptyFolder).logging.any (·.held)) = true ∧
    (after (perform twoSetups) emptyFolder).contents ["p", "run.log"] = Text.Utf8.encode
      ("2024-05-01 10:00:00 INFO  app:0 — first\n" ++
        "2024-05-01 10:00:00 ERROR app:0 — second\n").toList := by
  have ends : outcome (perform twoSetups) emptyFolder = .ok () :=
    ok_of_toOption (by decide +kernel)
  obtain ⟨l, hafter, -, -, -, hcontents⟩ := logging_after twoSetups
    { level := some "DEBUG", file := some "run.log", fileLevel := some "ERROR" } emptyFolder rfl
    ends rfl
  have held : l.held = true := hafter.held.mpr
    ⟨{ level := some "info", file := some "run.log" }, List.mem_cons_self, rfl, by decide +kernel⟩
  have filed_ : filed ["p", "run.log"] twoSetups emptyFolder =
      ("2024-05-01 10:00:00 INFO  app:0 — first\n" ++
        "2024-05-01 10:00:00 ERROR app:0 — second\n").toList := by decide +kernel
  refine ⟨rfl, ends, ⟨_, rfl, by decide +kernel⟩, ?_, ?_⟩
  · rw [hafter.logging, Option.any_some, held]
  · rw [hcontents, filed_]
    rfl

end DocBraces.Session
