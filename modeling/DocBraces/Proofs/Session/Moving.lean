import DocBraces.Proofs.Files.Rooted
import DocBraces.Proofs.Session.Failing

/-!
# The same from another folder

An activity that asks only for paths with a root does not notice from which folder it is
started. It ends in the same way, and what it leaves is the same but for the folder.
-/

set_option autoImplicit false

namespace DocBraces.Session

open DocBraces.Files

variable {α β : Type} {place : Place} {s : Session}

/-- The session when the current folder is another one. -/
def moved (s : Session) (place : Place) : Session := { s with here := place }

/-- From another folder an activity ends in the same way, and leaves the same. -/
structure SameFrom (place : Place) (act : Run α) (s : Session) : Prop where
  outcome : outcome act (s.moved place) = outcome act s
  after : after act (s.moved place) = (after act s).moved place

theorem SameFrom.bind {act : Run α} {f : α → Run β} (h : SameFrom place act s)
    (hf : ∀ a, Session.outcome act s = .ok a → SameFrom place (f a) (Session.after act s)) :
    SameFrom place (act >>= f) s := by
  cases ho : Session.outcome act s with
  | error e =>
    constructor
    · rw [outcome_bind, outcome_bind, h.outcome, ho]
    · rw [after_bind, after_bind, h.outcome, ho]
      exact h.after
  | ok a =>
    obtain ⟨same, left⟩ := hf a ho
    constructor
    · rw [outcome_bind, outcome_bind, h.outcome, ho, h.after]
      exact same
    · rw [after_bind, after_bind, h.outcome, ho, h.after]
      exact left

theorem SameFrom.tryCatch {act : Run α} {handle : Failure → Run α} (h : SameFrom place act s)
    (hh : ∀ e, SameFrom place (handle e) (Session.after act s)) :
    SameFrom place (tryCatch act handle) s := by
  cases ho : Session.outcome act s with
  | ok a =>
    constructor
    · rw [outcome_tryCatch, outcome_tryCatch, h.outcome, ho]
    · rw [after_tryCatch, after_tryCatch, h.outcome, ho]
      exact h.after
  | error e =>
    obtain ⟨same, left⟩ := hh e
    constructor
    · rw [outcome_tryCatch, outcome_tryCatch, h.outcome, ho, h.after]
      exact same
    · rw [after_tryCatch, after_tryCatch, h.outcome, ho, h.after]
      exact left

theorem SameFrom.map {act : Run α} (h : SameFrom place act s) (f : α → β) :
    SameFrom place (f <$> act) s := by
  rw [← bind_pure_comp]
  exact h.bind fun _ _ => ⟨rfl, rfl⟩

theorem SameFrom.of_looks {act : Run α} (h : Looks act)
    (same : Session.outcome act (s.moved place) = Session.outcome act s) :
    SameFrom place act s := by
  refine ⟨same, ?_⟩
  rw [h, h]

def Placeless (act : Run α) : Prop := ∀ place s, SameFrom place act s

namespace Placeless

theorem pure (a : α) : Placeless (pure a) := fun _ _ => ⟨rfl, rfl⟩

theorem throw (f : Failure) : Placeless (throw f : Run α) := fun _ _ => ⟨rfl, rfl⟩

theorem bind {act : Run α} {f : α → Run β} (h : Placeless act) (hf : ∀ a, Placeless (f a)) :
    Placeless (act >>= f) :=
  fun place s => (h place s).bind fun a _ => hf a place _

theorem bind_of_ok {act : Run α} {f : α → Run β} (h : Placeless act)
    (hf : ∀ s a, outcome act s = .ok a → Placeless (f a)) : Placeless (act >>= f) :=
  fun place s => (h place s).bind fun a ho => hf s a ho place _

theorem tryCatch {act : Run α} {handle : Failure → Run α} (h : Placeless act)
    (hh : ∀ e, Placeless (handle e)) : Placeless (tryCatch act handle) :=
  fun place s => (h place s).tryCatch fun e => hh e place _

theorem map {act : Run α} (h : Placeless act) (f : α → β) : Placeless (f <$> act) :=
  fun place s => (h place s).map f

theorem get_bind {f : Session → Run α} (same : ∀ s place, f (s.moved place) = f s)
    (hf : ∀ s, Placeless (f s)) : Placeless (get >>= f) := by
  intro place s
  obtain ⟨same_, left⟩ := hf s place s
  constructor
  · rw [outcome_get_bind, outcome_get_bind, same]
    exact same_
  · rw [after_get_bind, after_get_bind, same]
    exact left

theorem modify {f : Session → Session} (same : ∀ s place, f (s.moved place) = (f s).moved place) :
    Placeless (modify f : Run Unit) := fun place s => ⟨rfl, same s place⟩

theorem mapM {f : α → Run β} (hf : ∀ a, Placeless (f a)) (xs : List α) : Placeless (xs.mapM f) := by
  induction xs with
  | nil => exact pure _
  | cons x xs ih =>
    rw [List.mapM_cons]
    exact bind (hf x) fun _ => bind ih fun _ => pure _

theorem foldlM {f : β → α → Run β} {xs : List α} (hf : ∀ x ∈ xs, ∀ b, Placeless (f b x)) (b : β) :
    Placeless (xs.foldlM f b) := by
  induction xs generalizing b with
  | nil => exact pure b
  | cons x xs ih =>
    obtain ⟨first, others⟩ := List.forall_mem_cons.mp hf
    rw [List.foldlM_cons]
    exact bind (first b) fun b' => ih others b'

theorem print (text : String) : Placeless (print text) := modify fun _ _ => rfl

theorem complain (text : String) : Placeless (complain text) := modify fun _ _ => rfl

theorem setTree (t : Tree) : Placeless (setTree t) := modify fun _ _ => rfl

theorem fault (cause : Cause) (path : String) : Placeless (fault cause path : Run α) := throw _

end Placeless

theorem record_moved (s : Session) (r : Log.Record) (place : Place) :
    (s.moved place).record r = (s.record r).moved place := by
  unfold Session.record
  rw [show (s.moved place).logging = s.logging from rfl]
  split
  · split <;> rfl
  · rfl

theorem log_placeless (logger : String) (level : Nat) (message : String) :
    Placeless (log logger level message) := .modify fun s place => record_moved s _ place

section
variable {path : String} {p : Path}

theorem resolve_moved (h : Tree.isRooted path = true) (follow : Bool) (s : Session)
    (place : Place) : (s.moved place).tree.resolve follow (s.moved place).here path =
      s.tree.resolve follow s.here path := Tree.resolve_rooted h _ _

theorem node?_placeless (h : Tree.isRooted path = true) : Placeless (node? path) := by
  unfold node?
  split
  · exact .pure _
  · refine .get_bind (fun s place => ?_) fun s => ?_
    · rw [resolve_moved h]
    · split
      · exact .pure _
      · exact .pure _
      · exact .fault _ _
      · exact .pure _

theorem isFile_placeless (h : p.root ≠ .relative) : Placeless (isFile p) :=
  .bind (node?_placeless (Path.isRooted_of_root h)) fun n => by
    split <;> exact .pure _

theorem isFolder_placeless (h : p.root ≠ .relative) : Placeless (isFolder p) :=
  .bind (node?_placeless (Path.isRooted_of_root h)) fun n => by
    split <;> exact .pure _

theorem target_placeless (follow : Bool) (h : Tree.isRooted path = true) :
    Placeless (target follow path) := by
  unfold target
  split
  · exact .throw _
  · refine .get_bind (fun s place => ?_) fun s => ?_
    · rw [resolve_moved h]
    · split
      · exact .pure _
      · exact .fault _ _

theorem plainPath_rooted (h : p.root ≠ .relative) (here there : Place) :
    plainPath here p = plainPath there p := by
  unfold plainPath Path.join
  rw [if_neg h, if_neg h]

theorem denies_moved (h : Tree.isRooted path = true) (a : Access) (s : Session) (place : Place) :
    (s.moved place).denies a path = s.denies a path := by
  unfold denies
  rw [plainPath_rooted (Path.root_of_isRooted h) s.here place]
  rfl

theorem opening_placeless (a : Access) (h : Tree.isRooted path = true) :
    Placeless (opening a path) := by
  unfold opening
  refine .get_bind (fun s place => ?_) fun s => ?_
  · rw [denies_moved h]
  · split
    · exact .fault _ _
    · exact target_placeless true h

theorem readBytes_placeless (h : p.root ≠ .relative) : Placeless (readBytes p) :=
  .bind (opening_placeless _ (Path.isRooted_of_root h)) fun t => by
    split
    · exact .pure _
    · exact .fault _ _
    · exact .fault _ _

theorem writeBytes_placeless (h : p.root ≠ .relative) (bytes : List UInt8) :
    Placeless (writeBytes p bytes) :=
  .bind (opening_placeless _ (Path.isRooted_of_root h)) fun t => by
    split
    · exact .fault _ _
    · exact .get_bind (fun _ _ => rfl) fun _ => .setTree _

theorem makeFolder_placeless (h : p.root ≠ .relative) : Placeless (makeFolder p) :=
  .bind (target_placeless false (Path.isRooted_of_root h)) fun t => by
    split
    · exact .get_bind (fun _ _ => rfl) fun _ => .setTree _
    · exact .fault _ _

theorem unlessFolder_placeless (h : p.root ≠ .relative) (f : Failure) :
    Placeless (unlessFolder p f) :=
  .bind (isFolder_placeless h) fun there => by
    cases there
    · exact .throw _
    · exact .pure _

theorem makeFolders_placeless (h : p.root ≠ .relative) (depth : Nat) :
    Placeless (makeFolders depth p) := by
  induction depth generalizing p with
  | zero => exact .pure _
  | succ depth ih =>
    have made := makeFolder_placeless h
    have parent : p.parent.root ≠ .relative := h
    rw [makeFolders]
    refine .tryCatch made fun e => ?_
    split
    · split
      · exact .fault _ _
      · refine .bind (ih parent) fun _ => .tryCatch made fun e' => ?_
        split
        · exact .fault _ _
        · exact unlessFolder_placeless h _
        · exact .throw _
    · exact unlessFolder_placeless h _
    · exact .throw _

theorem makePath_placeless (h : p.root ≠ .relative) : Placeless (makePath p) :=
  makeFolders_placeless h _

theorem forgetLog_placeless : Placeless forgetLog := .modify fun _ _ => rfl

theorem dropFolder_placeless (h : p.root ≠ .relative) : Placeless (dropFolder p) := by
  unfold dropFolder
  split
  · exact .fault _ _
  · refine .bind (target_placeless false (Path.isRooted_of_root h)) fun t => ?_
    split
    · split
      · exact .fault _ _
      · exact .get_bind (fun _ _ => rfl) fun _ => .setTree _
    · exact .fault _ _

theorem removeTree_placeless (h : p.root ≠ .relative) : Placeless (removeTree p) := by
  refine .bind (target_placeless false (Path.isRooted_of_root h)) fun t => ?_
  split
  · refine .get_bind (fun _ _ => rfl) fun s => .bind (.setTree _) fun _ => ?_
    exact .bind forgetLog_placeless fun _ => dropFolder_placeless h
  · exact .throw _
  · exact .fault _ _
  · exact .fault _ _

theorem openLog_placeless (h : Tree.isRooted path = true) : Placeless (openLog path) := by
  have root := Path.root_of_isRooted h
  unfold openLog
  refine .get_bind (fun s place => ?_) fun s => ?_
  · rw [plainPath_rooted root s.here place]
    rfl
  · have rooted : Tree.isRooted (plainPath s.here (Path.ofString path)).toString = true := by
      refine Path.isRooted_of_root ?_
      unfold plainPath
      unfold Path.join
      rw [if_neg root]
      exact root
    refine .bind (opening_placeless _ rooted) fun t => ?_
    split
    · exact .pure _
    · exact .fault _ _
    · exact .get_bind (fun _ _ => rfl) fun _ => .bind (.setTree _) fun _ => .pure _

theorem setupLogging_placeless {r : Log.Request}
    (h : ∀ path ∈ r.filePath?, Tree.isRooted path = true) : Placeless (setupLogging r) := by
  unfold setupLogging
  refine .bind ?_ fun logFile => .modify fun _ _ => rfl
  cases hr : r.filePath? with
  | none => exact .pure _
  | some path => exact .map (openLog_placeless (h path hr)) _

end

end DocBraces.Session
