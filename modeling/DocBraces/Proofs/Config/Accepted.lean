import DocBraces.Proofs.Braces.Restoring
import DocBraces.Proofs.Config.Loading

/-!
# Accepted configurations

Settings that have been loaded have a codec, since their placeholder has been tried
before it was accepted. The braces of the codec are always the same ones, so that a codec
for other placeholders is undone by the default one.
-/

set_option autoImplicit false

namespace DocBraces

open DocBraces.Session

namespace Schema

end Schema

namespace Config

section
variable {Q : ∀ {α : Type}, Run α → Prop}

/-- Loading a file is composed of a look at it, reading it and noting that. -/
theorem loadFile_composes (h : Catches Q) {p : Files.Path} (looks : Q (isFile p))
    (reads : Q (readBytes p)) (notes : ∀ logger level message, Q (log logger level message)) :
    Q (loadFile p) := by
  have reading : Q (readText p) := by
    refine h.bind (h.tryCatch reads fun f => ?_) fun bytes => ?_
    · cases f <;> exact h.throw _
    · split
      · exact h.pure _
      · exact h.throw _
  have parsing (text : List Char) : Q (parse p text) := by
    unfold parse
    split
    · exact h.pure _
    · exact h.throw _
    · exact h.throw _
  refine h.bind looks fun there => ?_
  cases there with
  | false => exact h.throw _
  | true =>
    refine h.bind (notes _ _ _) fun _ => h.bind reading fun text => ?_
    refine h.bind (parsing text) fun d => ?_
    split
    · exact h.throw _
    · exact h.bind (notes _ _ _) fun _ => h.pure _

theorem load_composes (h : Catches Q) {file : Option Files.Path} (chooses : Q (choose file))
    (looks : ∀ p, Q (isFile p)) (reads : ∀ p, Q (readBytes p))
    (notes : ∀ logger level message, Q (log logger level message)) (e : Environment) :
    Q (load file e) := by
  have applying (st : Settings) : Q (applyEnvironment st e) := by
    unfold applyEnvironment
    dsimp only
    split
    · exact h.pure _
    · exact h.bind (notes _ _ _) fun _ => h.pure _
  rw [load_eq]
  refine h.bind chooses fun chosen => ?_
  cases chosen with
  | none => exact h.bind (notes _ _ _) fun _ => applying _
  | some p => exact h.bind (loadFile_composes h (looks p) (reads p) notes) applying

end

variable {P : Session → Prop}

theorem load_keeps (closed : ∀ s r, P s → P (s.record r)) (file : Option Files.Path)
    (e : Environment) : Keeps P (load file e) :=
  load_composes (Keeps.catches P) ((choose_looks file).keeps P)
    (fun p => (isFile_looks p).keeps P) (fun p => (readBytes_looks p).keeps P)
    (fun _ _ _ s => closed s _) e

end Config

end DocBraces
