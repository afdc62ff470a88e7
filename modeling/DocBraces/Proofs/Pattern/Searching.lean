import DocBraces.Proofs.Pattern.Leftover

/-!
# Searching from the left

Where the text ahead alone tells how much of it a match takes, a search goes over the text
once: it measures what is ahead, rewrites as much and goes on behind it, or copies one
character. That it gives up near the end changes nothing, since no match has room there.
-/

set_option autoImplicit false

namespace DocBraces.Pattern

open DocBraces.Text

def Leftover.width (g : Leftover) (text : List Char) : ℕ :=
  match g text with
  | none => 0
  | some rest => text.length - rest.length

theorem Leftover.width_append (g : Leftover) (taken rest : List Char)
    (h : g (taken ++ rest) = some rest) : g.width (taken ++ rest) = taken.length := by
  simp [width, h]

/-- A pattern that never matches the empty text takes what its match does not leave over. -/
theorem spanAt_eq_width (e : Expr) (g : Leftover)
    (h : ∀ k, Leaves k some → Leaves (fun p s => e.run false none p s k) g)
    (hpos : ∀ text rest, g text = some rest → rest.length < text.length)
    (before text : List Char) : e.spanAt before text = g.width text := by
  have hlength : e.lengthAt? false before text =
      (g text).map fun rest => text.length - rest.length := by
    rw [e.lengthAt?_eq_left?]
    congr 1
    exact h _ (fun _ _ => rfl) ⟨before, text⟩ _
  rw [Expr.spanAt, hlength, Leftover.width]
  cases hg : g text with
  | none => rfl
  | some rest =>
    have hlt := hpos text rest hg
    obtain ⟨n, hn⟩ := Nat.exists_eq_succ_of_ne_zero (Nat.sub_pos_of_lt hlt).ne'
    rw [Option.map_some, hn]
    exact hn.symm

/-- Applies `f` to what a measure takes from the left; `left` counts what is still to come
of the part under way. -/
def rewriteBy (w : List Char → ℕ) (f : Char → Char) : (left : ℕ) → List Char → List Char
  | _, [] => []
  | n + 1, c :: cs => f c :: rewriteBy w f n cs
  | 0, c :: cs => match w (c :: cs) with
    | 0 => c :: rewriteBy w f 0 cs
    | n + 1 => f c :: rewriteBy w f n cs

def Agrees (e : Expr) (text : List Char) : Stage → ℕ → Prop
  | .fresh, n => n = 0
  | .seeking, n => n = 0
  | .inside m, n => m = n ∧ 0 < n
  | .ended, n => n = 0 ∧ text.length < e.leastLength

theorem agrees_within (e : Expr) (text : List Char) (n : ℕ) :
    Agrees e text (Stage.within n) n := by
  cases n with
  | zero => rfl
  | succ n => exact ⟨rfl, n.succ_pos⟩

section

variable {e : Expr} {w : List Char → ℕ} (hspan : ∀ before text, e.spanAt before text = w text)
  (hleast : ∀ text, w text ≠ 0 → e.leastLength ≤ text.length) (f : Char → Char)

include hspan hleast

theorem rewriteFrom_agrees (before : List Char) (stage : Stage) (n : ℕ) (text : List Char)
    (ha : Agrees e text stage n) :
    e.rewriteFrom f before stage text = rewriteBy w f n text := by
  induction text generalizing before stage n with
  | nil => cases stage <;> rfl
  | cons c cs ih =>
    have hended (hlt : (c :: cs).length < e.leastLength) :
        c :: e.rewriteFrom f (c :: before) .ended cs = rewriteBy w f 0 (c :: cs) := by
      have hw : w (c :: cs) = 0 := by
        by_contra hw
        have := hleast _ hw
        omega
      have hshort : Agrees e cs .ended 0 := ⟨rfl, by simp only [List.length_cons] at hlt; omega⟩
      rw [rewriteBy, hw, ih _ _ _ hshort]
    have hseeking : e.rewriteFrom f before .seeking (c :: cs) = rewriteBy w f 0 (c :: cs) := by
      simp only [Expr.rewriteFrom, Stage.enter, hspan, rewriteBy]
      cases w (c :: cs) with
      | zero => exact congrArg _ (ih (c :: before) .seeking 0 rfl)
      | succ m => exact congrArg _ (ih _ _ _ (agrees_within e cs m))
    cases stage with
    | fresh =>
      obtain rfl : n = 0 := ha
      by_cases hl : ((c :: cs).take e.leastLength).length = e.leastLength
      · rw [Expr.rewriteFrom, Stage.enter, if_pos hl]
        exact hseeking
      · have hlt : (c :: cs).length < e.leastLength := by
          rw [List.length_take] at hl
          omega
        rw [Expr.rewriteFrom, Stage.enter, if_neg hl]
        exact hended hlt
    | seeking =>
      obtain rfl : n = 0 := ha
      exact hseeking
    | inside m =>
      obtain ⟨rfl, hpos⟩ := ha
      obtain ⟨m, rfl⟩ := Nat.exists_eq_succ_of_ne_zero hpos.ne'
      exact congrArg _ (ih _ _ _ (agrees_within e cs m))
    | ended =>
      obtain ⟨rfl, hlt⟩ := ha
      exact hended hlt

theorem rewrite_eq_by (text : List Char) : e.rewrite f text = rewriteBy w f 0 text :=
  rewriteFrom_agrees hspan hleast f [] .fresh 0 text rfl

end

end DocBraces.Pattern
