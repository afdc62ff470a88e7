import DocBraces.Tools.Wildcard

/-!
# What wildcards fit

The search for a fit goes through the units of a pattern from the front. It finds one just if
the text can be cut into pieces, one for each unit. What is trimmed off a text is the shortest
or the longest piece that the pattern fits.
-/

set_option autoImplicit false

namespace DocBraces.Tools

/-- A text is made of one piece for each unit of a pattern. -/
inductive Fits : List Wildcard → Octets → Prop
  | nil : Fits [] []
  | many {ws : List Wildcard} (piece : Octets) {cs : Octets} :
      Fits ws cs → Fits (.many :: ws) (piece ++ cs)
  | one {w : Wildcard} {ws : List Wildcard} {c : Char} {cs : Octets} :
      w ≠ .many → w.holds c = true → Fits ws cs → Fits (w :: ws) (c :: cs)

theorem anyTail_iff (test : Octets → Bool) (cs : Octets) :
    anyTail test cs = true ↔ ∃ piece rest, cs = piece ++ rest ∧ test rest = true := by
  induction cs with
  | nil =>
    rw [anyTail]
    constructor
    · exact fun h => ⟨[], [], rfl, h⟩
    · rintro ⟨piece, rest, hcs, h⟩
      rwa [(List.append_eq_nil_iff.mp hcs.symm).2] at h
  | cons c cs ih =>
    rw [anyTail, Bool.or_eq_true, ih]
    constructor
    · rintro (h | ⟨piece, rest, rfl, h⟩)
      · exact ⟨[], c :: cs, rfl, h⟩
      · exact ⟨c :: piece, rest, rfl, h⟩
    · rintro ⟨piece, rest, hcs, h⟩
      cases piece with
      | nil =>
        subst hcs
        exact .inl h
      | cons d piece =>
        obtain ⟨rfl, rfl⟩ := List.cons.inj hcs
        exact .inr ⟨piece, rest, rfl, h⟩

theorem fitsWild_nil {w : Wildcard} (other : w ≠ .many) (ws : List Wildcard) :
    fitsWild (w :: ws) [] = false := by
  cases w with
  | many => exact absurd rfl other
  | _ => rfl

theorem fitsWild_cons {w : Wildcard} (other : w ≠ .many) (ws : List Wildcard) (c : Char)
    (cs : Octets) : fitsWild (w :: ws) (c :: cs) = (w.holds c && fitsWild ws cs) := by
  cases w with
  | many => exact absurd rfl other
  | _ => rfl

theorem fits_cons {w : Wildcard} (other : w ≠ .many) (ws : List Wildcard) (c : Char)
    (cs : Octets) : Fits (w :: ws) (c :: cs) ↔ w.holds c = true ∧ Fits ws cs := by
  constructor
  · intro h
    generalize hcs : c :: cs = text at h
    cases h with
    | many => exact absurd rfl other
    | one _ holds fits =>
      obtain ⟨rfl, rfl⟩ := List.cons.inj hcs
      exact ⟨holds, fits⟩
  · exact fun ⟨holds, fits⟩ => .one other holds fits

theorem fits_many (ws : List Wildcard) (cs : Octets) :
    Fits (.many :: ws) cs ↔ ∃ piece rest, cs = piece ++ rest ∧ Fits ws rest := by
  constructor
  · intro h
    cases h with
    | many piece fits => exact ⟨piece, _, rfl, fits⟩
    | one other => exact absurd rfl other
  · rintro ⟨piece, rest, rfl, fits⟩
    exact .many piece fits

theorem fitsWild_iff (ws : List Wildcard) (cs : Octets) : fitsWild ws cs = true ↔ Fits ws cs := by
  induction ws generalizing cs with
  | nil =>
    rw [fitsWild, List.isEmpty_iff]
    constructor
    · rintro rfl
      exact .nil
    · rintro ⟨⟩
      rfl
  | cons w ws ih =>
    by_cases other : w = .many
    · subst other
      rw [fitsWild, anyTail_iff, fits_many]
      simp only [ih]
    · cases cs with
      | nil =>
        rw [fitsWild_nil other]
        constructor
        · exact nofun
        · intro h
          generalize hcs : ([] : Octets) = text at h
          cases h with
          | many => exact absurd rfl other
          | one => cases hcs
      | cons c cs => rw [fitsWild_cons other, fits_cons other, Bool.and_eq_true, ih]

theorem Fits.append {vs ws : List Wildcard} {cs ds : Octets} (h : Fits vs cs) (h' : Fits ws ds) :
    Fits (vs ++ ws) (cs ++ ds) := by
  induction h with
  | nil => exact h'
  | many piece _ ih =>
    rw [List.append_assoc]
    exact .many piece ih
  | one other holds _ ih => exact .one other holds ih

theorem fits_append_iff (vs ws : List Wildcard) (cs : Octets) :
    Fits (vs ++ ws) cs ↔ ∃ front back, cs = front ++ back ∧ Fits vs front ∧ Fits ws back := by
  constructor
  · intro h
    induction vs generalizing cs with
    | nil => exact ⟨[], cs, rfl, .nil, h⟩
    | cons v vs ih =>
      cases h with
      | many piece fits =>
        obtain ⟨front, back, rfl, hv, hw⟩ := ih _ fits
        exact ⟨piece ++ front, back, (List.append_assoc ..).symm, .many piece hv, hw⟩
      | one other holds fits =>
        obtain ⟨front, back, rfl, hv, hw⟩ := ih _ fits
        exact ⟨_ :: front, back, rfl, .one other holds hv, hw⟩
  · rintro ⟨front, back, rfl, hv, hw⟩
    exact hv.append hw

theorem fits_chars_iff (ds cs : Octets) : Fits (ds.map .char) cs ↔ cs = ds := by
  induction ds generalizing cs with
  | nil =>
    constructor
    · rintro ⟨⟩
      rfl
    · rintro rfl
      exact .nil
  | cons d ds ih =>
    constructor
    · intro h
      cases h with
      | one _ holds fits => rw [(ih _).mp fits, beq_iff_eq.mp holds]
    · rintro rfl
      exact .one nofun (beq_self_eq_true d) ((ih ds).mpr rfl)

section
variable {test : Nat → Bool} {most : Nat} {last : Bool}

theorem mem_passing (n : Nat) :
    n ∈ (List.range (most + 1)).filter test ↔ n ≤ most ∧ test n = true := by
  rw [List.mem_filter, List.mem_range, Nat.lt_succ_iff]

/-- The first of the numbers up to `most` that pass a test is the least one, and the last is the
greatest. -/
theorem end_of_passing {n : Nat} (h : (if last then ((List.range (most + 1)).filter test).getLast?
    else ((List.range (most + 1)).filter test).head?) = some n) :
    n ≤ most ∧ test n = true ∧ ∀ m ≤ most, test m = true → if last then m ≤ n else n ≤ m := by
  have passes := fun n => @mem_passing test most n
  have ascending : ((List.range (most + 1)).filter test).Pairwise (· < ·) :=
    List.pairwise_lt_range.filter _
  generalize (List.range (most + 1)).filter test = ns at h passes ascending
  cases last with
  | false =>
    obtain ⟨rest, rfl⟩ := List.head?_eq_some_iff.mp h
    obtain ⟨small, pass⟩ := (passes n).mp (.head _)
    refine ⟨small, pass, fun m hm ht => ?_⟩
    obtain rfl | hm := List.mem_cons.mp ((passes m).mpr ⟨hm, ht⟩)
    · exact Nat.le_refl _
    · exact Nat.le_of_lt (List.rel_of_pairwise_cons ascending hm)
  | true =>
    obtain ⟨front, rfl⟩ := List.getLast?_eq_some_iff.mp h
    obtain ⟨small, pass⟩ := (passes n).mp (by simp)
    refine ⟨small, pass, fun m hm ht => ?_⟩
    obtain hm | hm := List.mem_append.mp ((passes m).mpr ⟨hm, ht⟩)
    · exact Nat.le_of_lt ((List.pairwise_append.mp ascending).2.2 m hm n (by simp))
    · exact Nat.le_of_eq (List.mem_singleton.mp hm)

theorem none_passes (h : (if last then ((List.range (most + 1)).filter test).getLast?
    else ((List.range (most + 1)).filter test).head?) = none) {m : Nat} (hm : m ≤ most) :
    test m = false := by
  have empty : (List.range (most + 1)).filter test = [] := by
    cases last with
    | false => exact List.head?_eq_none_iff.mp h
    | true => exact List.getLast?_eq_none_iff.mp h
  cases pass : test m with
  | false => rfl
  | true =>
    have member := (mem_passing m).mpr ⟨hm, pass⟩
    rw [empty] at member
    cases member

end

section
variable (ws : List Wildcard) (longest : Bool) (cs : Octets)

/-- What is trimmed off the front fits, and no shorter or longer front does. Nothing is
trimmed off if no front fits. -/
theorem trimFront_takes :
    (∃ front, cs = front ++ trimFront ws longest cs ∧ Fits ws front ∧
      ∀ other, other <+: cs → Fits ws other →
        if longest then other.length ≤ front.length else front.length ≤ other.length) ∨
    trimFront ws longest cs = cs ∧ ∀ front, front <+: cs → ¬ Fits ws front := by
  have fitting {front : Octets} (hf : front <+: cs) (h : Fits ws front) :
      fitsWild ws (cs.take front.length) = true := by
    rwa [fitsWild_iff, ← List.prefix_iff_eq_take.mp hf]
  unfold trimFront
  dsimp only
  split
  · next n hn =>
    obtain ⟨short, fits, extreme⟩ := end_of_passing hn
    refine .inl ⟨cs.take n, (List.take_append_drop n cs).symm, (fitsWild_iff _ _).mp fits, ?_⟩
    intro other ho hw
    rw [List.length_take, Nat.min_eq_left short]
    exact extreme _ ho.length_le (fitting ho hw)
  · next hn =>
    refine .inr ⟨rfl, fun front hf h => ?_⟩
    exact Bool.eq_false_iff.mp (none_passes hn hf.length_le) (fitting hf h)

/-- What is trimmed off the back fits, and no shorter or longer back does. Nothing is
trimmed off if no back fits. -/
theorem trimBack_takes :
    (∃ back, cs = trimBack ws longest cs ++ back ∧ Fits ws back ∧
      ∀ other, other <:+ cs → Fits ws other →
        if longest then other.length ≤ back.length else back.length ≤ other.length) ∨
    trimBack ws longest cs = cs ∧ ∀ back, back <:+ cs → ¬ Fits ws back := by
  have fitting {back : Octets} (hb : back <:+ cs) (h : Fits ws back) :
      fitsWild ws (cs.drop (cs.length - back.length)) = true := by
    rwa [fitsWild_iff, ← List.suffix_iff_eq_drop.mp hb]
  have other_end {α : Type} (a b : α) : (if !longest then a else b) = if longest then b else a := by
    cases longest <;> rfl
  unfold trimBack
  dsimp only
  split
  · next n hn =>
    obtain ⟨short, fits, extreme⟩ := end_of_passing ((other_end _ _).trans hn)
    refine .inl ⟨cs.drop n, (List.take_append_drop n cs).symm, (fitsWild_iff _ _).mp fits, ?_⟩
    intro other ho hw
    have far := extreme _ (Nat.sub_le _ _) (fitting ho hw)
    have least := ho.length_le
    rw [other_end] at far
    rw [List.length_drop]
    by_cases long : longest = true
    · rw [if_pos long] at far ⊢
      omega
    · rw [if_neg long] at far ⊢
      omega
  · next hn =>
    refine .inr ⟨rfl, fun back hb h => ?_⟩
    exact Bool.eq_false_iff.mp (none_passes ((other_end _ _).trans hn) (Nat.sub_le _ _))
      (fitting hb h)

end

end DocBraces.Tools
