import DocBraces.Proofs.Pattern.Leftover

/-!
# Rows of tests and rounds

A plain pattern is a row of tests and of greedy rounds of one test. What its match leaves
over is put together from its parts, whatever way the row is bracketed, and a place at which
the known next character does not stand is passed over for good reason. The rounds give back
what they took, so that such a pattern matches wherever the text can be cut as its parts want.
-/

set_option autoImplicit false

namespace DocBraces.Pattern

open DocBraces.Text

def Leftover.test (t : Char → Bool) (g : Leftover) : Leftover
  | [] => none
  | c :: cs => if t c then g cs else none

theorem test_isSome (t : Char → Bool) (g : Leftover) (text : List Char) :
    (g.test t text).isSome = true ↔
      ∃ c rest, text = c :: rest ∧ t c = true ∧ (g rest).isSome = true := by
  cases text with
  | nil => simp [Leftover.test]
  | cons c cs =>
    have hcut (c' : Char) (rest : List Char) : c :: cs = c' :: rest ↔ c' = c ∧ rest = cs := by
      rw [List.cons.injEq, eq_comm, @eq_comm _ cs]
    by_cases hc : t c = true <;> simp [Leftover.test, hc, hcut, and_assoc]

theorem roundsFrom_isSome (t : Char → Bool) (g : Leftover) (text : List Char) :
    (g.roundsFrom 0 t text).isSome = true ↔
      ∃ taken rest, text = taken ++ rest ∧ (∀ c ∈ taken, t c = true) ∧
        (g rest).isSome = true := by
  simp only [Leftover.roundsFrom, Nat.add_zero, Nat.sub_zero, List.findSome?_isSome_iff,
    List.mem_reverse, List.mem_range, Nat.lt_succ_iff]
  constructor
  · rintro ⟨n, hn, hg⟩
    refine ⟨text.take n, text.drop n, (List.take_append_drop _ _).symm, fun c hc => ?_, hg⟩
    have hfirst : text.take n <+: text.takeWhile t :=
      List.prefix_of_prefix_length_le (List.take_prefix _ _) (List.takeWhile_prefix _)
        (by rw [List.length_take]; omega)
    exact List.mem_takeWhile_imp (hfirst.subset hc)
  · rintro ⟨taken, rest, rfl, hall, hg⟩
    refine ⟨taken.length, ?_, by rwa [List.drop_left]⟩
    rw [List.takeWhile_append_of_pos hall, List.length_append]
    exact Nat.le_add_right _ _

namespace Expr

def isPlain : Expr → Bool
  | empty => true
  | one _ _ => true
  | seq a b => a.isPlain && b.isPlain
  | rounds .greedy _ none (one _ _) => true
  | _ => false

def turn : Expr → Leftover → Leftover
  | empty, g => g
  | one m cls, g => g.test (cls.holds m)
  | seq a b, g => a.turn (b.turn g)
  | rounds .greedy least none (one m cls), g => g.roundsFrom least (cls.holds m)
  | _, _ => fun _ => none

def parts : Expr → List Expr
  | empty => []
  | seq a b => a.parts ++ b.parts
  | e => [e]

theorem isPlain_eq_parts (e : Expr) : e.isPlain = e.parts.all isPlain := by
  induction e with
  | empty => rfl
  | seq a b iha ihb => rw [isPlain, iha, ihb, parts, List.all_append]
  | _ => simp [parts]

theorem turn_eq_parts (e : Expr) (g : Leftover) : e.turn g = e.parts.foldr turn g := by
  induction e generalizing g with
  | empty => rfl
  | seq a b iha ihb => rw [turn, iha, ihb, parts, List.foldr_append]
  | _ => rfl

end Expr

def Expects (next : Option (Mode × CharClass)) (g : Leftover) : Prop :=
  ∀ m cls, next = some (m, cls) → ∀ text : List Char,
    text.head?.any (cls.holds m) = false → g text = none

theorem expects_none (g : Leftover) : Expects none g := fun _ _ h => nomatch h

theorem leadingUnit_expects {e : Expr} (plain : e.isPlain = true)
    {next : Option (Mode × CharClass)} {g : Leftover} (h : Expects next g) :
    Expects (e.leadingUnit? next) (e.turn g) := by
  induction e generalizing next g with
  | empty => exact h
  | one m cls =>
    intro m' cls' hm text htext
    obtain ⟨rfl, rfl⟩ : m = m' ∧ cls = cls' := by simpa [Expr.leadingUnit?] using hm
    cases text with
    | nil => rfl
    | cons c cs => simp_all [Expr.turn, Leftover.test]
  | seq a b iha ihb =>
    obtain ⟨ha, hb⟩ := (Bool.and_eq_true_iff).mp plain
    exact iha ha (ihb hb h)
  | rounds => exact expects_none _
  | _ => cases plain

theorem literal_holds {m : Mode} {cls : CharClass} {n : ℕ} (h : cls.literal? m = some n)
    (c : Char) : cls.holds m c = (n == c.toNat) := by
  unfold CharClass.literal? at h
  split at h
  · next hneg hitems =>
    split at h
    · cases h
    · next hcased =>
      obtain rfl := Option.some.inj h
      rw [CharClass.holds, hneg, Bool.bne_false, CharClass.lists, hitems]
      cases hi : m.ignoreCase with
      | false => simp [ClassItem.holds]
      | true => simp_all
  · cases h

theorem Expects.passes {next : Option (Mode × CharClass)} {g : Leftover} (h : Expects next g)
    (q : Cursor) (hq : ((next.bind fun (m, cls) => cls.literal? m).any fun n =>
      (q.after.head?.map Char.toNat) != some n) = true) : g q.after = none := by
  obtain ⟨n, hn, hne⟩ := (Option.any_eq_true _ _).mp hq
  obtain ⟨⟨m, cls⟩, rfl, hliteral⟩ := Option.bind_eq_some_iff.mp hn
  refine h m cls rfl _ ?_
  cases hq' : q.after with
  | nil => rfl
  | cons c cs =>
    have hother : n ≠ c.toNat := by
      rintro rfl
      simp [hq'] at hne
    simpa [literal_holds hliteral] using hother

theorem rounds_plain {greed : Greed} {least : ℕ} {most : Option ℕ} {body : Expr}
    (plain : (Expr.rounds greed least most body).isPlain = true) :
    greed = .greedy ∧ most = none ∧ ∃ m cls, body = .one m cls := by
  unfold Expr.isPlain at plain
  split at plain <;> simp_all

/-- A plain pattern leaves over what its parts leave over, one behind the other. -/
theorem plain_leaves {e : Expr} (plain : e.isPlain = true) (r : Bool)
    {next : Option (Mode × CharClass)} {k : Rest} {g : Leftover} (h : Leaves k g)
    (expected : Expects next g) : Leaves (fun p s => e.run r next p s k) (e.turn g) := by
  induction e generalizing next k g with
  | empty => exact h
  | one m cls =>
    intro p s
    simp only [Expr.run, Expr.turn]
    cases hp : p.after with
    | nil => rfl
    | cons c cs =>
      by_cases hc : cls.holds m c = true
      · simpa [Leftover.test, hc] using h ⟨c :: p.before, cs⟩ s
      · simp [Leftover.test, hc, Outcome.left?]
  | seq a b iha ihb =>
    obtain ⟨ha, hb⟩ := (Bool.and_eq_true_iff).mp plain
    exact iha ha (ihb hb h expected) (leadingUnit_expects hb expected)
  | rounds greed least most body _ =>
    obtain ⟨rfl, rfl, m, cls, rfl⟩ := rounds_plain plain
    exact greedy_leave_next m cls least next r k g h (expected.passes)
  | _ => cases plain

end DocBraces.Pattern
