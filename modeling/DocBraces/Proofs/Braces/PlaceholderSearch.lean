import DocBraces.Proofs.Braces.Placeholder
import DocBraces.Proofs.Pattern.Searching

/-!
# Searching for placeholders

The search that a codec makes with its two patterns rewrites placeholders from the left.
It may give up near the end of a line, where no placeholder has room any more.
-/

set_option autoImplicit false

namespace DocBraces

open DocBraces.Text DocBraces.Pattern

def Takes (e : Expr) (b : Placeholder) : Prop :=
  ∀ k g, Leaves k g → Leaves (fun p s => e.run false none p s k) (b.leftover g)

namespace Placeholder

variable (b : Placeholder)

theorem length_of_width (text : List Char) (h : b.width text ≠ 0) :
    2 * b.depth + 1 ≤ text.length := by
  obtain ⟨content, rest, hc, rfl⟩ := b.exists_word text h
  have hx : 0 < content.length := List.length_pos_iff.mpr hc.1
  rw [List.length_append, word_length]
  omega

theorem spanAt_takes (e : Expr) (h : Takes e b) (before text : List Char) :
    e.spanAt before text = b.width text := by
  have hpos (text rest : List Char) (hl : b.leftover some text = some rest) :
      rest.length < text.length := by
    obtain ⟨content, hc, rfl⟩ := (b.leftover_some text rest).mp hl
    have hword := b.word_pos content
    rw [List.length_append]
    omega
  exact spanAt_eq_width e (b.leftover some) (fun k hk => h k some hk) hpos before text

theorem rewriteFrom_eq_by (f : Char → Char) (n : ℕ) (text : List Char) :
    b.rewriteFrom f n text = rewriteBy b.width f n text := by
  induction text generalizing n with
  | nil => cases n <;> rfl
  | cons c cs ih =>
    cases n with
    | succ n => exact congrArg _ (ih n)
    | zero =>
      rw [rewriteFrom, rewriteBy]
      cases b.width (c :: cs) with
      | zero => exact congrArg _ (ih 0)
      | succ n => exact congrArg _ (ih n)

theorem rewrite_takes (e : Expr) (h : Takes e b) (hleast : e.leastLength ≤ 2 * b.depth + 1)
    (f : Char → Char) (text : List Char) : e.rewrite f text = b.rewrite f text := by
  have hroom (text : List Char) (hw : b.width text ≠ 0) : e.leastLength ≤ text.length :=
    hleast.trans (b.length_of_width text hw)
  rw [rewrite_eq_by (b.spanAt_takes e h) hroom, rewrite, rewriteFrom_eq_by]

theorem holds_excluding (cs : List Char) (c : Char) :
    (CharClass.excluding cs).holds {} c = !cs.contains c := by
  have hany := CharClass.any_ofChars {} cs c
  simp_all [CharClass.holds, CharClass.lists, CharClass.excluding]

/-- Doubled braces around a text without braces. -/
def doubled (a : Alphabet) : Placeholder where
  braces := a
  depth := 2
  inside := (CharClass.excluding a.chars).holds {}
  depth_pos := by decide
  opening_outside := by simp [holds_excluding, Alphabet.chars]
  closing_outside := by simp [holds_excluding, Alphabet.chars]

theorem doublePlaceholder_takes (a : Alphabet) : Takes (doublePlaceholder a) (doubled a) := by
  intro k g h
  have hclose := exactly_leaves a.closing false none k g h
  have hcloses := exactly_leaves a.closing false (some ({}, CharClass.ofChar a.closing)) _ _ hclose
  have hrounds := rounds_leave (CharClass.excluding a.chars) a.closing false _ _ hcloses
  exact exactly_leaves a.opening false none _ _ (exactly_leaves a.opening false none _ _ hrounds)

theorem doublePlaceholder_rewrite (a : Alphabet) (f : Char → Char) (text : List Char) :
    (doublePlaceholder a).rewrite f text = (doubled a).rewrite f text :=
  rewrite_takes _ _ (doublePlaceholder_takes a) (le_refl 5) f text

end Placeholder

namespace Codec

/-- The placeholders of a codec are written with the characters of a class. -/
def Uses (k : Codec) (cls : CharClass) : Prop :=
  k.single = .seq (.seq (exactly k.ascii.opening) (.rounds .greedy 1 none (.one {} cls)))
    (exactly k.ascii.closing)

theorem single_leaves (k : Codec) {cls : CharClass} (hk : k.Uses cls) {r : Rest} {g : Leftover}
    (h : Leaves r g) : Leaves (fun p s => k.single.run false none p s r)
      (Leftover.char k.ascii.opening
        ((Leftover.char k.ascii.closing g).rounds (cls.holds {}))) := by
  rw [hk]
  have hclose := exactly_leaves k.ascii.closing false none r g h
  have hrounds := rounds_leave cls k.ascii.closing false _ _ hclose
  exact exactly_leaves k.ascii.opening false none _ _ hrounds

end Codec

namespace Placeholder

/-- Single braces around characters of a class without these braces. -/
def single (a : Alphabet) (cls : CharClass) (ho : cls.holds {} a.opening = false)
    (hc : cls.holds {} a.closing = false) : Placeholder where
  braces := a
  depth := 1
  inside := cls.holds {}
  depth_pos := by decide
  opening_outside := ho
  closing_outside := hc

theorem single_takes (k : Codec) (cls : CharClass) (hk : k.Uses cls)
    (ho : cls.holds {} k.ascii.opening = false) (hc : cls.holds {} k.ascii.closing = false) :
    Takes k.single (single k.ascii cls ho hc) :=
  fun _ _ h => k.single_leaves hk h

theorem single_rewrite (k : Codec) (cls : CharClass) (hk : k.Uses cls)
    (ho : cls.holds {} k.ascii.opening = false) (hc : cls.holds {} k.ascii.closing = false)
    (f : Char → Char) (text : List Char) :
    k.single.rewrite f text = (single k.ascii cls ho hc).rewrite f text := by
  refine rewrite_takes _ _ (single_takes k cls hk ho hc) ?_ f text
  rw [hk]
  exact le_refl 3

end Placeholder

end DocBraces
