import DocBraces.Proofs.Braces.Enclosed
import DocBraces.Proofs.Braces.Resanitizing

/-!
# The placeholder policy

The characters of a placeholder are meant as the inside of a class. Where they enclose
one, nothing but words of this class in single braces is rewritten. A codec is built for
other texts too, and then takes whatever their pattern takes.
-/

set_option autoImplicit false

namespace DocBraces

open DocBraces.Text DocBraces.Pattern

/-- One or more characters of a set between single braces. -/
def BracedWord (a : Alphabet) (C : Char → Prop) (word : List Char) : Prop :=
  ∃ content, content ≠ [] ∧ (∀ c ∈ content, C c) ∧ word = a.opening :: content ++ [a.closing]

/-- A line, and what it becomes where only words of one kind are rewritten: from the left,
characters that stay, and words of which each character is replaced. -/
inductive OnlyRewrites (words : List Char → Prop) (f : Char → Char) :
    List Char → List Char → Prop
  | nil : OnlyRewrites words f [] []
  | keep (c : Char) {row out : List Char} (h : OnlyRewrites words f row out) :
      OnlyRewrites words f (c :: row) (c :: out)
  | word {word row out : List Char} (hword : words word) (h : OnlyRewrites words f row out) :
      OnlyRewrites words f (word ++ row) (word.map f ++ out)

theorem OnlyRewrites.eq_self {a : Alphabet} {C : Char → Prop} {f : Char → Char}
    {row out : List Char} (h : OnlyRewrites (BracedWord a C) f row out) (hrow : a.closing ∉ row) :
    out = row := by
  induction h with
  | nil => rfl
  | keep c h ih => rw [ih fun hmem => hrow (List.mem_cons_of_mem c hmem)]
  | word hword h ih =>
    obtain ⟨content, _, _, rfl⟩ := hword
    exact absurd (by simp) hrow

theorem rewriteFrom_within (e : Expr) (f : Char → Char) (before covered rest : List Char) :
    e.rewriteFrom f before (Stage.within covered.length) (covered ++ rest) =
      covered.map f ++ e.rewriteFrom f (covered.reverse ++ before) .fresh rest := by
  induction covered generalizing before with
  | nil => rfl
  | cons c cs ih =>
    have hstep : e.rewriteFrom f before (Stage.within (cs.length + 1)) (c :: (cs ++ rest)) =
        f c :: e.rewriteFrom f (c :: before) (Stage.within cs.length) (cs ++ rest) := rfl
    rw [List.length_cons, List.cons_append, hstep, ih, List.reverse_cons, List.append_assoc]
    rfl

/-- A pattern that takes nothing but words of one kind rewrites only these. -/
theorem rewrite_only {words : List Char → Prop} (e : Expr) (f : Char → Char)
    (h : ∀ before text, e.spanAt before text ≠ 0 →
      ∃ word rest, words word ∧ text = word ++ rest ∧ word.length = e.spanAt before text)
    (row : List Char) : OnlyRewrites words f row (e.rewrite f row) := by
  have hfrom (before : List Char) (stage : Stage) (hstage : ∀ n, stage ≠ .inside n) :
      OnlyRewrites words f row (e.rewriteFrom f before stage row) := by
    induction hn : row.length using Nat.strong_induction_on generalizing before stage row with
    | _ n ih =>
      cases row with
      | nil =>
        cases stage <;> exact .nil
      | cons c cs =>
        have hshorter (row : List Char) (hrow : row.length ≤ cs.length) : row.length < n := by
          rw [← hn, List.length_cons]
          omega
        have hended : OnlyRewrites words f (c :: cs)
            (c :: e.rewriteFrom f (c :: before) .ended cs) :=
          .keep c (ih _ (hshorter cs (le_refl _)) cs (c :: before) .ended (by simp) rfl)
        have hseeking : OnlyRewrites words f (c :: cs)
            (e.rewriteFrom f before .seeking (c :: cs)) := by
          simp only [Expr.rewriteFrom, Stage.enter]
          cases hspan : e.spanAt before (c :: cs) with
          | zero => exact .keep c (ih _ (hshorter cs (le_refl _)) cs (c :: before) .seeking (by simp) rfl)
          | succ m =>
            obtain ⟨word, rest, hword, htext, hlength⟩ := h before (c :: cs) (by simp [hspan])
            rw [hspan] at hlength
            obtain ⟨d, ds, rfl⟩ := List.exists_cons_of_length_eq_add_one hlength
            rw [List.cons_append] at htext
            obtain ⟨rfl, rfl⟩ := List.cons.inj htext
            obtain rfl : ds.length = m := Nat.succ_injective hlength
            dsimp only
            rw [rewriteFrom_within]
            exact .word hword (ih _ (hshorter rest (by simp)) rest _ .fresh (by simp) rfl)
        cases stage with
        | fresh =>
          rw [Expr.rewriteFrom, Stage.enter]
          by_cases hlong : ((c :: cs).take e.leastLength).length = e.leastLength
          · rw [if_pos hlong]
            exact hseeking
          · rw [if_neg hlong]
            exact hended
        | seeking => exact hseeking
        | inside m => exact absurd rfl (hstage m)
        | ended => exact hended
  exact hfrom [] .fresh (by simp)

def usesLeftover (a : Alphabet) (cls : CharClass) : Leftover :=
  Leftover.char a.opening ((Leftover.char a.closing some).rounds (cls.holds {}))

theorem usesLeftover_some (a : Alphabet) (cls : CharClass) (text rest : List Char)
    (h : usesLeftover a cls text = some rest) :
    ∃ word, BracedWord a (cls.holds {} · = true) word ∧ text = word ++ rest := by
  obtain ⟨more, rfl, hrounds⟩ := (char_iterate_some a.opening 1 _ text rest).mp h
  obtain ⟨content, last, hne, hall, rfl, hlast⟩ := exists_of_rounds _ _ _ _ hrounds
  obtain ⟨final, rfl, hfinal⟩ := (char_iterate_some a.closing 1 some last rest).mp hlast
  obtain rfl : final = rest := Option.some.inj hfinal
  exact ⟨_, ⟨content, hne, hall, rfl⟩, by simp⟩

/-- Length of the word of a class in single braces that is taken of a text, zero if there is
none. -/
def wordWidth (a : Alphabet) (cls : CharClass) : List Char → ℕ := (usesLeftover a cls).width

theorem spanAt_wordWidth {k : Codec} {cls : CharClass} (hk : k.Uses cls)
    (before text : List Char) : k.single.spanAt before text = wordWidth k.ascii cls text := by
  refine spanAt_eq_width k.single _ (fun r hr => k.single_leaves hk hr) ?_ before text
  intro text rest hleft
  obtain ⟨word, ⟨content, _, _, rfl⟩, rfl⟩ := usesLeftover_some _ _ _ _ hleft
  simp
  omega

theorem exists_braced (a : Alphabet) (cls : CharClass) (text : List Char)
    (h : wordWidth a cls text ≠ 0) :
    ∃ word rest, BracedWord a (cls.holds {} · = true) word ∧ text = word ++ rest ∧
      word.length = wordWidth a cls text := by
  cases hleft : usesLeftover a cls text with
  | none => simp [wordWidth, Leftover.width, hleft] at h
  | some rest =>
    obtain ⟨word, hword, rfl⟩ := usesLeftover_some _ _ _ _ hleft
    exact ⟨word, rest, hword, rfl, (Leftover.width_append _ word rest hleft).symm⟩

/-- What a codec that uses a class takes at a place is a word of this class. -/
theorem spanAt_uses {k : Codec} {cls : CharClass} (hk : k.Uses cls) (before text : List Char)
    (h : k.single.spanAt before text ≠ 0) :
    ∃ word rest, BracedWord k.ascii (cls.holds {} · = true) word ∧ text = word ++ rest ∧
      word.length = k.single.spanAt before text := by
  rw [spanAt_wordWidth hk] at h ⊢
  exact exists_braced k.ascii cls text h

namespace Codec

/-- A codec that is built takes single braces around characters of a class for placeholders
exactly if its characters for placeholders enclose a class. Then it rewrites nothing but
words of this class in single braces. -/
theorem build_uses_iff (a b : Alphabet) (p : String) (k : Codec) (h : build a b p = .ok k) :
    ((∃ cls, k.Uses cls) ↔ Encloses p.toList) ∧
    ∀ cls, k.Uses cls → ∀ row,
      OnlyRewrites (BracedWord k.ascii (cls.holds {} · = true)) k.swapChar row
        (k.single.rewrite k.swapChar row) :=
  ⟨uses_iff_encloses h, fun _ hk row => rewrite_only k.single k.swapChar (spanAt_uses hk) row⟩

/-- The default codec uses a class, and rewrites words of this class only. -/
theorem build_uses_default : build .ascii .fullwidth defaultPlaceholder = .ok Codec.default ∧
    (∃ cls, Codec.default.Uses cls) ∧ Encloses defaultPlaceholder.toList ∧
    OnlyRewrites (BracedWord .ascii (defaultClass.holds {} · = true)) Codec.default.swapChar
      "\x7ba\x7d \x7b \x7d".toList
      (Codec.default.single.rewrite Codec.default.swapChar "\x7ba\x7d \x7b \x7d".toList) := by
  have huses : Codec.default.Uses defaultClass := rfl
  have hpolicy := build_uses_iff .ascii .fullwidth defaultPlaceholder Codec.default build_default
  exact ⟨build_default, ⟨defaultClass, huses⟩, hpolicy.1.mp ⟨defaultClass, huses⟩,
    hpolicy.2 defaultClass huses _⟩

/-- The codec for a text that closes the class early, begins another alternative and opens a
class again. -/
def ofAlternatives : Codec where
  ascii := .ascii
  substitute := .fullwidth
  disjoint := Codec.default.disjoint
  placeholder := "a]|[b"
  single := .alt (.seq (exactly '\x7b') (exactly 'a')) <|
    .alt (.seq (.rounds .greedy 1 none (exactly 'b')) (exactly '\x7d')) .never

/-- It is built, and rewrites an opening brace before a letter all by itself. -/
theorem build_accepts_alternatives :
    build .ascii .fullwidth "a]|[b" = .ok ofAlternatives ∧
    ofAlternatives.sanitizeProse "\x7ba".toList = "\uff5ba".toList ∧
    ¬Encloses "a]|[b".toList ∧ (¬∃ cls, ofAlternatives.Uses cls) ∧
    ¬∃ C : Char → Prop, ∀ row, OnlyRewrites (BracedWord ofAlternatives.ascii C)
      ofAlternatives.swapChar row (ofAlternatives.single.rewrite ofAlternatives.swapChar row) := by
  have hparse : parse (placeholderText .ascii "a]|[b") = .ok ofAlternatives.single := by
    decide +kernel
  have hapart : Alphabet.ascii.isApart .fullwidth = true := by decide
  have hbuild : build .ascii .fullwidth "a]|[b" = .ok ofAlternatives := by
    simp only [build, hapart, dif_pos, hparse]
    rfl
  have hloose : ¬Encloses "a]|[b".toList := by decide
  refine ⟨hbuild, by decide +kernel, hloose, mt (uses_iff_encloses hbuild).mp hloose, ?_⟩
  rintro ⟨C, hC⟩
  have hsame := (hC "\x7ba".toList).eq_self (by decide)
  revert hsame
  decide +kernel

end Codec

end DocBraces
