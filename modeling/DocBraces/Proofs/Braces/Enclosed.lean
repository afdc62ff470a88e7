import DocBraces.Proofs.Braces.PatternEnd
import DocBraces.Proofs.Braces.PlaceholderSearch

/-!
# What the placeholder of a codec is read as

The characters of a placeholder are put between brackets as they come. If they enclose a
class, the pattern is an opening brace, the class once or more, and a closing brace. If
not, the class ends early, and what follows makes the pattern another one.
-/

set_option autoImplicit false

namespace DocBraces

open DocBraces.Text DocBraces.Pattern

open Reading in
theorem parse_ok {text : List Char} {expr : Expr} (h : parse text = .ok expr) :
    ∃ row s, (alternatives (3 * text.length + 4) {} []).run
        { rest := tokensFrom 0 text, size := text.length } = .ok (row, s) ∧
      s.rest = [] ∧ expr = Item.join row := by
  unfold parse at h
  cases hwhole : whole.run { rest := tokensFrom 0 text, size := text.length } with
  | error f =>
    rw [hwhole] at h
    cases h
  | ok ending =>
    obtain ⟨expr', last⟩ := ending
    rw [hwhole] at h
    obtain rfl : expr' = expr := by simpa [Except.map] using h
    unfold whole at hwhole
    rw [get_bind] at hwhole
    obtain ⟨_, s₁, hstart, h₁⟩ := ok_of_bind hwhole
    obtain rfl := continueWith_ok hstart
    obtain ⟨row, s₂, hrow, h₂⟩ := ok_of_bind h₁
    refine ⟨row, s₂, hrow, ?_⟩
    obtain ⟨seen, s₃, hpeek, h₃⟩ := ok_of_bind h₂
    cases hpeek
    split at h₃
    · next hnone =>
      refine ⟨by simpa using hnone, ?_⟩
      rw [get_bind] at h₃
      obtain ⟨_, s₄, _, h₄⟩ := ok_of_bind h₃
      by_cases hloose : s₂.loose = true
      · rw [if_pos hloose] at h₄
        cases h₄
      · rw [if_neg hloose] at h₄
        by_cases hwide : s₂.wide = true
        · rw [if_pos hwide] at h₄
          cases h₄
        · rw [if_neg hwide] at h₄
          cases h₄
          rfl
    · cases h₃

theorem join_concat (front : List Item) (i : Item) (h : front ≠ []) :
    Item.join (front ++ [i]) = .seq (Item.join front) i.expr := by
  obtain ⟨j, js, rfl⟩ := List.exists_cons_of_ne_nil h
  simp [Item.join, Expr.ofRow]

theorem join_alt_ne (shared : List Item) (first others before : Expr) (c : Char) :
    Item.join (shared ++ [{ expr := .alt first others }]) ≠ .seq before (exactly c) := by
  cases shared with
  | nil => exact nofun
  | cons i is =>
    rw [join_concat _ _ (by simp)]
    exact nofun

/-- A row of four items or more does not begin with one character before the last two. -/
theorem join_long_ne (front : List Item) (i j : Item) (o : Char) (second third : Expr)
    (h : 2 ≤ front.length) :
    Item.join (front ++ [i, j]) ≠ .seq (.seq (exactly o) second) third := by
  obtain ⟨k, ks, rfl⟩ := List.exists_cons_of_length_pos (Nat.lt_of_lt_of_le Nat.zero_lt_two h)
  obtain ⟨init, last, hks⟩ : ∃ init last, ks = init ++ [last] := by
    refine ⟨ks.dropLast, ks.getLast ?_, (List.dropLast_concat_getLast _).symm⟩
    rintro rfl
    simp at h
  intro heq
  rw [List.append_cons, join_concat _ _ (by simp), join_concat _ _ (by simp)] at heq
  injection heq with hfront _
  injection hfront with hfirst _
  rw [hks, ← List.cons_append, join_concat _ _ (by simp)] at hfirst
  cases hfirst

theorem read_class {fuel : ℕ} {done parts : List Part} {t : Token} {s s' : Reader}
    (ht : t.text = ['[']) (h : Reading.ItemRead fuel done t s parts s') :
    ∃ cls, parts = .ofExpr (.one {} cls) :: done ∧
      (Reading.charClass t.position).run s = .ok (cls, s') := by
  cases h with
  | cls _ hcls => exact ⟨_, rfl, hcls⟩
  | escape htext _ => simp [ht] at htext
  | group htext _ => simp [ht] at htext
  | rounds htext hc _ _ =>
    rw [ht] at htext
    cases htext
    cases hc
  | brace htext hc _ =>
    rw [ht] at htext
    cases htext
    cases hc
  | sign htext hc =>
    rw [ht] at htext
    cases htext
    cases hc
  | nothing hone _ => exact absurd ht (hone '[')

/-- The tokens of a placeholder's pattern, with the inside of its brackets and the bracket
that closes them in the middle. -/
theorem tokensFrom_placeholder (a : Alphabet) (p : String) :
    ∃ (bracket : Token) (front : List Token) (e : PatternEnd a.closing) (n : ℕ),
      bracket.text = ['['] ∧
      tokensFrom 0 (placeholderText a p) =
        ⟨literally a.opening, 0⟩ :: bracket :: (front ++ e.tokens) ∧
      tokensFrom n (p.toList ++ [']']) = front ++ [e.bracket] := by
  have hopening := tokensFrom_literally 0 a.opening
    ('[' :: (p.toList ++ ']' :: '+' :: literally a.closing))
  generalize 0 + (literally a.opening).length = n at hopening
  obtain ⟨front, last, hfront, hlast⟩ := tokensFrom_closed (n + 1) p.toList
  have hclosing := tokensFrom_literally (n + 1 + p.toList.length + 1 + 1) a.closing []
  rw [List.append_nil] at hclosing
  refine ⟨⟨['['], n⟩, front,
    { bracket := last, plus := ⟨['+'], n + 1 + p.toList.length + 1⟩,
      brace := ⟨literally a.closing, n + 1 + p.toList.length + 1 + 1⟩,
      bracket_text := hlast, plus_text := rfl, brace_text := rfl }, n + 1, rfl, ?_, hfront⟩
  rw [placeholderText, List.append_assoc, List.cons_append, hopening,
    tokensFrom_cons n '[' _ (by decide), tokensFrom_bracket, hfront,
    tokensFrom_cons _ '+' _ (by decide), hclosing, PatternEnd.tokens, List.append_assoc]
  rfl

/-- The characters of a placeholder enclose a class if the bracket behind them closes it. -/
theorem encloses_iff {c : Char} (e : PatternEnd c) {p : List Char} {n : ℕ} {front left : List Token}
    (hp : tokensFrom n (p ++ [']']) = front ++ [e.bracket])
    (h : classEnd? (texts (front ++ e.tokens)) = some (texts left)) :
    Encloses p ↔ left.length = 2 := by
  have hback : ∀ t ∈ texts [e.plus, e.brace], t ≠ [']'] := by
    intro t ht
    obtain rfl | rfl : t = e.plus.text ∨ t = e.brace.text := by simpa [texts] using ht
    · simp [e.plus_text]
    · rw [e.brace_text]
      exact literally_ne c ']' (by decide)
  have hsplit : texts (front ++ e.tokens) = texts (front ++ [e.bracket]) ++
      texts [e.plus, e.brace] := by
    simp [texts, PatternEnd.tokens]
  rw [hsplit, classEnd?_append _ _ (by simp [texts]) hback] at h
  obtain ⟨inner, hinner, heq⟩ := Option.map_eq_some_iff.mp h
  have hlength := congrArg List.length heq
  rw [Encloses, texts_tokensFrom 0 n, hp, hinner, Option.some.injEq]
  simp only [texts, List.length_append, List.length_map, List.length_cons, List.length_nil]
    at hlength
  rw [← List.length_eq_zero_iff]
  omega

open Reading in
/-- What the pattern of a placeholder is read as tells whether its characters enclose a
class. -/
theorem parse_placeholder {a : Alphabet} {p : String} {expr : Expr}
    (h : parse (placeholderText a p) = .ok expr) :
    (∃ cls, expr = .seq (.seq (exactly a.opening) (.rounds .greedy 1 none (.one {} cls)))
      (exactly a.closing)) ↔ Encloses p.toList := by
  obtain ⟨row, s, hrow, hnil, rfl⟩ := parse_ok h
  obtain ⟨bracket, front, e, n, hbracket, htokens, hp⟩ := tokensFrom_placeholder a p
  obtain ⟨first, mid, hfirst, hnext⟩ := alternatives_step hrow
  obtain ⟨parts, s₁, hopening, h₁⟩ := items_step htokens (literally_ne _ _ (by decide))
    (literally_ne _ _ (by decide)) hfirst
  obtain ⟨rfl, rfl⟩ := PatternEnd.read_literally rfl hopening
  obtain ⟨parts, s₂, hclass, h₂⟩ := items_step rfl (by simp [hbracket]) (by simp [hbracket]) h₁
  obtain ⟨cls, rfl, hcls⟩ := read_class hbracket hclass
  rw [encloses_iff e hp (charClass_leaves hcls)]
  rcases e.charClass_short hcls ⟨front, rfl⟩ with ⟨left, hleft⟩ | hleft
  · have hlong : s₂.rest.length ≠ 2 := by
      rw [hleft, List.length_append]
      simp only [PatternEnd.tokens, List.length_cons, List.length_nil]
      omega
    refine iff_of_false ?_ hlong
    rintro ⟨other, hother⟩
    have hstops := e.items_stops ⟨left, hleft⟩ h₂
    rcases hnext with ⟨t, ts, hmid, ht, hmore⟩ | ⟨rfl, rfl⟩
    · obtain ⟨shared, one, others, rfl⟩ :=
        e.alternatives_apart (by simp) (e.ahead_of_bar hstops hmid ht) hnil hmore
      exact join_alt_ne _ _ _ _ _ hother
    · obtain ⟨begun, last, hleast, rfl⟩ := hstops.last e hnil
      exact join_long_ne begun _ _ _ _ _ hleast hother
  · refine iff_of_true ⟨cls, ?_⟩ (by rw [hleft]; rfl)
    rcases e.items_last hleft h₂ with ⟨t, ts, hmid, hne⟩ | ⟨hmid, rfl⟩
    · rcases hnext with ⟨u, us, hu, hbar, _⟩ | ⟨rfl, _⟩
      · obtain ⟨rfl, _⟩ := List.cons.inj (hmid.symm.trans hu)
        exact absurd hbar hne
      · simp [hnil] at hmid
    · rcases hnext with ⟨u, us, hu, _⟩ | ⟨_, rfl⟩
      · simp [hmid] at hu
      · rfl

namespace Codec

/-- A codec that is built takes exactly braces around characters of a class as placeholders
if its characters for placeholders enclose a class, and has another pattern if not. -/
theorem uses_iff_encloses {a b : Alphabet} {p : String} {k : Codec} (h : build a b p = .ok k) :
    (∃ cls, k.Uses cls) ↔ Encloses p.toList := by
  unfold build at h
  split at h
  · next hapart =>
    dsimp only at h
    split at h
    · next single hparse =>
      cases h
      exact parse_placeholder hparse
    · cases h
    · cases h
  · cases h

end Codec

end DocBraces
