import DocBraces.Proofs.Braces.PatternEnd
import DocBraces.Proofs.Braces.Resanitizing

/-!
# The default placeholders for any alphabet

The characters of the default placeholders are read as their class, whichever braces are
put around them, so that a codec is built for all alphabets that share no brace.
-/

set_option autoImplicit false

namespace DocBraces

open DocBraces.Text DocBraces.Pattern

namespace Pattern.Reading

theorem run_classMember (c : Char) (r : Reader) :
    (classMember [c]).run r = .ok (.single c.toNat, r) := rfl

theorem run_classMember_hyphen (r : Reader) :
    (classMember ['\\', '-']).run r = .ok (.single 45, r) := rfl

section

variable {start fuel : ℕ} {members : List ClassItem} {s : Reader} {t : Token} {ts : List Token}

theorem run_classItems_close (hs : s.rest = t :: ts) (ht : t.text = [']'])
    (hmembers : members ≠ []) (h : Ready ts) :
    (classItems start (fuel + 1) members).run s = .ok (members, { s with rest := ts }) := by
  rw [classItems]
  rw [bind_of_ok (run_next hs h)]
  dsimp only
  rw [if_pos (by simp [ht, hmembers])]
  rfl

theorem run_classItems_single {item : ClassItem} (hs : s.rest = t :: ts) (ht : t.text ≠ [']'])
    (h : Ready ts) (hdash : ∀ u ∈ ts.head?, u.text ≠ ['-'])
    (hmember : ∀ r : Reader, (classMember t.text).run r = .ok (item, r)) :
    (classItems start (fuel + 1) members).run s =
      (classItems start fuel (item :: members)).run { s with rest := ts } := by
  rw [classItems]
  rw [bind_of_ok (run_next hs h)]
  dsimp only
  rw [if_neg (by simp [ht]), bind_of_ok (hmember _), bind_of_ok (run_refuse hdash), if_neg nofun]

theorem run_classItems_range {u v : Token} {c d : Char} (hs : s.rest = t :: u :: v :: ts)
    (ht : t.text = [c]) (hu : u.text = ['-']) (hv : v.text = [d]) (hc : c ≠ ']') (hd : d ≠ ']')
    (hvready : v.dangles = false) (h : Ready ts) (hle : c.toNat ≤ d.toNat) :
    (classItems start (fuel + 1) members).run s =
      (classItems start fuel (.range c.toNat d.toNat :: members)).run { s with rest := ts } := by
  have hdash : u.dangles = false := by rw [Token.dangles, hu]; rfl
  have hlow (r : Reader) : (classMember t.text).run r = .ok (.single c.toNat, r) := by
    rw [ht, run_classMember]
  have hhigh (r : Reader) : (classMember v.text).run r = .ok (.single d.toNat, r) := by
    rw [hv, run_classMember]
  rw [classItems]
  rw [bind_of_ok (run_next hs (ready_cons _ hdash))]
  dsimp only
  rw [if_neg (by simp [ht, hc]), bind_of_ok (hlow _),
    bind_of_ok (run_accept rfl hu (ready_cons _ hvready))]
  dsimp only
  rw [if_pos rfl, bind_of_ok (run_next rfl h)]
  dsimp only
  rw [if_neg (by simp [hv, hd]), bind_of_ok (hhigh _)]
  dsimp only
  rw [if_neg (by omega)]

end

theorem run_defaultClass (start : ℕ) {s : Reader} {n : ℕ} {cs : List Char}
    (hs : s.rest = tokensFrom n (defaultPlaceholder.toList ++ ']' :: cs))
    (h : Ready (tokensFrom (n + defaultPlaceholder.length + 1) cs)) :
    (charClass start).run s = .ok (Codec.defaultClass,
      { s with rest := tokensFrom (n + defaultPlaceholder.length + 1) cs }) := by
  have htokens : tokensFrom n (defaultPlaceholder.toList ++ ']' :: cs) =
      ⟨['A'], n⟩ :: ⟨['-'], n + 1⟩ :: ⟨['Z'], n + 2⟩ ::
      ⟨['a'], n + 3⟩ :: ⟨['-'], n + 4⟩ :: ⟨['z'], n + 5⟩ ::
      ⟨['0'], n + 6⟩ :: ⟨['-'], n + 7⟩ :: ⟨['9'], n + 8⟩ ::
      ⟨['_'], n + 9⟩ :: ⟨[':'], n + 10⟩ :: ⟨['\\', '-'], n + 11⟩ ::
      ⟨[']'], n + 13⟩ :: tokensFrom (n + 14) cs := by
    rfl
  have hlength : defaultPlaceholder.length = 13 := by decide
  rw [htokens] at hs
  rw [hlength] at h ⊢
  have hfuel : s.rest.length + 1 = (tokensFrom (n + 14) cs).length + 14 := by
    rw [hs]
    simp
  unfold charClass
  rw [bind_of_ok (run_refuse (by simp [hs])), get_bind, hfuel]
  have hmembers : (classItems start ((tokensFrom (n + 14) cs).length + 14) []).run s =
      .ok (Codec.defaultClass.items.reverse, { s with rest := tokensFrom (n + 14) cs }) := by
    rw [run_classItems_range hs rfl rfl rfl (by decide) (by decide) rfl (ready_cons _ rfl)
        (by decide),
      run_classItems_range rfl rfl rfl rfl (by decide) (by decide) rfl (ready_cons _ rfl)
        (by decide),
      run_classItems_range rfl rfl rfl rfl (by decide) (by decide) rfl (ready_cons _ rfl)
        (by decide),
      run_classItems_single rfl (by simp) (ready_cons _ rfl) (by simp) (run_classMember '_'),
      run_classItems_single rfl (by simp) (ready_cons _ rfl) (by simp) (run_classMember ':'),
      run_classItems_single rfl (by simp) (ready_cons _ rfl) (by simp) run_classMember_hyphen,
      run_classItems_close rfl rfl (by simp) h]
    rfl
  rw [bind_of_ok hmembers]
  rfl

section

variable {fuel : ℕ} {done : List Part} {s : Reader} {t : Token} {ts : List Token}

theorem literally_ready (c : Char) (n : ℕ) : (⟨literally c, n⟩ : Token).dangles = false := by
  have hne := literally_ne c '\\' (by decide)
  simpa [Token.dangles] using hne

theorem run_items_literal {c : Char} (hs : s.rest = t :: ts) (ht : t.text = literally c)
    (h : Ready ts) : (items (fuel + 1) {} done).run s =
      (items fuel {} (.ofExpr (exactly c) :: done)).run { s with rest := ts } := by
  have hbar := literally_ne c '|' (by decide)
  have hclose := literally_ne c ')' (by decide)
  have hpeek : peek.run s = .ok (s.rest.head?.map (·.text), s) := rfl
  rw [hs, List.head?_cons, Option.map_some, ht] at hpeek
  rw [items, bind_of_ok (run_position hs), bind_of_ok hpeek]
  dsimp only
  rw [if_neg (by simp [hbar, hclose]), bind_of_ok (run_next hs h)]
  by_cases hc : isPatternSign c = true
  · rw [literally, if_pos hc]
    exact bind_of_ok (PatternEnd.escape_sign hc _) _
  · have hne (d : Char) (hd : isPatternSign d = true) : c ≠ d := by
      rintro rfl
      exact hc hd
    have hrepeat : ¬(c = '?' ∨ c = '*' ∨ c = '+' ∨ c = '\x7b') := by
      simp [hne '?' (by decide), hne '*' (by decide), hne '+' (by decide),
        hne '\x7b' (by decide)]
    rw [literally, if_neg hc]
    dsimp only
    rw [if_neg (by simp), if_neg (by simp), if_neg (hne '[' (by decide)), if_neg (hne '(' (by decide)),
      if_neg hrepeat, PatternEnd.sign_plain (Bool.eq_false_iff.mpr hc)]

theorem run_items_class {cls : CharClass} {mid : Reader} (hs : s.rest = t :: ts)
    (ht : t.text = ['[']) (h : Ready ts)
    (hcls : (charClass t.position).run { s with rest := ts } = .ok (cls, mid)) :
    (items (fuel + 1) {} done).run s =
      (items fuel {} (.ofExpr (.one {} cls) :: done)).run mid := by
  have hpeek : peek.run s = .ok (s.rest.head?.map (·.text), s) := rfl
  rw [hs, List.head?_cons, Option.map_some, ht] at hpeek
  rw [items, bind_of_ok (run_position hs), bind_of_ok hpeek]
  dsimp only
  rw [if_neg (by simp), bind_of_ok (run_next hs h), if_neg (by simp), if_neg (by simp),
    if_pos rfl, bind_of_ok hcls]

theorem run_greed {s : Reader} (hquestion : ∀ u ∈ s.rest.head?, u.text ≠ ['?'])
    (hplus : ∀ u ∈ s.rest.head?, u.text ≠ ['+']) : greed.run s = .ok (.greedy, s) := by
  unfold greed
  rw [bind_of_ok (run_refuse hquestion), if_neg (by simp), bind_of_ok (run_refuse hplus)]
  rfl

theorem run_items_plus {i : Item} (hs : s.rest = t :: ts) (ht : t.text = ['+']) (h : Ready ts)
    (hquestion : ∀ u ∈ ts.head?, u.text ≠ ['?']) (hplus : ∀ u ∈ ts.head?, u.text ≠ ['+']) :
    (items (fuel + 1) {} ({ items := [i] } :: done)).run s =
      (items fuel {} (⟨.repeated, [{ expr := .rounds .greedy 1 none i.expr }]⟩ :: done)).run
        { s with rest := ts } := by
  have hpeek : peek.run s = .ok (s.rest.head?.map (·.text), s) := rfl
  rw [hs, List.head?_cons, Option.map_some, ht] at hpeek
  rw [items, bind_of_ok (run_position hs), bind_of_ok hpeek]
  dsimp only
  rw [if_neg (by simp), bind_of_ok (run_next hs h)]
  have hbounds (r : Reader) : (bounds? '+' t.position).run r = .ok (some (1, none), r) := rfl
  have hrepeat (r : Reader) (hr : greed.run r = .ok (.greedy, r)) :
      (repeatLast t.position 1 none ({ items := [i] } :: done)).run r =
        .ok (⟨.repeated, [{ expr := .rounds .greedy 1 none i.expr }]⟩ :: done, r) := by
    unfold repeatLast
    dsimp only
    rw [bind_of_ok hr]
    rfl
  rw [if_neg (by simp), if_neg (by simp), if_neg (by decide), if_neg (by decide), if_pos (by decide),
    bind_of_ok (hbounds _)]
  dsimp only
  rw [bind_of_ok (hrepeat _ (run_greed hquestion hplus))]

theorem run_items_over (hs : s.rest = []) :
    (items fuel {} done).run s = .ok (Part.row done, s) := by
  cases fuel with
  | zero =>
    rw [items]
    rfl
  | succ fuel =>
    have hposition : position.run s = .ok (s.size, s) := by
      unfold position
      rw [get_bind, hs]
      rfl
    have hpeek : peek.run s = .ok (s.rest.head?.map (·.text), s) := rfl
    rw [hs] at hpeek
    rw [items, bind_of_ok hposition, bind_of_ok hpeek]
    rfl

end

/-- Where its characters make up a class, the pattern of a placeholder is read well. -/
theorem run_whole {size n m : ℕ} {a : Alphabet} {bracket plus : Token} {cls : CharClass}
    {ts : List Token} (hbracket : bracket.text = ['[']) (hplus : plus.text = ['+'])
    (hready : Ready ts) (hsize : 0 < size)
    (hcls : (charClass bracket.position).run { rest := ts, size } =
      .ok (cls, { rest := [plus, ⟨literally a.closing, m⟩], size })) :
    (whole.run { rest := ⟨literally a.opening, n⟩ :: bracket :: ts, size }).map (·.1) =
      .ok (.seq (.seq (exactly a.opening) (.rounds .greedy 1 none (.one {} cls)))
        (exactly a.closing)) := by
  have hopen : bracket.dangles = false := by rw [Token.dangles, hbracket]; rfl
  have hclosing (c : Char) (hc : isPatternSign c = true) :
      ∀ u ∈ [(⟨literally a.closing, m⟩ : Token)].head?, u.text ≠ [c] := by
    rintro u ⟨⟩
    exact literally_ne a.closing c hc
  obtain ⟨fuel, hfuel⟩ : ∃ fuel, 3 * size + 4 = fuel + 5 := ⟨3 * size - 1, by omega⟩
  have hrow : (items (fuel + 4) {} []).run
      { rest := ⟨literally a.opening, n⟩ :: bracket :: ts, size } =
        .ok ([{ expr := exactly a.opening }, { expr := .rounds .greedy 1 none (.one {} cls) },
          { expr := exactly a.closing }], { rest := [], size }) := by
    have hclass : Part.ofExpr (.one {} cls) = { items := [{ expr := .one {} cls }] } := rfl
    rw [run_items_literal rfl rfl (ready_cons _ hopen), run_items_class rfl hbracket hready hcls,
      hclass, run_items_plus rfl hplus (ready_cons _ (literally_ready _ _))
        (hclosing '?' (by decide)) (hclosing '+' (by decide)),
      run_items_literal rfl rfl (by simp [Ready]), run_items_over rfl]
    rfl
  have halternatives : (alternatives (3 * size + 4) {} []).run
      { rest := ⟨literally a.opening, n⟩ :: bracket :: ts, size } =
        .ok ([{ expr := exactly a.opening }, { expr := .rounds .greedy 1 none (.one {} cls) },
          { expr := exactly a.closing }], { rest := [], size }) := by
    rw [hfuel, alternatives, bind_of_ok hrow, bind_of_ok (run_refuse (by simp))]
    rfl
  rw [whole, get_bind, bind_of_ok (run_continueWith (ready_cons _ (literally_ready _ _)) _),
    bind_of_ok halternatives]
  rfl

end Pattern.Reading

theorem parse_default (a : Alphabet) : parse (placeholderText a defaultPlaceholder) =
    .ok (.seq (.seq (exactly a.opening) (.rounds .greedy 1 none (.one {} Codec.defaultClass)))
      (exactly a.closing)) := by
  have hopening := tokensFrom_literally 0 a.opening
    ('[' :: (defaultPlaceholder.toList ++ ']' :: '+' :: literally a.closing))
  generalize 0 + (literally a.opening).length = n at hopening
  have htokens : tokensFrom 0 (placeholderText a defaultPlaceholder) =
      ⟨literally a.opening, 0⟩ :: ⟨['['], n⟩ ::
        tokensFrom (n + 1) (defaultPlaceholder.toList ++ ']' :: '+' :: literally a.closing) := by
    rw [placeholderText, List.append_assoc, List.cons_append, hopening,
      tokensFrom_cons _ '[' _ (by decide)]
  have hlast (m : ℕ) : tokensFrom m ('+' :: literally a.closing) =
      [⟨['+'], m⟩, ⟨literally a.closing, m + 1⟩] := by
    have hclosing := tokensFrom_literally (m + 1) a.closing []
    rw [List.append_nil] at hclosing
    rw [tokensFrom_cons m '+' _ (by decide), hclosing]
    rfl
  have hcls := Reading.run_defaultClass n (s := {
    rest := tokensFrom (n + 1) (defaultPlaceholder.toList ++ ']' :: '+' :: literally a.closing),
    size := (placeholderText a defaultPlaceholder).length }) rfl
    (by rw [hlast]; exact Reading.ready_cons _ rfl)
  rw [hlast] at hcls
  have hsize : 0 < (placeholderText a defaultPlaceholder).length := by
    rw [placeholderText, List.append_assoc, List.length_append, List.cons_append, List.length_cons]
    omega
  rw [parse, htokens]
  exact Reading.run_whole rfl rfl (Reading.ready_cons _ rfl) hsize hcls

namespace Codec

/-- A codec for the default placeholders is built for all alphabets that share no brace. -/
theorem build_of_apart (a b : Alphabet) (h : ∀ c ∈ a.chars, c ∉ b.chars) :
    ∃ k, build a b defaultPlaceholder = .ok k ∧ k.ascii = a ∧ k.substitute = b ∧
      k.Uses defaultClass := by
  let k : Codec :=
    { ascii := a
      substitute := b
      disjoint := h
      placeholder := defaultPlaceholder
      single := .seq (.seq (exactly a.opening) (.rounds .greedy 1 none (.one {} defaultClass)))
        (exactly a.closing) }
  refine ⟨k, ?_, rfl, rfl, rfl⟩
  simp only [build, (a.isApart_iff b).mpr h, dif_pos, parse_default]
  rfl

end Codec

end DocBraces
