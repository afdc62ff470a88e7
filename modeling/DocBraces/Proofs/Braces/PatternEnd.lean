import DocBraces.Braces.Codec
import DocBraces.Proofs.Pattern.ClassEnd
import DocBraces.Proofs.Pattern.Rows

/-!
# How the pattern of a placeholder ends

The pattern of a placeholder ends in a closing bracket, a plus and a closing brace. Unless
a class ends with that bracket, reading comes to it as to an item of its own, so that the
bracket is repeated behind all items read before.
-/

set_option autoImplicit false

namespace DocBraces

open DocBraces.Text DocBraces.Pattern

theorem literally_ne (c d : Char) (hd : isPatternSign d = true) : literally c ≠ [d] := by
  unfold literally
  split
  · simp
  · next hc =>
    intro h
    obtain rfl : c = d := List.cons.inj h |>.1
    exact hc hd

theorem tokensFrom_cons (n : ℕ) (c : Char) (cs : List Char) (hc : c ≠ '\\') :
    tokensFrom n (c :: cs) = ⟨[c], n⟩ :: tokensFrom (n + 1) cs := by
  rw [tokensFrom]
  simp [hc]

theorem tokensFrom_literally (n : ℕ) (c : Char) (cs : List Char) :
    tokensFrom n (literally c ++ cs) =
      ⟨literally c, n⟩ :: tokensFrom (n + (literally c).length) cs := by
  unfold literally
  split
  · rfl
  · next hc =>
    refine tokensFrom_cons n c cs ?_
    rintro rfl
    exact hc (by decide)

/-- A text is cut into escaped characters and plain ones; a backslash may dangle. -/
theorem tokens_induction {motive : List Char → Prop} (nil : motive [])
    (dangling : motive ['\\'])
    (escaped : ∀ c text, motive text → motive ('\\' :: c :: text))
    (plain : ∀ c text, c ≠ '\\' → motive text → motive (c :: text)) (text : List Char) :
    motive text := by
  have hcut (n : ℕ) : motive text := by
    induction n, text using tokensFrom.induct with
    | case1 n => exact nil
    | case2 n c text ih => exact escaped c text ih
    | case3 n c text hne ih =>
      by_cases hc : c = '\\'
      · subst hc
        cases text with
        | nil => exact dangling
        | cons d ds => exact absurd rfl (hne d ds rfl)
      · exact plain c text hc ih
  exact hcut 0

/-- A text before a closing bracket is cut on its own, together with the bracket. -/
theorem tokensFrom_bracket (n : ℕ) (text cs : List Char) :
    tokensFrom n (text ++ ']' :: cs) =
      tokensFrom n (text ++ [']']) ++ tokensFrom (n + text.length + 1) cs := by
  induction text using tokens_induction generalizing n with
  | nil => rfl
  | dangling => rfl
  | escaped c text ih =>
    rw [List.cons_append, List.cons_append, tokensFrom, ih]
    simp [tokensFrom, Nat.add_assoc, Nat.add_comm 2]
  | plain c text hc ih =>
    rw [List.cons_append, List.cons_append, tokensFrom_cons n c _ hc, tokensFrom_cons n c _ hc, ih,
      List.cons_append, List.length_cons, Nat.add_right_comm n 1, Nat.add_assoc n]

/-- The bracket is the last token, unless a backslash before it takes it up. -/
theorem tokensFrom_closed (n : ℕ) (text : List Char) :
    ∃ front last, tokensFrom n (text ++ [']']) = front ++ [last] ∧
      (last.text = [']'] ∨ last.text = ['\\', ']']) := by
  induction text using tokens_induction generalizing n with
  | nil => exact ⟨[], _, rfl, .inl rfl⟩
  | dangling => exact ⟨[], _, rfl, .inr rfl⟩
  | escaped c text ih =>
    obtain ⟨front, last, hfront, hlast⟩ := ih (n + 2)
    refine ⟨⟨['\\', c], n⟩ :: front, last, ?_, hlast⟩
    rw [List.cons_append, List.cons_append, tokensFrom, hfront, List.cons_append]
  | plain c text hc ih =>
    obtain ⟨front, last, hfront, hlast⟩ := ih (n + 1)
    refine ⟨⟨[c], n⟩ :: front, last, ?_, hlast⟩
    rw [List.cons_append, tokensFrom_cons n c _ hc, hfront, List.cons_append]

theorem texts_tokensFrom (m n : ℕ) (text : List Char) :
    texts (tokensFrom m text) = texts (tokensFrom n text) := by
  induction text using tokens_induction generalizing m n with
  | nil => rfl
  | dangling => rfl
  | escaped c text ih => exact congrArg (['\\', c] :: ·) (ih (m + 2) (n + 2))
  | plain c text hc ih =>
    rw [tokensFrom_cons m c _ hc, tokensFrom_cons n c _ hc]
    exact congrArg ([c] :: ·) (ih (m + 1) (n + 1))

/-- The tokens at the end: a closing bracket, which a backslash may stand before, a plus and
the closing brace. -/
structure PatternEnd (c : Char) where
  bracket : Token
  plus : Token
  brace : Token
  bracket_text : bracket.text = [']'] ∨ bracket.text = ['\\', ']']
  plus_text : plus.text = ['+']
  brace_text : brace.text = literally c

namespace PatternEnd

variable {c : Char} (e : PatternEnd c)

def tokens : List Token := [e.bracket, e.plus, e.brace]

theorem bracket_ne (d : Char) (hd : d ≠ ']') : e.bracket.text ≠ [d] := by
  rcases e.bracket_text with h | h <;> simp [h, hd.symm]

theorem text_ne (d : Char) (hd : isPatternSign d = true) (hbracket : d ≠ ']') (hplus : d ≠ '+') :
    ∀ t ∈ e.tokens, t.text ≠ [d] := by
  intro t ht
  rw [tokens, List.mem_cons, List.mem_cons, List.mem_singleton] at ht
  rcases ht with rfl | rfl | rfl
  · exact e.bracket_ne d hbracket
  · simp [e.plus_text, hplus.symm]
  · rw [e.brace_text]
    exact literally_ne c d hd

def Ahead (s : Reader) : Prop := ∃ front, s.rest = front ++ e.tokens

theorem ahead_of_not_mem {front rest front' : List Token} (h : e.bracket ∉ front)
    (heq : front ++ rest = front' ++ e.tokens) : ∃ left, rest = left ++ e.tokens := by
  obtain ⟨left, _, hrest⟩ | ⟨beyond, hfront, htokens⟩ := List.append_eq_append_iff.mp heq
  · exact ⟨left, hrest⟩
  · cases beyond with
    | nil => exact ⟨[], htokens.symm⟩
    | cons u us =>
      obtain ⟨rfl, _⟩ := List.cons.inj htokens
      exact absurd (by simp [hfront]) h

theorem ahead_of_last {body rest front : List Token} {t : Token} (h : t ∉ e.tokens)
    (heq : body ++ t :: rest = front ++ e.tokens) : ∃ left, rest = left ++ e.tokens := by
  obtain ⟨left, _, hrest⟩ | ⟨beyond, _, htokens⟩ := List.append_eq_append_iff.mp heq
  · cases left with
    | nil => exact absurd (by rw [List.nil_append] at hrest; simp [← hrest]) h
    | cons u us => exact ⟨us, (List.cons.inj hrest).2⟩
  · exact absurd (by simp [htokens]) h

def Short (s s' : Reader) : Prop := e.Ahead s → e.Ahead s'

instance : Std.Refl e.Short := ⟨fun _ => id⟩

instance : IsTrans Reader e.Short := ⟨fun _ _ _ h₁ h₂ => h₂ ∘ h₁⟩

open Reading

theorem spells_short : Spells e.Short where
  plain limit test htest := by
    intro s cs s' h
    obtain ⟨taken, hs, htaken⟩ := plainWhile_ok h
    rintro ⟨front, hfront⟩
    refine e.ahead_of_not_mem (fun hmem => ?_) (hs.symm.trans hfront)
    obtain ⟨d, hd, hpass⟩ := htaken _ hmem
    refine e.bracket_ne d ?_ hd
    rintro rfl
    rw [htest] at hpass
    cases hpass
  accept d hd := by
    intro s taken s' h
    obtain ⟨_, rfl⟩ | ⟨_, t, ts, hs, ht, rfl⟩ := accept_ok h
    · exact id
    · rintro ⟨front, hfront⟩
      have hother : e.bracket ∉ [t] := by
        rintro hmem
        obtain rfl := List.mem_singleton.mp hmem
        exact e.bracket_ne d hd ht
      exact e.ahead_of_not_mem hother (hs.symm.trans hfront)

theorem nameUntil_short (what : String) : Along e.Short (nameUntil '\x7d' what) := by
  intro s name s' h
  obtain ⟨body, t, hs, _, ht⟩ := nameUntil_ok h
  rintro ⟨front, hfront⟩
  refine e.ahead_of_last (fun hmem => ?_) (hs.symm.trans hfront)
  exact e.text_ne '\x7d' (by decide) (by decide) (by decide) t hmem ht

theorem escape_short (d : Char) : Along e.Short (escape {} d) :=
  escape_along e.spells_short {} d fun _ => namedCode_along e.spells_short (e.nameUntil_short _)

theorem group_short (fuel start : ℕ) : Along e.Short (Reading.group fuel {} start) := by
  intro s part s' h
  obtain rfl | ⟨body, t, hs, ht⟩ := group_passes fuel {} start s part s' h
  · exact id
  · rintro ⟨front, hfront⟩
    refine e.ahead_of_last (fun hmem => ?_) (hs.symm.trans hfront)
    exact e.text_ne ')' (by decide) (by decide) (by decide) t hmem ht

/-- A class ends before the end of the pattern, or with the bracket there. -/
theorem charClass_short {start : ℕ} {cls : CharClass} {s s' : Reader}
    (h : (charClass start).run s = .ok (cls, s')) (ha : e.Ahead s) :
    e.Ahead s' ∨ s'.rest = [e.plus, e.brace] := by
  obtain ⟨front, hfront⟩ := ha
  obtain ⟨body, t, hs, ht⟩ := charClass_closed h
  obtain ⟨left, _, hrest⟩ | ⟨beyond, _, htokens⟩ :=
    List.append_eq_append_iff.mp (hs.symm.trans hfront)
  · cases left with
    | nil => exact .inr (List.cons.inj hrest).2
    | cons u us => exact .inl ⟨us, (List.cons.inj hrest).2⟩
  · cases beyond with
    | nil => exact .inr (List.cons.inj htokens).2.symm
    | cons u us =>
      have hmem : t ∈ [e.plus, e.brace] := by simp [(List.cons.inj htokens).2]
      obtain rfl | rfl := by simpa using hmem
      · simp [e.plus_text] at ht
      · rw [e.brace_text] at ht
        exact absurd ht (literally_ne c ']' (by decide))

/-- How a row has been read: not yet up to the end, or up to the end, with a repeated class
and the closing brace as the last two items; or reading has stopped at a token that does
not separate alternatives. -/
inductive Stops (least : ℕ) (row : List Item) (s : Reader) : Prop
  | early (h : e.Ahead s)
  | whole (front : List Item) (cls : CharClass) (hs : s.rest = [])
      (hrow : row = front ++ [{ expr := .rounds .greedy 1 none (.one {} cls) },
        { expr := exactly c }])
      (hleast : least ≤ front.length)
  | stuck (t : Token) (ts : List Token) (hs : s.rest = t :: ts) (ht : t.text ≠ ['|'])

theorem Stops.mono {least more : ℕ} {row : List Item} {s : Reader} (h : e.Stops more row s)
    (hle : least ≤ more) : e.Stops least row s := by
  cases h with
  | early h => exact .early h
  | whole front cls hs hrow hleast => exact .whole front cls hs hrow (hle.trans hleast)
  | stuck t ts hs ht => exact .stuck t ts hs ht

theorem escape_sign {d : Char} (h : isPatternSign d = true) (s : Reader) :
    (Reading.escape {} d).run s = .ok (exactly d, s) := by
  simp [isPatternSign] at h
  rcases h with rfl | rfl | rfl | rfl | rfl | rfl | rfl | rfl | rfl | rfl | rfl | rfl | rfl |
    rfl | rfl | rfl | rfl | rfl | rfl | rfl | rfl | rfl | rfl | rfl <;> rfl

theorem sign_plain {d : Char} (h : isPatternSign d = false) : sign {} d = exactly d := by
  unfold sign
  split
  · cases h
  · cases h
  · cases h
  · rfl

theorem isPatternSign_of_opening {d : Char} (h : isOpeningSign d = true) :
    isPatternSign d = true := by
  simp [isOpeningSign, isRepeatSign] at h
  rcases h with (rfl | rfl) | rfl | rfl | rfl | rfl <;> decide

theorem read_literally {fuel : ℕ} {done parts : List Part} {d : Char} {t : Token} {s s' : Reader}
    (ht : t.text = literally d) (h : ItemRead fuel done t s parts s') :
    parts = .ofExpr (exactly d) :: done ∧ s' = s := by
  by_cases hd : isPatternSign d = true
  · rw [literally, if_pos hd] at ht
    cases h with
    | escape htext hescape =>
      rw [ht] at htext
      cases htext
      rw [escape_sign hd] at hescape
      cases hescape
      exact ⟨rfl, rfl⟩
    | cls htext _ => simp [ht] at htext
    | group htext _ => simp [ht] at htext
    | rounds htext _ _ _ => simp [ht] at htext
    | brace htext _ _ => simp [ht] at htext
    | sign htext _ => simp [ht] at htext
    | nothing _ htwo => exact absurd ht (htwo d)
  · rw [literally, if_neg hd] at ht
    have hopening (d' : Char) (hc : t.text = [d']) : isOpeningSign d' = false := by
      rw [ht] at hc
      cases hc
      exact Bool.eq_false_iff.mpr fun hopen => hd (isPatternSign_of_opening hopen)
    cases h with
    | escape htext hescape => simp [ht] at htext
    | cls htext _ => exact absurd (hopening '[' htext) (by decide)
    | group htext _ => exact absurd (hopening '(' htext) (by decide)
    | rounds htext hc _ _ => simpa [isOpeningSign, hc] using hopening _ htext
    | brace htext hc _ => simpa [isOpeningSign, hc] using hopening _ htext
    | sign htext _ =>
      rw [ht] at htext
      cases htext
      rw [sign_plain (Bool.eq_false_iff.mpr hd)]
      exact ⟨rfl, rfl⟩
    | nothing hone _ => exact absurd ht (hone d)

theorem read_plus {fuel : ℕ} {done parts : List Part} {t : Token} {s s' : Reader}
    (ht : t.text = ['+']) (h : ItemRead fuel done t s parts s') :
    ∃ last more g, done = last :: more ∧ greed.run s = .ok (g, s') ∧
      parts = { kind := .repeated,
                items := [{ expr := .rounds g 1 none (Item.join last.items) }] } :: more := by
  cases h with
  | escape htext _ => simp [ht] at htext
  | cls htext _ => simp [ht] at htext
  | group htext _ => simp [ht] at htext
  | rounds htext _ hbounds hrepeat =>
    rw [ht] at htext
    cases htext
    cases hbounds
    exact repeatLast_ok hrepeat
  | brace htext _ hbounds =>
    rw [ht] at htext
    cases htext
    cases hbounds
  | sign htext hc =>
    rw [ht] at htext
    cases htext
    cases hc
  | nothing hone _ => exact absurd ht (hone '+')

theorem greed_last {g : Greed} {s s' : Reader} (hs : s.rest = [e.brace])
    (h : greed.run s = .ok (g, s')) : g = .greedy ∧ s' = s := by
  have hrefused {d : Char} {taken : Bool} {mid : Reader} (hd : isPatternSign d = true)
      (haccept : (accept d).run s = .ok (taken, mid)) : taken = false ∧ mid = s := by
    obtain hsame | ⟨_, t, ts, hts, ht, _⟩ := accept_ok haccept
    · exact hsame
    · obtain ⟨rfl, _⟩ := List.cons.inj (hs.symm.trans hts)
      rw [e.brace_text] at ht
      exact absurd ht (literally_ne c d hd)
  obtain ⟨question, s₁, hquestion, h₁⟩ := ok_of_bind h
  obtain ⟨rfl, rfl⟩ := hrefused (by decide) hquestion
  obtain ⟨plus, s₂, hplus, h₂⟩ := ok_of_bind h₁
  obtain ⟨rfl, rfl⟩ := hrefused (by decide) hplus
  cases h₂
  exact ⟨rfl, rfl⟩

/-- Once the bracket has closed a class, plus and brace make it a repeated class. -/
theorem items_last {fuel : ℕ} {done : List Part} {cls : CharClass} {s s' : Reader}
    {row : List Item} (hs : s.rest = [e.plus, e.brace])
    (h : (items fuel {} (.ofExpr (.one {} cls) :: done)).run s = .ok (row, s')) :
    (∃ t ts, s'.rest = t :: ts ∧ t.text ≠ ['|']) ∨ s'.rest = [] ∧ row = Part.row done ++
      [{ expr := .rounds .greedy 1 none (.one {} cls) }, { expr := exactly c }] := by
  have hbar : e.brace.text ≠ ['|'] := by
    rw [e.brace_text]
    exact literally_ne c '|' (by decide)
  have hclose : e.brace.text ≠ [')'] := by
    rw [e.brace_text]
    exact literally_ne c ')' (by decide)
  cases fuel with
  | zero =>
    unfold items at h
    cases h
    exact .inl ⟨e.plus, _, hs, by simp [e.plus_text]⟩
  | succ fuel =>
    obtain ⟨parts, s₁, hplus, h₁⟩ :=
      items_step hs (by simp [e.plus_text]) (by simp [e.plus_text]) h
    obtain ⟨last, more, g, hdone, hgreed, rfl⟩ := read_plus e.plus_text hplus
    obtain ⟨rfl, rfl⟩ := List.cons.inj hdone
    obtain ⟨rfl, rfl⟩ := e.greed_last rfl hgreed
    cases fuel with
    | zero =>
      unfold items at h₁
      cases h₁
      exact .inl ⟨e.brace, _, rfl, hbar⟩
    | succ fuel =>
      obtain ⟨parts, s₂, hbrace, h₂⟩ := items_step rfl hbar hclose h₁
      obtain ⟨rfl, rfl⟩ := read_literally e.brace_text hbrace
      obtain ⟨rfl, rfl⟩ := items_over (by simp) h₂
      exact .inr ⟨rfl, by simp [Part.row, Part.ofExpr, exactly, Item.join, Expr.ofRow]⟩

/-- A token before the end of the pattern leaves the end to come, or is the last part of a
class that the bracket closes. -/
theorem read_short {fuel : ℕ} {done parts : List Part} {t : Token} {ts : List Token}
    {s s' : Reader} (ha : e.Ahead s) (hs : s.rest = t :: ts)
    (h : ItemRead fuel done t { s with rest := ts } parts s') :
    e.Ahead s' ∨ s'.rest = [e.plus, e.brace] ∧
      ∃ cls, parts = .ofExpr (.one {} cls) :: done := by
  obtain ⟨front, hfront⟩ := ha
  cases front with
  | nil =>
    obtain ⟨rfl, rfl⟩ := List.cons.inj (hs.symm.trans hfront)
    rcases e.bracket_text with htext | htext
    · cases h with
      | sign ht hc =>
        rw [htext] at ht
        cases ht
        exact .inr ⟨rfl, _, rfl⟩
      | nothing hone _ => exact absurd htext (hone ']')
      | escape ht _ => simp [htext] at ht
      | cls ht _ => simp [htext] at ht
      | group ht _ => simp [htext] at ht
      | rounds ht hc _ _ =>
        rw [htext] at ht
        cases ht
        cases hc
      | brace ht hc _ =>
        rw [htext] at ht
        cases ht
        cases hc
    · obtain ⟨rfl, rfl⟩ := read_literally (d := ']') htext h
      exact .inr ⟨rfl, _, rfl⟩
  | cons u us =>
    obtain ⟨rfl, hts⟩ := List.cons.inj (hs.symm.trans hfront)
    have ha : e.Ahead { s with rest := ts } := ⟨us, hts⟩
    cases h with
    | escape _ hescape => exact .inl (e.escape_short _ _ _ _ hescape ha)
    | cls _ hcls =>
      exact (e.charClass_short hcls ha).imp_right fun hrest => ⟨hrest, _, rfl⟩
    | group _ hgroup => exact .inl (e.group_short _ _ _ _ _ hgroup ha)
    | rounds _ _ hbounds hrepeat =>
      have hmid := bounds_along e.spells_short _ _ _ _ _ hbounds ha
      exact .inl (repeatLast_along e.spells_short _ _ _ _ _ _ _ hrepeat hmid)
    | brace _ _ hbounds => exact .inl (bounds_along e.spells_short _ _ _ _ _ hbounds ha)
    | sign _ _ => exact .inl ha
    | nothing _ _ => exact .inl ha

theorem items_stops {fuel : ℕ} {done : List Part} {s s' : Reader} {row : List Item}
    (ha : e.Ahead s) (h : (items fuel {} done).run s = .ok (row, s')) :
    e.Stops (filled done) row s' := by
  induction fuel generalizing done s with
  | zero =>
    unfold items at h
    cases h
    exact .early ha
  | succ fuel ih =>
    by_cases hstop : ∀ t ∈ s.rest.head?, t.text = ['|'] ∨ t.text = [')']
    · obtain ⟨_, rfl⟩ := items_over hstop h
      exact .early ha
    · simp only [not_forall, not_or] at hstop
      obtain ⟨t, hhead, hbar, hclose⟩ := hstop
      obtain ⟨ts, hs⟩ := List.head?_eq_some_iff.mp hhead
      obtain ⟨parts, mid, hread, hrest⟩ := items_step hs hbar hclose h
      rcases e.read_short ha hs hread with hmid | ⟨hmid, cls, rfl⟩
      · exact (ih hmid hrest).mono e hread.filled_le
      · rcases e.items_last hmid hrest with ⟨u, us, hu, hne⟩ | ⟨hnil, hrow⟩
        · exact .stuck u us hu hne
        · exact .whole _ cls hnil hrow (filled_le_row done)

theorem rest_ne_nil {s : Reader} (h : e.Ahead s) : s.rest ≠ [] := by
  obtain ⟨front, hfront⟩ := h
  simp [hfront, tokens]

theorem ahead_of_bar {least : ℕ} {row : List Item} {s : Reader} {t : Token} {ts : List Token}
    (h : e.Stops least row s) (hs : s.rest = t :: ts) (ht : t.text = ['|']) :
    e.Ahead { s with rest := ts } := by
  cases h with
  | early ha =>
    obtain ⟨front, hfront⟩ := ha
    have heq : [] ++ t :: ts = front ++ e.tokens := hs.symm.trans hfront
    refine e.ahead_of_last (fun hmem => ?_) heq
    exact e.text_ne '|' (by decide) (by decide) (by decide) t hmem ht
  | whole front cls hnil _ _ => simp [hs] at hnil
  | stuck u us hu hne =>
    obtain ⟨rfl, _⟩ := List.cons.inj (hs.symm.trans hu)
    exact absurd ht hne

/-- A row that is read to the end has the repeated class and the brace as its last items. -/
theorem Stops.last {least : ℕ} {row : List Item} {s : Reader} (h : e.Stops least row s)
    (hs : s.rest = []) : ∃ front cls, least ≤ front.length ∧
      row = front ++ [{ expr := .rounds .greedy 1 none (.one {} cls) }, { expr := exactly c }] := by
  cases h with
  | early ha => exact absurd hs (e.rest_ne_nil ha)
  | whole front cls _ hrow hleast => exact ⟨front, cls, hleast, hrow⟩
  | stuck u us hu _ => simp [hs] at hu

theorem alternatives_apart {fuel : ℕ} {rows : List (List Item)} {s s' : Reader}
    {all : List Item} (hrows : rows ≠ []) (ha : e.Ahead s) (hs : s'.rest = [])
    (h : (alternatives fuel {} rows).run s = .ok (all, s')) :
    ∃ shared first others, all = shared ++ [{ expr := .alt first others }] := by
  induction fuel generalizing rows s with
  | zero =>
    unfold alternatives at h
    cases h
    exact absurd hs (e.rest_ne_nil ha)
  | succ fuel ih =>
    obtain ⟨row, mid, hrow, ⟨t, ts, hmid, ht, hmore⟩ | ⟨rfl, rfl⟩⟩ := alternatives_step h
    · exact ih (by simp) (e.ahead_of_bar (e.items_stops ha hrow) hmid ht) hmore
    · obtain ⟨front, cls, _, rfl⟩ := (e.items_stops ha hrow).last e hs
      obtain ⟨first, others, hreverse⟩ := List.exists_cons_of_ne_nil
        (mt List.reverse_eq_nil_iff.mp hrows)
      rw [List.reverse_cons, hreverse, List.cons_append]
      exact Item.branch_apart {} first _ front [] _ _
        (List.mem_append_right _ (List.mem_singleton.mpr rfl)) rfl

end PatternEnd

end DocBraces
