import DocBraces.Proofs.Braces.InlineSpans
import DocBraces.Proofs.Braces.LineKinds
import DocBraces.Proofs.Braces.PlaceholderSearch

/-!
# Sanitizing twice

After one run nothing in code and no placeholder in single braces is left to replace. A
placeholder in doubled braces is left only if a placeholder inside of it was replaced in
the same run. A second run replaces exactly these.
-/

set_option autoImplicit false

namespace DocBraces

open DocBraces.Text DocBraces.Pattern

theorem stays_getElem (f : Char → Char) (cs ds : List Char)
    (h : List.Forall₂ (StaysOr f) cs ds) (i : ℕ) (d : Char) (hd : ds[i]? = some d) :
    ∃ c, cs[i]? = some c ∧ StaysOr f c d := by
  induction h generalizing i with
  | nil => simp at hd
  | @cons c d' cs ds hcd _ ih =>
    cases i with
    | zero =>
      obtain rfl : d' = d := by simpa using hd
      exact ⟨c, rfl, hcd⟩
    | succ i => exact ih i hd

namespace Placeholder

variable (b : Placeholder)

theorem occurs_getElem (row : List Char) (start : ℕ) (content : List Char)
    (h : b.Occurs row start content) (i : ℕ) (hs : start ≤ i)
    (hi : i < start + (b.word content).length) : row[i]? = (b.word content)[i - start]? := by
  obtain ⟨_, before, after, rfl, rfl⟩ := h
  rw [List.append_assoc, List.getElem?_append_right hs, List.getElem?_append_left (by omega)]

theorem occurs_around (row : List Char) (start : ℕ) (content : List Char)
    (h : b.Occurs row start content) (i : ℕ) (hs : start ≤ i)
    (hi : i < start + (b.word content).length)
    (hout : start + b.depth ≤ i → ¬i < start + b.depth + content.length) (c : Char)
    (hc : row[i]? = some c) : c ∈ b.braces.chars := by
  rw [b.word_length] at hi
  by_cases hin : start + b.depth ≤ i
  · have hlast := hout hin
    have hclose := b.occurs_closing row start content h
      (i - start - b.depth - content.length) (by omega)
    rw [show start + b.depth + content.length + (i - start - b.depth - content.length) = i by
      omega, hc] at hclose
    simp [Alphabet.chars, Option.some.inj hclose]
  · have hopen := b.occurs_opening row start content h (i - start) (by omega)
    rw [show start + (i - start) = i by omega, hc] at hopen
    simp [Alphabet.chars, Option.some.inj hopen]

theorem occurs_of_same (row other : List Char) (start : ℕ) (content : List Char)
    (h : b.Occurs row start content)
    (hsame : ∀ i, start ≤ i → i < start + (b.word content).length → other[i]? = row[i]?) :
    b.Occurs other start content := by
  have hword : (other.drop start).take (b.word content).length = b.word content := by
    apply List.ext_getElem?
    intro i
    by_cases hi : i < (b.word content).length
    · rw [List.getElem?_take_of_lt hi, List.getElem?_drop, hsame _ (by omega) (by omega),
        b.occurs_getElem row start content h _ (by omega) (by omega), Nat.add_sub_cancel_left]
    · rw [List.getElem?_eq_none (by simp; omega), List.getElem?_eq_none (by omega)]
  have hpos := b.word_pos content
  have hlen := congrArg List.length hword
  rw [List.length_take, List.length_drop] at hlen
  refine ⟨h.1, other.take start, (other.drop start).drop (b.word content).length, ?_, ?_⟩
  · rw [List.length_take]
    omega
  · conv_lhs => rw [← List.take_append_drop start other,
      ← List.take_append_drop (b.word content).length (other.drop start), hword]
    simp

end Placeholder

namespace Codec

def Spares (k : Codec) (cls : CharClass) : Prop :=
  ∀ c ∈ k.ascii.chars ++ k.substitute.chars, cls.holds {} c = false

instance (k : Codec) (cls : CharClass) : Decidable (k.Spares cls) :=
  List.decidableBAll (fun c => cls.holds {} c = false) (k.ascii.chars ++ k.substitute.chars)

/-- A placeholder stood there before some characters were replaced, if none of these
belongs to its content. -/
theorem occurs_before (k : Codec) (b : Placeholder) (hb : b.braces = k.ascii)
    (row later : List Char) (h : List.Forall₂ (StaysOr k.swapChar) row later) (start : ℕ)
    (content : List Char) (ho : b.Occurs later start content)
    (hkept : ∀ i c, start + b.depth ≤ i → i < start + b.depth + content.length →
      c ∈ k.ascii.chars → row[i]? = some c → later[i]? ≠ some (k.swapChar c)) :
    b.Occurs row start content := by
  refine b.occurs_of_same later row start content ho fun i hs hi => ?_
  have hlt : i - start < (b.word content).length := by omega
  have hget := b.occurs_getElem later start content ho i hs hi
  rw [List.getElem?_eq_getElem hlt] at hget
  obtain ⟨c, hline, hstays⟩ := stays_getElem _ _ _ h i _ hget
  rw [hline, hget]
  congr 1
  rcases hstays with hsame | hswap
  · exact hsame.symm
  · by_cases hc : c ∈ k.ascii.chars
    · have hmem := b.occurs_around later start content ho i hs hi
        (fun hin hlast => hkept i c hin hlast hc hline (hswap ▸ hget)) _ hget
      rw [hb, hswap] at hmem
      exact absurd hmem (k.swapChar_not_mem c)
    · rw [hswap, (k.swapChar_eq_self_iff c).mpr hc]

theorem rewrite_stays (k : Codec) (b : Placeholder) (row : List Char) :
    List.Forall₂ (StaysOr k.swapChar) row (b.rewrite k.swapChar row) := by
  induction row using b.scan_induction with
  | nil => exact .nil
  | word content rest hc ih =>
    rw [b.rewrite_word _ content rest hc]
    exact List.rel_append (stays_map _ _) ih
  | keep c cs hw ih =>
    rw [b.rewrite_keep _ c cs hw]
    exact .cons (.inl rfl) ih

theorem not_occurs_later (k : Codec) (b : Placeholder) (hb : b.braces = k.ascii)
    (row later : List Char)
    (h : List.Forall₂ (StaysOr k.swapChar) (b.rewrite k.swapChar row) later) (start : ℕ)
    (x y : List Char) (hx : b.Occurs row start x) : ¬b.Occurs later start y := by
  intro hy
  have hopening := b.occurs_opening later start y hy 0 b.depth_pos
  have hrewritten := b.rewrite_covered k.swapChar row start (b.covers_of_occurs row start x hx)
  obtain ⟨c, hc, hstays⟩ := stays_getElem _ _ _ h start _ hopening
  have hfirst := b.occurs_opening row start x hx 0 b.depth_pos
  rw [Nat.add_zero] at hfirst
  rw [hrewritten, hfirst, Option.map_some, Option.some.injEq] at hc
  have hmem : b.braces.opening ∈ k.ascii.chars := by simp [hb, Alphabet.chars]
  rcases hstays with hsame | hswap
  · exact k.swapChar_not_mem b.braces.opening (hc ▸ hsame ▸ hmem)
  · exact k.swapChar_not_mem c (hswap ▸ hmem)

section Prose

variable (k : Codec) (cls : CharClass) (hk : k.Uses cls) (hc : k.Spares cls)

include hc in
theorem spares_opening : cls.holds {} k.ascii.opening = false :=
  hc _ (by simp [Alphabet.chars])

include hc in
theorem spares_closing : cls.holds {} k.ascii.closing = false :=
  hc _ (by simp [Alphabet.chars])

/-- The codec's placeholders in single braces. -/
def singles : Placeholder :=
  Placeholder.single k.ascii cls (k.spares_opening cls hc) (k.spares_closing cls hc)

def doublesDone (row : List Char) : List Char :=
  (Placeholder.doubled k.ascii).rewrite k.swapChar (k.sanitizeInlineCode row)

include hk in
theorem sanitizeProse_stages (row : List Char) :
    k.sanitizeProse row = (k.singles cls hc).rewrite k.swapChar (k.doublesDone row) := by
  rw [sanitizeProse, doublesDone, Placeholder.doublePlaceholder_rewrite]
  exact Placeholder.single_rewrite k cls hk _ _ k.swapChar _

theorem singles_before (row later : List Char)
    (h : List.Forall₂ (StaysOr k.swapChar) row later) (start : ℕ) (content : List Char)
    (ho : (k.singles cls hc).Occurs later start content) :
    (k.singles cls hc).Occurs row start content := by
  refine k.occurs_before _ rfl row later h start content ho fun i c hs hi hmem _ hlater => ?_
  obtain ⟨j, rfl⟩ := Nat.exists_eq_add_of_le hs
  have hin := (k.singles cls hc).occurs_inside later start content ho j (by omega) _ hlater
  have hout := hc _ (List.mem_append_right _ (k.swapChar_mem c hmem))
  exact Bool.noConfusion (hout.symm.trans hin)

include hk in
theorem no_single_left (row : List Char) (start : ℕ) (content : List Char) :
    ¬(k.singles cls hc).Occurs (k.sanitizeProse row) start content := by
  intro ho
  rw [k.sanitizeProse_stages cls hk hc] at ho
  have hstays := k.rewrite_stays (k.singles cls hc) (k.doublesDone row)
  have hbefore := k.singles_before cls hc _ _ hstays start content ho
  exact k.not_occurs_later _ rfl _ _ (stays_refl _ _) start content content hbefore ho

include hk hc in
/-- A placeholder in doubled braces that is left holds a brace that was replaced. -/
theorem double_left (row : List Char) (start : ℕ) (content : List Char)
    (ho : (Placeholder.doubled k.ascii).Occurs (k.sanitizeProse row) start content) :
    ∃ i c, start + 2 ≤ i ∧ i < start + 2 + content.length ∧ c ∈ k.ascii.chars ∧
      (k.sanitizeInlineCode row)[i]? = some c ∧
      (k.sanitizeProse row)[i]? = some (k.swapChar c) := by
  by_contra hnone
  have hdouble := k.rewrite_stays (Placeholder.doubled k.ascii) (k.sanitizeInlineCode row)
  have hsingle : List.Forall₂ (StaysOr k.swapChar) (k.doublesDone row) (k.sanitizeProse row) := by
    rw [k.sanitizeProse_stages cls hk hc]
    exact k.rewrite_stays _ _
  have hboth := stays_trans k.swapChar k.swapChar_swapChar _ _ _ hdouble hsingle
  have hbefore := k.occurs_before (Placeholder.doubled k.ascii) rfl _ _ hboth start content ho
    fun i c hs hi hmem hline hlater => hnone ⟨i, c, hs, hi, hmem, hline, hlater⟩
  exact k.not_occurs_later _ rfl _ _ hsingle start content content hbefore ho

theorem inline_settled (hl : k.Legible) (row : List Char) :
    k.sanitizeInlineCode (k.sanitizeProse row) = k.sanitizeProse row := by
  have hprose := k.sanitizeProse_stays row
  have hinline : List.Forall₂ (StaysOr k.swapChar) (k.sanitizeInlineCode row)
      (k.sanitizeProse row) :=
    stays_trans k.swapChar k.swapChar_swapChar _ _ _ (rewriteFrom_stays _ _ _ _ _)
      (rewriteFrom_stays _ _ _ _ _)
  exact mapInlineCodeFrom_settled k.swapChar k.swapChar_swapChar 0 row _
    (hprose.imp fun c d h => alike_tick c d (k.alike_of_stays hl c d h)) hinline

include hk hc in
/-- The second run has nothing to do but to replace placeholders in doubled braces. -/
theorem sanitizeProse_again (hl : k.Legible) (row : List Char) :
    k.sanitizeProse (k.sanitizeProse row) =
      (Placeholder.doubled k.ascii).rewrite k.swapChar (k.sanitizeProse row) := by
  rw [k.sanitizeProse_stages cls hk hc (k.sanitizeProse row), doublesDone,
    k.inline_settled hl row]
  refine (k.singles cls hc).rewrite_eq_self _ _ fun start content ho => ?_
  have hstays := k.rewrite_stays (Placeholder.doubled k.ascii) (k.sanitizeProse row)
  exact k.no_single_left cls hk hc row start content
    (k.singles_before cls hc _ _ hstays start content ho)

end Prose

/-- What the first run leaves of a line, and what the second run makes of it. -/
structure Resanitized (k : Codec) (cls : CharClass) (kind : LineKind)
    (source once again : List Char) : Prop where
  code : kind = .fenced ∨ kind = .indented → ∀ c ∈ k.ascii.chars, c ∉ once
  inline : kind = .prose → ∀ span ∈ inlineSpans once, ∀ c ∈ k.ascii.chars, c ∉ span
  single : kind = .prose → ∀ before content after, content ≠ [] →
    (∀ c ∈ content, cls.holds {} c = true) →
    once ≠ before ++ k.ascii.opening :: (content ++ k.ascii.closing :: after)
  elsewhere : kind ≠ .prose → again = once
  covered : kind = .prose → ∀ i, (Placeholder.doubled k.ascii).Covers once i →
    again[i]? = once[i]?.map k.swapChar
  uncovered : kind = .prose → ∀ i, ¬(Placeholder.doubled k.ascii).Covers once i →
    again[i]? = once[i]?
  apart : ∀ p q x y, (Placeholder.doubled k.ascii).Occurs once p x →
    (Placeholder.doubled k.ascii).Occurs once q y → p < q →
    p + ((Placeholder.doubled k.ascii).word x).length ≤ q
  nested : kind = .prose → ∀ start content,
    (Placeholder.doubled k.ascii).Occurs once start content →
    ∃ i c, start + 2 ≤ i ∧ i < start + 2 + content.length ∧ c ∈ k.ascii.chars ∧
      (k.sanitizeInlineCode source)[i]? = some c ∧ once[i]? = some (k.swapChar c)

theorem swap_clear (k : Codec) (once : List Char) : ∀ c ∈ k.ascii.chars, c ∉ k.swap once := by
  intro c hc hm
  obtain ⟨d, _, rfl⟩ := List.mem_map.mp hm
  exact k.swapChar_not_mem d hc

theorem swap_swap (k : Codec) (once : List Char) : k.swap (k.swap once) = k.swap once := by
  simp [swap, Function.comp_def, k.swapChar_swapChar]

theorem single_occurs (k : Codec) (cls : CharClass) (hc : k.Spares cls)
    (before content after : List Char) (hne : content ≠ [])
    (hall : ∀ c ∈ content, cls.holds {} c = true) :
    (k.singles cls hc).Occurs
      (before ++ k.ascii.opening :: (content ++ k.ascii.closing :: after)) before.length content :=
  ⟨⟨hne, hall⟩, before, after, rfl, by simp [Placeholder.word, singles, Placeholder.single]⟩

theorem sanitizeLine_again (k : Codec) (cls : CharClass) (hk : k.Uses cls) (hc : k.Spares cls)
    (hl : k.Legible) (m : LineMode) (source : List Char) :
    k.Resanitized cls (m.kind (k.sanitizeLine m source)) source (k.sanitizeLine m source)
      (k.sanitizeLine m (k.sanitizeLine m source)) := by
  have hkind := kind_alike m _ _ (k.sanitizeLine_alike hl m source)
  have hagain := k.sanitizeLine_kind m (k.sanitizeLine m source)
  have hline := k.sanitizeLine_kind m source
  rw [← hkind] at hagain ⊢
  have hapart := (Placeholder.doubled k.ascii).occurs_apart
  cases hcase : m.kind source with
  | delimiter =>
    simp only [hcase] at hagain hline
    rw [hagain]
    exact ⟨by simp, by simp, by simp, fun _ => rfl, by simp, by simp, hapart _, by simp⟩
  | fenced =>
    simp only [hcase] at hagain hline
    rw [hagain, hline, k.swap_swap]
    exact ⟨fun _ => k.swap_clear source, by simp, by simp, fun _ => rfl, by simp, by simp,
      hapart _, by simp⟩
  | indented =>
    simp only [hcase] at hagain hline
    rw [hagain, hline, k.swap_swap]
    exact ⟨fun _ => k.swap_clear source, by simp, by simp, fun _ => rfl, by simp, by simp,
      hapart _, by simp⟩
  | prose =>
    simp only [hcase] at hagain hline
    rw [hagain, hline, k.sanitizeProse_again cls hk hc hl]
    refine ⟨by simp, fun _ span hspan c hmem hin => ?_, fun _ before content after hne hall heq => ?_,
      by simp, fun _ => Placeholder.rewrite_covered _ _ _,
      fun _ => Placeholder.rewrite_uncovered _ _ _, hapart _,
      fun _ => k.double_left cls hk hc source⟩
    · have hid := inlineSpans_settled k.swapChar _ (k.inline_settled hl source) span hspan c hin
      exact (k.swapChar_eq_self_iff c).mp hid hmem
    · have ho := k.single_occurs cls hc before content after hne hall
      rw [← heq] at ho
      exact k.no_single_left cls hk hc source _ _ ho

theorem again_eq_iff (k : Codec) (cls : CharClass) (kind : LineKind)
    (source once again : List Char) (h : k.Resanitized cls kind source once again) :
    again = once ↔ (kind = .prose → ∀ start content,
      ¬(Placeholder.doubled k.ascii).Occurs once start content) := by
  constructor
  · rintro heq hprose start content ho
    have hcov := Placeholder.covers_of_occurs _ once start content ho
    have hchange := h.covered hprose start hcov
    have hopening := Placeholder.occurs_opening _ once start content ho 0
      (Placeholder.doubled k.ascii).depth_pos
    rw [Nat.add_zero] at hopening
    rw [heq, hopening, Option.map_some, Option.some.injEq] at hchange
    exact (k.swapChar_eq_self_iff _).mp hchange.symm (by simp [Placeholder.doubled, Alphabet.chars])
  · intro hnone
    by_cases hprose : kind = .prose
    · refine List.ext_getElem? fun i => h.uncovered hprose i ?_
      rintro ⟨start, content, ho, _⟩
      exact hnone hprose start content ho
    · exact h.elsewhere hprose

theorem modes_sanitize (k : Codec) (hl : k.Legible) (text : List Char) :
    modes .prose (splitLines (k.sanitize text)) = modes .prose (splitLines text) := by
  rw [k.splitLines_sanitize hl]
  exact (modes_alike _ _ _ (k.sanitizeLines_alike hl _ _)).symm

theorem sanitize_getElem (k : Codec) (hl : k.Legible) (text : List Char) (i : ℕ) (m : LineMode)
    (source : List Char) (hm : (modes .prose (splitLines text))[i]? = some m)
    (hsource : (splitLines text)[i]? = some source) :
    (splitLines (k.sanitize text))[i]? = some (k.sanitizeLine m source) := by
  rw [k.splitLines_sanitize hl, k.sanitizeLines_modes, List.getElem?_zipWith, hm, hsource]

theorem lines_length (k : Codec) (hl : k.Legible) (text : List Char) :
    (splitLines (k.sanitize text)).length = (splitLines text).length := by
  have hlength := congrArg List.length (k.modes_sanitize hl text)
  rwa [modes_length, modes_length, Nat.add_right_cancel_iff] at hlength

theorem exists_source (k : Codec) (hl : k.Legible) (text : List Char) (i : ℕ) (once : List Char)
    (hline : (splitLines (k.sanitize text))[i]? = some once) :
    ∃ source, (splitLines text)[i]? = some source := by
  obtain ⟨hi, _⟩ := List.getElem?_eq_some_iff.mp hline
  rw [k.lines_length hl] at hi
  exact ⟨_, List.getElem?_eq_getElem hi⟩

theorem exists_mode (text : List Char) (i : ℕ) (source : List Char)
    (hsource : (splitLines text)[i]? = some source) :
    ∃ m, (modes .prose (splitLines text))[i]? = some m := by
  obtain ⟨hi, _⟩ := List.getElem?_eq_some_iff.mp hsource
  exact ⟨_, List.getElem?_eq_getElem (by rw [modes_length]; omega)⟩

theorem default_legible (k : Codec) (ha : k.ascii = .ascii) (hs : k.substitute = .fullwidth) :
    k.Legible := by
  rw [Legible, ha, hs]
  intro c hc
  obtain rfl | rfl | rfl | rfl : c = '\x7b' ∨ c = '\x7d' ∨ c = '\uff5b' ∨ c = '\uff5d' := by
    simpa [Alphabet.chars, Alphabet.ascii, Alphabet.fullwidth] using hc
  all_goals decide

theorem sanitize_getElem_again (k : Codec) (hl : k.Legible) (text : List Char) (i : ℕ)
    (m : LineMode) (source : List Char) (hm : (modes .prose (splitLines text))[i]? = some m)
    (hsource : (splitLines text)[i]? = some source) :
    (splitLines (k.sanitize (k.sanitize text)))[i]? =
      some (k.sanitizeLine m (k.sanitizeLine m source)) := by
  refine k.sanitize_getElem hl (k.sanitize text) i m _ ?_ (k.sanitize_getElem hl text i m source
    hm hsource)
  rw [k.modes_sanitize hl text]
  exact hm

theorem sanitize_again_of_lines (k : Codec) (hl : k.Legible) (text : List Char)
    (h : ∀ (i : ℕ) (m : LineMode) source, (modes .prose (splitLines text))[i]? = some m →
      (splitLines text)[i]? = some source →
      k.sanitizeLine m (k.sanitizeLine m source) = k.sanitizeLine m source) :
    k.sanitize (k.sanitize text) = k.sanitize text := by
  have hsame : splitLines (k.sanitize (k.sanitize text)) = splitLines (k.sanitize text) := by
    apply List.ext_getElem?
    intro i
    cases hsource : (splitLines text)[i]? with
    | none =>
      have hle := List.getElem?_eq_none_iff.mp hsource
      have h1 := k.lines_length hl text
      have h2 := k.lines_length hl (k.sanitize text)
      rw [List.getElem?_eq_none (by omega), List.getElem?_eq_none (by omega)]
    | some source =>
      obtain ⟨m, hm⟩ := exists_mode text i source hsource
      rw [k.sanitize_getElem_again hl text i m source hm hsource,
        k.sanitize_getElem hl text i m source hm hsource, h i m source hm hsource]
  rw [← joinLines_splitLines (k.sanitize (k.sanitize text)), hsame, joinLines_splitLines]

/-- With fullwidth braces and placeholders of a class without braces, a second run meets
the same modes as the first. It finds code and single placeholders done, and replaces
exactly the doubled placeholders that are left. Each of these holds a brace that the
first run replaced after its look at inline code. -/
theorem sanitizing_twice (k : Codec) (cls : CharClass) (ha : k.ascii = .ascii)
    (hs : k.substitute = .fullwidth) (hk : k.Uses cls) (hc : k.Spares cls) (text : List Char) :
    modes .prose (splitLines (k.sanitize text)) = modes .prose (splitLines text) ∧
    modes .prose (splitLines (k.sanitize (k.sanitize text))) = modes .prose (splitLines text) ∧
    (∀ (i : ℕ) (m : LineMode) source once again,
      (modes .prose (splitLines text))[i]? = some m →
      (splitLines text)[i]? = some source →
      (splitLines (k.sanitize text))[i]? = some once →
      (splitLines (k.sanitize (k.sanitize text)))[i]? = some again →
      k.Resanitized cls (m.kind once) source once again) ∧
    (k.sanitize (k.sanitize text) = k.sanitize text ↔
      ∀ (i : ℕ) (m : LineMode) once, (modes .prose (splitLines text))[i]? = some m →
        (splitLines (k.sanitize text))[i]? = some once → m.kind once = .prose →
        ∀ start content, ¬(Placeholder.doubled k.ascii).Occurs once start content) := by
  have hl := k.default_legible ha hs
  have hmodes := k.modes_sanitize hl text
  have honce := k.sanitize_getElem hl text
  have htwice := k.sanitize_getElem_again hl text
  have hline (m : LineMode) (source : List Char) := k.sanitizeLine_again cls hk hc hl m source
  refine ⟨hmodes, (k.modes_sanitize hl (k.sanitize text)).trans hmodes, ?_, ?_, ?_⟩
  · intro i m source once again hm hsource honce' hagain
    rw [honce i m source hm hsource, Option.some.injEq] at honce'
    rw [htwice i m source hm hsource, Option.some.injEq] at hagain
    rw [← honce', ← hagain]
    exact hline m source
  · intro heq i m once hm honce' hprose
    obtain ⟨source, hsource⟩ := k.exists_source hl text i once honce'
    have hagain := htwice i m source hm hsource
    rw [heq, honce', Option.some.injEq] at hagain
    rw [honce i m source hm hsource, Option.some.injEq] at honce'
    subst honce'
    exact (k.again_eq_iff cls _ _ _ _ (hline m source)).mp hagain.symm hprose
  · intro hnone
    refine k.sanitize_again_of_lines hl text fun i m source hm hsource => ?_
    exact (k.again_eq_iff cls _ _ _ _ (hline m source)).mpr
      (hnone i m _ hm (honce i m source hm hsource))

/-- Letters, digits, underscore, colon and hyphen. -/
def defaultClass : CharClass :=
  { items := [.range 65 90, .range 97 122, .range 48 57, .single 95, .single 58, .single 45] }

theorem build_default : build .ascii .fullwidth defaultPlaceholder = .ok Codec.default := by
  have hparse : parse (placeholderText .ascii defaultPlaceholder) = .ok defaultSingle := by
    decide +kernel
  have hapart : Alphabet.ascii.isApart .fullwidth = true := by decide
  simp only [build, hapart, dif_pos, hparse]
  rfl

/-- A placeholder within another one makes the second run go on. -/
theorem default_sanitizing_twice :
    Codec.default.Uses defaultClass ∧ Codec.default.Spares defaultClass ∧
    Codec.default.sanitize (Codec.default.sanitize "\x7b\x7b \x7ba\x7d \x7d\x7d".toList) ≠
      Codec.default.sanitize "\x7b\x7b \x7ba\x7d \x7d\x7d".toList ∧
    ¬∀ (i : ℕ) (m : LineMode) once,
      (modes .prose (splitLines "\x7b\x7b \x7ba\x7d \x7d\x7d".toList))[i]? = some m →
      (splitLines (Codec.default.sanitize "\x7b\x7b \x7ba\x7d \x7d\x7d".toList))[i]? = some once →
      m.kind once = .prose →
      ∀ start content, ¬(Placeholder.doubled Codec.default.ascii).Occurs once start content := by
  have huses : Codec.default.Uses defaultClass := rfl
  have hspares : Codec.default.Spares defaultClass := by decide
  have hchanges : Codec.default.sanitize
      (Codec.default.sanitize "\x7b\x7b \x7ba\x7d \x7d\x7d".toList) ≠
      Codec.default.sanitize "\x7b\x7b \x7ba\x7d \x7d\x7d".toList := by decide +kernel
  have htwice := sanitizing_twice Codec.default defaultClass rfl rfl huses hspares
    "\x7b\x7b \x7ba\x7d \x7d\x7d".toList
  exact ⟨huses, hspares, hchanges, fun hnone => hchanges (htwice.2.2.2.mpr hnone)⟩

end Codec

end DocBraces
