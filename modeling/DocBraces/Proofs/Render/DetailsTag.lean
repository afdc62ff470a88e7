import DocBraces.Pattern.Parse
import DocBraces.Proofs.Pattern.Plain
import DocBraces.Render.Gate
import Mathlib.Data.List.Forall2

/-!
# Details tags

The search for a details tag that asks for Markdown tries every place of a text and every
split of two rounds. What it finds are the tags that a scan finds: an opening, a closing sign
behind it, and the attribute between the opening and the first closing sign.
-/

set_option autoImplicit false

namespace DocBraces.Render

open DocBraces.Pattern DocBraces.Text

/-- The ways to write a letter of the tag where case plays no part: `i`, `s` and `k` have
more than two. -/
def spellings : Char → List Char
  | 'i' => ['i', 'I', '\u0130', '\u0131']
  | 's' => ['s', 'S', '\u017f']
  | 'k' => ['k', 'K', '\u212a']
  | c => [c, c.toUpper]

/-- A text that is a word but for the case of its letters. -/
def Spells (word text : List Char) : Prop := List.Forall₂ (fun c d => d ∈ spellings c) word text

def tagOpening : List Char := "<details".toList

def attributeName : List Char := "markdown=".toList

def tagLetters : List Char := tagOpening ++ attributeName ++ ['1', '>']

theorem mem_lowerSources (n : ℕ) : n ∈ lowerSources (lowerCode n) := by
  have hsource (m : ℕ) (h : lowerRows.findSome? (·.image? n) = some m) :
      n ∈ lowerRows.filterMap (·.source? m) := by
    obtain ⟨row, hrow, himage⟩ := List.exists_of_findSome?_eq_some h
    refine List.mem_filterMap.mpr ⟨row, hrow, ?_⟩
    unfold CaseRow.image? at himage
    split at himage
    · next hin =>
      obtain rfl := Option.some.inj himage
      have hback : n - row.first + row.image - row.image = n - row.first :=
        Nat.add_sub_cancel _ _
      unfold CaseRow.source?
      rw [if_pos (by rw [hback]; omega), hback, Nat.sub_add_cancel hin.1]
    · cases himage
  unfold lowerSources
  cases h : lowerRows.findSome? (·.image? n) with
  | none =>
    have hself : lowerCode n = n := by simp [lowerCode, h]
    simp [hself]
  | some m =>
    have himage : lowerCode n = m := by simp [lowerCode, h]
    rw [himage]
    split
    · exact List.mem_cons_of_mem _ (hsource m h)
    · exact hsource m h

theorem holds_anyCase (c d : Char) : (CharClass.ofChar c).holds anyCase d =
    if Text.isCased c.toNat then (kin (lowerCode c.toNat)).contains (lowerCode d.toNat)
    else c.toNat == d.toNat := by
  rw [CharClass.holds, CharClass.ofChar, Bool.bne_false]
  rfl

theorem holds_iff_spelling {c : Char} (hc : c ∈ tagLetters) (d : Char) :
    (CharClass.ofChar c).holds anyCase d = true ↔ d ∈ spellings c := by
  -- checks along a list: a bound on a character could also be decided over all characters
  have hspelled : ∀ c ∈ tagLetters, ∀ d ∈ spellings c,
      (CharClass.ofChar c).holds anyCase d = true := by
    have checked : (tagLetters.all fun c => (spellings c).all fun d =>
      (CharClass.ofChar c).holds anyCase d) = true := by decide +kernel
    simpa only [List.all_eq_true] using checked
  have hself : ∀ c ∈ tagLetters, c ∈ spellings c := by
    have checked : (tagLetters.all fun c => (spellings c).contains c) = true := by decide +kernel
    simpa only [List.all_eq_true, List.contains_iff_mem] using checked
  have hsources : ∀ c ∈ tagLetters, Text.isCased c.toNat = true →
      ∀ n ∈ (kin (lowerCode c.toNat)).flatMap lowerSources, n ∈ (spellings c).map Char.toNat := by
    have checked : (tagLetters.all fun c => !Text.isCased c.toNat ||
      ((kin (lowerCode c.toNat)).flatMap lowerSources).all fun n =>
        ((spellings c).map Char.toNat).contains n) = true := by decide +kernel
    simpa only [List.all_eq_true, List.contains_iff_mem, Bool.or_eq_true, Bool.not_eq_true',
      ← Bool.not_eq_true, ← imp_iff_not_or] using checked
  constructor
  · intro h
    rw [holds_anyCase] at h
    split at h
    · next hcased =>
      obtain ⟨e, he, hed⟩ := List.mem_map.mp (hsources c hc hcased d.toNat
        (List.mem_flatMap.mpr ⟨_, List.contains_iff_mem.mp h, mem_lowerSources _⟩))
      exact Char.toNat_inj.mp hed ▸ he
    · obtain rfl := Char.toNat_inj.mp (by simpa using h)
      exact hself c hc
  · exact hspelled c hc d

theorem Spells.mem {word text : List Char} (h : Spells word text) {d : Char} (hd : d ∈ text) :
    ∃ c ∈ word, d ∈ spellings c := by
  induction h with
  | nil => cases hd
  | @cons c _ _ _ hcd _ ih =>
    obtain rfl | hd := List.mem_cons.mp hd
    · exact ⟨c, .head _, hcd⟩
    · obtain ⟨c, hc, hcd⟩ := ih hd
      exact ⟨c, .tail _ hc, hcd⟩

theorem Spells.length {word text : List Char} (h : Spells word text) :
    text.length = word.length := (List.Forall₂.length_eq h).symm

theorem detailsTag_plain : detailsTag.isPlain = true := rfl

theorem word_isSome {cs : List Char} (hcs : cs ⊆ tagLetters) (g : Leftover) (text : List Char) :
    ((word cs).turn g text).isSome = true ↔
      ∃ spelled rest, text = spelled ++ rest ∧ Spells cs spelled ∧ (g rest).isSome = true := by
  induction cs generalizing text with
  | nil =>
    constructor
    · exact fun h => ⟨[], text, rfl, .nil, h⟩
    · rintro ⟨spelled, rest, rfl, hs, h⟩
      cases hs
      exact h
  | cons c cs ih =>
    obtain ⟨hc, hcs⟩ := List.cons_subset.mp hcs
    refine (test_isSome _ _ text).trans ?_
    simp only [holds_iff_spelling hc, ih hcs]
    constructor
    · rintro ⟨d, _, rfl, hd, spelled, rest, rfl, hs, h⟩
      exact ⟨d :: spelled, rest, rfl, .cons hd hs, h⟩
    · rintro ⟨_, rest, rfl, hs, h⟩
      cases hs with
      | cons hd hs => exact ⟨_, _, rfl, hd, _, rest, rfl, hs, h⟩

theorem sign_isSome {c : Char} (hc : c ∈ tagLetters) (alone : spellings c = [c, c])
    (g : Leftover) (text : List Char) : ((word [c]).turn g text).isSome = true ↔
      ∃ rest, text = c :: rest ∧ (g rest).isSome = true := by
  rw [word_isSome (List.cons_subset.mpr ⟨hc, List.nil_subset _⟩)]
  constructor
  · rintro ⟨_, rest, rfl, hs, h⟩
    cases hs with
    | cons hd hs =>
      cases hs
      obtain rfl : _ = c := by simpa [alone] using hd
      exact ⟨rest, rfl, h⟩
  · rintro ⟨rest, rfl, h⟩
    exact ⟨[c], rest, rfl, .cons (by simp [alone]) .nil, h⟩

def quotes : List Char := ['"', '\'']

theorem quoteMark_isSome (g : Leftover) (text : List Char) :
    (quoteMark.turn g text).isSome = true ↔
      ∃ q rest, text = q :: rest ∧ q ∈ quotes ∧ (g rest).isSome = true := by
  have hholds (q : Char) : (CharClass.ofChars quotes).holds anyCase q = true ↔ q ∈ quotes := by
    rw [CharClass.holds_uncased (by decide +kernel), CharClass.any_ofChars]
    simp [CharClass.ofChars]
  refine (test_isSome _ _ text).trans ?_
  simp only [← hholds]
  rfl

theorem withinTag_isSome (g : Leftover) (text : List Char) :
    (withinTag.turn g text).isSome = true ↔
      ∃ inside rest, text = inside ++ rest ∧ '>' ∉ inside ∧ (g rest).isSome = true := by
  have hholds (c : Char) : (CharClass.excluding ['>']).holds anyCase c = true ↔ c ≠ '>' := by
    rw [CharClass.holds_uncased (by decide +kernel), CharClass.excluding, CharClass.any_ofChars]
    simp
  have hall (inside : List Char) : (∀ c ∈ inside, c ≠ '>') ↔ '>' ∉ inside :=
    ⟨fun h hm => h _ hm rfl, fun h c hc he => h (he ▸ hc)⟩
  refine (roundsFrom_isSome _ _ text).trans ?_
  simp only [hholds, hall]

/-- The inside of a tag has the attribute that asks for Markdown. -/
def AsksForMarkdown (inside : List Char) : Prop :=
  ∃ name q r, Spells attributeName name ∧ q ∈ quotes ∧ r ∈ quotes ∧
    name ++ [q, '1', r] <:+: inside

theorem detailsTag_isSome (text : List Char) : (detailsTag.turn some text).isSome = true ↔
    ∃ opening inside rest, text = opening ++ (inside ++ '>' :: rest) ∧
      Spells tagOpening opening ∧ '>' ∉ inside ∧ AsksForMarkdown inside := by
  have hopening : tagOpening ⊆ tagLetters := by decide
  have hname : attributeName ⊆ tagLetters := by decide
  have hone := sign_isSome (c := '1') (by decide) rfl
  have hclose := sign_isSome (c := '>') (by decide) rfl
  -- neither the name nor the quotes can close the tag
  have hsigns : ∀ c ∈ attributeName, '>' ∉ spellings c := by
    have checked : (attributeName.all fun c => !(spellings c).contains '>') = true := by decide
    simpa only [List.all_eq_true, Bool.not_eq_true', ← Bool.not_eq_true, List.contains_iff_mem]
      using checked
  have hquotes : ∀ q ∈ quotes, q ≠ '>' := by
    have checked : (quotes.all fun q => q != '>') = true := by decide
    simpa only [List.all_eq_true, bne_iff_ne] using checked
  constructor
  · intro h
    obtain ⟨opening, _, rfl, spelled, h⟩ := (word_isSome hopening _ _).mp h
    obtain ⟨lead, _, rfl, hlead, h⟩ := (withinTag_isSome _ _).mp h
    obtain ⟨name, _, rfl, named, h⟩ := (word_isSome hname _ _).mp h
    obtain ⟨q, _, rfl, hq, h⟩ := (quoteMark_isSome _ _).mp h
    obtain ⟨_, rfl, h⟩ := (hone _ _).mp h
    obtain ⟨r, _, rfl, hr, h⟩ := (quoteMark_isSome _ _).mp h
    obtain ⟨tail, _, rfl, htail, h⟩ := (withinTag_isSome _ _).mp h
    obtain ⟨rest, rfl, _⟩ := (hclose _ _).mp h
    refine ⟨opening, lead ++ (name ++ [q, '1', r]) ++ tail, rest, by simp, spelled, ?_, ?_⟩
    · have hlong : '>' ∉ name := fun hm =>
        let ⟨c, hc, hs⟩ := named.mem hm
        hsigns c hc hs
      simp [hlead, hlong, htail, (hquotes q hq).symm, (hquotes r hr).symm]
    · exact ⟨name, q, r, named, hq, hr, lead, tail, rfl⟩
  · rintro ⟨opening, inside, rest, rfl, spelled, hinside, name, q, r, named, hq, hr, lead, tail, rfl⟩
    simp only [List.mem_append, not_or] at hinside
    refine (word_isSome hopening _ _).mpr ⟨opening, _, rfl, spelled, ?_⟩
    refine (withinTag_isSome _ _).mpr ⟨lead, name ++ q :: '1' :: r :: (tail ++ '>' :: rest), by simp, hinside.1.1, ?_⟩
    refine (word_isSome hname _ _).mpr ⟨name, _, rfl, named, ?_⟩
    refine (quoteMark_isSome _ _).mpr ⟨q, _, rfl, hq, ?_⟩
    refine (hone _ _).mpr ⟨_, rfl, ?_⟩
    refine (quoteMark_isSome _ _).mpr ⟨r, _, rfl, hr, ?_⟩
    refine (withinTag_isSome _ _).mpr ⟨tail, _, rfl, hinside.2, ?_⟩
    exact (hclose _ _).mpr ⟨rest, rfl, rfl⟩

theorem finds_iff {e : Expr} (plain : e.isPlain = true) (before text : List Char) :
    findsFrom e before text = true ↔ ∃ i, (e.turn some (text.drop i)).isSome = true := by
  have hhere (before text : List Char) :
      (e.lengthAt? false before text).isSome = (e.turn some text).isSome := by
    have hleaves : Leaves (fun q s => if false && q.meets ⟨before, text⟩ then .failed s
        else .matched (s.lookAt q)) some := fun _ _ => rfl
    have hrun := plain_leaves plain false hleaves (expects_none _) ⟨before, text⟩
      { place := ⟨before, text⟩ }
    rw [Expr.lengthAt?_eq_left?, hrun, Option.isSome_map]
  induction text generalizing before with
  | nil => simp [findsFrom, hhere]
  | cons c cs ih =>
    rw [findsFrom, Bool.or_eq_true, hhere]
    refine (or_congr_right (ih (c :: before))).trans ?_
    constructor
    · rintro (h | ⟨i, h⟩)
      · exact ⟨0, h⟩
      · exact ⟨i + 1, h⟩
    · rintro ⟨_ | i, h⟩
      · exact .inl h
      · exact .inr ⟨i, h⟩

def detailsText : String := "(?i:<details[^>]*markdown=[\"']1[\"'][^>]*>)"

theorem parse_detailsText :
    (parse detailsText.toList).map Expr.parts = .ok detailsTag.parts := by
  decide +kernel

/-- The pattern that is searched for is the written one, but for the way it is bracketed. -/
theorem finds_written : ∃ e, parse detailsText.toList = .ok e ∧ ∀ before text,
    findsFrom e before text = findsFrom detailsTag before text := by
  cases he : parse detailsText.toList with
  | error f =>
    have hread := parse_detailsText
    rw [he] at hread
    cases hread
  | ok e =>
    have hread := parse_detailsText
    rw [he] at hread
    have hparts : e.parts = detailsTag.parts := Except.ok.inj hread
    have hplain : e.isPlain = true := by
      rw [e.isPlain_eq_parts, hparts, ← detailsTag.isPlain_eq_parts, detailsTag_plain]
    refine ⟨e, rfl, fun before text => ?_⟩
    rw [Bool.eq_iff_iff, finds_iff hplain, finds_iff detailsTag_plain]
    simp only [Expr.turn_eq_parts, hparts]

/-- A tag that begins a text, told by its opening and the first closing sign. -/
theorem detailsTag_scan (text : List Char) : (detailsTag.turn some text).isSome = true ↔
    Spells tagOpening (text.take tagOpening.length) ∧ '>' ∈ text.drop tagOpening.length ∧
      AsksForMarkdown ((text.drop tagOpening.length).takeWhile (· != '>')) := by
  rw [detailsTag_isSome]
  have hfirst (inside rest : List Char) (h : '>' ∉ inside) :
      (inside ++ '>' :: rest).takeWhile (· != '>') = inside := by
    have hall : ∀ c ∈ inside, (c != '>') = true := fun c hc => by
      simpa using fun he : c = '>' => h (he ▸ hc)
    rw [List.takeWhile_append_of_pos hall]
    simp
  constructor
  · rintro ⟨opening, inside, rest, rfl, spelled, hinside, asks⟩
    rw [List.take_left' spelled.length, List.drop_left' spelled.length, hfirst _ _ hinside]
    exact ⟨spelled, by simp, asks⟩
  · rintro ⟨spelled, hclose, asks⟩
    obtain ⟨inside, rest, hbehind, hinside⟩ := List.eq_append_cons_of_mem hclose
    rw [hbehind, hfirst _ _ hinside] at asks
    refine ⟨_, inside, rest, ?_, spelled, hinside, asks⟩
    rw [← hbehind, List.take_append_drop]

/-- The search for the written pattern finds a tag just if, behind some place where the
opening stands, there is a closing sign, and the attribute is in front of the first one. -/
theorem hasDetails_iff (source : List Char) :
    (∃ e, parse detailsText.toList = .ok e ∧ findsFrom e [] source = hasDetails source) ∧
      (hasDetails source = true ↔
        ∃ i, Spells tagOpening ((source.drop i).take tagOpening.length) ∧
          '>' ∈ source.drop (i + tagOpening.length) ∧
          AsksForMarkdown ((source.drop (i + tagOpening.length)).takeWhile (· != '>'))) := by
  obtain ⟨e, he, hsame⟩ := finds_written
  refine ⟨⟨e, he, hsame [] source⟩, ?_⟩
  rw [hasDetails, finds_iff detailsTag_plain]
  simp only [detailsTag_scan, List.drop_drop]

/-- The attribute of a later tag is not taken for this one's. -/
example : hasDetails "<details><p markdown='1'>".toList = false := by decide +kernel

/-- An opening inside the tag does not get in the way of its attribute. -/
example : hasDetails "<details <DETAIL\u017f Mar\u212adown=\"1'>".toList = true := by
  decide +kernel

end DocBraces.Render
