import DocBraces.Proofs.Braces.InlineSpans
import DocBraces.Proofs.Braces.PlaceholderSearch

/-!
# Inline code from backtick to backtick

A search for a backtick, other characters and a backtick goes over a line once. It jumps
over the span it has found, so that the backtick that ends a span begins no other one. This
is a walk over the segments between the backticks: behind a span it passes over the next
segment, and behind every other segment it goes on with the next.
-/

set_option autoImplicit false

namespace DocBraces

open DocBraces.Text DocBraces.Pattern

/-- A backtick, one or more other characters as a group, and a backtick. -/
def inlineCode : Expr :=
  .seq (.seq (exactly tick) (.group 1 (.rounds .greedy 1 none (.one {} (.excluding [tick])))))
    (exactly tick)

def offTicks (f : Char → Char) (c : Char) : Char := if c = tick then c else f c

def inlineLeftover (g : Leftover) : Leftover := ((g.char tick).rounds (· != tick)).char tick

theorem inlineCode_leaves (k : Rest) (g : Leftover) (h : Leaves k g) :
    Leaves (fun p s => inlineCode.run false none p s k) (inlineLeftover g) := by
  have hclass : (CharClass.excluding [tick]).holds {} = (· != tick) := by
    funext c
    rw [Placeholder.holds_excluding, List.contains_cons, List.contains_nil, Bool.or_false]
    rfl
  have hrounds (k : Rest) (g : Leftover) (h : Leaves k g) :
      Leaves (fun p s => (Expr.rounds .greedy 1 none (.one {} (.excluding [tick]))).run false none
        p s k) (g.rounds (· != tick)) := by
    rw [← hclass]
    exact rounds_leave_next _ none false k g h (by simp)
  have hclose := exactly_leaves tick false none k g h
  have hgroup := group_leaves 1 _ false (some ({}, CharClass.ofChar tick)) _ hrounds _ _ hclose
  exact exactly_leaves tick false none _ _ hgroup

theorem inlineLeftover_some (text rest : List Char) :
    inlineLeftover some text = some rest ↔
      ∃ content, content ≠ [] ∧ tick ∉ content ∧ text = tick :: (content ++ tick :: rest) := by
  have hone (g : Leftover) (text : List Char) := char_iterate_some tick 1 g text rest
  have hrounds := rounds_some (· != tick) tick (by simp) some
  constructor
  · intro h
    obtain ⟨more, rfl, hmore⟩ := (hone _ text).mp h
    obtain ⟨content, last, hne, hall, rfl, hlast⟩ := (hrounds more rest).mp hmore
    obtain ⟨final, rfl, hfinal⟩ := (hone some last).mp hlast
    obtain rfl : final = rest := Option.some.inj hfinal
    exact ⟨content, hne, fun hm => by simpa using hall tick hm, rfl⟩
  · rintro ⟨content, hne, hno, rfl⟩
    refine (hone _ _).mpr ⟨content ++ tick :: rest, rfl, (hrounds _ rest).mpr ?_⟩
    refine ⟨content, tick :: rest, hne, fun c hc => ?_, rfl, (hone some _).mpr ⟨rest, rfl, rfl⟩⟩
    simpa using fun he : c = tick => hno (he ▸ hc)

theorem exists_content (cs : List Char) (h : contentLength cs ≠ 0) :
    ∃ content rest, tick ∉ content ∧ content.length = contentLength cs ∧
      cs = content ++ tick :: rest := by
  rw [contentLength] at h ⊢
  by_cases hlt : (cs.takeWhile (· != tick)).length < cs.length
  · rw [if_pos hlt]
    have hsplit := List.takeWhile_append_dropWhile (p := (· != tick)) (l := cs)
    refine ⟨cs.takeWhile (· != tick), (cs.dropWhile (· != tick)).tail, ?_, rfl, ?_⟩
    · intro hm
      simpa using List.mem_takeWhile_imp hm
    · cases hrest : cs.dropWhile (· != tick) with
      | nil =>
        rw [hrest, List.append_nil] at hsplit
        rw [hsplit] at hlt
        omega
      | cons d ds =>
        have hd : d = tick := by
          have hhead := List.head_dropWhile_not (p := (· != tick)) (l := cs) (by simp [hrest])
          simpa [hrest] using hhead
        rw [hrest, hd] at hsplit
        exact hsplit.symm
  · rw [if_neg hlt] at h
    exact absurd rfl h

theorem inlineWidth_other (c : Char) (cs : List Char) (h : c ≠ tick) :
    (inlineLeftover some).width (c :: cs) = 0 := by
  simp [Leftover.width, inlineLeftover, Leftover.char, h]

theorem inlineWidth_tick (cs : List Char) :
    (inlineLeftover some).width (tick :: cs) =
      if contentLength cs = 0 then 0 else contentLength cs + 2 := by
  by_cases hlen : contentLength cs = 0
  · rw [if_pos hlen, Leftover.width]
    cases hleft : inlineLeftover some (tick :: cs) with
    | none => rfl
    | some rest =>
      obtain ⟨content, hne, hno, heq⟩ := (inlineLeftover_some _ rest).mp hleft
      rw [(List.cons.inj heq).2, contentLength_span content rest hno] at hlen
      exact absurd (List.length_eq_zero_iff.mp hlen) hne
  · obtain ⟨content, rest, hno, hlength, rfl⟩ := exists_content cs hlen
    have hne : content ≠ [] := by
      rintro rfl
      exact hlen hlength.symm
    have hleft := (inlineLeftover_some _ rest).mpr ⟨content, hne, hno, rfl⟩
    have hcut : tick :: (content ++ tick :: rest) = (tick :: (content ++ [tick])) ++ rest := by
      simp
    rw [hcut] at hleft ⊢
    rw [if_neg hlen, Leftover.width_append _ _ _ hleft, ← hlength]
    simp

theorem mapInlineCodeFrom_eq_by (f : Char → Char) (n : ℕ) (line : List Char) :
    mapInlineCodeFrom f n line =
      rewriteBy (inlineLeftover some).width (offTicks f) n line := by
  induction line generalizing n with
  | nil => cases n <;> rfl
  | cons c cs ih =>
    cases n with
    | succ n =>
      rw [mapInlineCodeFrom, rewriteBy, ih n]
      rfl
    | zero =>
      rw [mapInlineCodeFrom, rewriteBy]
      by_cases hc : c = tick
      · subst hc
        rw [if_pos rfl, inlineWidth_tick]
        cases hlen : contentLength cs with
        | zero => exact congrArg _ (ih 0)
        | succ n =>
          rw [if_neg n.succ_ne_zero]
          exact congrArg₂ _ (if_pos rfl).symm (ih (n + 2))
      · rw [if_neg hc, inlineWidth_other c cs hc]
        exact congrArg _ (ih 0)

/-- What is done to inline code is what a search does that maps all but the backticks. -/
theorem mapInlineCode_eq_rewrite (f : Char → Char) (line : List Char) :
    mapInlineCode f line = inlineCode.rewrite (offTicks f) line := by
  have hleft := inlineLeftover_some
  have hspan := spanAt_eq_width inlineCode (inlineLeftover some)
    (fun k hk => inlineCode_leaves k some hk) fun text rest h => by
      obtain ⟨content, _, _, rfl⟩ := (hleft text rest).mp h
      simp
      omega
  have hleast (text : List Char) (hw : (inlineLeftover some).width text ≠ 0) :
      inlineCode.leastLength ≤ text.length := by
    cases hg : inlineLeftover some text with
    | none => simp [Leftover.width, hg] at hw
    | some rest =>
      obtain ⟨content, hne, _, rfl⟩ := (hleft text rest).mp hg
      have hpos := List.length_pos_iff.mpr hne
      have hthree : inlineCode.leastLength = 3 := rfl
      simp only [hthree, List.length_cons, List.length_append]
      omega
  rw [rewrite_eq_by hspan hleast, mapInlineCode, mapInlineCodeFrom_eq_by]

/-- The places of the spans among the segments of a line, as a walk meets them that has
come to a segment behind a backtick. -/
def spanPlaces (segments : List (List Char)) (place : ℕ) : List ℕ :=
  if h : place + 1 < segments.length then
    if segments[place] = [] then spanPlaces segments (place + 1)
    else place :: spanPlaces segments (place + 2)
  else []
termination_by segments.length - place

section

variable {segments : List (List Char)} {place : ℕ}

theorem spanPlaces_empty (h : place + 1 < segments.length) (hnil : segments[place] = []) :
    spanPlaces segments place = spanPlaces segments (place + 1) := by
  rw [spanPlaces, dif_pos h, if_pos hnil]

theorem spanPlaces_span (h : place + 1 < segments.length) (hne : segments[place] ≠ []) :
    spanPlaces segments place = place :: spanPlaces segments (place + 2) := by
  rw [spanPlaces, dif_pos h, if_neg hne]

theorem spanPlaces_last (h : ¬place + 1 < segments.length) : spanPlaces segments place = [] := by
  rw [spanPlaces, dif_neg h]

theorem drop_pair (h : place + 1 < segments.length) :
    segments.drop place = segments[place] :: segments[place + 1] :: segments.drop (place + 2) := by
  rw [List.drop_eq_getElem_cons (Nat.lt_of_succ_lt h), List.drop_eq_getElem_cons h]

theorem drop_last (h : ¬place + 1 < segments.length) :
    segments.drop place = [] ∨ ∃ s, segments.drop place = [s] := by
  have hshort : (segments.drop place).length ≤ 1 := by
    rw [List.length_drop]
    omega
  cases hdrop : segments.drop place with
  | nil => exact .inl rfl
  | cons s rest =>
    rw [hdrop, List.length_cons] at hshort
    obtain rfl : rest = [] := List.length_eq_zero_iff.mp (by omega)
    exact .inr ⟨s, rfl⟩

end

theorem le_of_mem_spanPlaces (segments : List (List Char)) (place i : ℕ)
    (h : i ∈ spanPlaces segments place) : place ≤ i := by
  induction place using spanPlaces.induct segments with
  | case1 place hlt hnil ih =>
    rw [spanPlaces_empty hlt hnil] at h
    exact Nat.le_of_succ_le (ih h)
  | case2 place hlt hne ih =>
    rw [spanPlaces_span hlt hne, List.mem_cons] at h
    rcases h with rfl | h
    · exact le_refl _
    · exact Nat.le_of_succ_le (Nat.le_of_succ_le (ih h))
  | case3 place hlt =>
    rw [spanPlaces_last hlt] at h
    simp at h

theorem mapSpans_walk (f : Char → Char) (segments : List (List Char)) (place : ℕ) :
    mapSpans f (segments.drop place) = ((segments.drop place).zipIdx place).map fun s =>
      if s.2 ∈ spanPlaces segments place then s.1.map f else s.1 := by
  induction place using spanPlaces.induct segments with
  | case1 place hlt hnil ih =>
    rw [List.drop_eq_getElem_cons (Nat.lt_of_succ_lt hlt), List.zipIdx_cons, List.map_cons,
      spanPlaces_empty hlt hnil, ← ih, List.drop_eq_getElem_cons hlt, mapSpans, if_pos hnil]
    simp only [hnil, List.map_nil, ite_self]
  | case2 place hlt hne ih =>
    -- The walk leaves out the next place, and what it meets later lies behind both.
    have hnext : place + 1 ∉ place :: spanPlaces segments (place + 2) := by
      rw [List.mem_cons, not_or]
      refine ⟨by omega, fun hmem => ?_⟩
      have hle := le_of_mem_spanPlaces _ _ _ hmem
      omega
    have hlater : ∀ s ∈ (segments.drop (place + 2)).zipIdx (place + 2),
        (if s.2 ∈ spanPlaces segments (place + 2) then s.1.map f else s.1) =
          if s.2 ∈ place :: spanPlaces segments (place + 2) then s.1.map f else s.1 := by
      intro s hs
      have hle := List.le_snd_of_mem_zipIdx hs
      have hne : ¬s.2 = place := by omega
      simp only [List.mem_cons, hne, false_or]
    rw [drop_pair hlt, mapSpans, if_neg hne, ih, List.zipIdx_cons, List.zipIdx_cons,
      List.map_cons, List.map_cons, spanPlaces_span hlt hne, if_pos List.mem_cons_self,
      if_neg hnext, List.map_congr_left hlater]
  | case3 place hlt =>
    rw [spanPlaces_last hlt]
    rcases drop_last hlt with hdrop | ⟨s, hdrop⟩
    · rw [hdrop]
      rfl
    · rw [hdrop]
      rfl

theorem spans_walk (segments : List (List Char)) (place : ℕ) :
    spans (segments.drop place) = (spanPlaces segments place).filterMap (segments[·]?) := by
  induction place using spanPlaces.induct segments with
  | case1 place hlt hnil ih =>
    rw [List.drop_eq_getElem_cons hlt] at ih
    rw [drop_pair hlt, spans, if_pos hnil, ih, spanPlaces_empty hlt hnil]
  | case2 place hlt hne ih =>
    rw [drop_pair hlt, spans, if_neg hne, ih, spanPlaces_span hlt hne, List.filterMap_cons,
      List.getElem?_eq_getElem (Nat.lt_of_succ_lt hlt)]
  | case3 place hlt =>
    rw [spanPlaces_last hlt]
    rcases drop_last hlt with hdrop | ⟨s, hdrop⟩
    · rw [hdrop]
      rfl
    · rw [hdrop]
      rfl

theorem mapInlineCode_walk (f : Char → Char) (line : List Char) :
    mapInlineCode f line = joinTicks ((line.splitOn tick).mapIdx fun i s =>
      if i ∈ spanPlaces (line.splitOn tick) 1 then s.map f else s) := by
  obtain ⟨first, segments, hline⟩ := List.exists_cons_of_ne_nil (List.splitOn_ne_nil tick line)
  have hwalk := mapSpans_walk f (first :: segments) 1
  have hfirst : 0 ∉ spanPlaces (first :: segments) 1 := fun hmem =>
    absurd (le_of_mem_spanPlaces _ _ _ hmem) (by omega)
  rw [List.drop_one, List.tail_cons] at hwalk
  rw [mapInlineCode_segments f line first segments hline, hwalk, hline, List.mapIdx_eq_zipIdx_map,
    List.zipIdx_cons, List.map_cons]
  dsimp only
  rw [if_neg hfirst]

namespace Codec

/-- Inline code is found by a search from the left, for a backtick, other characters and a
backtick. A walk over the segments between the backticks finds the same spans: it begins
with the segment behind the first one, a segment that is not empty and not the last is a
span, behind which it leaves one segment out. Nothing but these spans is replaced. -/
theorem inlineCode_by_segments (k : Codec) (line : List Char) :
    k.sanitizeInlineCode line = inlineCode.rewrite (offTicks k.swapChar) line ∧
    k.sanitizeInlineCode line = joinTicks ((line.splitOn tick).mapIdx fun i s =>
      if i ∈ spanPlaces (line.splitOn tick) 1 then k.swap s else s) ∧
    inlineSpans line =
      (spanPlaces (line.splitOn tick) 1).filterMap ((line.splitOn tick)[·]?) := by
  refine ⟨mapInlineCode_eq_rewrite _ _, mapInlineCode_walk _ _, ?_⟩
  rw [inlineSpans, ← List.drop_one, spans_walk]

/-- Of two adjacent backticks the second one begins a span, and the last one none. -/
example : spanPlaces ("a\x60\x60b\x60c\x60d".toList.splitOn tick) 1 = [2] := by decide +kernel

end Codec

end DocBraces
