import DocBraces.Proofs.Braces.Restoring
import Mathlib.Data.List.TakeWhile

/-!
# Inline code by segments

The backticks of a line cut it into segments. A segment between two backticks that is
not empty is a span, and the backtick that ends it begins no other one. What a line holds
as inline code hangs on its backticks alone, so later changes elsewhere leave it in place.
-/

set_option autoImplicit false

namespace DocBraces

open DocBraces.Text

/-- Spans among the segments behind a backtick. -/
def spans : List (List Char) → List (List Char)
  | s :: t :: rest => if s = [] then spans (t :: rest) else s :: spans rest
  | _ => []

def inlineSpans (line : List Char) : List (List Char) := spans (line.splitOn tick).tail

def mapSpans (f : Char → Char) : List (List Char) → List (List Char)
  | s :: t :: rest => if s = [] then s :: mapSpans f (t :: rest) else s.map f :: t :: mapSpans f rest
  | segments => segments

def joinTicks (segments : List (List Char)) : List Char := [tick].intercalate segments

theorem joinTicks_cons (s : List Char) (segments : List (List Char)) (h : segments ≠ []) :
    joinTicks (s :: segments) = s ++ tick :: joinTicks segments := by
  rw [joinTicks, List.intercalate_cons_of_ne_nil h]
  simp [joinTicks]

theorem mapSpans_ne_nil (f : Char → Char) (segments : List (List Char)) (h : segments ≠ []) :
    mapSpans f segments ≠ [] := by
  match segments with
  | [] => exact absurd rfl h
  | [s] => simp [mapSpans]
  | s :: t :: rest =>
    rw [mapSpans]
    split <;> simp

theorem not_tick_of_mem_splitOn (line s : List Char) (h : s ∈ line.splitOn tick) : tick ∉ s := by
  induction line generalizing s with
  | nil => simp_all
  | cons c cs ih =>
    rw [List.splitOn_cons_eq_if_modifyHead] at h
    by_cases hc : c = tick
    · rw [if_pos (by simpa using hc), List.mem_cons] at h
      rcases h with rfl | h
      · simp
      · exact ih s h
    · rw [if_neg (by simpa using hc)] at h
      cases hcs : cs.splitOn tick with
      | nil => exact absurd hcs (List.splitOn_ne_nil tick cs)
      | cons t ts =>
        rw [hcs, List.modifyHead_cons, List.mem_cons] at h
        rcases h with rfl | h
        · have ht := ih t (by simp [hcs])
          simp [ht, Ne.symm hc]
        · exact ih s (by simp [hcs, h])

theorem mapInlineCodeFrom_plain (f : Char → Char) (s rest : List Char) (h : tick ∉ s) :
    mapInlineCodeFrom f 0 (s ++ rest) = s ++ mapInlineCodeFrom f 0 rest := by
  induction s with
  | nil => rfl
  | cons c cs ih =>
    simp only [List.mem_cons, not_or] at h
    simp [mapInlineCodeFrom, Ne.symm h.1, ih h.2]

theorem mapInlineCodeFrom_span (f : Char → Char) (s rest : List Char) (h : tick ∉ s) :
    mapInlineCodeFrom f (s.length + 1) (s ++ tick :: rest) =
      s.map f ++ tick :: mapInlineCodeFrom f 0 rest := by
  induction s with
  | nil => simp [mapInlineCodeFrom]
  | cons c cs ih =>
    simp only [List.mem_cons, not_or] at h
    simp [mapInlineCodeFrom, Ne.symm h.1, ih h.2]

theorem takeWhile_not_tick (s rest : List Char) (h : tick ∉ s) :
    (s ++ tick :: rest).takeWhile (· != tick) = s := by
  have hs : ∀ c ∈ s, (c != tick) = true := fun c hc => by
    simpa using fun he : c = tick => h (he ▸ hc)
  rw [List.takeWhile_append_of_pos hs]
  simp

theorem contentLength_span (s rest : List Char) (h : tick ∉ s) :
    contentLength (s ++ tick :: rest) = s.length := by
  simp [contentLength, takeWhile_not_tick s rest h]

theorem contentLength_unclosed (s : List Char) (h : tick ∉ s) : contentLength s = 0 := by
  have hs : s.takeWhile (· != tick) = s := by
    rw [List.takeWhile_eq_self_iff]
    exact fun c hc => by simpa using fun he : c = tick => h (he ▸ hc)
  simp [contentLength, hs]

theorem mapInlineCodeFrom_tick (f : Char → Char) (segments : List (List Char))
    (hne : segments ≠ []) (h : ∀ s ∈ segments, tick ∉ s) :
    mapInlineCodeFrom f 0 (tick :: joinTicks segments) =
      tick :: joinTicks (mapSpans f segments) := by
  match segments with
  | [] => exact absurd rfl hne
  | [s] =>
    have hs := h s (by simp)
    have hplain := mapInlineCodeFrom_plain f s [] hs
    simp only [List.append_nil] at hplain
    simp [mapInlineCodeFrom, joinTicks, mapSpans, contentLength_unclosed s hs, hplain]
  | s :: t :: rest =>
    have hs := h s (by simp)
    have ht := h t (by simp)
    have hrest : ∀ u ∈ rest, tick ∉ u := fun u hu => h u (by simp [hu])
    rw [joinTicks_cons s (t :: rest) (by simp), mapInlineCodeFrom, if_pos rfl,
      contentLength_span s _ hs, mapSpans]
    cases hlen : s.length with
    | zero =>
      obtain rfl := List.length_eq_zero_iff.mp hlen
      have ih := mapInlineCodeFrom_tick f (t :: rest) (by simp) fun u hu => h u (by simp [hu])
      rw [if_pos rfl, joinTicks_cons [] _ (mapSpans_ne_nil f _ (by simp))]
      simpa using ih
    | succ n =>
      have hne' : s ≠ [] := by rintro rfl; simp at hlen
      have hspan : mapInlineCodeFrom f (n + 2) (s ++ tick :: joinTicks (t :: rest)) =
          s.map f ++ tick :: mapInlineCodeFrom f 0 (joinTicks (t :: rest)) := by
        rw [← mapInlineCodeFrom_span f s _ hs, hlen]
      rw [if_neg hne', joinTicks_cons (s.map f) _ (by simp)]
      change tick :: mapInlineCodeFrom f (n + 2) _ = _
      rw [hspan]
      cases rest with
      | nil =>
        have hplain := mapInlineCodeFrom_plain f t [] ht
        simp only [List.append_nil] at hplain
        simp [joinTicks, mapSpans, hplain, mapInlineCodeFrom]
      | cons u us =>
        have ih := mapInlineCodeFrom_tick f (u :: us) (by simp) hrest
        rw [joinTicks_cons t _ (by simp), joinTicks_cons t _ (mapSpans_ne_nil f _ (by simp)),
          mapInlineCodeFrom_plain f t _ ht, ih]

theorem mapInlineCode_segments (f : Char → Char) (line first : List Char)
    (segments : List (List Char)) (h : line.splitOn tick = first :: segments) :
    mapInlineCode f line = joinTicks (first :: mapSpans f segments) := by
  have hno : ∀ s ∈ first :: segments, tick ∉ s := fun s hs =>
    not_tick_of_mem_splitOn line s (h ▸ hs)
  have hfirst := hno first (by simp)
  have hline : line = joinTicks (first :: segments) := by
    rw [← h, joinTicks, List.intercalate_splitOn]
  cases segments with
  | nil =>
    have hplain := mapInlineCodeFrom_plain f first [] hfirst
    simp only [List.append_nil] at hplain
    rw [hline]
    simp [mapInlineCode, joinTicks, mapSpans, hplain, mapInlineCodeFrom]
  | cons s rest =>
    have htick := mapInlineCodeFrom_tick f (s :: rest) (by simp) fun u hu => hno u (by simp [hu])
    rw [hline, mapInlineCode, joinTicks_cons _ _ (by simp),
      joinTicks_cons _ _ (mapSpans_ne_nil f _ (by simp)), mapInlineCodeFrom_plain f first _ hfirst,
      htick]

theorem joinTicks_injective (ss ts : List (List Char))
    (h : List.Forall₂ (fun s t => s.length = t.length) ss ts)
    (heq : joinTicks ss = joinTicks ts) : ss = ts := by
  induction h with
  | nil => rfl
  | @cons s t ss ts hlen hrest ih =>
    cases hrest with
    | nil => simpa [joinTicks] using heq
    | cons _ _ =>
      rw [joinTicks_cons s _ (by simp), joinTicks_cons t _ (by simp)] at heq
      obtain ⟨rfl, htail⟩ := List.append_inj heq hlen
      rw [ih (List.cons.inj htail).2]

theorem mapSpans_length (f : Char → Char) (segments : List (List Char)) :
    List.Forall₂ (fun s t => s.length = t.length) (mapSpans f segments) segments := by
  match segments with
  | [] => exact .nil
  | [s] => exact .cons rfl .nil
  | s :: t :: rest =>
    rw [mapSpans]
    split
    · exact .cons rfl (mapSpans_length f (t :: rest))
    · exact .cons (by simp) (.cons rfl (mapSpans_length f rest))

theorem spans_settled (f : Char → Char) (segments : List (List Char))
    (h : mapSpans f segments = segments) : ∀ s ∈ spans segments, ∀ c ∈ s, f c = c := by
  match segments with
  | [] => simp [spans]
  | [s] => simp [spans]
  | s :: t :: rest =>
    rw [mapSpans] at h
    rw [spans]
    split at h
    · next hs =>
      rw [if_pos hs]
      exact spans_settled f (t :: rest) (List.cons.inj h).2
    · next hs =>
      rw [if_neg hs]
      obtain ⟨hmap, htail⟩ := List.cons.inj h
      have hrest := spans_settled f rest (List.cons.inj htail).2
      intro u hu
      rcases List.mem_cons.mp hu with rfl | hu
      · have hid : u.map f = u.map id := by simpa using hmap
        exact List.map_inj_left.mp hid
      · exact hrest u hu

theorem inlineSpans_settled (f : Char → Char) (line : List Char)
    (h : mapInlineCode f line = line) : ∀ s ∈ inlineSpans line, ∀ c ∈ s, f c = c := by
  cases hline : line.splitOn tick with
  | nil => exact absurd hline (List.splitOn_ne_nil tick line)
  | cons first segments =>
    have hmap := mapInlineCode_segments f line first segments hline
    have hjoin : joinTicks (first :: segments) = line := by
      rw [← hline, joinTicks, List.intercalate_splitOn]
    rw [h, ← hjoin] at hmap
    have hinj := joinTicks_injective _ _ (.cons rfl (mapSpans_length f segments)) hmap.symm
    rw [inlineSpans, hline]
    exact spans_settled f segments (List.cons.inj hinj).2

theorem contentLength_alike (cs ds : List Char)
    (h : List.Forall₂ (fun c d => c = tick ↔ d = tick) cs ds) :
    contentLength cs = contentLength ds := by
  have htake : (cs.takeWhile (· != tick)).length = (ds.takeWhile (· != tick)).length := by
    induction h with
    | nil => rfl
    | @cons c d cs ds hcd _ ih =>
      by_cases hc : c = tick
      · simp [hc, hcd.mp hc]
      · have hd : d ≠ tick := fun hd => hc (hcd.mpr hd)
        simp [hc, hd, ih]
  simp only [contentLength, htake, h.length_eq]

theorem mapInlineCodeFrom_settled (f : Char → Char) (hf : ∀ c, f (f c) = f c) (n : ℕ)
    (line later : List Char) (hticks : List.Forall₂ (fun c d => c = tick ↔ d = tick) line later)
    (h : List.Forall₂ (StaysOr f) (mapInlineCodeFrom f n line) later) :
    mapInlineCodeFrom f n later = later := by
  have hsettled (c d : Char) (hcd : StaysOr f (f c) d) : f d = d := by
    rcases hcd with rfl | rfl
    · exact hf c
    · rw [hf, hf]
  induction hticks generalizing n with
  | nil => cases n <;> rfl
  | @cons c d cs ds hcd hrest ih =>
    cases n with
    | succ n =>
      rw [mapInlineCodeFrom, List.forall₂_cons] at h
      rw [mapInlineCodeFrom, ih n h.2]
      by_cases hc : c = tick
      · rw [if_pos (hcd.mp hc)]
      · rw [if_neg hc] at h
        rw [if_neg fun hd => hc (hcd.mpr hd), hsettled c d h.1]
    | zero =>
      have hlen := contentLength_alike cs ds hrest
      rw [mapInlineCodeFrom] at h ⊢
      by_cases hc : c = tick
      · rw [if_pos hc, List.forall₂_cons] at h
        rw [if_pos (hcd.mp hc), ← hlen]
        cases hl : contentLength cs with
        | zero =>
          rw [hl] at h
          exact congrArg _ (ih 0 h.2)
        | succ m =>
          rw [hl] at h
          exact congrArg _ (ih (m + 2) h.2)
      · rw [if_neg hc, List.forall₂_cons] at h
        rw [if_neg fun hd => hc (hcd.mpr hd), ih 0 h.2]

end DocBraces
