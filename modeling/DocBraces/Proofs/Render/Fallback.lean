import DocBraces.Proofs.Session.Keeping
import DocBraces.Render.Fallback

/-!
# The fallback gate

Rendering calls the primary renderer once and first, and the fallback once at most, with the
same source. This holds of renderers that do what they like to a world and may fail.
-/

set_option autoImplicit false

namespace DocBraces.Render

variable {ω ε : Type}

theorem occursIn_iff (part text : List Char) : occursIn part text = true ↔ part <:+: text := by
  induction text with
  | nil => simp [occursIn]
  | cons c cs ih =>
    rw [occursIn, Bool.or_eq_true, List.isPrefixOf_iff_prefix, ih, List.infix_cons_iff]

theorem improved_iff (html : List Char) : improved html = true ↔
    ¬ paragraphFence <:+: html ∧ "<pre".toList <:+: html ∧ "<code".toList <:+: html := by
  rw [improved, hasRawFence, hasCodeBlock, Bool.and_eq_true, Bool.and_eq_true, occursIn_iff,
    occursIn_iff, Bool.not_eq_true', ← Bool.not_eq_true, occursIn_iff]

theorem needsFallback_of_improved {html : List Char} (h : improved html = true)
    (source : List Char) : needsFallback source html = false := by
  obtain ⟨hraw, hcode⟩ := Bool.and_eq_true_iff.mp h
  rw [needsFallback, hcode, Bool.not_true, Bool.and_false, Bool.or_false]
  simpa using hraw

/-- The fallback is called: it is there and enabled, and the primary renderer made a page
that a source with a fence is rendered again for. -/
def Retries (fallback : Option (ActiveRenderer ω ε)) (enabled : Bool) (source : List Char)
    (first : Except ε (List Char)) : Prop :=
  enabled = true ∧ fallback.isSome = true ∧ fenceMark <:+: source ∧
    ∃ html, first = .ok html ∧ needsFallback source html = true

theorem retries_iff {second : ActiveRenderer ω ε} {enabled : Bool} {source html : List Char} :
    Retries (some second) enabled source (.ok html : Except ε _) ↔
      worthRetrying enabled source html = true := by
  simp [Retries, worthRetrying, occursIn_iff, and_assoc]

theorem noting_run (r : ActiveRenderer ω ε) (call : Call) (source : List Char) (w : ω)
    (requests : List Request) : (r.noting call source).run (w, requests) =
      (((r source).run w).1, ((r source).run w).2, requests ++ [⟨call, source⟩]) := rfl

/-- What becomes of a page that is not good enough, from the world that its renderer leaves. -/
def retrying (remark : Remark → ω → ω) (second : ActiveRenderer ω ε) (source html : List Char)
    (w : ω) : Except ε Page × ω :=
  match (second source).run (remark .retrying w) with
  | (.error e, w') => (.error e, w')
  | (.ok other, w') =>
    if improved other then (.ok ⟨other, true, true⟩, remark .adopted w')
    else (.ok ⟨html, false, true⟩, remark .kept w')

variable (remark : Remark → ω → ω) (primary : ActiveRenderer ω ε)
  (fallback : Option (ActiveRenderer ω ε)) (enabled : Bool) (source : List Char) (w : ω)

theorem run_modify_bind {α : Type} (g : ω → ω) (f : PUnit → ExceptT ε (StateM ω) α) :
    ((modify g : ExceptT ε (StateM ω) PUnit) >>= f).run w = (f ⟨⟩).run (g w) := rfl

theorem renderIn_run : (renderIn remark primary fallback enabled source).run w =
    match (primary source).run w, fallback with
    | (.error e, w'), _ => (.error e, w')
    | (.ok html, w'), none => (.ok { html }, w')
    | (.ok html, w'), some second =>
      if worthRetrying enabled source html then retrying remark second source html w'
      else (.ok { html }, w') := by
  unfold renderIn retrying
  rw [Session.run_bind]
  rcases (primary source).run w with ⟨e | html, w'⟩
  · rfl
  · dsimp only
    cases fallback with
    | none => rfl
    | some second =>
      dsimp only
      split
      · rw [run_modify_bind, Session.run_bind]
        rcases (second source).run (remark .retrying w') with ⟨e | other, w''⟩
        · rfl
        · dsimp only
          rw [run_modify_bind]
          cases hi : improved other <;> simp [Page.ofRetry, hi] <;> rfl
      · rfl

variable {remark primary fallback enabled source w} {w' : ω} {html : List Char}

theorem renderIn_fails {e : ε} (h : (primary source).run w = (.error e, w')) :
    (renderIn remark primary fallback enabled source).run w = (.error e, w') := by
  rw [renderIn_run, h]

theorem renderIn_passes (h : (primary source).run w = (.ok html, w'))
    (hno : ¬ Retries fallback enabled source (.ok html : Except ε _)) :
    (renderIn remark primary fallback enabled source).run w = (.ok { html }, w') := by
  rw [renderIn_run, h]
  cases fallback with
  | none => rfl
  | some second => exact if_neg (mt retries_iff.mpr hno)

theorem renderIn_retries {second : ActiveRenderer ω ε}
    (h : (primary source).run w = (.ok html, w'))
    (hyes : Retries (some second) enabled source (.ok html : Except ε _)) :
    (renderIn remark primary (some second) enabled source).run w =
      retrying remark second source html w' := by
  rw [renderIn_run, h]
  exact if_pos (retries_iff.mp hyes)

theorem renderIn_keeps {P : ω → Prop} (remarks : ∀ r w, P w → P (remark r w))
    (first : ∀ w, P w → P ((primary source).run w).2)
    (again : ∀ second ∈ fallback, ∀ w, P w → P ((second source).run w).2) (h : P w) :
    P ((renderIn remark primary fallback enabled source).run w).2 := by
  have one := first w h
  rw [renderIn_run]
  generalize (primary source).run w = ended at one ⊢
  rcases ended with ⟨e | html, w'⟩
  · exact one
  · cases fallback with
    | none => exact one
    | some second =>
      dsimp only
      split
      · have two := again second rfl _ (remarks .retrying w' one)
        unfold retrying
        generalize (second source).run (remark .retrying w') = ended at two ⊢
        rcases ended with ⟨e | other, w''⟩
        · exact two
        · dsimp only
          split <;> exact remarks _ _ two
      · exact one

theorem page_of_renderIn {page : Page}
    (h : ((renderIn remark primary fallback enabled source).run w).1 = .ok page) :
    ¬ Retries fallback enabled source ((primary source).run w).1 ∧
        page.fallbackAttempted = false ∧ page.usedFallback = false ∨
      Retries fallback enabled source ((primary source).run w).1 ∧
        page.fallbackAttempted = true ∧ (page.usedFallback = true → improved page.html = true) := by
  rcases hfirst : (primary source).run w with ⟨e | html, w'⟩
  · rw [renderIn_fails hfirst] at h
    cases h
  · by_cases hyes : Retries fallback enabled source (.ok html : Except ε _)
    · obtain ⟨second, rfl⟩ := Option.isSome_iff_exists.mp hyes.2.1
      rw [renderIn_retries hfirst hyes, retrying] at h
      refine .inr ⟨hyes, ?_⟩
      rcases hsecond : (second source).run (remark .retrying w') with ⟨e | other, w''⟩
      · rw [hsecond] at h
        cases h
      · rw [hsecond] at h
        dsimp only at h
        split at h
        · next hi =>
          obtain rfl := Except.ok.inj h
          exact ⟨rfl, fun _ => hi⟩
        · obtain rfl := Except.ok.inj h
          exact ⟨rfl, nofun⟩
    · rw [renderIn_passes hfirst hyes] at h
      obtain rfl := Except.ok.inj h
      exact .inl ⟨hyes, rfl, rfl⟩

variable (remark primary fallback enabled source w)

/-- The calls that are noted: the primary renderer's, and then the fallback's if it is called. -/
theorem renderNoting_run (first : Except ε (List Char) × ω)
    (h : (primary source).run w = first) :
    let out := renderNoting remark primary fallback enabled source w
    (renderIn remark primary fallback enabled source).run w = (out.result, out.world) ∧
      (Retries fallback enabled source first.1 ∧
          out.requests = [⟨.primary, source⟩, ⟨.fallback, source⟩] ∨
        ¬ Retries fallback enabled source first.1 ∧ out.requests = [⟨.primary, source⟩]) := by
  dsimp only
  unfold renderNoting
  dsimp only
  rw [renderIn_run, renderIn_run, noting_run, h]
  obtain ⟨e | html, w'⟩ := first
  · refine ⟨rfl, .inr ⟨?_, rfl⟩⟩
    rintro ⟨_, _, _, html, he, _⟩
    cases he
  · cases fallback with
    | none => exact ⟨rfl, .inr ⟨fun ⟨_, hsome, _⟩ => (nomatch hsome), rfl⟩⟩
    | some second =>
      simp only [Option.map_some, retries_iff]
      cases hworth : worthRetrying enabled source html with
      | false => exact ⟨rfl, .inr ⟨Bool.false_ne_true, rfl⟩⟩
      | true =>
        simp only [if_true, retrying, noting_run]
        rcases (second source).run (remark .retrying w') with ⟨e | other, w''⟩
        · exact ⟨rfl, .inl ⟨trivial, rfl⟩⟩
        · cases hi : improved other <;> simp [hi]

/-- How rendering goes from a world: what is called, what comes of it, and what is left. -/
structure Gated (out : Outcome ω ε) : Prop where
  /-- Noting the calls changes neither the page nor the world. -/
  plain : (renderIn remark primary fallback enabled source).run w = (out.result, out.world)
  /-- The primary renderer is called once and first, the fallback once at most, and with the
  same source. -/
  calls : Retries fallback enabled source ((primary source).run w).1 ∧
      out.requests = [⟨.primary, source⟩, ⟨.fallback, source⟩] ∨
    ¬ Retries fallback enabled source ((primary source).run w).1 ∧
      out.requests = [⟨.primary, source⟩]
  /-- A failure of the primary renderer goes on outwards. -/
  primary_fails : ∀ e w', (primary source).run w = (.error e, w') →
    out.result = .error e ∧ out.world = w'
  /-- Without a second call the first page is the result. -/
  kept : ∀ html w', (primary source).run w = (.ok html, w') →
    ¬ Retries fallback enabled source (.ok html : Except ε _) →
      out.result = .ok ⟨html, false, false⟩ ∧ out.world = w'
  /-- A failure of the fallback goes on outwards. -/
  fallback_fails : ∀ html w' second e w'', (primary source).run w = (.ok html, w') →
    Retries fallback enabled source (.ok html : Except ε _) → fallback = some second →
      (second source).run (remark .retrying w') = (.error e, w'') →
        out.result = .error e ∧ out.world = w''
  /-- The second page is the result just if it is an improvement. -/
  retried : ∀ html w' second other w'', (primary source).run w = (.ok html, w') →
    Retries fallback enabled source (.ok html : Except ε _) → fallback = some second →
      (second source).run (remark .retrying w') = (.ok other, w'') →
        if improved other then
          out.result = .ok ⟨other, true, true⟩ ∧ out.world = remark .adopted w''
        else out.result = .ok ⟨html, false, true⟩ ∧ out.world = remark .kept w''
  /-- A page says whether the fallback was called. -/
  attempted : ∀ page, out.result = .ok page →
    (page.fallbackAttempted = true ↔ Retries fallback enabled source ((primary source).run w).1)
  /-- A page of the fallback shows no raw fence and has a code block, so that no source would
  have it rendered again. -/
  adopted : ∀ page, out.result = .ok page → page.usedFallback = true →
    page.fallbackAttempted = true ∧
      (¬ paragraphFence <:+: page.html ∧ "<pre".toList <:+: page.html ∧
        "<code".toList <:+: page.html) ∧
      ∀ any, needsFallback any page.html = false

/-- The gate calls what it has to call and no more, and takes a page of the fallback only if
nothing is wrong with it. -/
theorem rendering_gated : Gated remark primary fallback enabled source w
    (renderNoting remark primary fallback enabled source w) := by
  obtain ⟨plain, calls⟩ := renderNoting_run remark primary fallback enabled source w _ rfl
  generalize renderNoting remark primary fallback enabled source w = out at plain calls ⊢
  have ends {x : Except ε Page × ω}
      (h : (renderIn remark primary fallback enabled source).run w = x) :
      out.result = x.1 ∧ out.world = x.2 := by
    rw [plain] at h
    exact ⟨congrArg Prod.fst h, congrArg Prod.snd h⟩
  constructor
  case plain => exact plain
  case calls => exact calls
  case primary_fails => exact fun e w' h => ends (renderIn_fails h)
  case kept => exact fun html w' h hno => ends (renderIn_passes h hno)
  case fallback_fails =>
    rintro html w' second e w'' h hyes rfl hsecond
    exact ends ((renderIn_retries h hyes).trans (by rw [retrying, hsecond]))
  case retried =>
    rintro html w' second other w'' h hyes rfl hsecond
    have ended := ends ((renderIn_retries h hyes).trans (by rw [retrying, hsecond]))
    split
    · next hi => simpa [hi] using ended
    · next hi => simpa [hi] using ended
  case attempted =>
    intro page hpage
    obtain ⟨hno, hattempted, _⟩ | ⟨hyes, hattempted, _⟩ :=
      page_of_renderIn ((congrArg Prod.fst plain).trans hpage)
    · simp [hno, hattempted]
    · simp [hyes, hattempted]
  case adopted =>
    intro page hpage hused
    obtain ⟨_, _, hunused⟩ | ⟨_, hattempted, himproved⟩ :=
      page_of_renderIn ((congrArg Prod.fst plain).trans hpage)
    · rw [hunused] at hused
      cases hused
    · have himproved := himproved hused
      exact ⟨hattempted, (improved_iff _).mp himproved, needsFallback_of_improved himproved⟩

end DocBraces.Render
