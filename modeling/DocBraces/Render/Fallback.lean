import DocBraces.Render.Gate

/-!
# Rendering with a fallback

The primary renderer runs first. Where its page leaves fenced code unexpanded, the
fallback renders the same source, and its page is taken only if it is an improvement.
Renderers may act on a world on the way: what they do there stays, also when they fail.
-/

set_option autoImplicit false

namespace DocBraces.Render

abbrev Renderer (ε : Type) := List Char → Except ε (List Char)

abbrev ActiveRenderer (ω ε : Type) := List Char → ExceptT ε (StateM ω) (List Char)

def Renderer.active {ω ε : Type} (r : Renderer ε) : ActiveRenderer ω ε := fun source =>
  ExceptT.mk (pure (r source))

inductive Call where
  | primary
  | fallback
  deriving DecidableEq, Repr

structure Page where
  html : List Char
  usedFallback : Bool := false
  fallbackAttempted : Bool := false
  deriving DecidableEq, Repr

/-- What there is to say on the way, for the log. -/
inductive Remark where
  | retrying
  | adopted
  | kept
  deriving DecidableEq, Repr

def worthRetrying (enabled : Bool) (source html : List Char) : Bool :=
  enabled && occursIn fenceMark source && needsFallback source html

def Page.ofRetry (html second : List Char) : Page :=
  if improved second then { html := second, usedFallback := true, fallbackAttempted := true }
  else { html, fallbackAttempted := true }

def renderIn {ω ε : Type} (remark : Remark → ω → ω) (primary : ActiveRenderer ω ε)
    (fallback : Option (ActiveRenderer ω ε)) (enabled : Bool) (source : List Char) :
    ExceptT ε (StateM ω) Page := do
  let html ← primary source
  match fallback with
  | none => return { html }
  | some second =>
    if worthRetrying enabled source html then
      modify (remark .retrying)
      let page := Page.ofRetry html (← second source)
      modify (remark (if page.usedFallback then .adopted else .kept))
      return page
    else return { html }

/-- A renderer was called with a source. -/
structure Request where
  call : Call
  source : List Char
  deriving DecidableEq, Repr

def ActiveRenderer.noting {ω ε : Type} (r : ActiveRenderer ω ε) (call : Call) :
    ActiveRenderer (ω × List Request) ε := fun source =>
  ExceptT.mk fun (w, requests) =>
    let (result, w) := (r source).run w
    (result, (w, requests ++ [⟨call, source⟩]))

/-- How rendering went: the calls in order, how it ended, and the world that is left. -/
structure Outcome (ω ε : Type) where
  requests : List Request
  result : Except ε Page
  world : ω

def Outcome.calls {ω ε : Type} (out : Outcome ω ε) : List Call := out.requests.map (·.call)

def renderNoting {ω ε : Type} (remark : Remark → ω → ω) (primary : ActiveRenderer ω ε)
    (fallback : Option (ActiveRenderer ω ε)) (enabled : Bool) (source : List Char) (w : ω) :
    Outcome ω ε :=
  let noted := renderIn (fun r (w, requests) => (remark r w, requests))
    (primary.noting .primary) (fallback.map (·.noting .fallback)) enabled source
  let (result, w, requests) := noted.run (w, [])
  { requests, result, world := w }

def renderWithFallback {ε : Type} (primary : Renderer ε) (fallback : Option (Renderer ε))
    (enabled : Bool) (source : List Char) : Outcome Unit ε :=
  renderNoting (fun _ => id) primary.active (fallback.map (·.active)) enabled source ()

end DocBraces.Render
