import DocBraces.Pattern.Cursor
import DocBraces.Pattern.Width

/-!
# Matching

A match is the first one in the order in which the choices of a pattern are tried:
earlier alternatives before later ones, more rounds of a repetition before fewer (fewer
before more when it is lazy). The rest of the pattern is a continuation, so that a later
failure comes back to the last choice left open. What was noted on the way there goes
along with the failure: a possessive repetition goes on from the place that was looked
at last when a round of it fails.
-/

set_option autoImplicit false

namespace DocBraces.Pattern

open DocBraces.Text

/-- A match ends at the place noted last; a failure leaves its notes behind too. -/
inductive Outcome where
  | matched (notes : Notes)
  | failed (notes : Notes)
  deriving DecidableEq, Repr

def Outcome.orElse (o : Outcome) (next : Notes → Outcome) : Outcome :=
  match o with
  | matched s => matched s
  | failed s => next s

abbrev Rest := Cursor → Notes → Outcome

def Rest.stop : Rest := fun p s => .matched (s.lookAt p)

abbrev Matcher := Cursor → Notes → Rest → Outcome

def sameText (m : Mode) : List Char → List Char → Bool
  | [], _ => true
  | _ :: _, [] => false
  | c :: cs, d :: ds =>
    (if m.ignoreCase then m.lower c.toNat == m.lower d.toNat else c == d) && sameText m cs ds

/-- Tries the rest at one place after the other, but not where the next character is
known to differ. -/
def tryEach (inRounds : Bool) (next : Option Nat) (saved : Notes) (rest : Rest) :
    List Cursor → Notes → Outcome
  | [], s => .failed s
  | q :: qs, s =>
    if next.any fun n => (q.after.head?.map Char.toNat) != some n then
      tryEach inRounds next saved rest qs s
    else match rest q (s.lookAt q) with
      | .matched t => .matched t
      | .failed t => tryEach inRounds next saved rest qs (t.backTo inRounds saved)

def countedTo (folded : Bool) (p : Cursor) (places : List Cursor) : Cursor :=
  if folded then places.headD p else p

/-- Rounds of one character under test. `next` is the character that has to follow,
where one is known. -/
def unitRounds (greed : Greed) (least : Nat) (most : Option Nat) (test : Char → Bool)
    (folded inRounds : Bool) (next : Option Nat) (p : Cursor) (s : Notes) (rest : Rest) :
    Outcome :=
  if !p.hasAhead least then .failed s
  else
    let places := p.reaches test most
    let stops := places.take (places.length - least)
    match greed with
    | .greedy => tryEach inRounds next s rest stops (s.lookAt (countedTo folded p places))
    | .possessive =>
      let s := s.lookAt (countedTo folded p places)
      match stops with
      | [] => .failed s
      | q :: _ => rest q s
    | .lazy =>
      match stops with
      | [] => .failed (s.lookAt (countedTo folded p places))
      | q :: _ =>
        (tryEach inRounds none s rest stops.reverse s).orElse fun t =>
          .failed (t.lookAt (if folded && q.after.head?.any test then q.advance 1 else q))

def mayRepeat (count : Nat) : Option Nat → Bool
  | none => true
  | some n => count < n

def hasMoved (last : Option Cursor) (p : Cursor) : Bool := !last.any p.meets

/-- Rounds of `body`, as many as possible first. `last` is where the previous
optional round began: a round that moved nowhere is not followed by another. -/
def greedyRounds (body : Matcher) (least : Nat) (most : Option Nat) (rest : Rest) :
    Nat → Nat → Option Cursor → Cursor → Notes → Outcome
  | 0, _, _, _, s => .failed s
  | fuel + 1, count, last, p, s =>
    if count < least then
      (body p (s.lookAt p) (greedyRounds body least most rest fuel (count + 1) last)).orElse
        fun t => .failed (t.lookAt p)
    else if mayRepeat count most && hasMoved last p then
      (body p (s.lookAt p) (greedyRounds body least most rest fuel (count + 1) (some p))).orElse
        fun t => (rest p ((t.backTo true s).lookAt p)).orElse fun u => .failed (u.lookAt p)
    else (rest p (s.lookAt p)).orElse fun t => .failed (t.lookAt p)

def lazyRounds (body : Matcher) (inRounds : Bool) (least : Nat) (most : Option Nat)
    (rest : Rest) : Nat → Nat → Option Cursor → Cursor → Notes → Outcome
  | 0, _, _, _, s => .failed s
  | fuel + 1, count, last, p, s =>
    if count < least then
      (body p (s.lookAt p) (lazyRounds body inRounds least most rest fuel (count + 1) last)).orElse
        fun t => .failed (t.lookAt p)
    else (rest p (s.lookAt p)).orElse fun t =>
      let t := (t.backTo inRounds s).lookAt p
      if mayRepeat count most && hasMoved last p then
        (body p t (lazyRounds body inRounds least most rest fuel (count + 1) (some p))).orElse
          fun u => .failed (u.lookAt p)
      else .failed t

def possessiveRounds (body : Cursor → Notes → Outcome) (least : Nat) (most : Option Nat)
    (start : Cursor) (rest : Rest) : Nat → Nat → Option Cursor → Notes → Outcome
  | 0, _, _, s => .failed s
  | fuel + 1, count, last, s =>
    if count < least then
      match body s.place s with
      | .matched t => possessiveRounds body least most start rest fuel (count + 1) last t
      | .failed t => .failed (t.lookAt start)
    else if mayRepeat count most && hasMoved last s.place then
      match body s.place s with
      | .matched t =>
        possessiveRounds body least most start rest fuel (count + 1) (some s.place) t
      | .failed t => rest t.place (t.backTo true s)
    else rest s.place s

/-- Enough for the rounds that must come and for a visit to each place from each other. -/
def roundsFuel (least : Nat) (p : Cursor) : Nat :=
  let n := p.before.length + p.after.length + 1
  least + n * n + 2

namespace Expr

def isBarred (e : Expr) (p : Cursor) : Bool :=
  match e.leadingUnit? none with
  | none => false
  | some (m, cls) =>
    ((cls.literal? m).isSome || cls.isPlainSet m) && !(p.after.head?.any (cls.holds m))

/-- Matches at a cursor and goes on with the rest, of which `next` tells the first
character under test, where there is one. -/
def run : Expr → (inRounds : Bool) → (next : Option (Mode × CharClass)) → Cursor → Notes →
    Rest → Outcome
  | empty, _, _, p, s, k => k p s
  | never, _, _, _, s, _ => .failed s
  | one m cls, _, _, p, s, k => match p.after with
    | [] => .failed s
    | c :: cs => if cls.holds m c then k ⟨c :: p.before, cs⟩ s else .failed s
  | seq a b, r, next, p, s, k =>
    a.run r (b.leadingUnit? next) p s fun q t => b.run r next q t k
  | alt a others, r, next, p, s, k =>
    if a.isBarred p then others.run r next p s k
    else (a.run r none p (s.lookAt p) k).orElse fun t => others.run r next p (t.backTo r s) k
  | rounds greed least most e, r, next, p, s, k =>
    match e.unit? with
    | some (m, cls) =>
      unitRounds greed least most (cls.holds m) (cls.isFoldedSet m) r
        (next.bind fun (m, cls) => cls.literal? m) p s k
    | none =>
      let fuel := roundsFuel least p
      match greed with
      | .greedy => greedyRounds (e.run true none) least most k fuel 0 none p s
      | .lazy => lazyRounds (e.run true none) r least most k fuel 0 none p s
      | .possessive =>
        possessiveRounds (fun q t => e.run r none q t Rest.stop) least most p k fuel 0 none
          (s.lookAt p)
  | group n e, r, _, p, s, k =>
    e.run r none p (s.mark (2 * n - 2) p) fun q t => k q (t.mark (2 * n - 1) q)
  | again m n, _, _, p, s, k => match s.groupText? n with
    | none => .failed s
    | some t => if sameText m t p.after then k (p.advance t.length) s else .failed s
  | ahead negated e, r, _, p, s, k =>
    match e.run r none p (s.lookAt p) Rest.stop with
    | .matched t => if negated then .failed t else k p t
    | .failed t => if negated then k p (t.backTo r s) else .failed t
  | behind negated width e, r, _, p, s, k =>
    match p.retreat? width with
    | none => if negated then k p s else .failed s
    | some q =>
      match e.run r none q (s.lookAt q) Rest.stop with
      | .matched t => if negated then .failed t else k p t
      | .failed t => if negated then k p (t.backTo r s) else .failed t
  | atomic e, r, _, p, s, k =>
    match e.run r none p (s.lookAt p) Rest.stop with
    | .matched t => k t.place t
    | .failed t => .failed (t.lookAt p)
  | ifGroup n yes no, r, next, p, s, k =>
    if (s.groupText? n).isSome then
      yes.run r (if no = .empty then next else none) p s k
    else no.run r next p s k
  | anchor place, _, _, p, s, k => if p.satisfies place then k p s else .failed s

/-- The notes of the match that begins at a place, where only non-empty ones count if
`nonempty` is set. -/
def matchAt? (e : Expr) (nonempty : Bool) (before after : List Char) : Option Notes :=
  let start : Cursor := ⟨before, after⟩
  let done : Rest := fun q s =>
    if nonempty && q.meets start then .failed s else .matched (s.lookAt q)
  match e.run false none start { place := start } done with
  | .matched s => some s
  | .failed _ => none

def lengthAt? (e : Expr) (nonempty : Bool) (before after : List Char) : Option Nat :=
  (e.matchAt? nonempty before after).map fun s => after.length - s.place.after.length

/-- Length of what a search takes at a place. An empty match takes nothing, but the
search then asks the same place for a match that is not empty. -/
def spanAt (e : Expr) (before after : List Char) : Nat :=
  match e.lengthAt? false before after with
  | none => 0
  | some 0 => (e.lengthAt? true before after).getD 0
  | some n => n

end Expr

/-- How far a search has come: it begins here, is under way, is still to pass over the
rest of a match, or has been given up. -/
inductive Stage where
  | fresh
  | seeking
  | inside (left : Nat)
  | ended
  deriving DecidableEq, Repr

/-- A search begins only where as much text is left as the shortest match needs. -/
def Stage.enter (e : Expr) (text : List Char) : Stage → Stage
  | fresh => if (text.take e.leastLength).length = e.leastLength then seeking else ended
  | stage => stage

/-- The stage after the first character of a match, of which some more are to come. -/
def Stage.within : (left : Nat) → Stage
  | 0 => fresh
  | n + 1 => inside (n + 1)

namespace Expr

/-- Rewrites, character by character, what leftmost matches that do not overlap cover. -/
def rewriteFrom (e : Expr) (f : Char → Char) :
    (before : List Char) → Stage → List Char → List Char
  | _, _, [] => []
  | before, stage, c :: cs =>
    match stage.enter e (c :: cs) with
    | .inside n => f c :: e.rewriteFrom f (c :: before) (Stage.within (n - 1)) cs
    | .ended => c :: e.rewriteFrom f (c :: before) .ended cs
    | _ => match e.spanAt before (c :: cs) with
      | 0 => c :: e.rewriteFrom f (c :: before) .seeking cs
      | n + 1 => f c :: e.rewriteFrom f (c :: before) (Stage.within n) cs

def rewrite (e : Expr) (f : Char → Char) (text : List Char) : List Char :=
  e.rewriteFrom f [] .fresh text

end Expr

end DocBraces.Pattern
