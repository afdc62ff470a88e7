import DocBraces.Pattern.Class

/-!
# Pattern expressions

Patterns as trees. A row of alternatives ends in the expression that never matches.
-/

set_option autoImplicit false

namespace DocBraces.Pattern

inductive Anchor where
  | textStart
  | lineStart
  | textEnd
  | lastLineEnd
  | lineEnd
  | boundary (asciiOnly negated : Bool)
  deriving DecidableEq, Repr

/-- How a repetition chooses its number of rounds; a possessive one never gives
back what it took. -/
inductive Greed where
  | greedy
  | lazy
  | possessive
  deriving DecidableEq, Repr

inductive Expr where
  | empty
  | never
  | one (mode : Mode) (cls : CharClass)
  | seq (first second : Expr)
  | alt (first others : Expr)
  | rounds (greed : Greed) (least : Nat) (most : Option Nat) (body : Expr)
  | group (number : Nat) (body : Expr)
  | again (mode : Mode) (number : Nat)
  | ahead (negated : Bool) (body : Expr)
  | behind (negated : Bool) (width : Nat) (body : Expr)
  | atomic (body : Expr)
  | ifGroup (number : Nat) (yes no : Expr)
  | anchor (place : Anchor)
  deriving DecidableEq, Repr

namespace Expr

def ofRow : List Expr → Expr
  | [] => .empty
  | e :: es => es.foldl .seq e

def ofAlternatives : List Expr → Expr
  | [] => .never
  | e :: es => .alt e (ofAlternatives es)

def unit? : Expr → Option (Mode × CharClass)
  | one m cls => some (m, cls)
  | _ => none

/-- The character under test with which an expression begins that is followed by `next`. -/
def leadingUnit? : Expr → (next : Option (Mode × CharClass)) → Option (Mode × CharClass)
  | empty, next => next
  | one m cls, _ => some (m, cls)
  | seq a b, next => a.leadingUnit? (b.leadingUnit? next)
  | _, _ => none

end Expr

end DocBraces.Pattern
