import DocBraces.Pattern.Expr

/-!
# Widths of patterns

The least and the greatest length of a match. Both are capped; the cap of the greatest
length stands for "unlimited".
-/

set_option autoImplicit false

namespace DocBraces.Pattern

structure Width where
  least : Nat
  most : Nat
  deriving DecidableEq, Repr

namespace Width

def unlimited : Nat := 0xFFFFFFFF

def cap (w : Width) : Width := ⟨min w.least (unlimited - 1), min w.most unlimited⟩

def zero : Width := ⟨0, 0⟩

def one : Width := ⟨1, 1⟩

def add (a b : Width) : Width := cap ⟨a.least + b.least, a.most + b.most⟩

def either (a b : Width) : Width := ⟨min a.least b.least, max a.most b.most⟩

def times (least : Nat) (most : Option Nat) (w : Width) : Width :=
  cap ⟨w.least * least, w.most * most.getD unlimited⟩

abbrev Groups := List (Nat × Width)

end Width

namespace Expr

/-- Width of a pattern with the widths of the groups closed in it, given those of the
groups closed before it. -/
def widthAfter : Expr → Width.Groups → Width × Width.Groups
  | empty, gs => (.zero, gs)
  | never, gs => (⟨Width.unlimited - 1, 0⟩, gs)
  | one _ _, gs => (.one, gs)
  | seq a b, gs =>
    let (v, gs) := a.widthAfter gs
    let (w, gs) := b.widthAfter gs
    (v.add w, gs)
  | alt a b, gs =>
    let (v, gs) := a.widthAfter gs
    let (w, gs) := b.widthAfter gs
    (v.either w, gs)
  | rounds _ least most e, gs =>
    let (w, gs) := e.widthAfter gs
    (w.times least most, gs)
  | group n e, gs =>
    let (w, gs) := e.widthAfter gs
    (w, (n, w) :: gs)
  | again _ n, gs => ((gs.lookup n).getD .zero, gs)
  | ahead _ e, gs => (.zero, (e.widthAfter gs).2)
  | behind _ _ e, gs => (.zero, (e.widthAfter gs).2)
  | atomic e, gs => e.widthAfter gs
  | ifGroup _ a b, gs =>
    let (v, gs) := a.widthAfter gs
    let (w, gs) := b.widthAfter gs
    (v.either w, gs)
  | anchor _, gs => (.zero, gs)

def leastLength (e : Expr) : Nat := (e.widthAfter []).1.least

end Expr

end DocBraces.Pattern
