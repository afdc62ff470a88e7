import DocBraces.Text.Quoted

/-!
# Brace alphabets

An ordered pair of two different characters that open and close.
-/

set_option autoImplicit false

namespace DocBraces

open DocBraces.Text

structure Alphabet where
  opening : Char
  closing : Char
  opening_ne_closing : opening ≠ closing := by decide
  deriving DecidableEq, Repr

namespace Alphabet

inductive Fault where
  | notSingle (opening closing : String)
  | same (brace : Char)
  deriving DecidableEq, Repr

def Fault.message : Fault → String
  | .notSingle o c => s!"Brace alphabet needs single characters, got {quoted o}/{quoted c}"
  | .same b => s!"Open and close brace are the same: {quoted b.toString}"

def ofTexts (opening closing : String) : Except Fault Alphabet :=
  match opening.toList, closing.toList with
  | [o], [c] => if h : o = c then .error (.same o) else .ok ⟨o, c, h⟩
  | _, _ => .error (.notSingle opening closing)

def chars (a : Alphabet) : List Char := [a.opening, a.closing]

def ascii : Alphabet := ⟨'\x7b', '\x7d', by decide⟩

def fullwidth : Alphabet := ⟨'\uff5b', '\uff5d', by decide⟩

/-- Sends the braces of one alphabet to those of another and keeps everything else. -/
def exchange (a b : Alphabet) (c : Char) : Char :=
  if c = a.opening then b.opening else if c = a.closing then b.closing else c

theorem exchange_opening (a b : Alphabet) : exchange a b a.opening = b.opening := by
  simp [exchange]

theorem exchange_closing (a b : Alphabet) : exchange a b a.closing = b.closing := by
  simp [exchange, Ne.symm a.opening_ne_closing]

theorem exchange_of_not_mem (a b : Alphabet) (c : Char) (h : c ∉ a.chars) :
    exchange a b c = c := by
  simp only [chars, List.mem_cons, List.not_mem_nil, or_false, not_or] at h
  simp [exchange, h.1, h.2]

def isApart (a b : Alphabet) : Bool := a.chars.all fun c => !b.chars.contains c

theorem isApart_iff (a b : Alphabet) :
    a.isApart b = true ↔ ∀ c ∈ a.chars, c ∉ b.chars := by
  simp [isApart]

def shared (a b : Alphabet) : List Char :=
  (a.chars.filter b.chars.contains).mergeSort fun c d => c.toNat ≤ d.toNat

end Alphabet

end DocBraces
