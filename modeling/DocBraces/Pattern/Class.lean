import DocBraces.Text.Blank
import DocBraces.Text.Digit
import DocBraces.Text.LetterCase

/-!
# Character classes

A class lists characters, ranges and categories, and may be negated. Under a mode that
ignores case a class is asked for the lower case of a character, and its own members
count with all small letters that share a capital with their lower case.
-/

set_option autoImplicit false

namespace DocBraces.Pattern

open DocBraces.Text

structure Mode where
  ignoreCase : Bool := false
  asciiOnly : Bool := false
  byLine : Bool := false
  dotAll : Bool := false
  spaced : Bool := false
  deriving DecidableEq, Repr

namespace Mode

def lower (m : Mode) (n : Nat) : Nat := if m.asciiOnly then lowerAsciiCode n else lowerCode n

def isCased (m : Mode) (n : Nat) : Bool :=
  if m.asciiOnly then isAsciiCased n else Text.isCased n

def anyCased (m : Mode) (low high : Nat) : Bool :=
  if m.asciiOnly then (low ≤ 90 && 65 ≤ high) || (low ≤ 122 && 97 ≤ high)
  else Text.anyCased low high

def sources (m : Mode) (n : Nat) : List Nat :=
  if m.asciiOnly then
    if 97 ≤ n ∧ n ≤ 122 then [n, n - 32] else if 65 ≤ n ∧ n ≤ 90 then [] else [n]
  else lowerSources n

def kin (m : Mode) (n : Nat) : List Nat := if m.asciiOnly then [n] else Text.kin n

end Mode

inductive Category where
  | digit
  | space
  | word
  deriving DecidableEq, Repr

def isAsciiBlank (c : Char) : Bool := c == ' ' || (9 ≤ c.toNat && c.toNat ≤ 13)

def Category.holds (asciiOnly : Bool) (c : Char) : Category → Bool
  | .digit => if asciiOnly then c.isDigit else isDigit c
  | .space => if asciiOnly then isAsciiBlank c else isBlank c
  | .word => if asciiOnly then isAsciiWord c else isWord c

inductive ClassItem where
  | single (code : Nat)
  | range (low high : Nat)
  | category (category : Category) (negated : Bool)
  deriving DecidableEq, Repr

def farCode : Nat := 0x10000

namespace ClassItem

def holds (m : Mode) (c : Char) : ClassItem → Bool
  | single n => n == c.toNat
  | range low high => low ≤ c.toNat && c.toNat ≤ high
  | category k negated => k.holds m.asciiOnly c != negated

/-- The member holds some cased letter, or reaches beyond the letters that are folded. -/
def isCased (m : Mode) : ClassItem → Bool
  | single n => m.isCased n || farCode ≤ n
  | range low high => m.anyCased low high || farCode ≤ high
  | category _ _ => false

/-- The member holds the letter of which `c` is the lower case. A range counts with the
folded forms of its near part, and as it stands where it has a far part. -/
def holdsFolded (m : Mode) (c : Char) : ClassItem → Bool
  | single n => if farCode ≤ n then n == c.toNat else (m.kin (m.lower n)).contains c.toNat
  | range low high =>
    (m.kin c.toNat).any (fun k => (m.sources k).any fun n =>
      low ≤ n && n ≤ high && n < farCode) ||
    (farCode ≤ high && ((low ≤ c.toNat && c.toNat ≤ high) ||
      (low ≤ upperCode c.toNat && upperCode c.toNat ≤ high)))
  | category k negated => k.holds m.asciiOnly c != negated

end ClassItem

structure CharClass where
  negated : Bool := false
  items : List ClassItem
  deriving DecidableEq, Repr

namespace CharClass

def isFolded (m : Mode) (cls : CharClass) : Bool := m.ignoreCase && cls.items.any (·.isCased m)

def lowered (m : Mode) (c : Char) : Char := Char.ofNat (m.lower c.toNat)

/-- Some member holds the character. A letter that is the only member counts as it is
written, near or far. -/
def lists (m : Mode) (cls : CharClass) (c : Char) : Bool :=
  if !m.ignoreCase then cls.items.any fun i => i.holds m c
  else match cls.items with
    | [.single n] =>
      if m.isCased n then (m.kin (m.lower n)).contains (m.lower c.toNat) else n == c.toNat
    | items =>
      if cls.isFolded m then items.any fun i => i.holdsFolded m (lowered m c)
      else items.any fun i => i.holds m c

def holds (m : Mode) (cls : CharClass) (c : Char) : Bool := cls.lists m c != cls.negated

/-- The character that a class of one character stands for, where case plays no part. -/
def literal? (m : Mode) (cls : CharClass) : Option Nat :=
  match cls.negated, cls.items with
  | false, [.single n] => if m.ignoreCase && m.isCased n then none else some n
  | _, _ => none

def isPlainSet (m : Mode) (cls : CharClass) : Bool :=
  match cls.items with
  | [] => false
  | [.single _] => false
  | _ => !cls.isFolded m

def isFoldedSet (m : Mode) (cls : CharClass) : Bool :=
  match cls.items with
  | [] => false
  | [.single n] => m.ignoreCase && m.isCased n && 1 < (m.kin (m.lower n)).length
  | _ => cls.isFolded m

def ofChar (c : Char) : CharClass := { items := [.single c.toNat] }

def ofChars (cs : List Char) : CharClass := { items := cs.map fun c => .single c.toNat }

def excluding (cs : List Char) : CharClass := { ofChars cs with negated := true }

theorem any_ofChars (m : Mode) (cs : List Char) (c : Char) :
    (ofChars cs).items.any (·.holds m c) = cs.contains c := by
  induction cs with
  | nil => rfl
  | cons d ds ih =>
    have hd : (d.toNat == c.toNat) = (c == d) := by
      rw [Bool.eq_iff_iff, beq_iff_eq, beq_iff_eq, Char.toNat_inj, eq_comm]
    rw [ofChars] at ih ⊢
    rw [List.map_cons, List.any_cons, ih, List.contains_cons, ClassItem.holds, hd]

theorem holds_uncased {m : Mode} {cls : CharClass} (h : cls.items.any (·.isCased m) = false)
    (c : Char) : cls.holds m c = (cls.items.any (·.holds m c) != cls.negated) := by
  have hlists : cls.lists m c = cls.items.any (·.holds m c) := by
    unfold lists isFolded
    split
    · rfl
    · rw [h, Bool.and_false]
      split
      · next n hitems =>
        have hn : m.isCased n = false := by
          rw [hitems] at h
          simp [ClassItem.isCased] at h
          exact h.1
        simp [hn, hitems, ClassItem.holds]
      · rfl
  rw [holds, hlists]

theorem holds_ofChar (c d : Char) : (ofChar c).holds {} d = (d == c) := by
  rw [Bool.eq_iff_iff]
  simp [holds, lists, ofChar, ClassItem.holds, Char.toNat_inj]
  exact eq_comm

end CharClass

end DocBraces.Pattern
