import DocBraces.Tools.Regex
import DocBraces.Tools.Script

/-!
# Wildcards

Patterns of scripts: a star stands for any characters, a question mark for one, brackets
for one of a set. Quoted characters stand for themselves.
-/

set_option autoImplicit false

namespace DocBraces.Tools

inductive Wildcard where
  | char (c : Char)
  | one
  | many
  | oneOf (negated : Bool) (items : List RangeItem)

abbrev Mark := Char × Bool

def wildItems : Nat → (first : Bool) → List Mark → Option (List RangeItem × List Mark)
  | 0, _, _ => none
  | fuel + 1, first, ms =>
    match ms with
    | [] => none
    | ('[', false) :: (':', false) :: more =>
      let name := (more.takeWhile fun m => m.1 != ':').map (·.1)
      let rest := more.drop name.length
      match characterClass? (String.ofList name), (rest.take 2).map (·.1) with
      | some test, [':', ']'] =>
        (wildItems fuel false (rest.drop 2)).map fun (items, rest) => (.named test :: items, rest)
      | _, _ =>
        (wildItems fuel false ((':', false) :: more)).map fun (items, rest) =>
          (.single '[' :: items, rest)
    | (c, quoted) :: more =>
      if c == ']' && !quoted && !first then some ([], more)
      else match more with
        | ('-', false) :: (d, q) :: rest =>
          if d == ']' && !q then
            (wildItems fuel false more).map fun (items, rest) => (.single c :: items, rest)
          else (wildItems fuel false rest).map fun (items, rest) => (.range c d :: items, rest)
        | _ => (wildItems fuel false more).map fun (items, rest) => (.single c :: items, rest)

def wildcards : Nat → List Mark → List Wildcard
  | 0, _ => []
  | _ + 1, [] => []
  | fuel + 1, (c, quoted) :: rest =>
    if quoted then .char c :: wildcards fuel rest
    else match c with
      | '*' => .many :: wildcards fuel rest
      | '?' => .one :: wildcards fuel rest
      | '[' =>
        let (negated, inside) := match rest with
          | ('!', false) :: more => (true, more)
          | _ => (false, rest)
        match wildItems (inside.length + 1) true inside with
        | some (items, rest) => .oneOf negated items :: wildcards fuel rest
        | none => .char '[' :: wildcards fuel rest
      | '\\' => match rest with
        | (d, _) :: rest => .char d :: wildcards fuel rest
        | [] => [.char '\\']
      | c => .char c :: wildcards fuel rest

def wildcardsOf (ms : List Mark) : List Wildcard := wildcards (ms.length + 1) ms

def Wildcard.holds (c : Char) : Wildcard → Bool
  | char d => c == d
  | one => true
  | many => true
  | oneOf negated items => (items.any (·.holds c)) != negated

def anyTail (test : Octets → Bool) : Octets → Bool
  | [] => test []
  | c :: cs => test (c :: cs) || anyTail test cs

def fitsWild : List Wildcard → Octets → Bool
  | [], cs => cs.isEmpty
  | .many :: ws, cs => anyTail (fitsWild ws) cs
  | w :: ws, cs => match cs with
    | [] => false
    | c :: rest => w.holds c && fitsWild ws rest

def isWild (ms : List Mark) : Bool :=
  ms.any fun m => !m.2 && (m.1 == '*' || m.1 == '?' || m.1 == '[')

def trimFront (ws : List Wildcard) (longest : Bool) (cs : Octets) : Octets :=
  let lengths := List.range (cs.length + 1)
  let fits := lengths.filter fun n => fitsWild ws (cs.take n)
  match (if longest then fits.getLast? else fits.head?) with
  | some n => cs.drop n
  | none => cs

def trimBack (ws : List Wildcard) (longest : Bool) (cs : Octets) : Octets :=
  let lengths := List.range (cs.length + 1)
  let fits := lengths.filter fun n => fitsWild ws (cs.drop n)
  match (if longest then fits.head? else fits.getLast?) with
  | some n => cs.take n
  | none => cs

end DocBraces.Tools
