import DocBraces.Tools.Basic

/-!
# Scripts

Command scripts as trees: words with quotes, values and results of commands,
redirections, pipelines, branches, loops and functions. Characters of a script stand
for single octets.
-/

set_option autoImplicit false

namespace DocBraces.Tools

abbrev Octets := List Char

def Octets.ofBytes (bs : Bytes) : Octets := bs.map fun b => Char.ofNat b.toNat

def Octets.toBytes (cs : Octets) : Bytes := cs.map fun c => UInt8.ofNat c.toNat

def Octets.ofString (s : String) : Octets := Octets.ofBytes (bytes s)

def Octets.text (cs : Octets) : String := stringOf cs.toBytes

inductive Substitute where
  | whenMissing
  | assigned
  | complaint
  | whenThere
  deriving DecidableEq, Repr

inductive Opens where
  | reading
  | writing
  /-- Files that are there are written over, whatever the options say. -/
  | overwriting
  | appending
  | both
  deriving DecidableEq, Repr

inductive Link where
  | always
  | ifGood
  | ifBad
  deriving DecidableEq, Repr

mutual

inductive Part where
  | text (quoted : Bool) (cs : Octets)
  | value (quoted : Bool) (name : String) (change : Change)
  | result (quoted : Bool) (body : Script)
  | number (quoted : Bool) (inside : List Part)

inductive Change where
  | none
  | length
  | orElse (use : Substitute) (emptyToo : Bool) (word : List Part)
  /-- Takes off what a pattern fits, at the front or at the back. -/
  | trim (front longest : Bool) (pattern : List Part)
  /-- A change that is none. -/
  | bad

inductive Redirection where
  | file (stream : Nat) (opens : Opens) (name : List Part)
  /-- A stream takes over another one; a hyphen closes it. -/
  | copy (stream : Nat) (target : List Part)
  /-- Text of the script by its number. -/
  | here (stream : Nat) (number : Nat)

inductive Script where
  | nothing
  | simple (line : Nat) (settings : List (String × List Part)) (words : List (List Part))
      (redirections : List Redirection)
  | redirected (line : Nat) (body : Script) (redirections : List Redirection)
  | apart (body : Script)
  | background (body : Script)
  | pipe (stages : List Script)
  | inverted (body : Script)
  | chain (first : Script) (link : Link) (second : Script)
  | branch (test yes no : Script)
  /-- Repeats while the test comes out as wanted. -/
  | loop (wanted : Bool) (test body : Script)
  | each (line : Nat) (name : String) (words : List (List Part)) (body : Script)
  | choice (line : Nat) (word : List Part) (arms : List (List (List Part) × Script))
  | function (name : String) (body : Script)

end

instance : Inhabited Script := ⟨.nothing⟩

abbrev Word := List Part

structure HereText where
  number : Nat
  body : Word

def startsName (c : Char) : Bool := c.isAlpha || c == '_'

def isNameChar (c : Char) : Bool := c.isAlphanum || c == '_'

def isGoodName (cs : Octets) : Bool :=
  cs.head?.any startsName && cs.all isNameChar

def isSpecialName (c : Char) : Bool := ['?', '$', '#', '@', '*', '!', '-'].contains c || c.isDigit

def plainText? : Word → Option (Octets × Bool)
  | [] => some ([], false)
  | .text quoted cs :: rest =>
    (plainText? rest).map fun (more, q) => (cs ++ more, quoted || q)
  | _ => none

end DocBraces.Tools
