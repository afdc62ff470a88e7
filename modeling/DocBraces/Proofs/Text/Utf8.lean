import DocBraces.Text.Utf8
import Mathlib.Tactic.Common

/-!
# UTF-8 there and back

Decoding gives back what has been encoded, and what decodes is the encoding of what it
decodes to, so that the texts and the octets that decode are one to one.
-/

set_option autoImplicit false

namespace DocBraces.Text.Utf8

theorem byte_number {n : Nat} (h : n < 256) : (UInt8.ofNat n).toNat = n := by
  rw [UInt8.toNat_ofNat']
  omega

theorem byte_eq {n : Nat} {b : UInt8} (h : n = b.toNat) : UInt8.ofNat n = b := by
  rw [h, UInt8.ofNat_toNat]

theorem char_number {n : Nat} (h : n.isValidChar) : (Char.ofNat n).toNat = n := by
  rw [Char.ofNat, dif_pos h]
  rfl

theorem char_bound (c : Char) : c.toNat < 0xD800 ∨ 0xDFFF < c.toNat ∧ c.toNat < 0x110000 :=
  c.valid

/-- What an octet that starts two, three or four octets leaves open. The second octet is
held to a narrower range where the sequence would be too long for its character, or name
no character. -/
def leadOf (b : UInt8) : Pending :=
  let n := b.toNat
  if n < 0xE0 then ⟨[b], 1, 0x80, 0xBF, n - 0xC0⟩
  else if n < 0xF0 then
    ⟨[b], 2, if n = 0xE0 then 0xA0 else 0x80, if n = 0xED then 0x9F else 0xBF, n - 0xE0⟩
  else ⟨[b], 3, if n = 0xF0 then 0x90 else 0x80, if n = 0xF4 then 0x8F else 0xBF, n - 0xF0⟩

theorem lead?_eq (b : UInt8) : lead? b =
    if 0xC2 ≤ b.toNat ∧ b.toNat < 0xF5 then some (leadOf b) else none := by
  unfold lead? leadOf
  generalize b.toNat = n
  dsimp only
  split_ifs
  all_goals first
    | omega
    | simp only [Option.some.injEq, Pending.mk.injEq, true_and] <;> omega

theorem decodeFrom_plain (at_ : Nat) {b : UInt8} (bs : List UInt8) (h : b.toNat < 0x80) :
    decodeFrom at_ none (b :: bs) =
      (decodeFrom (at_ + 1) none bs).map (Char.ofNat b.toNat :: ·) := by
  rw [decodeFrom, if_pos h]

theorem decodeFrom_lead (at_ : Nat) {b : UInt8} (bs : List UInt8)
    (h : 0xC2 ≤ b.toNat ∧ b.toNat < 0xF5) :
    decodeFrom at_ none (b :: bs) = decodeFrom (at_ + 1) (some (leadOf b)) bs := by
  rw [decodeFrom, if_neg (by omega), lead?_eq, if_pos h]

theorem decodeFrom_last (at_ : Nat) {b : UInt8} {p : Pending} (bs : List UInt8)
    (hb : p.low ≤ b.toNat ∧ b.toNat ≤ p.high) (ho : p.owed = 1) :
    decodeFrom at_ (some p) (b :: bs) = (decodeFrom (at_ + 1) none bs).map
      (Char.ofNat (p.value * 64 + (b.toNat - 0x80)) :: ·) := by
  rw [decodeFrom, if_pos hb, if_pos ho]

theorem decodeFrom_more (at_ : Nat) {b : UInt8} {p : Pending} (bs : List UInt8)
    (hb : p.low ≤ b.toNat ∧ b.toNat ≤ p.high) (ho : p.owed ≠ 1) :
    decodeFrom at_ (some p) (b :: bs) = decodeFrom (at_ + 1)
      (some ⟨p.seen ++ [b], p.owed - 1, 0x80, 0xBF, p.value * 64 + (b.toNat - 0x80)⟩) bs := by
  rw [decodeFrom, if_pos hb, if_neg ho]

theorem decodeFrom_encodeChar (at_ : Nat) (c : Char) (bs : List UInt8) : ∃ next,
    decodeFrom at_ none (encodeChar c ++ bs) = (decodeFrom next none bs).map (c :: ·) := by
  have hc := char_bound c
  have back {n : Nat} (h : n = c.toNat) : Char.ofNat n = c := by rw [h, Char.ofNat_toNat]
  unfold encodeChar
  generalize hn : c.toNat = n at hc back ⊢
  dsimp only
  by_cases h1 : n < 0x80
  · have hb : (UInt8.ofNat n).toNat = n := byte_number (by omega)
    rw [if_pos h1, List.singleton_append, decodeFrom_plain _ _ (by omega), back hb]
    exact ⟨_, rfl⟩
  rw [if_neg h1]
  by_cases h2 : n < 0x800
  · have ha : (UInt8.ofNat (0xC0 + n / 64)).toNat = 0xC0 + n / 64 := byte_number (by omega)
    have hb : (UInt8.ofNat (0x80 + n % 64)).toNat = 0x80 + n % 64 := byte_number (by omega)
    rw [if_pos h2, List.cons_append, List.singleton_append, decodeFrom_lead _ _ (by omega)]
    rw [leadOf, if_pos (by omega), decodeFrom_last _ _ (by dsimp only; omega) rfl, back]
    · exact ⟨_, rfl⟩
    · dsimp only
      omega
  rw [if_neg h2]
  by_cases h3 : n < 0x10000
  · have ha : (UInt8.ofNat (0xE0 + n / 4096)).toNat = 0xE0 + n / 4096 := byte_number (by omega)
    have hb : (UInt8.ofNat (0x80 + n / 64 % 64)).toNat = 0x80 + n / 64 % 64 :=
      byte_number (by omega)
    have hd : (UInt8.ofNat (0x80 + n % 64)).toNat = 0x80 + n % 64 := byte_number (by omega)
    rw [if_pos h3, List.cons_append, List.cons_append, List.singleton_append,
      decodeFrom_lead _ _ (by omega)]
    rw [leadOf, if_neg (by omega), if_pos (by omega),
      decodeFrom_more _ _ (by dsimp only; split_ifs <;> omega) (by dsimp only; omega),
      decodeFrom_last _ _ (by dsimp only; omega) rfl, back]
    · exact ⟨_, rfl⟩
    · dsimp only
      omega
  · have ha : (UInt8.ofNat (0xF0 + n / 262144)).toNat = 0xF0 + n / 262144 :=
      byte_number (by omega)
    have hb : (UInt8.ofNat (0x80 + n / 4096 % 64)).toNat = 0x80 + n / 4096 % 64 :=
      byte_number (by omega)
    have hd : (UInt8.ofNat (0x80 + n / 64 % 64)).toNat = 0x80 + n / 64 % 64 :=
      byte_number (by omega)
    have he : (UInt8.ofNat (0x80 + n % 64)).toNat = 0x80 + n % 64 := byte_number (by omega)
    rw [if_neg h3, List.cons_append, List.cons_append, List.cons_append, List.singleton_append,
      decodeFrom_lead _ _ (by omega)]
    rw [leadOf, if_neg (by omega), if_neg (by omega),
      decodeFrom_more _ _ (by dsimp only; split_ifs <;> omega) (by dsimp only; omega),
      decodeFrom_more _ _ (by dsimp only; omega) (by dsimp only; omega),
      decodeFrom_last _ _ (by dsimp only; omega) rfl, back]
    · exact ⟨_, rfl⟩
    · dsimp only
      omega

theorem decodeFrom_encode (at_ : Nat) (cs : List Char) :
    decodeFrom at_ none (encode cs) = .ok cs := by
  induction cs generalizing at_ with
  | nil => rfl
  | cons c cs ih =>
    obtain ⟨next, h⟩ := decodeFrom_encodeChar at_ c (encode cs)
    rw [encode_cons, h, ih]
    rfl

theorem decode_encode (cs : List Char) : decode (encode cs) = .ok cs := decodeFrom_encode 0 cs

theorem encode_append (cs ds : List Char) : encode (cs ++ ds) = encode cs ++ encode ds :=
  List.flatMap_append

theorem encode_injective {cs ds : List Char} (h : encode cs = encode ds) : cs = ds := by
  have hd := congrArg decode h
  rw [decode_encode, decode_encode] at hd
  exact Except.ok.inj hd

/-- However a sequence goes on within its ranges, it ends as the encoding of the character
that is read from it. -/
inductive Pending.Sound : Pending → Prop
  | last {p : Pending} : p.owed = 1 →
      (∀ b : UInt8, p.low ≤ b.toNat → b.toNat ≤ p.high →
        encodeChar (Char.ofNat (p.value * 64 + (b.toNat - 0x80))) = p.seen ++ [b]) → p.Sound
  | more {p : Pending} : p.owed ≠ 1 →
      (∀ b : UInt8, p.low ≤ b.toNat → b.toNat ≤ p.high →
        Pending.Sound ⟨p.seen ++ [b], p.owed - 1, 0x80, 0xBF,
          p.value * 64 + (b.toNat - 0x80)⟩) → p.Sound

theorem encodeChar_two {a b : UInt8} {n : Nat} (ha : 0xC2 ≤ a.toNat ∧ a.toNat < 0xE0)
    (hb : 0x80 ≤ b.toNat ∧ b.toNat ≤ 0xBF)
    (hn : n = (a.toNat - 0xC0) * 64 + (b.toNat - 0x80)) :
    encodeChar (Char.ofNat n) = [a, b] := by
  have hc : (Char.ofNat n).toNat = n := char_number (by unfold Nat.isValidChar; omega)
  unfold encodeChar
  rw [hc]
  dsimp only
  rw [if_neg (by omega), if_pos (by omega), byte_eq (b := a) (by omega),
    byte_eq (b := b) (by omega)]

theorem encodeChar_three {a b c : UInt8} {n : Nat} (ha : 0xE0 ≤ a.toNat ∧ a.toNat < 0xF0)
    (hb : (if a.toNat = 0xE0 then 0xA0 else 0x80) ≤ b.toNat ∧
      b.toNat ≤ if a.toNat = 0xED then 0x9F else 0xBF)
    (hc : 0x80 ≤ c.toNat ∧ c.toNat ≤ 0xBF)
    (hn : n = ((a.toNat - 0xE0) * 64 + (b.toNat - 0x80)) * 64 + (c.toNat - 0x80)) :
    encodeChar (Char.ofNat n) = [a, b, c] := by
  have hv : (Char.ofNat n).toNat = n := char_number (by
    unfold Nat.isValidChar
    split_ifs at hb <;> omega)
  unfold encodeChar
  rw [hv]
  dsimp only
  have second : 0x80 ≤ b.toNat ∧ b.toNat ≤ 0xBF := by split_ifs at hb <;> omega
  have hlow : 0x800 ≤ n := by split_ifs at hb <;> omega
  rw [if_neg (by omega), if_neg (by omega), if_pos (by omega), byte_eq (b := a) (by omega),
    byte_eq (b := b) (by omega), byte_eq (b := c) (by omega)]

theorem encodeChar_four {a b c d : UInt8} {n : Nat} (ha : 0xF0 ≤ a.toNat ∧ a.toNat < 0xF5)
    (hb : (if a.toNat = 0xF0 then 0x90 else 0x80) ≤ b.toNat ∧
      b.toNat ≤ if a.toNat = 0xF4 then 0x8F else 0xBF)
    (hc : 0x80 ≤ c.toNat ∧ c.toNat ≤ 0xBF) (hd : 0x80 ≤ d.toNat ∧ d.toNat ≤ 0xBF)
    (hn : n = (((a.toNat - 0xF0) * 64 + (b.toNat - 0x80)) * 64 + (c.toNat - 0x80)) * 64 +
      (d.toNat - 0x80)) :
    encodeChar (Char.ofNat n) = [a, b, c, d] := by
  have hv : (Char.ofNat n).toNat = n := char_number (by
    unfold Nat.isValidChar
    split_ifs at hb <;> omega)
  unfold encodeChar
  rw [hv]
  dsimp only
  have second : 0x80 ≤ b.toNat ∧ b.toNat ≤ 0xBF := by split_ifs at hb <;> omega
  have hlow : 0x10000 ≤ n := by split_ifs at hb <;> omega
  rw [if_neg (by omega), if_neg (by omega), if_neg (by omega), byte_eq (b := a) (by omega),
    byte_eq (b := b) (by omega), byte_eq (b := c) (by omega), byte_eq (b := d) (by omega)]

theorem leadOf_sound {a : UInt8} (ha : 0xC2 ≤ a.toNat ∧ a.toNat < 0xF5) : (leadOf a).Sound := by
  unfold leadOf
  dsimp only
  by_cases h2 : a.toNat < 0xE0
  · rw [if_pos h2]
    refine .last rfl fun b hl hh => ?_
    exact encodeChar_two ⟨ha.1, h2⟩ ⟨hl, hh⟩ rfl
  rw [if_neg h2]
  by_cases h3 : a.toNat < 0xF0
  · rw [if_pos h3]
    refine .more (by dsimp only; omega) fun b hl hh => .last rfl fun c hl' hh' => ?_
    exact encodeChar_three ⟨by omega, h3⟩ ⟨hl, hh⟩ ⟨hl', hh'⟩ rfl
  · rw [if_neg h3]
    refine .more (by dsimp only; omega) fun b hl hh => ?_
    refine .more (by dsimp only; omega) fun c hl' hh' => .last rfl fun d hl'' hh'' => ?_
    exact encodeChar_four ⟨by omega, ha.2⟩ ⟨hl, hh⟩ ⟨hl', hh'⟩ ⟨hl'', hh''⟩ rfl

theorem read_char {c : Char} {x : Except Fault (List Char)} {cs : List Char}
    (h : x.map (c :: ·) = .ok cs) : ∃ rest, x = .ok rest ∧ cs = c :: rest := by
  cases x with
  | error f => cases h
  | ok rest => exact ⟨rest, rfl, (Except.ok.inj h).symm⟩

/-- What is read, with a sequence under way or without one, is what the octets encode. -/
theorem encode_of_decodeFrom (at_ : Nat) (p : Option Pending) (bs : List UInt8)
    (cs : List Char) (hp : ∀ q ∈ p, q.Sound) (h : decodeFrom at_ p bs = .ok cs) :
    encode cs = (p.map Pending.seen).getD [] ++ bs := by
  induction bs generalizing at_ p cs with
  | nil =>
    cases p with
    | none =>
      obtain rfl := Except.ok.inj h
      rfl
    | some q => cases h
  | cons b bs ih =>
    cases p with
    | none =>
      by_cases hb : b.toNat < 0x80
      · rw [decodeFrom_plain _ _ hb] at h
        obtain ⟨rest, hr, rfl⟩ := read_char h
        have hc : (Char.ofNat b.toNat).toNat = b.toNat := char_number (.inl (by omega))
        have he : encodeChar (Char.ofNat b.toNat) = [b] := by
          unfold encodeChar
          rw [hc, if_pos hb, UInt8.ofNat_toNat]
        rw [encode_cons, he, ih _ none rest (fun _ => nofun) hr]
        rfl
      · by_cases hl : 0xC2 ≤ b.toNat ∧ b.toNat < 0xF5
        · rw [decodeFrom_lead _ _ hl] at h
          rw [ih _ _ cs (fun q hq => Option.mem_some.mp hq ▸ leadOf_sound hl) h]
          have hs : (leadOf b).seen = [b] := by
            unfold leadOf
            dsimp only
            split_ifs <;> rfl
          simp [hs]
        · rw [decodeFrom, if_neg hb, lead?_eq, if_neg hl] at h
          cases h
    | some q =>
      by_cases hb : q.low ≤ b.toNat ∧ b.toNat ≤ q.high
      · cases hp q rfl with
        | last ho hs =>
          rw [decodeFrom_last _ _ hb ho] at h
          obtain ⟨rest, hr, rfl⟩ := read_char h
          rw [encode_cons, hs b hb.1 hb.2, ih _ none rest (fun _ => nofun) hr]
          simp
        | more ho hs =>
          rw [decodeFrom_more _ _ hb ho] at h
          rw [ih _ _ cs (fun r hr => Option.mem_some.mp hr ▸ hs b hb.1 hb.2) h]
          simp
      · rw [decodeFrom, if_neg hb] at h
        cases h

theorem encode_of_decode {bs : List UInt8} {cs : List Char} (h : decode bs = .ok cs) :
    encode cs = bs :=
  encode_of_decodeFrom 0 none bs cs (fun _ => nofun) h

end DocBraces.Text.Utf8
