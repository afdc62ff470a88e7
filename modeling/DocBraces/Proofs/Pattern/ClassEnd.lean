import DocBraces.Proofs.Pattern.Consuming

/-!
# Where a class ends

A class ends at the first closing bracket that stands neither behind a backslash, nor as
its first member, nor in the name of a character. Three stages are enough to find it.
-/

set_option autoImplicit false

namespace DocBraces.Pattern

open DocBraces.Text

/-- How far the members of a class have come. -/
inductive ClassStage where
  | first
  | later
  /-- In the name of a character. -/
  | named
  deriving DecidableEq, Repr

namespace ClassStage

def ofMember (t : List Char) : ClassStage := if t = ['\\', 'N'] then named else later

/-- The stage after a token, unless the token ends the class. -/
def next? : ClassStage → List Char → Option ClassStage
  | first, t => some (ofMember t)
  | later, t => if t = [']'] then none else some (ofMember t)
  | named, t => some (if t = ['\x7d'] then later else named)

def after? : ClassStage → List (List Char) → Option (List (List Char))
  | _, [] => none
  | stage, t :: ts => match stage.next? t with
    | none => some ts
    | some stage => stage.after? ts

end ClassStage

def dropCaret : List (List Char) → List (List Char)
  | ['^'] :: ts => ts
  | ts => ts

/-- What stands behind a class of which the opening bracket has been read. -/
def classEnd? (ts : List (List Char)) : Option (List (List Char)) :=
  ClassStage.first.after? (dropCaret ts)

def texts (ts : List Token) : List (List Char) := ts.map (·.text)

/-- A text is the inside of a class: put before a closing bracket, it makes this one the
end of the class. -/
def Encloses (text : List Char) : Prop :=
  classEnd? (texts (tokensFrom 0 (text ++ [']']))) = some []

instance (text : List Char) : Decidable (Encloses text) :=
  inferInstanceAs (Decidable (_ = _))

example : Encloses "A-Za-z0-9_:\\-".toList := by decide

example : ¬Encloses "a]|[b".toList := by decide

namespace ClassStage

theorem after?_append (stage : ClassStage) (front back : List (List Char)) :
    (∃ left, stage.after? front = some left ∧ stage.after? (front ++ back) = some (left ++ back)) ∨
      (stage.after? front = none ∧ ∃ last, stage.after? (front ++ back) = after? last back) := by
  induction front generalizing stage with
  | nil => exact .inr ⟨rfl, stage, rfl⟩
  | cons t ts ih =>
    rw [List.cons_append, after?, after?]
    cases stage.next? t with
    | none => exact .inl ⟨ts, rfl, rfl⟩
    | some stage => exact ih stage

theorem after?_of_open (stage : ClassStage) (ts : List (List Char)) (h : ∀ t ∈ ts, t ≠ [']']) :
    stage.after? ts = none := by
  induction ts generalizing stage with
  | nil => rfl
  | cons t ts ih =>
    have hnext : ∃ following, stage.next? t = some following := by
      cases stage with
      | first => exact ⟨_, rfl⟩
      | later => exact ⟨ofMember t, if_neg (h t (by simp))⟩
      | named => exact ⟨_, rfl⟩
    obtain ⟨following, hnext⟩ := hnext
    rw [after?, hnext]
    exact ih following fun u hu => h u (List.mem_cons_of_mem t hu)

theorem after?_some (stage : ClassStage) (ts rest : List (List Char))
    (h : stage.after? ts = some rest) : ∃ body, ts = body ++ [']'] :: rest := by
  induction ts generalizing stage with
  | nil => cases h
  | cons t ts ih =>
    rw [after?] at h
    cases hnext : stage.next? t with
    | none =>
      rw [hnext] at h
      cases h
      have ht : t = [']'] := by
        by_contra hne
        cases stage <;> simp [next?, hne] at hnext
      exact ⟨[], by rw [ht, List.nil_append]⟩
    | some following =>
      rw [hnext] at h
      obtain ⟨body, rfl⟩ := ih following h
      exact ⟨t :: body, rfl⟩

end ClassStage

theorem classEnd?_some (ts rest : List (List Char)) (h : classEnd? ts = some rest) :
    ∃ body, ts = body ++ [']'] :: rest := by
  obtain ⟨body, hbody⟩ := ClassStage.first.after?_some _ _ h
  rw [dropCaret.eq_def] at hbody
  split at hbody
  · exact ⟨['^'] :: body, by rw [hbody, List.cons_append]⟩
  · exact ⟨body, hbody⟩

theorem dropCaret_append (front back : List (List Char)) (h : front ≠ []) :
    dropCaret (front ++ back) = dropCaret front ++ back := by
  obtain ⟨t, ts, rfl⟩ := List.exists_cons_of_ne_nil h
  rw [List.cons_append, dropCaret.eq_def, dropCaret.eq_def]
  split <;> simp_all

theorem classEnd?_append (front back : List (List Char)) (h : front ≠ [])
    (hback : ∀ t ∈ back, t ≠ [']']) :
    classEnd? (front ++ back) = (classEnd? front).map (· ++ back) := by
  rw [classEnd?, classEnd?, dropCaret_append front back h]
  obtain ⟨left, hfront, hall⟩ | ⟨hfront, last, hall⟩ :=
    ClassStage.first.after?_append (dropCaret front) back
  · rw [hfront, hall, Option.map_some]
  · rw [hfront, hall, last.after?_of_open back hback, Option.map_none]

namespace Reading

def StaysIn (s s' : Reader) : Prop :=
  ClassStage.later.after? (texts s.rest) = ClassStage.later.after? (texts s'.rest)

instance : Std.Refl StaysIn := ⟨fun _ => rfl⟩

instance : IsTrans Reader StaysIn := ⟨fun _ _ _ h₁ h₂ => h₁.trans h₂⟩

theorem later_plain (c : Char) (h : c ≠ ']') (ts : List (List Char)) :
    ClassStage.later.after? ([c] :: ts) = ClassStage.later.after? ts := by
  simp [ClassStage.after?, ClassStage.next?, ClassStage.ofMember, h]

theorem spells_staysIn : Spells StaysIn where
  plain limit test htest := by
    intro s cs s' h
    obtain ⟨taken, hs, htaken⟩ := plainWhile_ok h
    rw [StaysIn, hs]
    clear hs h
    induction taken with
    | nil => rfl
    | cons t ts ih =>
      obtain ⟨c, ht, hc⟩ := htaken t (by simp)
      have hne : c ≠ ']' := by
        rintro rfl
        rw [htest] at hc
        cases hc
      rw [texts, List.cons_append, List.map_cons, ht, later_plain c hne]
      exact ih fun u hu => htaken u (by simp [hu])
  accept c hc := by
    intro s taken s' h
    obtain ⟨_, rfl⟩ | ⟨_, t, ts, hs, ht, rfl⟩ := accept_ok h
    · rfl
    · rw [StaysIn, hs, texts, List.map_cons, ht, later_plain c hc]
      rfl

theorem named_until (body : List Token) (t : Token) (ts : List Token)
    (hbody : ∀ u ∈ body, u.text ≠ ['\x7d']) (ht : t.text = ['\x7d']) :
    ClassStage.named.after? (texts (body ++ t :: ts)) = ClassStage.later.after? (texts ts) := by
  induction body with
  | nil => simp [texts, ht, ClassStage.after?, ClassStage.next?]
  | cons u us ih =>
    have hu : u.text ≠ ['\x7d'] := hbody u (by simp)
    rw [List.cons_append, texts, List.map_cons, ClassStage.after?, ClassStage.next?, if_neg hu]
    exact ih fun v hv => hbody v (by simp [hv])

theorem namedCode_leaves {s s' : Reader} {n : Nat} (h : namedCode.run s = .ok (n, s')) :
    ClassStage.named.after? (texts s.rest) = ClassStage.later.after? (texts s'.rest) := by
  obtain ⟨taken, s₁, haccept, h₁⟩ := ok_of_bind h
  obtain ⟨rfl, rfl⟩ | ⟨rfl, t, ts, hs, ht, rfl⟩ := accept_ok haccept
  · cases h₁
  · obtain ⟨name, s₂, hname, h₂⟩ := ok_of_bind h₁
    obtain ⟨body, u, hbody, hbrace, hu⟩ := nameUntil_ok hname
    have hlook : s₂ = s' := by
      cases hcode : charOfName? name with
      | some n =>
        rw [hcode] at h₂
        exact Along.pure n _ _ _ h₂
      | none =>
        rw [hcode] at h₂
        exact fail_along _ _ _ _ _ h₂
    subst hlook
    dsimp only at hbody
    rw [hs, hbody]
    refine named_until (t :: body) u _ ?_ hu
    rintro v (_ | ⟨_, hv⟩)
    · simp [ht]
    · exact hbrace v hv

theorem classMember_leaves {t : List Char} {s s' : Reader} {item : ClassItem}
    (h : (classMember t).run s = .ok (item, s')) :
    (ClassStage.ofMember t).after? (texts s.rest) = ClassStage.later.after? (texts s'.rest) := by
  by_cases ht : t = ['\\', 'N']
  · subst ht
    obtain ⟨n, mid, hn, hend⟩ := ok_of_bind h
    cases hend
    exact namedCode_leaves hn
  · rw [ClassStage.ofMember, if_neg ht]
    unfold classMember at h
    split at h
    · cases h
      rfl
    · next c => exact classEscape_along spells_staysIn c (fun hc => absurd (by rw [hc]) ht) _ _ _ h
    · cases h
      rfl

def stageOf (members : List ClassItem) : ClassStage := if members.isEmpty then .first else .later

theorem next?_stageOf (t : List Char) (members : List ClassItem) :
    (stageOf members).next? t =
      if t == [']'] && !members.isEmpty then none else some (.ofMember t) := by
  cases members with
  | nil => simp [stageOf, ClassStage.next?]
  | cons i is => simp [stageOf, ClassStage.next?]

theorem classItems_leave (start fuel : Nat) {members all : List ClassItem} {s s' : Reader}
    (hfuel : s.rest.length < fuel)
    (h : (classItems start fuel members).run s = .ok (all, s')) :
    (stageOf members).after? (texts s.rest) = some (texts s'.rest) := by
  induction fuel generalizing members s with
  | zero => omega
  | succ fuel ih =>
    unfold classItems at h
    obtain ⟨t, s₁, hnext, h₁⟩ := ok_of_bind h
    obtain ⟨rfl, _, _⟩ | ⟨t, ts, hs, rfl, rfl⟩ := next_ok hnext
    · cases h₁
    · have hread : (stageOf members).after? (texts s.rest) =
          match (stageOf members).next? t.text with
          | none => some (texts ts)
          | some stage => stage.after? (texts ts) := by rw [hs]; rfl
      have hts : ts.length + 1 = s.rest.length := by rw [hs, List.length_cons]
      rw [hread, next?_stageOf]
      dsimp only at h₁
      split at h₁
      · next hclosed =>
        cases h₁
        rw [if_pos hclosed]
      · next hopen =>
        obtain ⟨low, s₂, hlow, h₂⟩ := ok_of_bind h₁
        have hshort := (classMember_shortens _ _ _ _ hlow).length_le
        rw [if_neg hopen]
        dsimp only at hshort ⊢
        rw [classMember_leaves hlow]
        obtain ⟨dash, s₃, hdash, h₃⟩ := ok_of_bind h₂
        obtain ⟨rfl, rfl⟩ | ⟨rfl, v, vs, hv, hminus, rfl⟩ := accept_ok hdash
        · exact ih (by omega) h₃
        · have hvs : vs.length + 1 = s₂.rest.length := by rw [hv, List.length_cons]
          rw [hv, texts, List.map_cons, hminus, later_plain '-' (by decide)]
          obtain ⟨u, s₄, hnext₂, h₄⟩ := ok_of_bind h₃
          obtain ⟨rfl, _, _⟩ | ⟨u, us, hus, rfl, rfl⟩ := next_ok hnext₂
          · cases h₄
          · dsimp only at hus h₄
            rw [hus, List.length_cons] at hvs
            rw [hus, List.map_cons, ClassStage.after?, ClassStage.next?]
            split at h₄
            · next hclosed =>
              cases h₄
              rw [if_pos (by simpa using hclosed)]
              rfl
            · next hopen =>
              obtain ⟨high, s₅, hhigh, h₅⟩ := ok_of_bind h₄
              have hshort := (classMember_shortens _ _ _ _ hhigh).length_le
              dsimp only at hshort
              rw [if_neg (by simpa using hopen)]
              refine (classMember_leaves hhigh).trans ?_
              split at h₅
              · split at h₅
                · cases h₅
                · exact ih (by omega) h₅
              · cases h₅

theorem charClass_leaves {start : Nat} {cls : CharClass} {s s' : Reader}
    (h : (charClass start).run s = .ok (cls, s')) :
    classEnd? (texts s.rest) = some (texts s'.rest) := by
  obtain ⟨negated, s₁, hcaret, h₁⟩ := ok_of_bind h
  have hcarets : dropCaret (texts s.rest) = texts s₁.rest := by
    obtain ⟨rfl, rfl⟩ | ⟨_, t, ts, hs, ht, rfl⟩ := accept_ok hcaret
    · have hhead := accept_false hcaret
      cases hs : s₁.rest with
      | nil => rfl
      | cons t ts =>
        rw [hs] at hhead
        rw [texts, List.map_cons, dropCaret]
        simpa using hhead
    · rw [hs, texts, List.map_cons, ht]
      rfl
  rw [get_bind] at h₁
  obtain ⟨members, s₂, hmembers, h₂⟩ := ok_of_bind h₁
  cases h₂
  rw [classEnd?, hcarets]
  exact classItems_leave start _ (Nat.lt_succ_self _) hmembers

theorem charClass_closed {start : Nat} {cls : CharClass} {s s' : Reader}
    (h : (charClass start).run s = .ok (cls, s')) :
    ∃ body t, s.rest = body ++ t :: s'.rest ∧ t.text = [']'] := by
  obtain ⟨taken, htaken⟩ := charClass_shortens start s cls s' h
  obtain ⟨body, hbody⟩ := classEnd?_some _ _ (charClass_leaves h)
  have htexts : texts taken = body ++ [[']']] := by
    rw [← htaken, texts, List.map_append, List.append_cons] at hbody
    exact List.append_cancel_right hbody
  obtain ⟨front, t, rfl⟩ : ∃ front t, taken = front ++ [t] := by
    refine ⟨taken.dropLast, taken.getLast ?_, (List.dropLast_concat_getLast _).symm⟩
    rintro rfl
    simp [texts] at htexts
  refine ⟨front, t, by rw [← htaken, List.append_assoc, List.singleton_append], ?_⟩
  rw [texts, List.map_append, List.map_singleton] at htexts
  exact (List.append_singleton_inj.mp htexts).2

end Reading

end DocBraces.Pattern
