import Mathlib.Data.List.Nodup
import Mathlib.Data.Nat.Find
import DocBraces.Proofs.Files.Changing
import DocBraces.Proofs.Files.Rooted
import DocBraces.Proofs.Session.Rewriting

/-!
# Following links

Where names lead somewhere, following all links on their way comes to the same place. A link
that is under way is never met again then: a walk through it would have to get through it with
fewer links than it takes.
-/

set_option autoImplicit false

namespace DocBraces.Files.Tree

open DocBraces.Text

variable {t : Tree} {follow : Bool} {links : Nat} {here place : Place}
  {names rest : List String} {found : Target}

theorem Leads.more (h : Leads t follow links here names found) {more : Nat}
    (hm : links ≤ more) : Leads t follow more here names found := by
  induction h generalizing more with
  | here hn => exact .here hn
  | dot _ ih => exact .dot (ih hm)
  | up _ ih => exact .up (ih hm)
  | free hs hn => exact .free hs hn
  | file hs hn => exact .file hs hn
  | folder hs hn _ ih => exact .folder hs hn (ih hm)
  | stop hs hn hl => exact .stop hs hn hl
  | jump hs hn hr _ ih =>
    obtain ⟨more, rfl⟩ := Nat.exists_eq_succ_of_ne_zero (show more ≠ 0 by omega)
    exact .jump hs hn hr (ih (Nat.le_of_succ_le_succ hm))

theorem Leads.unique {more : Nat} {other : Target} (h : Leads t follow links here names found)
    (h' : Leads t follow more here names other) : found = other := by
  have same := walk_of_leads (h.more (Nat.le_max_left links more))
  rw [walk_of_leads (h'.more (Nat.le_max_right links more))] at same
  exact (Except.ok.inj same).symm

theorem Leads.split (grounded : t.Grounded) (start : t.node? here = some .folder)
    (h : Leads t true links here (names ++ rest) found) (hne : rest ≠ []) :
    ∃ top, Leads t true links here names (.present top .folder) ∧
      t.node? top = some .folder ∧ Leads t true links top rest found := by
  generalize hall : names ++ rest = all at h
  induction h generalizing names with
  | here hn => exact absurd (List.append_eq_nil_iff.mp hall).2 hne
  | @dot links here more found h ih =>
    cases names with
    | nil =>
      obtain rfl : rest = "." :: more := hall
      exact ⟨here, .here start, start, .dot h⟩
    | cons name names =>
      obtain ⟨rfl, onward⟩ := List.cons.inj hall
      obtain ⟨top, first, there, second⟩ := ih start onward
      exact ⟨top, .dot first, there, second⟩
  | @up links here more found h ih =>
    cases names with
    | nil =>
      obtain rfl : rest = ".." :: more := hall
      exact ⟨here, .here start, start, .up h⟩
    | cons name names =>
      obtain ⟨rfl, onward⟩ := List.cons.inj hall
      obtain ⟨top, first, there, second⟩ := ih (grounded.above start) onward
      exact ⟨top, .up first, there, second⟩
  | @free links here name hs hn =>
    cases names with
    | nil =>
      obtain rfl : rest = [name] := hall
      exact ⟨here, .here start, start, .free hs hn⟩
    | cons _ names => exact absurd (List.append_eq_nil_iff.mp (List.cons.inj hall).2).2 hne
  | @file links here name bs hs hn =>
    cases names with
    | nil =>
      obtain rfl : rest = [name] := hall
      exact ⟨here, .here start, start, .file hs hn⟩
    | cons _ names => exact absurd (List.append_eq_nil_iff.mp (List.cons.inj hall).2).2 hne
  | @folder links here name more found hs hn h ih =>
    cases names with
    | nil =>
      obtain rfl : rest = name :: more := hall
      exact ⟨here, .here start, start, .folder hs hn h⟩
    | cons _ names =>
      obtain ⟨rfl, onward⟩ := List.cons.inj hall
      obtain ⟨top, first, there, second⟩ := ih hn onward
      exact ⟨top, .folder hs hn first, there, second⟩
  | stop _ _ hf => cases hf
  | @jump links here name target more found hs hn hr h ih =>
    cases names with
    | nil =>
      obtain rfl : rest = name :: more := hall
      exact ⟨here, .here start, start, .jump hs hn hr h⟩
    | cons _ names =>
      obtain ⟨rfl, rfl⟩ := List.cons.inj hall
      obtain ⟨top, first, there, second⟩ := ih (folder_of_link start) (List.append_assoc _ _ _)
      exact ⟨top, .jump hs hn nofun first, there, second.more (Nat.le_succ _)⟩

variable {depth : Nat} {open_ : List Place} {name target : String}

theorem followLinks_nil : t.followLinks depth open_ here [] = (here, none) := by
  unfold Tree.followLinks
  rw [followNames]

theorem followLinks_dot :
    t.followLinks depth open_ here ("." :: rest) = t.followLinks depth open_ here rest := by
  unfold Tree.followLinks
  rw [followNames, if_pos rfl]

theorem followLinks_up : t.followLinks depth open_ here (".." :: rest) =
    t.followLinks depth open_ here.dropLast rest := by
  unfold Tree.followLinks
  rw [followNames, if_neg (by decide), if_pos rfl]

theorem followLinks_folder (hs : IsStep name)
    (plain : ∀ target, t.node? (here ++ [name]) ≠ some (.link target)) :
    t.followLinks depth open_ here (name :: rest) =
      t.followLinks depth open_ (here ++ [name]) rest := by
  unfold followLinks
  rw [followNames, if_neg hs.1, if_neg hs.2.1]
  dsimp only
  split
  · next target hl => exact absurd hl (plain target)
  · rfl

/-- A link that is not under way takes the walk to where its own names lead. -/
theorem followLinks_link (hs : IsStep name) (hl : t.node? (here ++ [name]) = some (.link target))
    (fresh : here ++ [name] ∉ open_) {top : Place}
    (followed : t.followLinks depth ((here ++ [name]) :: open_)
      (if isRooted target then [] else here) (rawNames target) = (top, none)) :
    t.followLinks (depth + 1) open_ here (name :: rest) =
      t.followLinks (depth + 1) open_ top rest := by
  have away : open_.contains (here ++ [name]) = false := by
    rw [← Bool.not_eq_true, List.contains_iff_mem]
    exact fresh
  conv_lhs => unfold followLinks
  rw [followNames, if_neg hs.1, if_neg hs.2.1]
  dsimp only
  rw [hl]
  dsimp only
  rw [away, if_neg Bool.false_ne_true, followed]
  rfl

theorem followNames_spelled (jump : Place → Place → List String → Place × Option (List String))
    (unlinked : ∀ q ∈ placesDown here names, ∀ target, t.node? q ≠ some (.link target)) :
    t.followNames jump here names = (plainNames here names, none) := by
  induction names generalizing here with
  | nil => rw [followNames, plainNames, List.foldl_nil]
  | cons name names ih =>
    rw [placesDown] at unlinked
    rw [followNames, plainNames, List.foldl_cons]
    split
    · next dot =>
      rw [if_pos dot] at unlinked
      exact ih unlinked
    · next dot =>
      rw [if_neg dot] at unlinked
      split
      · next up =>
        rw [if_pos up] at unlinked
        exact ih unlinked
      · next up =>
        rw [if_neg up] at unlinked
        obtain ⟨first, rest⟩ := List.forall_mem_cons.mp unlinked
        dsimp only
        split
        · next target hl => exact absurd hl (first target)
        · exact ih rest

theorem realPlace_spelled
    (unlinked : ∀ q ∈ placesDown here names, ∀ target, t.node? q ≠ some (.link target)) :
    t.realPlace here names = plainNames here names := by
  have followed : t.followLinks (t.entries.length + 1) [] here names =
      (plainNames here names, none) := by
    unfold Tree.followLinks
    exact followNames_spelled _ unlinked
  rw [Tree.realPlace, followed]

structure Room (t : Tree) (depth : Nat) (open_ : List Place) : Prop where
  distinct : open_.Nodup
  links : ∀ p ∈ open_, ∃ target, t.node? p = some (.link target)
  room : t.entries.length < depth + open_.length

theorem Room.open (h : Room t depth open_) {p : Place} (hl : t.node? p = some (.link target))
    (fresh : p ∉ open_) : ∃ less, depth = less + 1 ∧ Room t less (p :: open_) := by
  have distinct : (p :: open_).Nodup := List.nodup_cons.mpr ⟨fresh, h.distinct⟩
  have links : ∀ q ∈ p :: open_, ∃ target, t.node? q = some (.link target) :=
    List.forall_mem_cons.mpr ⟨⟨target, hl⟩, h.links⟩
  have listed : ∀ q ∈ p :: open_, q ∈ t.places := by
    intro q hq
    obtain ⟨target, hq⟩ := links q hq
    refine mem_places ?_ hq
    rintro rfl
    cases hq
  have bound := distinct.length_le_of_subset listed
  rw [places, List.length_map, List.length_cons] at bound
  have room := h.room
  refine ⟨depth - 1, by omega, distinct, links, ?_⟩
  rw [List.length_cons]
  omega

def Barred (t : Tree) (links : Nat) (p : Place) : Prop :=
  ∀ less ≤ links, ∀ here name rest found, p = here ++ [name] →
    ¬ Leads t true less here (name :: rest) found

theorem Barred.less {p : Place} (h : Barred t links p) {less : Nat} (hl : less ≤ links) :
    Barred t less p := fun few hf => h few (hf.trans hl)

/-- The least number of links that gets through a link, and where its names lead with one
link less. -/
theorem Leads.least (grounded : t.Grounded) (start : t.node? here = some .folder)
    (step : IsStep name) (hl : t.node? (here ++ [name]) = some (.link target))
    (h : Leads t true links here (name :: rest) found) :
    ∃ least found', least < links ∧ Barred t least (here ++ [name]) ∧
      Leads t true least (if isRooted target then [] else here) (rawNames target) found' := by
  classical
  have some_ : ∃ n, ∃ rest found, Leads t true n here (name :: rest) found := ⟨_, _, _, h⟩
  obtain ⟨rest', found', through⟩ := Nat.find_spec some_
  have minimal := fun n (hn : n < Nat.find some_) => Nat.find_min some_ hn
  have bound : Nat.find some_ ≤ links := Nat.find_min' some_ ⟨_, _, h⟩
  generalize Nat.find some_ = most at through minimal bound
  have barred (least : Nat) (hm : least < most) : Barred t least (here ++ [name]) := by
    intro less hless here' name' rest found hp leads
    obtain ⟨rfl, hname⟩ := List.append_inj' hp rfl
    obtain ⟨rfl, -⟩ := List.cons.inj hname
    exact minimal less (Nat.lt_of_le_of_lt hless hm) ⟨_, _, leads⟩
  have link (n : Node) (hn : t.node? (here ++ [name]) = some n) : n = .link target :=
    Option.some.inj (hn.symm.trans hl)
  cases through with
  | dot => exact absurd rfl step.1
  | up => exact absurd rfl step.2.1
  | free _ hn =>
    rw [hl] at hn
    cases hn
  | file _ hn => cases link _ hn
  | folder _ hn => cases link _ hn
  | stop _ _ hf => cases hf
  | @jump least _ _ _ _ _ hs hn _ onward =>
    obtain rfl : _ = target := Node.link.inj (link _ hn)
    cases rest' with
    | nil =>
      rw [List.append_nil] at onward
      exact ⟨least, _, bound, barred least (Nat.lt_succ_self _), onward⟩
    | cons next rest' =>
      obtain ⟨top, first, -⟩ := onward.split grounded (folder_of_link start) (List.cons_ne_nil _ _)
      exact ⟨least, _, bound, barred least (Nat.lt_succ_self _), first⟩

theorem Leads.followLinks (grounded : t.Grounded) (start : t.node? here = some .folder)
    (h : Leads t true links here names found) (room : Room t depth open_)
    (barred : ∀ p ∈ open_, Barred t links p) :
    t.followLinks depth open_ here names = (found.place, none) := by
  -- what follows a link is shorter, and the link's own names take fewer links
  induction links using Nat.strong_induction_on generalizing depth open_ here names found with
  | _ links fewer =>
  induction names generalizing here with
  | nil =>
    cases h
    exact followLinks_nil
  | cons name rest shorter =>
    cases h with
    | dot h => exact followLinks_dot.trans (shorter start h)
    | up h => exact followLinks_up.trans (shorter (grounded.above start) h)
    | free hs hn => exact (followLinks_folder hs (by simp [hn])).trans followLinks_nil
    | file hs hn => exact (followLinks_folder hs (by simp [hn])).trans followLinks_nil
    | folder hs hn h =>
      rw [followLinks_folder hs (by simp [hn])]
      exact shorter hn h
    | stop _ _ hf => cases hf
    | @jump links _ _ target _ _ hs hn hr onward =>
      have fresh : here ++ [name] ∉ open_ := fun under =>
        barred _ under _ le_rfl _ _ _ _ rfl (.jump hs hn hr onward)
      obtain ⟨least, top, hless, away, own⟩ :=
        Leads.least grounded start hs hn (.jump hs hn hr onward)
      obtain ⟨less, rfl, room'⟩ := room.open hn fresh
      have followed := fewer least hless (folder_of_link start) own room'
        (List.forall_mem_cons.mpr ⟨away, fun p hp => (barred p hp).less hless.le⟩)
      rw [followLinks_link hs hn fresh followed]
      cases rest with
      | nil =>
        rw [List.append_nil] at onward
        rw [own.unique onward, followLinks_nil]
      | cons next rest =>
        obtain ⟨top', first, there, second⟩ :=
          onward.split grounded (folder_of_link start) (List.cons_ne_nil _ _)
        obtain rfl := own.unique first
        exact shorter there (second.more (Nat.le_succ _))

theorem Leads.realPlace (grounded : t.Grounded) (start : t.node? here = some .folder)
    (h : Leads t true links here names found) : t.realPlace here names = found.place := by
  have room : Room t (t.entries.length + 1) [] := ⟨.nil, nofun, Nat.lt_succ_self _⟩
  unfold Tree.realPlace
  rw [h.followLinks grounded start room nofun]

theorem Named.walk_down (named : t.Named)
    (folders : ∀ q, here <+: q → q <+: here ++ names → t.node? q = some .folder) :
    t.walk follow links here names = .ok (.present (here ++ names) .folder) ∨
      t.walk follow links here names = .error .nameTooLong := by
  obtain ⟨jump, hj⟩ := walk_eq_walkNames t follow links
  rw [hj]
  induction names generalizing here with
  | nil =>
    rw [List.append_nil] at folders ⊢
    rw [walkNames, folders here (List.prefix_refl _) (List.prefix_refl _)]
    exact .inl rfl
  | cons name names ih =>
    have below : here ++ name :: names = here ++ [name] ++ names := by simp
    rw [below] at folders ⊢
    have there := folders (here ++ [name]) (List.prefix_append _ _) (List.prefix_append _ _)
    have entry := named here name (by rw [there]; rfl)
    rw [walkNames, if_neg entry.name.2.1, if_neg entry.notUp]
    split
    · exact .inr rfl
    · dsimp only
      rw [there]
      exact ih fun q hq => folders q ((List.prefix_append _ _).trans hq)

/-- The path of a folder leads to it, unless it is too long or a name in it is. -/
theorem Grounded.resolve_folder (grounded : t.Grounded) (named : t.Named)
    (h : t.node? place = some .folder) (here : Place) :
    t.resolve follow here (Path.mk .absolute place).toString = .ok (.present place .folder) ∨
      t.resolve follow here (Path.mk .absolute place).toString = .error .nameTooLong := by
  have proper : (Path.mk .absolute place).Proper := by
    intro n hn
    obtain ⟨top, below, rfl⟩ := List.append_of_mem hn
    have there : t.node? (top ++ [n]) = some .folder := grounded.folder_above h (by simp)
    exact (named top n (by rw [there]; rfl)).name
  obtain hr | hr := resolve_place proper follow here
  · rw [hr]
    exact named.walk_down fun q _ hq => grounded.folder_above h hq
  · exact .inr hr

end DocBraces.Files.Tree
