/-
  Reading does not depend on where in a pattern it takes place.

  Two readers that differ in positions only read the same, or meet the same fault: one lemma for
  each step of the reader below sequences and alternatives.

  * `itemEscape_steady`, `characterSet_steady`, `repeatBounds_steady`: escapes, sets and the bounds
    of repetitions;
  * `groupFlags_steady`: flags, those for the whole pattern among them;
  * `groupHead_alike`, `openGroup_steady`, `closeGroup_steady`, `closing_alike`: groups.
-/
import Clearance.Pattern.Parse
import Clearance.Proofs.Lists
import Clearance.Proofs.Pattern.Steady

namespace Clearance.Pattern

open Read

/-! ## Escapes -/

theorem hexEscape_steady (letter : Char) (count : Nat) : Steady (hexEscape letter count) := by
  refine (takeWhile_steady _ _).bind fun digits => ?_
  dsimp only
  split
  · split
    · exact .pure _
    · exact .fail _ _
  · exact .fail _ _

theorem namedEscape_steady [CharacterNames] : Steady namedEscape := by
  refine (accept_steady _).bind fun b => ?_
  split
  · refine (takeUntil_steady _ _).bind fun name => ?_
    split
    · exact .pure _
    · exact .fail _ _
  · exact .fail _ _

theorem otherEscape_steady (c : Char) : Steady (otherEscape c) := by
  unfold otherEscape
  split
  · exact .fail _ _
  · exact .pure _

theorem octalCode_steady (digits : List Char) : Steady (octalCode digits) := by
  unfold octalCode
  dsimp only
  split
  · exact .fail _ _
  · exact .pure _

theorem setEscape_steady [CharacterNames] (c : Char) : Steady (setEscape c) := by
  unfold setEscape
  split
  · exact .pure _
  split
  · exact .pure _
  · exact .pure _
  split
  · exact (hexEscape_steady _ _).bind fun _ => .pure _
  split
  · exact (hexEscape_steady _ _).bind fun _ => .pure _
  split
  · exact (hexEscape_steady _ _).bind fun _ => .pure _
  split
  · exact namedEscape_steady.bind fun _ => .pure _
  split
  · exact (takeWhile_steady _ _).bind fun _ => (octalCode_steady _).bind fun _ => .pure _
  split
  · exact .fail _ _
  · exact (otherEscape_steady c).bind fun _ => .pure _

theorem checkLookbehind_steady (index : Nat) : Steady (checkLookbehind index) := fun n => by
  refine .get fun s s' h _ => ?_
  rw [h.lookbehind, h.groups]
  split
  · exact .pure _ (Nat.le_refl n)
  · split
    · exact .fail _ _ _
    · split
      · exact .fail _ _ _
      · exact .pure _ (Nat.le_refl n)

theorem numberedReference_steady (index length : Nat) :
    Steady (numberedReference index length) := fun n => by
  refine .get fun s s' h _ => ?_
  rw [h.groups]
  split
  · exact .fail _ _ _
  · exact .fail _ _ _
  · exact ((checkLookbehind_steady index).bind fun _ => .pure _) n

theorem digitEscape_steady (c : Char) : Steady (digitEscape c) := by
  refine next?_steady.bind fun token => ?_
  split
  · split
    · refine take_steady.bind fun _ => next?_steady.bind fun token => ?_
      split
      · split
        · exact take_steady.bind fun _ => (octalCode_steady _).bind fun _ => .pure _
        · exact numberedReference_steady _ _
      · exact numberedReference_steady _ _
    · exact numberedReference_steady _ _
  · exact numberedReference_steady _ _

theorem itemEscape_steady [CharacterNames] (c : Char) : Steady (itemEscape c) := by
  unfold itemEscape
  split
  · exact .pure _
  · exact .pure _
  · exact .pure _
  split
  · exact (hexEscape_steady _ _).bind fun _ => .pure _
  split
  · exact (hexEscape_steady _ _).bind fun _ => .pure _
  split
  · exact (hexEscape_steady _ _).bind fun _ => .pure _
  split
  · exact namedEscape_steady.bind fun _ => .pure _
  split
  · exact (takeWhile_steady _ _).bind fun _ => .pure _
  split
  · exact digitEscape_steady c
  · exact (otherEscape_steady c).bind fun _ => .pure _

/-! ## Character sets -/

section

variable {n opening opening' : Nat}

theorem setMember_alike [CharacterNames] (token : Option Token) :
    Alike n n (setMember opening token) (setMember opening' token) := by
  unfold setMember
  split
  · exact .failAt _ _ _
  · exact ((setEscape_steady _).bind fun _ => .pure _) n
  · exact .pure _ (Nat.le_refl n)

theorem setMembers_alike [CharacterNames] : ∀ fuel taken,
    Alike n n (setMembers opening taken fuel) (setMembers opening' taken fuel)
  | 0, _ => .pure _ (Nat.le_refl n)
  | fuel + 1, taken => by
    rw [setMembers, setMembers]
    refine (take_steady n).bind fun token => ?_
    split
    · exact .pure _ (Nat.le_refl n)
    refine (setMember_alike token).bind fun low => (accept_steady _ n).bind fun b => ?_
    split
    · refine (take_steady n).bind fun token => ?_
      split
      · exact .pure _ (Nat.le_refl n)
      refine (setMember_alike token).bind fun high => ?_
      dsimp only
      split
      · split
        · exact .fail _ _ _
        · exact setMembers_alike fuel _
      · exact .fail _ _ _
    · exact setMembers_alike fuel _

end

theorem characterSet_steady [CharacterNames] : Steady characterSet := fun n => by
  refine .get fun s s' _ _ => (accept_steady _ n).bind fun negated => .get fun t t' h _ => ?_
  rw [h.rest]
  exact (setMembers_alike _ _).bind fun _ => .pure _ (Nat.le_refl n)

/-! ## Repetitions -/

theorem repeatCount_steady (digits : List Char) : Steady (repeatCount digits) := fun n => by
  unfold repeatCount
  dsimp only
  split
  · exact .throw rfl
  · exact .pure _ (Nat.le_refl n)

theorem bracedBounds_steady : Steady bracedBounds := fun n => by
  refine .get fun s s' h hn => (isNext_steady _ n).bind fun b => ?_
  rw [h.rest]
  split
  · exact .pure _ (Nat.le_refl n)
  refine (takeWhile_steady _ _ n).bind fun low => (accept_steady _ n).bind fun hasComma => ?_
  extract_lets jp jp'
  -- what comes behind the counts, whatever the second one is
  have hjp : ∀ high, Alike n n (jp high) (jp' high) := by
    intro high
    refine (accept_steady _ n).bind fun b => ?_
    split
    · extract_lets bounds bounds'
      have hbounds : ∀ least, Alike n n (bounds least) (bounds' least) := by
        intro least
        simp only [bounds, bounds']
        split
        · exact .pure _ (Nat.le_refl n)
        · refine (repeatCount_steady _ n).bind fun most => ?_
          split
          · exact .failAt _ _ _
          · exact .pure _ (Nat.le_refl n)
      split
      · exact hbounds _
      · exact (repeatCount_steady _ n).bind hbounds
    · exact (Alike.set h hn).bind fun _ => .pure _ (Nat.le_refl n)
  split
  · exact (takeWhile_steady _ _ n).bind hjp
  · exact hjp _

theorem repeatBounds_steady (c : Char) : Steady (repeatBounds c) := by
  unfold repeatBounds
  split
  · exact .pure _
  split
  · exact .pure _
  split
  · exact .pure _
  · exact bracedBounds_steady

theorem repeatGreed_steady : Steady repeatGreed := by
  refine (accept_steady _).bind fun b => ?_
  split
  · exact .pure _
  refine (accept_steady _).bind fun b => ?_
  split
  · exact .pure _
  · exact .pure _

theorem repeatLast_alike {n position position' : Nat} (items : List Regex) (least : Nat)
    (most : Option Nat) :
    Alike n n (repeatLast items least most position) (repeatLast items least most position') := by
  unfold repeatLast
  split
  · exact .failAt _ _ _
  split
  · exact .failAt _ _ _
  split
  · exact .failAt _ _ _
  · exact (repeatGreed_steady.bind fun _ => .pure _) n

/-! ## Flags -/

theorem flagsOn_steady : ∀ fuel on c, Steady (flagsOn on c fuel)
  | 0, _, _ => .pure _
  | fuel + 1, on, c => by
    rw [flagsOn]
    split
    · exact .fail_bind _ _
    dsimp only
    split
    · exact .fail_bind _ _
    refine take_steady.bind fun token => ?_
    split
    · exact .fail _ _
    · split
      · exact .pure _
      split
      · exact flagsOn_steady fuel _ _
      · exact .fail _ _
    · exact .fail _ _

theorem flagsOff_steady : ∀ fuel off c, Steady (flagsOff off c fuel)
  | 0, _, _ => .pure _
  | fuel + 1, off, c => by
    rw [flagsOff]
    split
    · exact .fail_bind _ _
    refine take_steady.bind fun token => ?_
    split
    · exact .fail _ _
    · exact .pure _
    · split
      · exact flagsOff_steady fuel _ _
      · exact .fail _ _
    · exact .fail _ _

/-- Flags for the whole pattern are added to those that it has. -/
theorem groupFlags_steady (c : Char) : Steady (groupFlags c) := fun n => by
  refine .get fun s s' h _ => ?_
  rw [h.rest]
  extract_lets fuel jp
  have hjp : ∀ x, Steady (jp x) := by
    rintro ⟨on, mark⟩
    dsimp -zeta only [jp]
    split
    · refine Steady.bind (fun n rest hr s s' h hrest => ?_) fun _ => .pure _
      have hflags : s.flags.union on = s'.flags.union on := by rw [h.flags]
      exact .ok () ⟨h.rest, hflags, h.groups, h.names, h.lookbehind, h.conditions⟩ (hrest ▸ hr)
    extract_lets last behind
    split
    · exact .fail_bind _ _
    have hlast : ∀ off, Steady (last off) := by
      intro off
      simp only [last]
      split
      · exact .fail_bind _ _
      split
      · exact .fail_bind _ _
      · exact .pure _
    dsimp only [behind]
    split
    · refine take_steady.bind fun token => ?_
      split
      · exact .fail_bind _ _
      · split
        · exact (flagsOff_steady _ _ _).bind hlast
        · exact .fail_bind _ _
      · exact .fail_bind _ _
    · exact (Steady.pure _).bind hlast
  split
  · exact ((Steady.pure _).bind hjp) n
  · exact ((flagsOn_steady _ _ _).bind hjp) n

/-! ## Groups -/

theorem checkName_steady (name : List Char) : Steady (checkName name) := by
  unfold checkName
  split
  · exact .pure _
  · exact .fail _ _

/-- A group more, and perhaps a name, in both of two states. -/
theorem ReadState.Same.opened {s s' : ReadState} (h : s.Same s') (names : List (String × Nat)) :
    ReadState.Same { s with groups := s.groups ++ [none], names := s.names ++ names }
      { s' with groups := s'.groups ++ [none], names := s'.names ++ names } where
  rest := h.rest
  flags := h.flags
  groups := congrArg (· ++ [none]) h.groups
  names := congrArg (· ++ names) h.names
  lookbehind := h.lookbehind
  conditions := h.conditions

theorem openGroup_steady (name : Option (List Char)) : Steady (openGroup name) := fun n => by
  refine .get fun s s' h hn => ?_
  cases name with
  | none =>
    have hset := h.opened []
    rw [List.append_nil, List.append_nil] at hset
    dsimp only
    rw [congrArg List.length h.groups]
    exact (Alike.set hset hn).bind fun _ => .pure _ (Nat.le_refl n)
  | some name =>
    dsimp only
    rw [congrArg (List.lookup _) h.names, congrArg List.length h.groups]
    split
    · exact .fail _ _ _
    · exact (Alike.set (h.opened _) hn).bind fun _ => .pure _ (Nat.le_refl n)

theorem closeGroup_steady (index : Nat) (body : Regex) : Steady (closeGroup index body) := by
  intro n rest hr s s' h hrest
  have hgroups : s.groups.set (index - 1) (some body.width) =
      s'.groups.set (index - 1) (some body.width) := by rw [h.groups]
  exact .ok () ⟨h.rest, h.flags, hgroups, h.names, h.lookbehind, h.conditions⟩ (hrest ▸ hr)

theorem namedReference_steady : Steady namedReference := by
  refine (takeUntil_steady _ _).bind fun name => (checkName_steady name).bind fun _ n =>
    .get fun s s' h _ => ?_
  rw [h.names, h.groups]
  split
  · exact .fail _ _ _
  · split
    · exact .fail _ _ _
    · exact ((checkLookbehind_steady _).bind fun _ => .pure _) n

theorem conditionGroup_steady : Steady conditionGroup := by
  refine (takeUntil_steady _ _).bind fun name n => ?_
  dsimp only
  split
  · refine .get fun s s' h _ => ?_
    rw [h.names]
    split
    · exact .fail _ _ _
    · exact .pure _ (Nat.le_refl n)
  split
  · exact .fail _ _ _
  rename_i index _
  split
  · exact .fail_bind _ _ _
  refine .get fun s s' h hn => ?_
  split
  · exact .fail_bind _ _ _
  rw [isNone_lookup, isNone_lookup, h.conditions]
  split
  · have hset : ReadState.Same
        { s with conditions := s.conditions ++ [(index, s.position - (name.length + 1))] }
        { s' with conditions := s'.conditions ++ [(index, s'.position - (name.length + 1))] } :=
      ⟨h.rest, h.flags, h.groups, h.names, h.lookbehind, by simp [h.conditions]⟩
    exact (Alike.set hset hn).bind fun _ => .pure _ (Nat.le_refl n)
  · exact .pure _ (Nat.le_refl n)

theorem skipComment_alike {n opening opening' : Nat} : ∀ fuel,
    Alike n n (skipComment opening fuel) (skipComment opening' fuel)
  | 0 => .pure _ (Nat.le_refl n)
  | fuel + 1 => by
    rw [skipComment, skipComment]
    refine (next?_steady n).bind fun token => ?_
    split
    · exact .failAt _ _ _
    · refine (take_steady n).bind fun _ => ?_
      split
      · exact .pure _ (Nat.le_refl n)
      · exact skipComment_alike fuel

theorem skipLine_steady : ∀ fuel, Steady (skipLine fuel)
  | 0 => .pure _
  | fuel + 1 => by
    rw [skipLine]
    refine take_steady.bind fun token => ?_
    split
    · exact .pure _
    · split
      · exact .pure _
      · exact skipLine_steady fuel

theorem namedHead_steady : Steady namedHead := by
  refine (accept_steady _).bind fun b => ?_
  split
  · exact (takeUntil_steady _ _).bind fun name => (checkName_steady name).bind fun _ => .pure _
  refine (accept_steady _).bind fun b => ?_
  split
  · exact namedReference_steady.bind fun _ => .pure _
  refine take_steady.bind fun token => ?_
  split
  · exact .fail _ _
  · exact .fail _ _

theorem groupHead_alike {n opening opening' : Nat} :
    Alike n n (groupHead opening) (groupHead opening') := by
  refine (take_steady n).bind fun token => ?_
  split
  · exact .fail _ _ _
  · split
    · exact namedHead_steady n
    split
    · exact .pure _ (Nat.le_refl n)
    split
    · refine .get fun s s' h _ => ?_
      rw [h.rest]
      exact (skipComment_alike _).bind fun _ => .pure _ (Nat.le_refl n)
    split
    · exact .pure _ (Nat.le_refl n)
    split
    · exact .pure _ (Nat.le_refl n)
    split
    · refine (take_steady n).bind fun token => ?_
      split
      · exact .fail _ _ _
      · split
        · exact .pure _ (Nat.le_refl n)
        split
        · exact .pure _ (Nat.le_refl n)
        · exact .fail _ _ _
    split
    · exact (conditionGroup_steady.bind fun index =>
        (checkLookbehind_steady index).bind fun _ => .pure _) n
    split
    · exact .pure _ (Nat.le_refl n)
    split
    · refine (groupFlags_steady _ n).bind fun flags => ?_
      split
      · exact .pure _ (Nat.le_refl n)
      · exact .pure _ (Nat.le_refl n)
    · exact .fail _ _ _
  · exact .fail _ _ _

theorem closing_alike {n opening opening' : Nat} :
    Alike n n (closing opening) (closing opening') := by
  refine (accept_steady _ n).bind fun b => ?_
  split
  · exact .pure _ (Nat.le_refl n)
  · exact .failAt _ _ _

end Clearance.Pattern
