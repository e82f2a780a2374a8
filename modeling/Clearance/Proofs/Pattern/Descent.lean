/-
  The recursive descent depends on no positions, and on no fuel beyond what it uses.

  Each call takes a unit of fuel.  From a sequence the way to the next one leads through a group
  and its alternatives, and on each such round a token is taken, so four units for each token
  ahead are enough.

  * `sequence_alike`, `groupBody_alike`, `moreBranches_alike`, `alternatives_alike`: two readers
    with enough fuel each come to the same.
-/
import Clearance.Proofs.Pattern.Placement

namespace Clearance.Pattern

open Read

mutual

/-- Alternatives are read the same with any fuel that is enough. -/
theorem alternatives_alike [CharacterNames] (top verbose : Bool) :
    ∀ fuel fuel' n, 4 * n + 2 ≤ fuel →
    4 * n + 2 ≤ fuel' →
    Alike n n (alternatives top verbose fuel) (alternatives top verbose fuel')
  | 0, _, _, h, _ => absurd h (by omega)
  | _, 0, _, _, h => absurd h (by omega)
  | fuel + 1, fuel' + 1, n, h, h' => by
    rw [alternatives, alternatives]
    refine (sequence_alike verbose top [] fuel fuel' n (by omega) (by omega)).bind fun first => ?_
    refine (moreBranches_alike top verbose fuel fuel' n (by omega) (by omega)).bind fun rest => ?_
    exact .pure _ (Nat.le_refl n)
termination_by structural fuel => fuel

theorem moreBranches_alike [CharacterNames] (top verbose : Bool) :
    ∀ fuel fuel' n, 4 * n + 1 ≤ fuel →
    4 * n + 1 ≤ fuel' →
    Alike n n (moreBranches top verbose fuel) (moreBranches top verbose fuel')
  | 0, _, _, h, _ => absurd h (by omega)
  | _, 0, _, _, h => absurd h (by omega)
  | fuel + 1, fuel' + 1, n, h, h' => by
    rw [moreBranches, moreBranches]
    refine .accept (fun k hk => ?_) (.pure _ (Nat.le_refl n))
    refine .get fun s s' hs _ => ?_
    rw [hs.flags]
    refine (sequence_alike _ false [] fuel fuel' k (by omega) (by omega)).bind fun items => ?_
    refine (moreBranches_alike top _ fuel fuel' k (by omega) (by omega)).bind fun rest => ?_
    exact .pure _ (by omega)
termination_by structural fuel => fuel

/-- A sequence is read the same with any fuel that is enough. -/
theorem sequence_alike [CharacterNames] (verbose first : Bool) (items : List Regex) :
    ∀ fuel fuel' n,
    4 * n + 1 ≤ fuel → 4 * n + 1 ≤ fuel' →
    Alike n n (sequence verbose first items fuel) (sequence verbose first items fuel')
  | 0, _, _, h, _ => absurd h (by omega)
  | _, 0, _, _, h => absurd h (by omega)
  | fuel + 1, fuel' + 1, n, h, h' => by
    rw [sequence, sequence]
    refine .next? fun rest hr => ?_
    cases rest with
    | nil => exact .pure _ hr
    | cons token rest =>
      -- behind the token there is one token less
      have hk : rest.length + 1 ≤ n := hr
      have hseq : ∀ verbose first items, Alike rest.length n (sequence verbose first items fuel)
          (sequence verbose first items fuel') := fun verbose first items =>
        (sequence_alike verbose first items fuel fuel' _ (by omega) (by omega)).mono
          (Nat.le_refl _) (by omega)
      cases token with
      | escape c =>
        exact .take (((itemEscape_steady c _).bind fun r => hseq _ _ _) rest (Nat.le_refl _))
      | dangling => exact .pure _ hr
      | plain c =>
        refine AlikeAt.ite (.pure _ hr) (.get fun s s' _ _ => .take ?_)
        suffices halike : Alike rest.length n _ _ from halike rest (Nat.le_refl _)
        refine .ite (hseq _ _ _) (.ite (.get fun s s' hs _ => ?_) ?_)
        · rw [hs.rest]
          exact (skipLine_steady _ _).bind fun _ => hseq _ _ _
        refine .ite ((characterSet_steady _).bind fun r => hseq _ _ _) ?_
        refine .ite (hseq _ _ _) (.ite (hseq _ _ _) (.ite (hseq _ _ _) ?_))
        refine .ite ((repeatBounds_steady c _).bind fun bounds => ?_) (.ite ?_ (hseq _ _ _))
        · cases bounds with
          | none => exact hseq _ _ _
          | some bounds => exact (repeatLast_alike _ _ _).bind fun items => hseq _ _ _
        refine (accept_steady _ _).bind fun b => ?_
        extract_lets late jp late' jp'
        have hlate : ∀ u, Alike rest.length n (late u) (late' u) := fun _ => by
          refine .get fun s s' hs _ => ?_
          rw [hs.flags]
          exact hseq _ _ _
        have hjp : ∀ head, Alike rest.length n (jp head) (jp' head) := by
          intro head
          have hbody := (groupBody_alike s.position s'.position verbose
            head fuel fuel' rest.length (by omega) (by omega)).bind fun r => hseq verbose first
              (r :: items)
          cases head with
          | comment => exact hseq _ _ _
          | item r => exact hseq _ _ _
          | globalFlags => exact .ite (.failAt_bind _ _ _) (hlate ())
          | _ => exact hbody
        exact .ite (groupHead_alike.bind hjp) ((Steady.pure _ _).bind hjp)
termination_by structural fuel => fuel

theorem groupBody_alike [CharacterNames] (opening opening' : Nat) (verbose : Bool)
    (head : GroupHead) :
    ∀ fuel fuel' n, 4 * n + 3 ≤ fuel → 4 * n + 3 ≤ fuel' →
    Alike n n (groupBody opening verbose head fuel) (groupBody opening' verbose head fuel')
  | 0, _, _, h, _ => absurd h (by omega)
  | _, 0, _, _, h => absurd h (by omega)
  | fuel + 1, fuel' + 1, n, h, h' => by
    have halternatives : ∀ verbose, Alike n n (alternatives false verbose fuel)
        (alternatives false verbose fuel') := fun verbose =>
      alternatives_alike false verbose fuel fuel' n (by omega) (by omega)
    have hseq : ∀ verbose, Alike n n (sequence verbose false [] fuel)
        (sequence verbose false [] fuel') := fun verbose =>
      sequence_alike verbose false [] fuel fuel' n (by omega) (by omega)
    cases head with
    | capture name =>
      rw [groupBody, groupBody]
      refine (openGroup_steady name n).bind fun index => (halternatives _).bind fun body => ?_
      exact closing_alike.bind fun _ => (closeGroup_steady _ _ n).bind fun _ =>
        .pure _ (Nat.le_refl n)
    | plain on off =>
      rw [groupBody, groupBody]
      exact (halternatives _).bind fun body => closing_alike.bind fun _ => .pure _ (Nat.le_refl n)
    | atomic =>
      rw [groupBody, groupBody]
      exact (halternatives _).bind fun body => closing_alike.bind fun _ => .pure _ (Nat.le_refl n)
    | look behind negated =>
      rw [groupBody, groupBody]
      refine .get fun s s' hs _ => ?_
      rw [hs.lookbehind]
      extract_lets outer jp jp'
      have hjp : ∀ u, Alike n n (jp u) (jp' u) := fun _ => by
        refine (halternatives _).bind fun body => ?_
        have hlast : Alike n n (do closing opening; return Regex.look behind negated body)
            (do closing opening'; return Regex.look behind negated body) :=
          closing_alike.bind fun _ => .pure _ (Nat.le_refl n)
        refine .ite (.bind (fun rest hr s s' hs hrest => ?_) fun _ => hlast) hlast
        exact .ok () ⟨hs.rest, hs.flags, hs.groups, hs.names, rfl, hs.conditions⟩ (hrest ▸ hr)
      refine .ite (.bind (fun rest hr s s' hs hrest => ?_) hjp) (hjp ())
      exact .ok () ⟨hs.rest, hs.flags, hs.groups, hs.names,
        congrArg (fun groups => some (List.length groups)) hs.groups, hs.conditions⟩ (hrest ▸ hr)
    | condition index =>
      rw [groupBody, groupBody]
      refine (hseq _).bind fun yes => (accept_steady _ n).bind fun b => ?_
      extract_lets jp jp'
      have hjp : ∀ no, Alike n n (jp no) (jp' no) := fun no =>
        closing_alike.bind fun _ => .pure _ (Nat.le_refl n)
      refine .ite ((hseq _).bind fun no => (isNext_steady _ n).bind fun b => ?_)
        ((Steady.pure _ n).bind hjp)
      exact .ite (.fail_bind _ _ _) ((Steady.pure _ n).bind hjp)
    | item | comment | globalFlags => exact .pure _ (Nat.le_refl n)
termination_by structural fuel => fuel

end

end Clearance.Pattern
