/-
  Trees that the operators build.

  An operator checks what it puts into a node: an actor value in a value position is a scalar, and
  a pattern can be read.  So all nodes of a tree that is built by operators, one on what others have
  built, are fit to be decided.

  * `Expr.Built`: a tree is built by operators, from whatever arguments;
  * `Expr.Fit`: the operands of a node are scalars once they are read, and its pattern can be read;
  * `Expr.Sound`: all nodes of a tree are fit, and so are those of its parts;
  * `Expr.Built.sound`: what is built is sound.
-/
import Clearance.Proofs.Draft.Alike
import Clearance.Proofs.Rule.Outline

namespace Clearance

variable {F : Type}

/-- A tree is built by operators.  Rules that stand in a tree are built in turn, those that are no
    expressions yet by the operator that makes one of them. -/
inductive Expr.Built [CharacterNames] : Expr F → Prop
  | literal {v e} : Operator.literal v = .ok e → Built e
  | compare {op left right e} : Operator.compare op left right = .ok e → Built e
  | between {path low high e} : Operator.between path low high = .ok e → Built e
  | inArray {path values e} : Operator.inArray path values = .ok e → Built e
  | nullCheck {test path e} : Operator.nullCheck test path = .ok e → Built e
  | textMatch {test path text e} : Operator.textMatch test path text = .ok e → Built e
  | search {path pattern letters e} : Operator.search path pattern letters = .ok e → Built e
  | tenantScoped {path e} : Operator.tenantScoped path = .ok e → Built e
  | belongsToTenant {actorValue path e} : Operator.belongsToTenant actorValue path = .ok e → Built e
  | related {kind table r p minCount e} : r.toExpr = .ok p → Built p →
      Operator.related kind table r minCount = .ok e → Built e
  | negation {r p e} : r.toExpr = .ok p → Built p → Operator.negation r = .ok e → Built e
  | junction {kind rules e} : (∀ r ∈ rules, ∀ p, r.toExpr = .ok p → Built p) →
      Operator.junction kind rules = .ok e → Built e
  | function {r description e} : Operator.function r description = .ok e → Built e

/-! ## Sound trees -/

/-- An operand is a scalar unless it is a column. -/
def Operand.IsScalar : Operand → Prop
  | .actor a => ∃ s, a.value = .scalar s
  | .path _ | .scalar _ => True

namespace Expr

/-- The operands of a node are scalars, as far as they are no columns, and its pattern can be
    read. -/
def Fit [CharacterNames] : Expr F → Prop
  | comparison _ _ right => right.IsScalar
  | between _ min max => min.IsScalar ∧ max.IsScalar
  | .matches _ pattern flags => ∃ program, Pattern.compileWith pattern flags = .ok program
  | belongsToTenant a _ => ∃ s, a.value = .scalar s
  | _ => True

/-- All nodes of a tree are fit. -/
def Sound [CharacterNames] (e : Expr F) : Prop := ∀ n ∈ e.preorder, n.Fit

theorem sound_leaf [CharacterNames] {e : Expr F} (h : e.isLeaf = true) : e.Sound ↔ e.Fit := by
  have hp : e.preorder = [e] := by cases e <;> simp_all [isLeaf, preorder]
  simp [Sound, hp]

theorem sound_related [CharacterNames] {kind : RelatedKind} {table : String} {predicate : Expr F}
    {minCount : Nat} :
    (related kind table predicate minCount).Sound ↔ predicate.Sound := by
  simp [Sound, preorder, Fit]

theorem sound_not [CharacterNames] {e : Expr F} : (Expr.not e).Sound ↔ e.Sound := by
  simp [Sound, preorder, Fit]

theorem sound_junction [CharacterNames] {kind : Junction} {rules : List (Expr F)} :
    (junction kind rules).Sound ↔ ∀ e ∈ rules, e.Sound := by
  simp only [Sound, preorder, List.forall_mem_cons, mem_preorderAll]
  constructor
  · rintro ⟨-, h⟩ e he n hn
    exact h n ⟨e, he, hn⟩
  · refine fun h => ⟨trivial, ?_⟩
    rintro n ⟨e, he, hn⟩
    exact h e he n hn

end Expr

/-! ## What operators put into nodes -/

namespace Operator

theorem scalarActor_eq_ok {a ref : ActorRef} {role : String} (h : scalarActor a role = .ok ref) :
    ∃ s, ref.value = .scalar s := by
  unfold scalarActor at h
  split at h
  · rename_i s hs
    cases h
    exact ⟨s, hs⟩
  · cases h

theorem operand_isScalar {a : Argument F} {role : String} {o : Operand}
    (h : operand a role = .ok o) : o.IsScalar := by
  unfold operand at h
  split at h
  · cases h
    trivial
  · cases h
    trivial
  · obtain ⟨ref, href, h⟩ := Result.bind_eq_ok.1 h
    cases h
    exact scalarActor_eq_ok href
  · obtain ⟨ref, href, h⟩ := Result.bind_eq_ok.1 h
    cases h
    exact scalarActor_eq_ok href
  · cases h
    trivial
  · cases h

/-- What a junction of rules is made of. -/
theorem mem_of_mapM_toExpr {rules : List (Rule F)} {es : List (Expr F)}
    (h : rules.mapM Rule.toExpr = .ok es) {e : Expr F} (he : e ∈ es) :
    ∃ r ∈ rules, r.toExpr = .ok e := by
  induction rules generalizing es with
  | nil =>
    cases h
    cases he
  | cons r rest ih =>
    rw [List.mapM_cons] at h
    obtain ⟨e', hr, h⟩ := Result.bind_eq_ok.1 h
    obtain ⟨es', hrest, h⟩ := Result.bind_eq_ok.1 h
    cases h
    rcases List.mem_cons.1 he with rfl | he
    · exact ⟨r, List.mem_cons_self, hr⟩
    · obtain ⟨r', hr', hre⟩ := ih hrest he
      exact ⟨r', List.mem_cons_of_mem _ hr', hre⟩

end Operator

/-- **What operators build is sound.** -/
theorem Expr.Built.sound [CharacterNames] {e : Expr F} (h : e.Built) : e.Sound := by
  induction h with
  | @literal v e h =>
    unfold Operator.literal at h
    split at h
    · cases h
      simp [Sound, preorder, Fit]
    · cases h
  | compare h =>
    obtain ⟨p, -, h⟩ := Result.bind_eq_ok.1 h
    obtain ⟨o, ho, h⟩ := Result.bind_eq_ok.1 h
    cases h
    exact (sound_leaf rfl).2 (Operator.operand_isScalar ho)
  | between h =>
    obtain ⟨p, -, h⟩ := Result.bind_eq_ok.1 h
    obtain ⟨min, hmin, h⟩ := Result.bind_eq_ok.1 h
    obtain ⟨max, hmax, h⟩ := Result.bind_eq_ok.1 h
    cases h
    exact (sound_leaf rfl).2 ⟨Operator.operand_isScalar hmin, Operator.operand_isScalar hmax⟩
  | inArray h =>
    rw [Operator.inArray_eq] at h
    obtain ⟨vs, -, h⟩ := Result.bind_eq_ok.1 h
    obtain ⟨constants, -, h⟩ := Result.bind_eq_ok.1 h
    obtain ⟨p, -, h⟩ := Result.bind_eq_ok.1 h
    cases h
    exact (sound_leaf rfl).2 trivial
  | nullCheck h =>
    obtain ⟨p, -, h⟩ := Result.bind_eq_ok.1 h
    cases h
    exact (sound_leaf rfl).2 trivial
  | textMatch h =>
    obtain ⟨p, -, h⟩ := Result.bind_eq_ok.1 h
    obtain ⟨s, -, h⟩ := Result.bind_eq_ok.1 h
    cases h
    exact (sound_leaf rfl).2 trivial
  | search h =>
    obtain ⟨p, -, h⟩ := Result.bind_eq_ok.1 h
    obtain ⟨pattern, -, h⟩ := Result.bind_eq_ok.1 h
    obtain ⟨letters, -, h⟩ := Result.bind_eq_ok.1 h
    obtain ⟨flags, -, h⟩ := Result.bind_eq_ok.1 h
    split at h
    · rename_i program hc
      cases h
      exact (sound_leaf rfl).2 ⟨program, hc⟩
    · split at h <;> cases h
  | tenantScoped h =>
    obtain ⟨p, -, h⟩ := Result.bind_eq_ok.1 h
    cases h
    exact (sound_leaf rfl).2 trivial
  | belongsToTenant h =>
    rw [Operator.belongsToTenant_eq] at h
    obtain ⟨a, -, h⟩ := Result.bind_eq_ok.1 h
    obtain ⟨ref, href, h⟩ := Result.bind_eq_ok.1 h
    obtain ⟨p, -, h⟩ := Result.bind_eq_ok.1 h
    cases h
    exact (sound_leaf rfl).2 (Operator.scalarActor_eq_ok href)
  | related hr _ h ih =>
    obtain ⟨p, hp, h⟩ := Result.bind_eq_ok.1 h
    rw [hr] at hp
    cases hp
    split at h
    · obtain ⟨n, -, h⟩ := Result.bind_eq_ok.1 h
      cases h
      exact sound_related.2 ih
    · cases h
  | negation hr _ h ih =>
    obtain ⟨p, hp, h⟩ := Result.bind_eq_ok.1 h
    rw [hr] at hp
    cases hp
    cases h
    exact sound_not.2 ih
  | junction _ h ih =>
    obtain ⟨es, hes, h⟩ := Result.bind_eq_ok.1 h
    cases h
    refine sound_junction.2 fun e he => ?_
    obtain ⟨r, hr, hre⟩ := Operator.mem_of_mapM_toExpr hes he
    exact ih r hr e hre
  | @function r description e h =>
    unfold Operator.function at h
    split at h
    · cases h
      simp [Sound, preorder, Fit]
    · cases h

end Clearance
