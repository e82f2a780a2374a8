/-
  Where the values of placeholders come from.

  A filter is compiled from the values of a rule as well as from its outline, yet its text is
  that of the outline: rules of one outline, for actors whose tenant values have one outline, are
  compiled to filters of one text.  Each placeholder of the text stands for the value at one
  position of the rule, or for a value that does not depend on the values of the rule at all.

  * `Slot` names the positions in a node that hold a value, `Source` is a position in a rule or a
    value that does not vary, and `Source.value?` is the value there;
  * `Expr.Alike` relates two rules, each with its actor, that differ in values only;
  * `Form` is a text with the sources of its placeholders: `Rule.compile_form`.
-/
import Clearance.Proofs.Filter.Declared
import Clearance.Proofs.Rule.Outline
import Clearance.Proofs.Sql.Uniform

namespace Clearance

open Sql

variable {F : Type}

/-! ## Positions -/

/-- The positions in a node that hold a value. -/
inductive Slot where
  /-- What a column is compared with. -/
  | operand
  /-- The lower bound of a column. -/
  | min
  /-- The upper bound of a column. -/
  | max
  /-- The constants that a column may be, apart from null. -/
  | items
  /-- The text that a column is tested against, with its wildcards escaped. -/
  | text
  /-- The actor's value for a tenant column. -/
  | tenant
  /-- The value of the actor that a column is to equal. -/
  | actorValue
deriving DecidableEq, Repr

/-- The value in a slot of a node. -/
def Expr.slot? (config : Config) (actor : Value) : Slot → Expr F → Option Value
  | .operand, .comparison _ _ right => right.constant?
  | .min, .between _ min _ => min.constant?
  | .max, .between _ _ max => max.constant?
  | .items, .inArray _ values => some (.list ((values.filter (· != .null)).map .scalar))
  | .text, .textMatch _ _ text => some (.str (escapeLike text))
  | .tenant, .tenantScoped path =>
    (lookupTenant actor path.column config.tenantNamespace).toOption
  | .actorValue, .belongsToTenant a _ => some a.value
  | _, _ => none

/-- Where the value of a placeholder comes from. -/
inductive Source where
  /-- From a slot of the node at an address. -/
  | position (address : List Nat) (slot : Slot)
  /-- From nowhere in particular. -/
  | fixed (v : Value)

/-- The value that comes from a source. -/
def Source.value? (config : Config) (actor : Value) (e : Expr F) : Source → Option Value
  | .position address slot => (e.at? address).bind (Expr.slot? config actor slot)
  | .fixed v => some v

/-- A tree for an actor differs from another in values only, the actors' tenant values
    included. -/
structure Expr.Alike (config : Config) (e₀ : Expr F) (actor₀ : Value) (e : Expr F)
    (actor : Value) : Prop where
  outline : e.outline = e₀.outline
  tenant : ∀ path, .tenantScoped path ∈ e₀.walk →
    (lookupTenant actor path.column config.tenantNamespace).map Value.outline =
      (lookupTenant actor₀ path.column config.tenantNamespace).map Value.outline

/-! ## Families of values and terms -/

variable {ι : Type} {P : (ι → Value) → Prop} {c : Column}

/-- The values of a family are the same, or all of them are bound wherever they stand. -/
inductive Value.Varies (P : (ι → Value) → Prop) : (ι → Value) → Prop
  | const (v : Value) : Varies P fun _ => v
  | bound {v : ι → Value} : (∀ i, (v i).isPlain = false) → P v → Varies P v

/-- What the values of a family are compared with is the same column, or such a family. -/
inductive Sql.Term.Varies (P : (ι → Value) → Prop) : (ι → Term) → Prop
  | column (c : Column) : Varies P fun _ => .column c
  | value {v : ι → Value} : Value.Varies P v → Varies P fun i => .value (v i)

/-- A family of values with one outline. -/
theorem Value.Varies.of_outline {v : ι → Value} {o : Value} (h : ∀ i, (v i).outline = o)
    (hv : P v) : Varies P v := by
  unfold Value.outline at h
  by_cases ho : o.isPlain
  · have hconst : v = fun _ => o := by
      funext i
      have hi := h i
      split at hi
      · exact hi
      · subst hi
        cases ho
    rw [hconst]
    exact .const o
  · refine .bound (fun i => ?_) hv
    have hi := h i
    split at hi
    · rename_i hplain
      rw [hi] at hplain
      exact absurd hplain ho
    · exact Bool.eq_false_iff.2 ‹_›

/-! ## Tests -/

theorem equalClause_bound {v : Value} (h : v.isPlain = false) :
    equalClause c (.value v) = Clause.conj [.isNotNull c, .equals c v] := by
  unfold equalClause
  split <;> simp_all [Value.isPlain]

theorem orderClause_bound (op : OrderOp) {v : Value} (h : v.isPlain = false) :
    orderClause op c (.value v) = Clause.conj [.isNotNull c, .order op c (.value v)] := by
  unfold orderClause
  split <;> simp_all [Value.isPlain]

theorem isNull_of_isPlain {v : Value} (h : v.isPlain = false) : v.isNull = false := by
  refine Value.isNull_of_ne ?_
  rintro rfl
  cases h

open Clause (Uniform)

/-- A test that is guarded by a test that its column is not null. -/
theorem guarded_uniform {t : ι → Clause} (h : Uniform P t) :
    Uniform P fun i => Clause.conj [.isNotNull c, t i] :=
  .conj (.cons (.const _) (.singleton h))

theorem equalClause_uniform {t : ι → Term} (h : Term.Varies P t) :
    Uniform P fun i => equalClause c (t i) := by
  rcases h with d | ⟨v | ⟨hb, hv⟩⟩
  · exact .const (equalClause c (.column d))
  · exact .const (equalClause c (.value v))
  · simp only [equalClause_bound (hb _)]
    exact guarded_uniform (.equals c hv)

theorem orderClause_uniform (op : OrderOp) {t : ι → Term} (h : Term.Varies P t) :
    Uniform P fun i => orderClause op c (t i) := by
  rcases h with d | ⟨v | ⟨hb, hv⟩⟩
  · exact .const (orderClause op c (.column d))
  · exact .const (orderClause op c (.value v))
  · simp only [orderClause_bound op (hb _)]
    exact guarded_uniform (.order op c hv)

theorem compareClause_uniform (op : CompareOp) {t : ι → Term} (h : Term.Varies P t) :
    Uniform P fun i => compareClause op c (t i) := by
  cases op with
  | eq => exact equalClause_uniform h
  | neq => exact (equalClause_uniform h).negate
  | gt => exact orderClause_uniform .gt h
  | lt => exact orderClause_uniform .lt h
  | gte => exact orderClause_uniform .gte h
  | lte => exact orderClause_uniform .lte h

theorem presentClause_uniform {v : ι → Value} (h : Value.Varies P v) :
    Uniform P fun i => presentClause c (v i) := by
  cases h with
  | const v => exact .const (presentClause c v)
  | bound hb hv =>
    simp only [presentClause, isNull_of_isPlain (hb _)]
    exact equalClause_uniform (.value (.bound hb hv))

theorem junctionClause_uniform {kind : Junction} {l : ι → List Clause}
    (h : Lists (Uniform P) l) : Uniform P fun i => junctionClause kind (l i) := by
  obtain ⟨xs, hxs, rfl⟩ := h
  match kind, xs, hxs with
  | .and, [], _ => exact .const (.truth true)
  | .or, [], _ => exact .const (.truth false)
  | .and, [x], hxs => exact hxs x (by simp)
  | .or, [x], hxs => exact hxs x (by simp)
  | .and, x :: y :: xs, hxs => exact .conj ⟨_, hxs, rfl⟩
  | .or, x :: y :: xs, hxs => exact .disj ⟨_, hxs, rfl⟩

theorem rowsClause_uniform (table : String) {p : ι → Clause} (n : Nat) (h : Uniform P p) :
    Uniform P fun i => rowsClause table (p i) n :=
  match n with
  | 0 => .const (.truth true)
  | 1 => .exists table h
  | n + 2 => .count table true (n + 2) h

/-- Outlines tell which constants are null. -/
theorem Scalar.outline_eq_null {s : Scalar} : s.outline = .null ↔ s = .null := by
  cases s <;> simp [outline, Value.isPlain]

theorem oneOfClause_uniform {values : ι → List Scalar} {os : List Scalar}
    (h : ∀ i, (values i).map Scalar.outline = os)
    (hv : P fun i => .list (((values i).filter (· != .null)).map .scalar)) :
    Uniform P fun i => oneOfClause c (values i) := by
  -- How many constants there are, and how many of them are not null, is read off the outline.
  have hlength : ∀ i, (values i).length = os.length := fun i => by rw [← h i, List.length_map]
  have hpresent : ∀ i, ((values i).filter (· != .null)).length =
      (os.filter (· != .null)).length := by
    intro i
    have hp : ((· != Scalar.null) ∘ Scalar.outline) = (· != Scalar.null) := by
      funext s
      rw [Bool.eq_iff_iff]
      simp [Scalar.outline_eq_null]
    rw [← h i, List.filter_map, List.length_map, hp]
  simp only [oneOfClause_eq]
  refine junctionClause_uniform (.append ?_ ?_)
  · simp only [List.isEmpty_iff_length_eq_zero, hpresent]
    split
    · exact .nil
    · exact .singleton (guarded_uniform (.oneOf c hv))
  · simp only [hlength, hpresent]
    split
    · exact .nil
    · exact .singleton (.const _)

/-! ## Leaves -/

/-- A step that does not vary and that other steps go on from gives one thing. -/
theorem exists_of_bind [Nonempty ι] {α β : Type} {r : Result α} {f : ι → α → Result β} {b : ι → β}
    (h : ∀ i, (r >>= f i) = .ok (b i)) : ∃ a, r = .ok a ∧ ∀ i, f i a = .ok (b i) := by
  cases r with
  | error err =>
    obtain ⟨i⟩ := ‹Nonempty ι›
    cases h i
  | ok a => exact ⟨a, rfl, h⟩

/-- What a step that does not vary gives does not vary. -/
theorem uniform_of_const [Nonempty ι] {r : Result Clause} {t : ι → Clause}
    (h : ∀ i, r = .ok (t i)) : Uniform P t := by
  obtain ⟨i₀⟩ := ‹Nonempty ι›
  have ht : t = fun _ => t i₀ := funext fun i => Except.ok.inj ((h i).symm.trans (h i₀))
  rw [ht]
  exact .const _

section

variable [Nonempty ι] {config : Config} {d : Declarations} {opened : List String}

theorem termOf_varies {o : Operand} {right : ι → Operand} {t : ι → Term}
    (ho : ∀ i, (right i).outline = o) (ht : ∀ i, termOf d opened (right i) = .ok (t i))
    (hv : ∀ v : ι → Value, (∀ i, (right i).constant? = some (v i)) → P v) : Term.Varies P t := by
  cases o with
  | path p =>
    have hr : ∀ i, right i = .path p := by
      intro i
      have hi := ho i
      cases h : right i with
      | path q => rw [h] at hi; exact hi
      | _ => rw [h] at hi; cases hi
    obtain ⟨c, -, hc⟩ := exists_of_bind (r := columnOf d opened p) fun i => by
      rw [← ht i, hr i]
      rfl
    have hconst : t = fun _ => .column c := funext fun i => (Except.ok.inj (hc i)).symm
    rw [hconst]
    exact .column c
  | actor a =>
    have hr : ∀ i, ∃ b : ActorRef, right i = .actor b ∧ b.value.outline = a.value := by
      intro i
      have hi := ho i
      cases h : right i with
      | actor b => rw [h] at hi; cases hi; exact ⟨b, rfl, rfl⟩
      | _ => rw [h] at hi; cases hi
    choose b hb hbo using hr
    have hconst : t = fun i => .value (b i).value := by
      funext i
      have hi := ht i
      rw [hb i] at hi
      exact (Except.ok.inj hi).symm
    rw [hconst]
    exact .value (.of_outline hbo (hv _ fun i => by rw [hb i]; rfl))
  | scalar s =>
    have hr : ∀ i, ∃ u : Scalar, right i = .scalar u ∧ (Value.scalar u).outline = .scalar s := by
      intro i
      have hi := ho i
      cases h : right i with
      | scalar u =>
        rw [h] at hi
        cases hi
        refine ⟨u, rfl, ?_⟩
        unfold Value.outline Scalar.outline
        split <;> rfl
      | _ => rw [h] at hi; cases hi
    choose u hu huo using hr
    have hconst : t = fun i => .value (.scalar (u i)) := by
      funext i
      have hi := ht i
      rw [hu i] at hi
      exact (Except.ok.inj hi).symm
    rw [hconst]
    exact .value (.of_outline huo (hv _ fun i => by rw [hu i]; rfl))

/-- **A leaf of an outline** is compiled to a uniform family of tests. -/
theorem leafClause_uniform {actor : ι → Value} {o : Expr F} {e : ι → Expr F} {t : ι → Clause}
    (ho : ∀ i, (e i).outline = o) (hleaf : o.isLeaf = true)
    (htenant : ∀ path, o = .tenantScoped path → ∃ w, ∀ i,
      (lookupTenant (actor i) path.column config.tenantNamespace).map Value.outline = w)
    (hv : ∀ slot v, (∀ i, (e i).slot? config (actor i) slot = some (v i)) → P v)
    (h : ∀ i, leafClause config d (actor i) opened (e i) = .ok (t i)) : Uniform P t := by
  cases o with
  | comparison op left right =>
    choose r hr hro using fun i => Expr.of_outline (ho i)
    obtain rfl : e = fun i => .comparison op left (r i) := funext hr
    obtain ⟨c, -, h⟩ := exists_of_bind h
    choose u hu hc using fun i => Result.bind_eq_ok.1 (h i)
    obtain rfl : (fun i => compareClause op c (u i)) = t := funext fun i => Except.ok.inj (hc i)
    exact compareClause_uniform op (termOf_varies hro hu (hv .operand))
  | inArray path values =>
    choose vs hvs hvo using fun i => Expr.of_outline (ho i)
    obtain rfl : e = fun i => .inArray path (vs i) := funext hvs
    obtain ⟨c, -, h⟩ := exists_of_bind h
    obtain rfl : (fun i => oneOfClause c (vs i)) = t := funext fun i => Except.ok.inj (h i)
    exact oneOfClause_uniform hvo (hv .items _ fun _ => rfl)
  | nullCheck test path =>
    obtain rfl : e = fun _ => .nullCheck test path := funext fun i => Expr.of_outline (ho i)
    exact uniform_of_const h
  | textMatch test path text =>
    choose s hs using fun i => Expr.of_outline (ho i)
    obtain rfl : e = fun i => .textMatch test path (s i) := funext hs
    obtain ⟨c, -, h⟩ := exists_of_bind h
    obtain rfl : (fun i => Clause.conj [.isNotNull c, .affix test c (s i)]) = t :=
      funext fun i => Except.ok.inj (h i)
    exact guarded_uniform (.affix test c (hv .text _ fun _ => rfl))
  | between path min max =>
    choose low high hb hlo hho using fun i => Expr.of_outline (ho i)
    obtain rfl : e = fun i => .between path (low i) (high i) := funext hb
    obtain ⟨c, -, h⟩ := exists_of_bind h
    choose u hu h using fun i => Result.bind_eq_ok.1 (h i)
    choose w hw h using fun i => Result.bind_eq_ok.1 (h i)
    obtain rfl : (fun i => Clause.conj [orderClause .gte c (u i), orderClause .lte c (w i)]) = t :=
      funext fun i => Except.ok.inj (h i)
    exact .conj (.cons (orderClause_uniform .gte (termOf_varies hlo hu (hv .min)))
      (.singleton (orderClause_uniform .lte (termOf_varies hho hw (hv .max)))))
  | «matches» path pattern flags =>
    obtain rfl : e = fun _ => .matches path pattern flags := funext fun i => Expr.of_outline (ho i)
    exact uniform_of_const h
  | tenantScoped path =>
    obtain rfl : e = fun _ => .tenantScoped path := funext fun i => Expr.of_outline (ho i)
    obtain ⟨c, -, h⟩ := exists_of_bind h
    choose v hvalue h using fun i => Result.bind_eq_ok.1 (h i)
    obtain rfl : (fun i => presentClause c (v i)) = t := funext fun i => Except.ok.inj (h i)
    obtain ⟨w, hw⟩ := htenant path rfl
    obtain ⟨i₀⟩ := ‹Nonempty ι›
    have hout : ∀ i, (v i).outline = (v i₀).outline := by
      intro i
      have hi := (hw i).trans (hw i₀).symm
      rw [hvalue i, hvalue i₀] at hi
      exact Except.ok.inj hi
    exact presentClause_uniform (.of_outline hout (hv .tenant _ fun i => by
      rw [Expr.slot?, hvalue i]
      rfl))
  | belongsToTenant a path =>
    choose b hb hbo using fun i => Expr.of_outline (ho i)
    obtain rfl : e = fun i => .belongsToTenant (b i) path := funext hb
    obtain ⟨c, -, h⟩ := exists_of_bind h
    obtain rfl : (fun i => presentClause c (b i).value) = t := funext fun i => Except.ok.inj (h i)
    exact presentClause_uniform (.of_outline hbo (hv .actorValue _ fun _ => rfl))
  | _ => cases hleaf

end

/-! ## Trees -/

/-- Lists that are related one by one to a list that does not vary consist of families. -/
theorem exists_families {α β : Type} {R : ι → α → β → Prop} {as : List α} : ∀ {bs : ι → List β},
    (∀ i, List.Forall₂ (R i) as (bs i)) → ∃ gs : List (ι → β), bs = (fun i => gs.map (· i)) ∧
      List.Forall₂ (fun a g => ∀ i, R i a (g i)) as gs := by
  induction as with
  | nil =>
    intro bs h
    exact ⟨[], funext fun i => List.forall₂_nil_left_iff.1 (h i), .nil⟩
  | cons a as ih =>
    intro bs h
    choose b rest hab hrest he using fun i => List.forall₂_cons_left_iff.1 (h i)
    obtain ⟨gs, rfl, hgs⟩ := ih hrest
    exact ⟨b :: gs, funext he, .cons hab hgs⟩

/-- The values of a family come from one source. -/
def Sourced (config : Config) (actor : ι → Value) (root : ι → Expr F) (v : ι → Value) : Prop :=
  ∃ s : Source, ∀ i, s.value? config (actor i) (root i) = some (v i)

section

variable [Nonempty ι] {config : Config} {d : Declarations} {actor : ι → Value}
  {root : ι → Expr Empty}

/-- **Trees of one outline** are compiled to a uniform family of clauses.  Each of them stands at
    the same address of the rule that it belongs to, which its values are then found at. -/
theorem Expr.clause_uniform (o : Expr Empty) : ∀ (opened : List String) (address : List Nat)
    (e : ι → Expr Empty) (t : ι → Clause), (∀ i, (e i).outline = o) →
    (∀ i, (root i).at? address = some (e i)) →
    (∀ path, .tenantScoped path ∈ o.preorder → ∃ w, ∀ i,
      (lookupTenant (actor i) path.column config.tenantNamespace).map Value.outline = w) →
    (∀ i, (e i).clause config d (actor i) opened = .ok (t i)) →
    Uniform (Sourced config actor root) t := by
  induction o using treeInduction with
  | literal value =>
    intro opened address e t ho _ _ ht
    obtain rfl : e = fun _ => .literal value := funext fun i => Expr.of_outline (ho i)
    exact uniform_of_const ht
  | leaf o hleaf =>
    intro opened address e t ho hat htenant ht
    have hl : ∀ i, (e i).isLeaf = true := fun i => by rw [← isLeaf_outline, ho i, hleaf]
    refine leafClause_uniform ho hleaf (fun path hp => htenant path ?_) (fun slot v hv => ?_)
      fun i => by rw [← clause_leaf (hl i), ht i]
    · rw [← hp, preorder_eq]
      exact List.mem_cons_self
    · refine ⟨.position address slot, fun i => ?_⟩
      rw [Source.value?, hat i]
      exact hv i
  | function fn => exact fn.elim
  | related kind table predicate minCount ih =>
    intro opened address e t ho hat htenant ht
    choose p hp hpo using fun i => Expr.of_outline (ho i)
    obtain rfl : e = fun i => .related kind table (p i) minCount := funext hp
    choose columns owner q hcolumns howner hq hc using fun i => clause_related_eq_ok.1 (ht i)
    obtain ⟨i₀⟩ := ‹Nonempty ι›
    have hown : ∀ i, owner i = owner i₀ := by
      intro i
      have hi := howner i
      rw [Except.ok.inj ((hcolumns i).symm.trans (hcolumns i₀)), howner i₀] at hi
      exact (Except.ok.inj hi).symm
    have hu := ih (opened ++ [table]) (address ++ [0]) p q hpo
      (fun i => at?_child (hat i) rfl)
      (fun path hm => htenant path (by rw [preorder]; exact List.mem_cons_of_mem _ hm)) hq
    obtain rfl : (fun i => rowsClause (owner i₀) (q i) minCount) = t :=
      funext fun i => by rw [← hc i, hown i]
    exact rowsClause_uniform _ _ hu
  | not x ih =>
    intro opened address e t ho hat htenant ht
    choose y hy hyo using fun i => Expr.of_outline (ho i)
    obtain rfl : e = fun i => .not (y i) := funext hy
    choose q hq hc using fun i => clause_not_eq_ok.1 (ht i)
    have hu := ih opened (address ++ [0]) y q hyo (fun i => at?_child (hat i) rfl)
      (fun path hm => htenant path (by rw [preorder]; exact List.mem_cons_of_mem _ hm)) hq
    obtain rfl : (fun i => (q i).negate) = t := funext hc
    exact hu.negate
  | junction kind rules ih =>
    intro opened address e t ho hat htenant ht
    choose es hes heso using fun i => Expr.of_outline (ho i)
    obtain rfl : e = fun i => .junction kind (es i) := funext hes
    -- The rules and their clauses, each as a list of families.
    have hrules : ∀ i, List.Forall₂ (fun o (e : Expr Empty) => e.outline = o) rules (es i) := by
      intro i
      rw [← heso i, List.forall₂_map_left_iff]
      exact List.forall₂_same.2 fun _ _ => rfl
    obtain ⟨fs, rfl, hfs⟩ := exists_families hrules
    choose cs hcs hc using fun i => clause_junction_eq_ok.1 (ht i)
    have hclauses : ∀ i, List.Forall₂ (fun (f : ι → Expr Empty) c =>
        (f i).clause config d (actor i) opened = .ok c) fs (cs i) :=
      fun i => List.forall₂_map_left_iff.1 (clauses_eq_ok.1 (hcs i))
    obtain ⟨gs, rfl, hgs⟩ := exists_families hclauses
    have hu : ∀ g ∈ gs, Uniform (Sourced config actor root) g := by
      intro g hg
      obtain ⟨k, hk, rfl⟩ := List.mem_iff_getElem.1 hg
      have hkf : k < fs.length := hgs.length_eq ▸ hk
      have hko : k < rules.length := hfs.length_eq ▸ hkf
      refine ih rules[k] (List.getElem_mem hko) opened (address ++ [k]) fs[k] gs[k]
        (hfs.get hko hkf) (fun i => at?_child (hat i) ?_) (fun path hm => htenant path ?_)
        (hgs.get hkf hk)
      · simp [children, hkf]
      · rw [preorder]
        exact List.mem_cons_of_mem _ (mem_preorderAll.2 ⟨_, List.getElem_mem hko, hm⟩)
    obtain rfl : (fun i => junctionClause kind (gs.map (· i))) = t := funext hc
    exact junctionClause_uniform ⟨gs, hu, rfl⟩

end

/-! ## Rules -/

/-- A text, with the names of its placeholders and where the values for them come from. -/
structure Form where
  text : String
  placeholders : List (String × Source)

/-- A text has a form if its bound values are those that come from the sources. -/
structure Form.Fits (config : Config) (actor : Value) (e : Expr F) (f : Form) (s : Statement) :
    Prop where
  text : s.text = f.text
  bound : List.Forall₂ (fun b p => b.1 = p.1 ∧ p.2.value? config actor e = some b.2)
    s.bound f.placeholders

/-- Statements of a uniform family have a common form. -/
theorem Sql.Statement.Uniform.exists_form {config : Config} {actor : ι → Value} {root : ι → Expr F}
    {s : ι → Statement} (h : Uniform (Sourced config actor root) s) :
    ∃ f : Form, ∀ i, f.Fits config (actor i) (root i) (s i) := by
  obtain ⟨text, bound, hb, hs⟩ := h
  obtain ⟨placeholders, hp⟩ := exists_forall₂
    (R := fun (b : String × (ι → Value)) (p : String × Source) =>
      b.1 = p.1 ∧ ∀ i, p.2.value? config (actor i) (root i) = some (b.2 i))
    fun b hm => by
      obtain ⟨source, hsource⟩ := hb b hm
      exact ⟨(b.1, source), rfl, hsource⟩
  refine ⟨⟨text, placeholders⟩, fun i => ⟨by rw [hs i], ?_⟩⟩
  rw [hs i, List.forall₂_map_left_iff]
  exact hp.imp fun b p h => ⟨h.1, h.2 i⟩

/-- **Values never reach the text of a filter.**  For all rules without functions that differ from
    a rule in values only, constants, actor values, texts and the tenant values of the actors they
    are compiled for, the filters are written with one text and the same placeholders, if they
    are written at all, and each placeholder is bound to the value at one position of the rule, or
    to a value that none of the rules has a say in. -/
theorem Rule.compile_form (config : Config) (d : Declarations) (e₀ : Expr Empty) (actor₀ : Value)
    (dialect : Dialect) :
    ∃ form : Result Form, ∀ e actor c, e₀.Alike config actor₀ e actor →
      ((Rule.expr e).compile config noFunctions d actor).result = .ok c →
        (∃ err, form = .error err ∧ c.statement dialect = .error err) ∨
        ∃ f s, form = .ok f ∧ c.statement dialect = .ok s ∧ f.Fits config actor e s := by
  let ι : Type := { v : Expr Empty × Value × Clause // e₀.Alike config actor₀ v.1 v.2.1 ∧
    ((Rule.expr v.1).compile config noFunctions d v.2.1).result = .ok v.2.2 }
  by_cases hι : Nonempty ι
  · have hclause : ∀ i : ι, i.1.1.clause config d i.1.2.1 [] = .ok i.1.2.2 := by
      rintro ⟨⟨e, actor, c⟩, -, hc⟩
      obtain ⟨t, ht, h⟩ := Rule.expansion_of_compile hc
      rw [Rule.expansion_expr] at ht
      cases ht
      exact h
    have huniform : Uniform (Sourced config (fun i : ι => i.1.2.1) fun i => i.1.1)
        fun i : ι => i.1.2.2 := by
      refine e₀.outline.clause_uniform [] [] (fun i => i.1.1) _ (fun i => i.2.1.outline)
        (fun _ => rfl) (fun path hm => ?_) hclause
      rw [Expr.preorder_outline] at hm
      obtain ⟨n, hn, hp⟩ := List.mem_map.1 hm
      obtain rfl : n = .tenantScoped path := Expr.of_outline hp
      exact ⟨_, fun i => i.2.1.tenant path (by rwa [Expr.walk_eq_preorder])⟩
    have hfixed : ∀ v, Sourced config (fun i : ι => i.1.2.1) (fun i => i.1.1) fun _ => v :=
      fun v => ⟨.fixed v, fun _ => rfl⟩
    rcases (huniform.statement hfixed dialect).error_or with ⟨err, he⟩ | ⟨s, hs, hok⟩
    · exact ⟨.error err, fun e actor c ha hc => .inl ⟨err, rfl, he ⟨(e, actor, c), ha, hc⟩⟩⟩
    · obtain ⟨f, hf⟩ := hs.exists_form
      exact ⟨.ok f, fun e actor c ha hc =>
        .inr ⟨f, _, rfl, hok ⟨(e, actor, c), ha, hc⟩, hf ⟨(e, actor, c), ha, hc⟩⟩⟩
  · exact ⟨.error .statementWithoutTables, fun e actor c ha hc =>
      absurd ⟨⟨(e, actor, c), ha, hc⟩⟩ hι⟩

/-- The items with a text in front, those with two likes by a user, and those of the actor. -/
def listedItems (text : String) (user : Int) : Expr Empty :=
  .junction .or
    [.textMatch .startsWith ⟨false, "item", "id"⟩ text,
     .related .count "likes" (.comparison .eq ⟨true, "likes", "user_id"⟩ (.scalar (.int user))) 2,
     .tenantScoped ⟨false, "item", "owner_id"⟩]

/-- A text with a wildcard and one that is nothing but a wildcard end up in the same place. -/
theorem Rule.compile_form_of_wildcards : ∃ (f : Form) (s s' : Statement),
    f.Fits {} (.dict [("owner_id", .int 7)]) (listedItems "a_b" 1) s ∧
    f.Fits {} (.dict [("owner_id", .int 8)]) (listedItems "%" 2) s' ∧
    s.bound = [("id_1", .str "a/_b"), ("user_id_1", .int 1), ("param_1", .int 2),
      ("owner_id_1", .int 7)] ∧
    s'.bound = [("id_1", .str "/%"), ("user_id_1", .int 2), ("param_1", .int 2),
      ("owner_id_1", .int 8)] := by
  obtain ⟨form, h⟩ := Rule.compile_form {} itemTables (listedItems "a_b" 1)
    (.dict [("owner_id", .int 7)]) .named
  have ha : (listedItems "a_b" 1).Alike {} (.dict [("owner_id", .int 7)]) (listedItems "%" 2)
      (.dict [("owner_id", .int 8)]) := by
    refine ⟨rfl, fun path hp => ?_⟩
    rw [Expr.walk_eq_preorder] at hp
    obtain rfl : path = ⟨false, "item", "owner_id"⟩ := by
      simpa [listedItems, Expr.preorder, Expr.preorderAll] using hp
    rfl
  rcases h _ _ _ ⟨rfl, fun _ _ => rfl⟩ rfl with ⟨err, -, he⟩ | ⟨f, s, rfl, hs, hf⟩
  · cases he
  · cases hs
    rcases h _ _ _ ha rfl with ⟨err, he, -⟩ | ⟨f', s', he, hs', hf'⟩
    · cases he
    · cases he
      cases hs'
      exact ⟨f, _, _, hf, hf', rfl, rfl⟩

end Clearance
