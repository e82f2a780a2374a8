/-
  The outline of a rule: the rule without its values.

  Null and the truth values are part of the outline of a rule, since they decide what is made of
  it; all other constants, the actor values and the texts are left out.

  * `Expr.outline` is the outline of a tree; `Expr.of_outline` says what trees have an outline;
  * `Expr.at?` finds a node by its address: the places of the nodes on the way to it, each among
    the parts of the node before.
-/
import Clearance.Proofs.Rule.Expansion

namespace Clearance

variable {F : Type}

/-! ## Outlines -/

/-- Whether a value is null or a truth value. -/
def Value.isPlain : Value → Bool
  | .null | .bool _ => true
  | _ => false

/-- A value, if it is null or a truth value; all others have one outline. -/
def Value.outline (v : Value) : Value := if v.isPlain then v else .str ""

/-- A scalar, if it is null or a truth value; all others have one outline. -/
def Scalar.outline (s : Scalar) : Scalar := if (Value.scalar s).isPlain then s else .str ""

/-- The outline of an operand. -/
def Operand.outline : Operand → Operand
  | .path p => .path p
  | .actor a => .actor ⟨a.value.outline, ""⟩
  | .scalar s => .scalar s.outline

mutual

/-- The outline of a tree. -/
def Expr.outline : Expr F → Expr F
  | .comparison op left right => .comparison op left right.outline
  | .inArray path values => .inArray path (values.map Scalar.outline)
  | .textMatch test path _ => .textMatch test path ""
  | .between path min max => .between path min.outline max.outline
  | .belongsToTenant a path => .belongsToTenant ⟨a.value.outline, ""⟩ path
  | .related kind table predicate minCount => .related kind table predicate.outline minCount
  | .not e => .not e.outline
  | .junction kind rules => .junction kind (Expr.outlineAll rules)
  | .literal value => .literal value
  | .nullCheck test path => .nullCheck test path
  | .matches path pattern flags => .matches path pattern flags
  | .tenantScoped path => .tenantScoped path
  | .function fn description => .function fn description

/-- The outlines of some trees. -/
def Expr.outlineAll : List (Expr F) → List (Expr F)
  | [] => []
  | e :: rest => e.outline :: Expr.outlineAll rest

end

theorem Expr.outlineAll_eq (es : List (Expr F)) : outlineAll es = es.map outline := by
  induction es with
  | nil => rfl
  | cons e rest ih => rw [outlineAll, ih, List.map_cons]

/-- The trees of an outline: they are alike, and their parts and values have the parts and
    values of the outline as outlines. -/
theorem Expr.of_outline {e o : Expr F} (h : e.outline = o) :
    match o with
    | .comparison op left right => ∃ r, e = .comparison op left r ∧ r.outline = right
    | .inArray path values => ∃ vs, e = .inArray path vs ∧ vs.map Scalar.outline = values
    | .textMatch test path _ => ∃ text, e = .textMatch test path text
    | .between path min max =>
      ∃ low high, e = .between path low high ∧ low.outline = min ∧ high.outline = max
    | .belongsToTenant a path => ∃ b, e = .belongsToTenant b path ∧ b.value.outline = a.value
    | .related kind table predicate minCount =>
      ∃ p, e = .related kind table p minCount ∧ p.outline = predicate
    | .not x => ∃ y, e = .not y ∧ y.outline = x
    | .junction kind rules => ∃ es, e = .junction kind es ∧ es.map outline = rules
    | o => e = o := by
  subst h
  cases e <;> simp [outline, outlineAll_eq]

theorem Expr.isLeaf_outline (e : Expr F) : e.outline.isLeaf = e.isLeaf := by
  cases e <;> rfl

/-- The nodes of an outline are the outlines of the nodes. -/
theorem Expr.preorder_outline (e : Expr F) : e.outline.preorder = e.preorder.map outline := by
  have hall : ∀ rules : List (Expr F),
      (∀ e ∈ rules, e.outline.preorder = e.preorder.map outline) →
      preorderAll (rules.map outline) = (preorderAll rules).map outline := by
    intro rules h
    induction rules with
    | nil => rfl
    | cons e rest ih =>
      rw [List.map_cons, preorderAll, preorderAll, h e (by simp), ih fun e he => h e (by simp [he]),
        List.map_append]
  induction e using treeInduction with
  | literal | function => rfl
  | leaf e he => cases e <;> first | rfl | cases he
  | related kind table predicate minCount ih => simp [outline, preorder, ih]
  | not e ih => simp [outline, preorder, ih]
  | junction kind rules ih => simp [outline, preorder, outlineAll_eq, hall rules ih]

theorem Expr.mem_preorderAll {n : Expr F} {es : List (Expr F)} :
    n ∈ preorderAll es ↔ ∃ e ∈ es, n ∈ e.preorder := by
  induction es with
  | nil => simp [preorderAll]
  | cons e rest ih => simp [preorderAll, ih]

/-! ## Addresses -/

namespace Expr

/-- The node at an address. -/
def at? (e : Expr F) : List Nat → Option (Expr F)
  | [] => some e
  | i :: rest => e.children[i]?.bind (at? · rest)

theorem at?_append (address : List Nat) : ∀ (e : Expr F) (rest : List Nat),
    e.at? (address ++ rest) = (e.at? address).bind (at? · rest) := by
  induction address with
  | nil => exact fun e rest => rfl
  | cons i address ih =>
    intro e rest
    rw [List.cons_append, at?, at?]
    cases e.children[i]? with
    | none => rfl
    | some child => exact ih child rest

/-- The part of a node is at the address of the node and its place among the parts. -/
theorem at?_child {root e child : Expr F} {address : List Nat} {i : Nat}
    (h : root.at? address = some e) (hi : e.children[i]? = some child) :
    root.at? (address ++ [i]) = some child := by
  rw [at?_append, h, Option.bind_some, at?, hi]
  rfl

end Expr

end Clearance
