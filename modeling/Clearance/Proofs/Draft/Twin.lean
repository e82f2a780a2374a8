/-
  Two runs of the operators for two actors of one shape.

  Two actors are of one shape if they have the same fields, with scalars of the same types and
  with sequences whose items are of the same types.  What is made for one differs from what is
  made for the other in the data only, and each check of an argument comes out alike.  Errors
  differ in one place: where a column or a table is wanted, the error shows what stands there
  instead, and a captured value or an expression is shown with the data in it.

  * `Value.SameShape` is the relation between the actors;
  * `Expr.profile` is what the operators check of an expression;
  * `Argument.Twin` relates arguments of two runs, `Argument.Exposed` those that are shown with
    their data, and `Result.Twin` the outcomes of two steps; `Argument.Twin.captures` says that
    naming fields keeps arguments related, `Argument.Twin.path` and so on what the checks of an
    argument come to.
-/
import Clearance.Draft.Call
import Clearance.Proofs.Draft.Alike

namespace Clearance

variable {F α β γ δ : Type}

/-! ## Actors of one shape -/

/-- The items of two sequences are of the same types, one by one. -/
def Value.SameTypes (vs ws : List Value) : Prop := vs.map typeName = ws.map typeName

theorem Value.SameTypes.refl (vs : List Value) : SameTypes vs vs := rfl

/-- Two values are of one type; records have the same fields, and these are of one shape in turn,
    and the items of sequences are of the same types. -/
inductive Value.SameShape : Value → Value → Prop
  | scalar {s t : Scalar} : s.typeName = t.typeName → SameShape (.scalar s) (.scalar t)
  | bytes (bs cs : List UInt8) : SameShape (.bytes bs) (.bytes cs)
  | list {vs ws : List Value} : SameTypes vs ws → SameShape (.list vs) (.list ws)
  | tuple {vs ws : List Value} : SameTypes vs ws → SameShape (.tuple vs) (.tuple ws)
  | set {vs ws : List Value} : SameTypes vs ws → SameShape (.set vs) (.set ws)
  | dict {fs gs : List (String × Value)} :
      (∀ name, Option.Rel SameShape (fs.lookup name) (gs.lookup name)) →
      SameShape (.dict fs) (.dict gs)
  | record {fs gs : List (String × Value)} :
      (∀ name, Option.Rel SameShape (fs.lookup name) (gs.lookup name)) →
      SameShape (.record fs) (.record gs)

/-- The words for the types that are not types of scalars. -/
theorem Value.scalar?_isSome_iff (v : Value) : v.scalar?.isSome = true ↔
    v.typeName ∉ ["bytes", "list", "tuple", "set", "dict", "Record"] := by
  cases v with
  | scalar s => cases s <;> simp [scalar?, typeName, Scalar.typeName]
  | _ => simp [scalar?, typeName]

/-- The type of a value tells whether it is a scalar. -/
theorem Value.scalar?_isSome_congr {v w : Value} (h : v.typeName = w.typeName) :
    v.scalar?.isSome = w.scalar?.isSome := by
  rw [Bool.eq_iff_iff, scalar?_isSome_iff, scalar?_isSome_iff, h]

namespace Value.SameShape

variable {v w : Value}

theorem typeName (h : v.SameShape w) : v.typeName = w.typeName := by
  cases h with
  | scalar h => exact h
  | _ => rfl

/-- A record of the one shape is walked into where a record of the other is. -/
theorem isWalked (h : v.SameShape w) :
    (v.scalar?.isNone && v.isRecord) = (w.scalar?.isNone && w.isRecord) := by
  cases h <;> rfl

/-- Fields that are there for one are there for the other, with values of one shape. -/
theorem field? (h : v.SameShape w) (name : String) :
    Option.Rel SameShape (v.field? name) (w.field? name) := by
  cases h with
  | dict h => exact h name
  | record h => exact h name
  | _ => exact .none

/-- Fields of the same names, one by one, with values of one shape. -/
theorem of_fields {fs gs : List (String × Value)}
    (h : List.Forall₂ (fun f g => f.1 = g.1 ∧ f.2.SameShape g.2) fs gs) :
    SameShape (.dict fs) (.dict gs) := by
  refine .dict fun name => ?_
  induction h with
  | nil => exact .none
  | @cons f g _ _ hfg _ ih =>
    obtain ⟨key, x⟩ := f
    obtain ⟨_, y⟩ := g
    obtain ⟨rfl, hxy⟩ := hfg
    rw [List.lookup_cons, List.lookup_cons]
    cases name == key with
    | true => exact .some hxy
    | false => exact ih

end Value.SameShape

/-! ## What is checked of an expression -/

/-- What the operators check of a node: its shape, its paths and the table that it opens. -/
structure NodeProfile where
  className : String
  paths : List PathRef
  opened : List String

namespace Expr

/-- What the operators check of a node. -/
def nodeProfile (e : Expr F) : NodeProfile := ⟨e.className, e.nodePaths, e.opened []⟩

/-- What the operators check of a tree, node by node. -/
def profile (e : Expr F) : List NodeProfile := e.walk.map nodeProfile

theorem profile_eq (e : Expr F) : e.profile = e.nodeProfile :: e.children.flatMap profile := by
  have hall : ∀ es : List (Expr F), (preorderAll es).map nodeProfile = es.flatMap profile := by
    intro es
    induction es with
    | nil => rfl
    | cons e rest ih =>
      rw [preorderAll, List.map_append, ih, List.flatMap_cons, profile, walk_eq_preorder]
  rw [profile, walk_eq_preorder, preorder_eq, List.map_cons, hall]

theorem paths_eq_profile (e : Expr F) : e.paths = e.profile.flatMap NodeProfile.paths := by
  rw [paths, profile, List.flatMap_map]
  rfl

theorem relatedTables_eq_profile (e : Expr F) :
    e.relatedTables = e.profile.flatMap NodeProfile.opened := by
  rw [relatedTables, profile, List.flatMap_map]
  induction e.walk with
  | nil => rfl
  | cons n rest ih =>
    rw [List.filterMap_cons, List.flatMap_cons, ih]
    cases n <;> rfl

theorem hasFunction_eq_profile (e : Expr F) :
    e.hasFunction = e.profile.any fun n => n.className == "Function" := by
  rw [hasFunction, profile, List.any_map]
  congr 1
  funext n
  cases n <;> rfl

/-- The operators check two trees alike. -/
def SameProfile (e e' : Expr F) : Prop := e.profile = e'.profile

namespace SameProfile

theorem refl (e : Expr F) : e.SameProfile e := rfl

variable {e e' : Expr F}

theorem className (h : e.SameProfile e') : e.className = e'.className := by
  rw [SameProfile, profile_eq, profile_eq] at h
  exact congrArg NodeProfile.className (List.cons.inj h).1

theorem not (h : e.SameProfile e') : SameProfile (.not e) (.not e') := by
  rw [SameProfile, profile_eq, profile_eq, children, children, List.flatMap_singleton,
    List.flatMap_singleton, h]
  rfl

theorem related (h : e.SameProfile e') (kind : RelatedKind) (table : String) (minCount : Nat) :
    SameProfile (.related kind table e minCount) (.related kind table e' minCount) := by
  rw [SameProfile, profile_eq, profile_eq, children, children, List.flatMap_singleton,
    List.flatMap_singleton, h]
  rfl

theorem junction (kind : Junction) {es es' : List (Expr F)} (h : List.Forall₂ SameProfile es es') :
    SameProfile (.junction kind es) (.junction kind es') := by
  have hflat : es.flatMap profile = es'.flatMap profile := by
    induction h with
    | nil => rfl
    | cons he _ ih => rw [List.flatMap_cons, List.flatMap_cons, he, ih]
  rw [SameProfile, profile_eq, profile_eq, children, children, hflat]
  rfl

theorem isCorrelated (h : e.SameProfile e') (table : String) :
    Operator.isCorrelated table e = Operator.isCorrelated table e' := by
  rw [Operator.isCorrelated, Operator.isCorrelated, relatedTables_eq_profile, paths_eq_profile,
    relatedTables_eq_profile, paths_eq_profile, h]

theorem hasFunction (h : e.SameProfile e') : e.hasFunction = e'.hasFunction := by
  rw [hasFunction_eq_profile, hasFunction_eq_profile, h]

end SameProfile

end Expr

/-- Two operands hold the same path, or none. -/
def Operand.SamePath (o o' : Operand) : Prop := o.path? = o'.path?

theorem Operand.SamePath.refl (o : Operand) : o.SamePath o := rfl

/-! ## Two runs -/

/-- Two arguments that are shown with their data: values captured along one path, and
    expressions. -/
inductive Argument.Exposed : Argument F → Argument F → Prop
  | actorRef {v w : Value} (source : String) : v.SameShape w →
      Exposed (.actorRef ⟨v, source⟩) (.actorRef ⟨w, source⟩)
  | expr {e e' : Expr F} : e.SameProfile e' → Exposed (.rule (.expr e)) (.rule (.expr e'))

/-- Two arguments are the same, apart from the data of actors of one shape. -/
inductive Argument.Twin : Argument F → Argument F → Prop
  | same (a : Argument F) : Twin a a
  | actor {v w : Value} (source : String) : v.SameShape w →
      Twin (.actor ⟨v, source⟩) (.actor ⟨w, source⟩)
  | exposed {a b : Argument F} : a.Exposed b → Twin a b

/-- Two errors are the same, apart from what is shown where a column or a table is wanted. -/
inductive Error.Twin (F : Type) : Error → Error → Prop
  | same (e : Error) : Twin F e e
  | path {a b : Argument F} : a.Exposed b → Twin F (.notPath a.display) (.notPath b.display)
  | table (kind : Kind) {a b : Argument F} : a.Exposed b →
      Twin F (.notTable kind a.display) (.notTable kind b.display)

/-- Two steps both succeed, with results that are related, or fail with errors of one kind. -/
inductive Result.Twin (F : Type) (R : α → β → Prop) : Result α → Result β → Prop
  | ok {a : α} {b : β} : R a b → Twin F R (.ok a) (.ok b)
  | error {e e' : Error} : e.Twin F e' → Twin F R (.error e) (.error e')

namespace Result.Twin

variable {R : α → β → Prop} {S : γ → δ → Prop} {r : Result α} {r' : Result β}

theorem fails (e : Error) : Twin F R (.error e) (.error e) := .error (.same e)

theorem refl {R : α → α → Prop} (h : ∀ a, R a a) (r : Result α) : Twin F R r r := by
  cases r with
  | ok a => exact .ok (h a)
  | error e => exact fails e

theorem bind {f : α → Result γ} {f' : β → Result δ} (hr : Twin F R r r')
    (hf : ∀ a b, R a b → Twin F S (f a) (f' b)) : Twin F S (r >>= f) (r' >>= f') := by
  cases hr with
  | ok hab => exact hf _ _ hab
  | error he => exact .error he

theorem mapM {f : α → Result γ} {f' : β → Result δ} {as : List α} {bs : List β}
    (h : List.Forall₂ R as bs) (hf : ∀ a b, R a b → Twin F S (f a) (f' b)) :
    Twin F (List.Forall₂ S) (as.mapM f) (bs.mapM f') := by
  induction h with
  | nil => exact .ok .nil
  | cons hab _ ih =>
    rw [List.mapM_cons, List.mapM_cons]
    exact (hf _ _ hab).bind fun c d hcd => ih.bind fun cs ds hs => .ok (.cons hcd hs)

end Result.Twin

namespace Argument.Twin

variable {a b : Argument F}

theorem typeName (h : a.Twin b) : a.typeName = b.typeName := by
  cases h with
  | same => rfl
  | actor => rfl
  | exposed h =>
    cases h with
    | actorRef => rfl
    | expr h => exact h.className

theorem capture (h : a.Twin b) (name : String) :
    Result.Twin F Twin (a.capture name) (b.capture name) := by
  cases h with
  | same => exact .refl .same _
  | @actor v w source h =>
    simp only [Argument.capture]
    split
    · exact .fails _
    have hfield := h.field? name
    simp only [actorField]
    generalize v.field? name = x at hfield ⊢
    generalize w.field? name = y at hfield ⊢
    cases hfield with
    | none => exact .fails _
    | some hxy =>
      simp only [hxy.isWalked]
      split
      · exact .ok (.actor _ hxy)
      · exact .ok (.exposed (.actorRef _ hxy))
  | exposed h =>
    cases h with
    | actorRef => exact .fails _
    | expr h =>
      simp only [Argument.capture, Argument.typeName, Rule.typeName, h.className]
      exact .fails _

theorem captures (names : List String) : ∀ {a b : Argument F}, a.Twin b →
    Result.Twin F Twin (a.captures names) (b.captures names) := by
  induction names with
  | nil => exact fun h => .ok h
  | cons name rest ih => exact fun h => (h.capture name).bind fun _ _ hab => ih hab

theorem path (h : a.Twin b) : Result.Twin F (· = ·) a.path b.path := by
  cases h with
  | same => exact .refl (fun _ => rfl) _
  | actor => exact .fails _
  | exposed h =>
    have hshown : a.path = .error (.notPath a.display) ∧ b.path = .error (.notPath b.display) := by
      cases h <;> exact ⟨rfl, rfl⟩
    rw [hshown.1, hshown.2]
    exact .error (.path h)

theorem openTable (h : a.Twin b) (kind : RelatedKind) :
    Result.Twin F (· = ·) (Operator.openTable kind a) (Operator.openTable kind b) := by
  cases h with
  | same => exact .refl (fun _ => rfl) _
  | actor => exact .fails _
  | exposed h =>
    have hshown : Operator.openTable kind a = .error (.notTable kind.kind a.display) ∧
        Operator.openTable kind b = .error (.notTable kind.kind b.display) := by
      cases h <;> exact ⟨rfl, rfl⟩
    rw [hshown.1, hshown.2]
    exact .error (.table _ h)

/-- The values that two arguments stand for are the same or of one shape. -/
theorem held? (h : a.Twin b) : a.held? = b.held? ∨
    ∃ v w, a.held? = some v ∧ b.held? = some w ∧ v.SameShape w := by
  cases h with
  | same => exact .inl rfl
  | actor _ h => exact .inr ⟨_, _, rfl, rfl, h⟩
  | exposed h =>
    cases h with
    | actorRef _ h => exact .inr ⟨_, _, rfl, rfl, h⟩
    | expr => exact .inl rfl

/-- What two arguments have captured is the same or of one shape, and read along one path. -/
theorem captured? (h : a.Twin b) : a.captured? = b.captured? ∨
    ∃ v w source, a.captured? = some ⟨v, source⟩ ∧ b.captured? = some ⟨w, source⟩ ∧
      v.SameShape w := by
  cases h with
  | same => exact .inl rfl
  | actor source h => exact .inr ⟨_, _, source, rfl, rfl, h⟩
  | exposed h =>
    cases h with
    | actorRef source h => exact .inr ⟨_, _, source, rfl, rfl, h⟩
    | expr => exact .inl rfl

theorem asText (h : a.Twin b) (role : String) :
    Result.Twin F (· = ·) (Operator.asText a role) (Operator.asText b role) := by
  cases h with
  | same => exact .refl (fun _ => rfl) _
  | actor => exact .fails _
  | exposed h =>
    cases h with
    | actorRef => exact .fails _
    | expr h =>
      simp only [Operator.asText, Argument.typeName, Rule.typeName, h.className]
      exact .fails _

theorem asExpr (h : a.Twin b) :
    Result.Twin F Expr.SameProfile (Operator.asExpr a) (Operator.asExpr b) := by
  cases h with
  | same => exact .refl .refl _
  | actor => exact .fails _
  | exposed h =>
    cases h with
    | actorRef => exact .fails _
    | expr h => exact .ok h

theorem asScalar (h : a.Twin b) :
    Result.Twin F (· = ·) (Operator.asScalar a) (Operator.asScalar b) := by
  cases h with
  | same => exact .refl (fun _ => rfl) _
  | actor => exact .fails _
  | exposed h =>
    cases h with
    | actorRef => exact .fails _
    | expr h =>
      simp only [Operator.asScalar, Argument.typeName, Rule.typeName, h.className]
      exact .fails _

theorem asValue (h : a.Twin b) : Operator.asValue a = Operator.asValue b := by
  cases h with
  | same => rfl
  | actor => rfl
  | exposed h => cases h <;> rfl

theorem asPredicate (h : a.Twin b) (apply : F → Argument F → Result (Argument F))
    (row : Argument F) :
    Result.Twin F Twin (Operator.asPredicate apply row a) (Operator.asPredicate apply row b) := by
  cases h with
  | same => exact .refl .same _
  | actor => exact .fails _
  | exposed h =>
    cases h with
    | actorRef => exact .fails _
    | expr h => exact .ok (.exposed (.expr h))

end Argument.Twin

end Clearance
