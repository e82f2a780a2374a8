/-
  What operators make of arguments that were captured from two actors.

  A value of the actor is captured with the path that it was read from.  Two arguments are alike
  if they are the same but for what was captured, and that was read along the same path.  The
  operators make nodes of one description of arguments that are alike, with one exception: a test
  among constants takes the items of the value that it is given, and keeps no path to it.

  * `Result.Agree` relates what two steps give if both succeed;
  * `Argument.Alike` and `Rule.Alike` relate arguments and rules, and `Argument.Alike.captures` says
    that naming fields keeps arguments alike;
  * `compare_agree` and the like: the operators on arguments that are alike; `inArray_eq` and
    `belongsToTenant_eq` say what two of them take of an argument.
-/
import Clearance.Draft.Node
import Clearance.Draft.Program
import Clearance.Proofs.Decision.Outcome

namespace Clearance

variable {α β γ δ : Type}

/-! ## Steps that agree -/

/-- If both of two steps succeed, what they give is related. -/
def Result.Agree (R : α → β → Prop) (r : Result α) (r' : Result β) : Prop :=
  ∀ a a', r = .ok a → r' = .ok a' → R a a'

namespace Result.Agree

variable {R : α → β → Prop} {S : γ → δ → Prop} {r : Result α} {r' : Result β}

theorem ok {a : α} {b : β} (h : R a b) : Agree R (.ok a) (.ok b) := by
  rintro _ _ ⟨⟩ ⟨⟩
  exact h

theorem error (err : Error) (r' : Result β) : Agree R (.error err) r' := by
  rintro _ _ ⟨⟩

theorem of_eq {R : α → α → Prop} (h : ∀ a, R a a) {r r' : Result α} (hr : r = r') :
    Agree R r r' := by
  rintro a a' ha ha'
  cases ha.symm.trans (hr.trans ha')
  exact h a

theorem refl {R : α → α → Prop} (h : ∀ a, R a a) (r : Result α) : Agree R r r := .of_eq h rfl

theorem bind {f : α → Result γ} {f' : β → Result δ} (hr : Agree R r r')
    (hf : ∀ a b, R a b → Agree S (f a) (f' b)) : Agree S (r >>= f) (r' >>= f') := by
  intro c d hc hd
  obtain ⟨a, ha, hc⟩ := Result.bind_eq_ok.1 hc
  obtain ⟨b, hb, hd⟩ := Result.bind_eq_ok.1 hd
  exact hf a b (hr a b ha hb) c d hc hd

theorem mapM {f : α → Result γ} {f' : β → Result δ} {as : List α} {bs : List β}
    (h : List.Forall₂ R as bs) (hf : ∀ a b, R a b → Agree S (f a) (f' b)) :
    Agree (List.Forall₂ S) (as.mapM f) (bs.mapM f') := by
  induction h with
  | nil => exact .ok .nil
  | cons hab _ ih =>
    rw [List.mapM_cons, List.mapM_cons]
    exact (hf _ _ hab).bind fun c d hcd => ih.bind fun cs ds hs => .ok (.cons hcd hs)

end Result.Agree

/-! ## Arguments and rules that are alike -/

/-- Two trees have one description. -/
def Expr.SameText (e e' : Expr Hatch) : Prop := e.describe = e'.describe

theorem Expr.SameText.refl (e : Expr Hatch) : e.SameText e := rfl

/-- Two rules have one description, as expressions and as bare functions. -/
inductive Rule.Alike : Rule Hatch → Rule Hatch → Prop
  | expr {e e' : Expr Hatch} : e.SameText e' → Alike (.expr e) (.expr e')
  | function {fn fn' : Hatch} (name : String) : fn.name = fn'.name →
      Alike (.function fn name) (.function fn' name)
  | value (v : Value) : Alike (.value v) (.value v)

namespace Argument

variable {F : Type}

/-- What an argument has captured from the actor, if it has. -/
def captured? : Argument F → Option ActorRef
  | actor a | actorRef a => some a
  | _ => none

/-- The value that an argument stands for, if it stands for one. -/
def held? : Argument F → Option Value
  | actor a | actorRef a => some a.value
  | value v => some v
  | _ => none

/-- A field that is named is no method. -/
theorem capture_ne_method (a : Argument F) (name text : String) (b : Argument F) :
    a.capture name ≠ .ok (.method text b) := by
  intro h
  cases a with
  | subject | table =>
    rw [capture] at h
    split at h
    · cases h
    · obtain ⟨_, -, ⟨⟩⟩ := Result.bind_eq_ok.1 h
  | column =>
    rw [capture] at h
    split at h <;> cases h
  | actor =>
    rw [capture] at h
    split at h
    · cases h
    · unfold actorField at h
      dsimp only at h
      split at h
      · cases h
      · split at h <;> cases h
  | rule r =>
    cases r with
    | value v =>
      cases v with
      | record fields =>
        rw [capture] at h
        split at h <;> cases h
      | _ => cases h
    | _ => cases h
  | _ => cases h

/-- Only what an argument has of its own can be called. -/
theorem invoke_ne_ok {a b : Argument F} {name : String} (h : a.attributes.lookup name = none) :
    a.invoke name ≠ .ok b := by
  intro hb
  obtain ⟨m, hm, hb⟩ := Result.bind_eq_ok.1 hb
  rw [access, h] at hm
  split at hb
  · exact capture_ne_method a name _ _ hm
  · cases hb

/-- Two arguments are the same, apart from what was captured from the actor along the same path
    and from what was put into rules of one description. -/
inductive Alike : Argument Hatch → Argument Hatch → Prop
  | same (a : Argument Hatch) : Alike a a
  | captured {a a' : Argument Hatch} {ref ref' : ActorRef} : a.captured? = some ref →
      a'.captured? = some ref' → ref.source = ref'.source → Alike a a'
  | rule {r r' : Rule Hatch} : r.Alike r' → Alike (.rule r) (.rule r')

theorem captured?_eq_some {a : Argument F} {ref : ActorRef} :
    a.captured? = some ref ↔ a = .actor ref ∨ a = .actorRef ref := by
  cases a <;> simp [captured?]

namespace Alike

variable {a a' : Argument Hatch}

/-- Of two arguments that are alike, both or none are captured from the actor. -/
theorem captured_or (h : a.Alike a') : (a.captured? = none ∧ a'.captured? = none) ∨
    ∃ ref ref', a.captured? = some ref ∧ a'.captured? = some ref' ∧ ref.source = ref'.source := by
  cases h with
  | same =>
    cases ha : a.captured? with
    | none => exact .inl ⟨rfl, rfl⟩
    | some ref => exact .inr ⟨ref, ref, rfl, rfl, rfl⟩
  | captured h h' hs => exact .inr ⟨_, _, h, h', hs⟩
  | rule => exact .inl ⟨rfl, rfl⟩

theorem path (h : a.Alike a') : Result.Agree (· = ·) a.path a'.path := by
  cases h with
  | same => exact .refl (fun _ => rfl) _
  | captured h _ _ => rcases captured?_eq_some.1 h with rfl | rfl <;> exact .error _ _
  | @rule r r' h =>
    cases h with
    | value v => exact .refl (fun _ => rfl) _
    | _ => exact .error _ _

theorem openTable (h : a.Alike a') (kind : RelatedKind) :
    Result.Agree (· = ·) (Operator.openTable kind a) (Operator.openTable kind a') := by
  cases h with
  | same => exact .refl (fun _ => rfl) _
  | captured h _ _ => rcases captured?_eq_some.1 h with rfl | rfl <;> exact .error _ _
  | @rule r r' h => exact .error _ _

/-- A field of what was captured along the same path is captured along the same path. -/
theorem actorField_agree {ref ref' : ActorRef} (h : ref.source = ref'.source) (name : String) :
    Result.Agree Alike (actorField ref name) (actorField ref' name) := by
  have hc : ∀ (ref : ActorRef) (b : Argument Hatch), actorField ref name = .ok b →
      ∃ v, b.captured? = some ⟨v, ref.source ++ "." ++ name⟩ := by
    intro ref b hb
    unfold actorField at hb
    split at hb
    · cases hb
    · split at hb <;> cases hb <;> exact ⟨_, rfl⟩
  intro b b' hb hb'
  obtain ⟨v, hv⟩ := hc ref b hb
  obtain ⟨v', hv'⟩ := hc ref' b' hb'
  exact .captured hv hv' (by rw [h])

theorem capture (h : a.Alike a') (name : String) :
    Result.Agree Alike (a.capture name) (a'.capture name) := by
  cases h with
  | same => exact .refl .same _
  | @captured _ _ ref ref' h h' hs =>
    rcases captured?_eq_some.1 h with rfl | rfl
    · rcases captured?_eq_some.1 h' with rfl | rfl
      · simp only [Argument.capture]
        split
        · exact .error _ _
        · exact actorField_agree hs name
      · rintro _ _ _ ⟨⟩
    · exact .error _ _
  | @rule r r' h =>
    cases h with
    | value v => exact .refl .same _
    | _ => exact .error _ _

/-- **Naming fields keeps arguments alike.** -/
theorem captures (names : List String) : ∀ {a a' : Argument Hatch}, a.Alike a' →
    Result.Agree Alike (a.captures names) (a'.captures names) := by
  induction names with
  | nil => exact fun h => .ok h
  | cons name rest ih => exact fun h => (h.capture name).bind fun b b' hb => ih hb

theorem asActor (h : a.Alike a') : a.asActor.Alike a'.asActor := by
  cases h with
  | same => exact .same _
  | @captured _ _ ref ref' h h' hs =>
    refine @Alike.captured _ _ ref ref' ?_ ?_ hs
    · rcases captured?_eq_some.1 h with rfl | rfl <;> rfl
    · rcases captured?_eq_some.1 h' with rfl | rfl <;> rfl
  | @rule r r' h =>
    cases h with
    | expr h => exact .rule (.expr h)
    | function name h => exact .rule (.function name h)
    | value v => exact .same _

/-- What is captured from the actor has no such method, so what has one is the same for both. -/
theorem asScoped (h : a.Alike a') : Result.Agree (· = ·) a.asScoped a'.asScoped := by
  cases h with
  | same => exact .refl (fun _ => rfl) _
  | captured h h' hs =>
    have hown : a.attributes.lookup "scoped" = none := by
      rcases captured?_eq_some.1 h with rfl | rfl <;> rfl
    exact fun b _ hb => absurd hb (invoke_ne_ok hown)
  | rule h => exact fun b _ hb => absurd hb (invoke_ne_ok rfl)

end Alike

end Argument

/-! ## Operators -/

theorem Rule.Alike.toExpr {r r' : Rule Hatch} (h : r.Alike r') :
    Result.Agree Expr.SameText r.toExpr r'.toExpr := by
  cases h with
  | expr h => exact .ok h
  | function name _ => exact .ok rfl
  | value v => exact .refl .refl _

theorem Rule.Alike.describe {r r' : Rule Hatch} (h : r.Alike r') : r.describe = r'.describe := by
  cases h with
  | expr he => exact congrArg Except.ok he
  | function => rfl
  | value => rfl

namespace Operator

open Argument (Alike)

variable {a a' path path' : Argument Hatch}

theorem operand_agree (h : a.Alike a') (role : String) :
    Result.Agree (fun o o' => o.describe = o'.describe) (operand a role) (operand a' role) := by
  have hc : ∀ {a : Argument Hatch} {ref : ActorRef} {o : Operand}, a.captured? = some ref →
      operand a role = .ok o → o.describe = ref.source := by
    intro a ref o ha ho
    obtain ⟨v, source⟩ := ref
    have ho : (do return .actor (← scalarActor ⟨v, source⟩ role)) = Except.ok o := by
      rcases Argument.captured?_eq_some.1 ha with rfl | rfl <;> exact ho
    obtain ⟨b, hb, ho⟩ := Result.bind_eq_ok.1 ho
    cases ho
    cases v <;> cases hb
    rfl
  have hrefl : ∀ r : Result Operand, Result.Agree (fun o o' => o.describe = o'.describe) r r := by
    intro r o o' ho ho'
    cases ho.symm.trans ho'
    rfl
  cases h with
  | same => exact hrefl _
  | captured h h' hs =>
    intro o o' ho ho'
    rw [hc h ho, hc h' ho', hs]
  | rule h =>
    cases h with
    | value v => exact hrefl _
    | _ => exact .error _ _

theorem compare_agree (op : CompareOp) (hp : path.Alike path') (ha : a.Alike a') :
    Result.Agree Expr.SameText (compare op path a) (compare op path' a') := by
  refine hp.path.bind fun p _ hp => (operand_agree ha _).bind fun o o' ho => .ok ?_
  subst hp
  rw [Expr.SameText, Expr.describe, Expr.describe, ho]

theorem between_agree {b b' : Argument Hatch} (hp : path.Alike path') (ha : a.Alike a')
    (hb : b.Alike b') : Result.Agree Expr.SameText (between path a b) (between path' a' b') := by
  refine hp.path.bind fun p _ hp => (operand_agree ha _).bind fun low low' hl =>
    (operand_agree hb _).bind fun high high' hh => .ok ?_
  subst hp
  rw [Expr.SameText, Expr.describe, Expr.describe, hl, hh]

/-- A test among constants takes the items of the value that an argument stands for. -/
theorem inArray_eq {F : Type} (path a : Argument F) : inArray path a = (do
    let vs ← a.held?.elim (.error (.notSequence a.typeName)) items
    let constants ← scalars vs
    return .inArray (← path.path) constants) := by
  cases a with
  | rule r => cases r <;> rfl
  | _ => rfl

/-- A test against a tenant takes what an argument has captured from the actor. -/
theorem belongsToTenant_eq {F : Type} (a path : Argument F) : belongsToTenant a path = (do
    let ref ← a.captured?.elim (.error (.notActorValue a.typeName)) .ok
    let ref ← scalarActor ref "actor value"
    return .belongsToTenant ref (← path.path)) := by
  cases a <;> rfl

/-- A test of related rows is built of a predicate that is correlated. -/
theorem related_expr {F : Type} {table : String} {e : Expr F} (h : isCorrelated table e = true)
    (kind : RelatedKind) (n : Nat) :
    related kind table (.expr e) (.int n) = .ok (.related kind table e n) := by
  show (if isCorrelated table e then _ else _) = _
  rw [if_pos h]
  rfl

/-- A test among constants shows the items of what it is given, so these have to be the same. -/
theorem inArray_agree (hp : path.Alike path') (ha : a.held? = a'.held?) :
    Result.Agree Expr.SameText (inArray path a) (inArray path' a') := by
  rw [inArray_eq, inArray_eq, ha]
  cases a'.held? with
  | none => exact .error _ _
  | some v =>
    refine (Result.Agree.refl (fun _ => rfl) (items v)).bind fun vs _ hvs => ?_
    subst hvs
    refine (Result.Agree.refl (fun _ => rfl) (scalars vs)).bind fun constants _ hc => ?_
    subst hc
    refine hp.path.bind fun p _ hp => .ok ?_
    subst hp
    rfl

theorem nullCheck_agree (test : NullTest) (hp : path.Alike path') :
    Result.Agree Expr.SameText (nullCheck test path) (nullCheck test path') := by
  refine hp.path.bind fun p _ hp => .ok ?_
  subst hp
  rfl

theorem textMatch_agree (test : TextTest) (hp : path.Alike path') (v : Value) :
    Result.Agree Expr.SameText (textMatch test path v) (textMatch test path' v) := by
  refine hp.path.bind fun p _ hp => ?_
  subst hp
  exact .refl .refl _

theorem search_agree [CharacterNames] (hp : path.Alike path') (pattern flags : Value) :
    Result.Agree Expr.SameText (search path pattern flags) (search path' pattern flags) := by
  refine hp.path.bind fun p _ hp => ?_
  subst hp
  exact .refl .refl _

theorem tenantScoped_agree (hp : path.Alike path') :
    Result.Agree Expr.SameText (tenantScoped path) (tenantScoped path') := by
  refine hp.path.bind fun p _ hp => .ok ?_
  subst hp
  rfl

theorem belongsToTenant_agree (ha : a.Alike a') (hp : path.Alike path') :
    Result.Agree Expr.SameText (belongsToTenant a path) (belongsToTenant a' path') := by
  have hsource : ∀ {ref b : ActorRef}, scalarActor ref "actor value" = .ok b →
      b.source = ref.source := by
    rintro ⟨v, source⟩ b hb
    cases v <;> cases hb
    rfl
  rw [belongsToTenant_eq, belongsToTenant_eq]
  rcases ha.captured_or with ⟨h, -⟩ | ⟨ref, ref', h, h', hs⟩
  · rw [h]
    exact .error _ _
  · rw [h, h']
    have hscalar : Result.Agree (fun b b' => b.source = b'.source)
        (scalarActor ref "actor value") (scalarActor ref' "actor value") := by
      intro b b' hb hb'
      rw [hsource hb, hsource hb', hs]
    refine hscalar.bind fun b b' hb => hp.path.bind fun p _ hp => .ok ?_
    subst hp
    rw [Expr.SameText, Expr.describe, Expr.describe, hb]

theorem negation_agree {r r' : Rule Hatch} (h : r.Alike r') :
    Result.Agree Expr.SameText (negation r) (negation r') := by
  refine h.toExpr.bind fun e e' he => .ok ?_
  rw [Expr.SameText, Expr.describe, Expr.describe, he]

/-- Trees of the same descriptions, one by one. -/
theorem describeAll_eq {es es' : List (Expr Hatch)} (h : List.Forall₂ Expr.SameText es es') :
    Expr.describeAll es = Expr.describeAll es' := by
  induction h with
  | nil => rfl
  | cons he _ ih => rw [Expr.describeAll, Expr.describeAll, he, ih]

theorem junction_agree (kind : Junction) {rs rs' : List (Rule Hatch)}
    (h : List.Forall₂ Rule.Alike rs rs') :
    Result.Agree Expr.SameText (junction kind rs) (junction kind rs') := by
  refine (Result.Agree.mapM h fun r r' hr => hr.toExpr).bind fun es es' he => .ok ?_
  rw [Expr.SameText, Expr.describe, Expr.describe, describeAll_eq he]

/-- Whether a predicate is correlated is not read off its description, but both have to be. -/
theorem related_agree (kind : RelatedKind) (table : String) {r r' : Rule Hatch} (h : r.Alike r')
    (minCount : Value) : Result.Agree Expr.SameText (related kind table r minCount)
      (related kind table r' minCount) := by
  refine h.toExpr.bind fun e e' he => ?_
  intro x x' hx hx'
  split at hx
  · split at hx'
    · revert x x'
      refine (Result.Agree.refl (fun _ => rfl) (rowCount kind minCount)).bind fun n _ hn => .ok ?_
      subst hn
      rw [Expr.SameText, Expr.describe, Expr.describe, he]
    · cases hx'
  · cases hx

theorem function_agree {r r' : Rule Hatch} (h : r.Alike r') (description : String) :
    Result.Agree Expr.SameText (function r description) (function r' description) := by
  cases h with
  | function name _ => exact .ok rfl
  | _ => exact .error _ _

end Operator

end Clearance
