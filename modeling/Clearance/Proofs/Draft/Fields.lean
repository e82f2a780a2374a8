/-
  Nodes built by hand of fields that were captured from two actors.

  * `Fields.path_eq_ok` and the like say when a field can be read as what a node needs;
  * `Fields.Alike`: fields of the same names that are the same, apart from arguments that are
    alike; each way to read a field gives the same of both;
  * `Shape.make_comparison_agree` and the like: one lemma for each shape of some length, and
    `Shape.make_agree`, which puts them together: the nodes built of them have one description.
-/
import Clearance.Proofs.Draft.Alike

namespace Clearance

/-! ## Reading fields -/

section

variable {F : Type} {fs : Fields F} {kind : Kind} {name role requirement : String}

theorem Fields.path_eq_ok {p : PathRef} :
    fs.path kind name role = .ok p ↔ fs.argument name = .pathRef p := by
  unfold Fields.path
  split <;> simp_all

theorem Fields.operand_eq_ok {o : Operand} :
    fs.operand kind name role = .ok o ↔ (fs.argument name).operand? = some o := by
  unfold Fields.operand
  split <;> simp_all

theorem Fields.text_eq_ok {s : String} :
    fs.text name requirement = .ok s ↔ fs.argument name = .value (.str s) := by
  unfold Fields.text
  split <;> simp_all

theorem Shape.tableField_eq_ok {table : String} :
    tableField fs kind = .ok table ↔ fs.argument "table" = .tableRef table := by
  unfold tableField
  split <;> simp_all

theorem Shape.exprField_eq_ok {e : Expr F} :
    exprField fs name requirement = .ok e ↔ expr? (fs.argument name) = some e := by
  unfold exprField
  split <;> simp_all

theorem Shape.tupleField_eq_ok {α : Type} {item? : Argument F → Option α} {items : List α} :
    tupleField fs name item? requirement = .ok items ↔
      ∃ as, fs.tuple? name = some as ∧ as.mapM item? = some items := by
  rw [tupleField, ← Option.bind_eq_some_iff]
  cases (fs.tuple? name).bind fun as => as.mapM item? <;> simp

end

/-! ## Fields that are alike -/

/-- Two fields are the same, apart from arguments that are alike. -/
inductive Field.Alike : Field Hatch → Field Hatch → Prop
  | kind (k : Kind) : Alike (.kind k) (.kind k)
  | one {a a' : Argument Hatch} : a.Alike a' → Alike (.one a) (.one a')
  | tuple {as as' : List (Argument Hatch)} : List.Forall₂ Argument.Alike as as' →
      Alike (.tuple as) (.tuple as')

/-- Fields of the same names that are alike. -/
def Fields.Alike (fs fs' : Fields Hatch) : Prop :=
  List.Forall₂ (fun f f' => f.1 = f'.1 ∧ f.2.Alike f'.2) fs fs'

namespace Argument.Alike

variable {a a' : Argument Hatch}

theorem eq_of_value {v v' : Value} (h : Alike (.value v) (.value v')) : v = v' := by
  cases h with
  | same => rfl
  | captured h _ _ => cases h
  | rule h => cases h; rfl

theorem operand? {o o' : Operand} (h : a.Alike a') (ho : a.operand? = some o)
    (ho' : a'.operand? = some o') : o.describe = o'.describe := by
  cases h with
  | same =>
    rw [ho] at ho'
    cases ho'
    rfl
  | captured h h' hs =>
    rcases captured?_eq_some.1 h with rfl | rfl
    · cases ho
    · rcases captured?_eq_some.1 h' with rfl | rfl
      · cases ho'
      · cases ho
        cases ho'
        exact hs
  | rule h =>
    cases h with
    | value v =>
      rw [ho] at ho'
      cases ho'
      rfl
    | _ => cases ho

theorem expr? {e e' : Expr Hatch} (h : a.Alike a') (he : Shape.expr? a = some e)
    (he' : Shape.expr? a' = some e') : e.SameText e' := by
  cases h with
  | same =>
    rw [he] at he'
    cases he'
    rfl
  | captured h _ _ => rcases captured?_eq_some.1 h with rfl | rfl <;> cases he
  | rule h =>
    cases h with
    | expr h =>
      cases he
      cases he'
      exact h
    | _ => cases he

theorem scalar? {x x' : Scalar} (h : a.Alike a') (hx : Shape.scalar? a = some x)
    (hx' : Shape.scalar? a' = some x') : x = x' := by
  cases h with
  | same =>
    rw [hx] at hx'
    exact Option.some.inj hx'
  | captured h _ _ => rcases captured?_eq_some.1 h with rfl | rfl <;> cases hx
  | rule h =>
    cases h with
    | value v =>
      rw [hx] at hx'
      exact Option.some.inj hx'
    | _ => cases hx

/-- Of two arguments that are alike, both are one value, or neither is a value. -/
theorem value_or (h : a.Alike a') : (∃ v, a = .value v ∧ a' = .value v) ∨
    ((∀ v, a ≠ .value v) ∧ ∀ v, a' ≠ .value v) := by
  have hc : ∀ {a : Argument Hatch} {ref : ActorRef}, a.captured? = some ref →
      ∀ v, a ≠ .value v := by
    rintro _ _ h v rfl
    cases h
  cases h with
  | captured h h' _ => exact .inr ⟨hc h, hc h'⟩
  | rule h =>
    cases h with
    | value v => exact .inl ⟨v, rfl, rfl⟩
    | _ => exact .inr ⟨nofun, nofun⟩
  | same =>
    by_cases hv : ∃ v, a = .value v
    · obtain ⟨v, rfl⟩ := hv
      exact .inl ⟨v, rfl, rfl⟩
    · exact .inr ⟨fun v h => hv ⟨v, h⟩, fun v h => hv ⟨v, h⟩⟩

/-- Of two arguments that are alike, both are functions of one name, or the first is none. -/
theorem function_or (h : a.Alike a') :
    (∃ fn fn' name, a = .rule (.function fn name) ∧ a' = .rule (.function fn' name)) ∨
      ∀ fn name, a ≠ .rule (.function fn name) := by
  cases h with
  | same =>
    by_cases hf : ∃ fn name, a = .rule (.function fn name)
    · obtain ⟨fn, name, rfl⟩ := hf
      exact .inl ⟨fn, fn, name, rfl, rfl⟩
    · exact .inr fun fn name h => hf ⟨fn, name, h⟩
  | captured h _ _ =>
    rcases captured?_eq_some.1 h with rfl | rfl <;> exact .inr nofun
  | rule h =>
    cases h with
    | function name _ => exact .inl ⟨_, _, name, rfl, rfl⟩
    | _ => exact .inr nofun

end Argument.Alike

/-- What partial functions give on related lists, item by item. -/
theorem forall₂_of_mapM {α β : Type} {R : α → α → Prop} {S : β → β → Prop} {f : α → Option β}
    (hf : ∀ a a' b b', R a a' → f a = some b → f a' = some b' → S b b')
    {as as' : List α} (h : List.Forall₂ R as as') :
    ∀ {bs bs' : List β}, as.mapM f = some bs → as'.mapM f = some bs' → List.Forall₂ S bs bs' := by
  induction h with
  | nil =>
    rintro _ _ ⟨⟩ ⟨⟩
    exact .nil
  | cons ha _ ih =>
    intro bs bs' hb hb'
    simp only [List.mapM_cons, Option.bind_eq_bind, Option.bind_eq_some_iff, Option.pure_def,
      Option.some.injEq] at hb hb'
    obtain ⟨b, hb, cs, hcs, rfl⟩ := hb
    obtain ⟨b', hb', cs', hcs', rfl⟩ := hb'
    exact .cons (hf _ _ _ _ ha hb hb') (ih hcs hcs')

namespace Fields.Alike

variable {fs fs' : Fields Hatch} (h : fs.Alike fs')
include h

theorem lookup (name : String) : (fs.lookup name = none ∧ fs'.lookup name = none) ∨
    ∃ f f', fs.lookup name = some f ∧ fs'.lookup name = some f' ∧ f.Alike f' := by
  induction h with
  | nil => exact .inl ⟨rfl, rfl⟩
  | @cons f f' fs fs' hf _ ih =>
    obtain ⟨key, f⟩ := f
    obtain ⟨key', f'⟩ := f'
    obtain ⟨rfl, hf⟩ := hf
    cases hk : name == key with
    | true => exact .inr ⟨f, f', by rw [List.lookup_cons, hk], by rw [List.lookup_cons, hk], hf⟩
    | false => simpa only [List.lookup_cons, hk] using ih

theorem argument (name : String) : (fs.argument name).Alike (fs'.argument name) := by
  unfold Fields.argument
  rcases h.lookup name with ⟨hn, hn'⟩ | ⟨f, f', hf, hf', ha⟩
  · rw [hn, hn']
    exact .same _
  · rw [hf, hf']
    cases ha with
    | one ha => exact ha
    | _ => exact .same _

theorem kind : fs.kind = fs'.kind := by
  unfold Fields.kind
  rcases h.lookup "kind" with ⟨hn, hn'⟩ | ⟨f, f', hf, hf', ha⟩
  · rw [hn, hn']
  · rw [hf, hf']
    cases ha <;> rfl

theorem has (name : String) : fs.has name = fs'.has name := by
  unfold Fields.has
  rcases h.lookup name with ⟨hn, hn'⟩ | ⟨f, f', hf, hf', -⟩
  · rw [hn, hn']
  · rw [hf, hf']
    rfl

theorem tuple? {name : String} {as as' : List (Argument Hatch)} (ha : fs.tuple? name = some as)
    (ha' : fs'.tuple? name = some as') : List.Forall₂ Argument.Alike as as' := by
  unfold Fields.tuple? at ha ha'
  rcases h.lookup name with ⟨hn, hn'⟩ | ⟨f, f', hf, hf', hl⟩
  · rw [hn] at ha
    cases ha
  · rw [hf] at ha
    rw [hf'] at ha'
    cases hl with
    | kind => cases ha
    | tuple hl =>
      cases ha
      cases ha'
      exact hl
    | one hl =>
      split at ha
      · cases ‹some _ = some (Field.tuple _)›
      · split at ha'
        · cases ‹some _ = some (Field.tuple _)›
        · rename_i vs hone _ vs' hone'
          cases hone
          cases hone'
          cases ha
          cases ha'
          cases hl.eq_of_value
          exact List.forall₂_same.2 fun a _ => .same a
        · cases ha'
      · cases ha

theorem path (kind : Kind) (name role : String) :
    Result.Agree (· = ·) (fs.path kind name role) (fs'.path kind name role) := by
  intro p p' hp hp'
  have ha := h.argument name
  rw [path_eq_ok.1 hp, path_eq_ok.1 hp'] at ha
  cases ha with
  | same => rfl
  | captured h _ _ => cases h

theorem operand (kind : Kind) (name role : String) :
    Result.Agree (fun o o' => o.describe = o'.describe) (fs.operand kind name role)
      (fs'.operand kind name role) :=
  fun _ _ ho ho' => (h.argument name).operand? (operand_eq_ok.1 ho) (operand_eq_ok.1 ho')

theorem text (name requirement : String) :
    Result.Agree (· = ·) (fs.text name requirement) (fs'.text name requirement) := by
  intro t t' ht ht'
  have ha := h.argument name
  rw [text_eq_ok.1 ht, text_eq_ok.1 ht'] at ha
  cases ha.eq_of_value
  rfl

theorem familyMember {α : Type} (member? : Kind → Option α) (family : String) :
    Result.Agree (· = ·) (Shape.familyMember fs member? family)
      (Shape.familyMember fs' member? family) := by
  unfold Shape.familyMember
  rw [h.kind]
  exact .refl (fun _ => rfl) _

theorem tableField (kind : Kind) :
    Result.Agree (· = ·) (Shape.tableField fs kind) (Shape.tableField fs' kind) := by
  intro t t' ht ht'
  have ha := h.argument "table"
  rw [Shape.tableField_eq_ok.1 ht, Shape.tableField_eq_ok.1 ht'] at ha
  cases ha with
  | same => rfl
  | captured h _ _ => cases h

theorem exprField (name requirement : String) :
    Result.Agree Expr.SameText (Shape.exprField fs name requirement)
      (Shape.exprField fs' name requirement) :=
  fun _ _ he he' =>
    (h.argument name).expr? (Shape.exprField_eq_ok.1 he) (Shape.exprField_eq_ok.1 he')

theorem tupleField {α : Type} {R : α → α → Prop} {item? : Argument Hatch → Option α}
    (hi : ∀ a a' x x', a.Alike a' → item? a = some x → item? a' = some x' → R x x')
    (name requirement : String) :
    Result.Agree (List.Forall₂ R) (Shape.tupleField fs name item? requirement)
      (Shape.tupleField fs' name item? requirement) := by
  intro xs xs' hx hx'
  obtain ⟨as, has, hx⟩ := Shape.tupleField_eq_ok.1 hx
  obtain ⟨as', has', hx'⟩ := Shape.tupleField_eq_ok.1 hx'
  exact forall₂_of_mapM hi (h.tuple? has has') hx hx'

end Fields.Alike

/-! ## Nodes -/

namespace Shape

section

variable {fs fs' : Fields Hatch} (h : fs.Alike fs')
include h

theorem make_comparison_agree :
    Result.Agree Expr.SameText (comparison.make fs) (comparison.make fs') := by
  refine (h.familyMember _ _).bind fun op _ hop => ?_
  subst hop
  refine (h.path _ _ _).bind fun p _ hp => (h.operand _ _ _).bind fun o o' ho => .ok ?_
  subst hp
  rw [Expr.SameText, Expr.describe, Expr.describe, ho]

/-- A test among constants makes no exception here: built by hand, it takes a tuple of scalars, which
    none of the actor is. -/
theorem make_inArray_agree : Result.Agree Expr.SameText (inArray.make fs) (inArray.make fs') := by
  refine (h.path _ _ _).bind fun p _ hp =>
    (h.tupleField (fun _ _ _ _ h => h.scalar?) _ _).bind fun xs xs' hxs => .ok ?_
  subst hp
  cases List.forall₂_eq_eq_eq ▸ hxs
  exact .refl _

theorem make_textMatch_agree :
    Result.Agree Expr.SameText (textMatch.make fs) (textMatch.make fs') := by
  refine (h.familyMember _ _).bind fun test _ ht => ?_
  subst ht
  refine (h.path _ _ _).bind fun p _ hp => (h.text _ _).bind fun t _ ht => .ok ?_
  subst hp ht
  exact .refl _

theorem make_between_agree : Result.Agree Expr.SameText (between.make fs) (between.make fs') := by
  refine (h.path _ _ _).bind fun p _ hp => (h.operand _ _ _).bind fun low low' hl =>
    (h.operand _ _ _).bind fun high high' hh => .ok ?_
  subst hp
  rw [Expr.SameText, Expr.describe, Expr.describe, hl, hh]

theorem make_matches_agree :
    Result.Agree Expr.SameText (Shape.matches.make fs) (Shape.matches.make fs') := by
  refine (h.path _ _ _).bind fun p _ hp => (h.text _ _).bind fun pattern _ hpat => ?_
  subst hp hpat
  rw [h.has]
  cases fs'.has "flags" with
  | true => exact (h.text _ _).bind fun letters _ hl => hl ▸ .refl .refl _
  | false => exact .refl .refl _

/-- Of a number of rows that is no value, nothing is shown. -/
theorem make_related_agree : Result.Agree Expr.SameText (related.make fs) (related.make fs') := by
  refine (h.familyMember _ _).bind fun kind _ hk => ?_
  subst hk
  refine (h.tableField _).bind fun t _ ht => (h.exprField _ _).bind fun e e' he => ?_
  subst ht
  have hcount : ∀ v, Result.Agree Expr.SameText
      (do return .related kind t e (← Operator.rowCount kind v))
      (do return .related kind t e' (← Operator.rowCount kind v)) := by
    refine fun v => (Result.Agree.refl (fun _ => rfl) (Operator.rowCount kind v)).bind
      fun n _ hn => .ok ?_
    subst hn
    rw [Expr.SameText, Expr.describe, Expr.describe, he]
  rw [h.has]
  cases fs'.has "min_count" with
  | false => exact hcount (.int 1)
  | true =>
    rcases (h.argument "min_count").value_or with ⟨v, ha, ha'⟩ | ⟨ha, ha'⟩
    · rw [ha, ha']
      exact hcount v
    · simp only [if_true]
      exact hcount .null

/-- Only a finished reference to an actor value is taken, and it is shown by its path. -/
theorem make_belongsToTenant_agree :
    Result.Agree Expr.SameText (belongsToTenant.make fs) (belongsToTenant.make fs') := by
  have ha := h.argument "actor_value"
  simp only [make]
  generalize fs.argument "actor_value" = a at ha ⊢
  generalize fs'.argument "actor_value" = a' at ha ⊢
  cases ha with
  | same =>
    split
    · refine (h.path _ _ _).bind fun p _ hp => .ok ?_
      subst hp
      exact .refl _
    · exact .error _ _
  | captured hc hc' hs =>
    rcases Argument.captured?_eq_some.1 hc with rfl | rfl
    · exact .error _ _
    · rcases Argument.captured?_eq_some.1 hc' with rfl | rfl
      · rintro _ _ _ ⟨⟩
      · cases hc
        cases hc'
        refine (h.path _ _ _).bind fun p _ hp => .ok ?_
        subst hp
        rw [Expr.SameText, Expr.describe, Expr.describe, hs]
  | rule => exact .error _ _

theorem make_junction_agree :
    Result.Agree Expr.SameText (junction.make fs) (junction.make fs') := by
  refine (h.familyMember _ _).bind fun kind _ hk => ?_
  subst hk
  rw [h.has]
  cases fs'.has "rules" with
  | true =>
    refine (h.tupleField (fun _ _ _ _ h => h.expr?) _ _).bind fun es es' he => .ok ?_
    rw [Expr.SameText, Expr.describe, Expr.describe, Operator.describeAll_eq he]
  | false => exact .refl .refl _

/-- A description that is no text is left out. -/
theorem make_function_agree :
    Result.Agree Expr.SameText (function.make fs) (function.make fs') := by
  rcases (h.argument "fn").function_or with ⟨fn, fn', name, hf, hf'⟩ | hf
  · simp only [make, hf, hf']
    refine .ok ?_
    rw [Expr.SameText, Expr.describe, Expr.describe]
    rcases (h.argument "description").value_or with ⟨v, ha, ha'⟩ | ⟨ha, ha'⟩
    · rw [ha, ha']
    · split
      · exact absurd ‹_› (ha _)
      · split
        · exact absurd ‹_› (ha' _)
        · rfl
  · simp only [make]
    exact .error _ _

end

/-- **Nodes of fields that are alike have one description.** -/
theorem make_agree (shape : Shape) {fs fs' : Fields Hatch} (h : fs.Alike fs') :
    Result.Agree Expr.SameText (shape.make fs) (shape.make fs') := by
  cases shape with
  | literal =>
    rcases (h.argument "value").value_or with ⟨v, ha, ha'⟩ | ⟨ha, ha'⟩
    · simp only [make, ha, ha']
      exact .refl .refl _
    · simp only [make]
      exact .refl .refl _
  | comparison => exact make_comparison_agree h
  | inArray => exact make_inArray_agree h
  | nullCheck =>
    refine (h.familyMember _ _).bind fun test _ ht => ?_
    subst ht
    refine (h.path _ _ _).bind fun p _ hp => .ok ?_
    subst hp
    exact .refl _
  | textMatch => exact make_textMatch_agree h
  | between => exact make_between_agree h
  | «matches» => exact make_matches_agree h
  | related => exact make_related_agree h
  | tenantScoped =>
    refine (h.path _ _ _).bind fun p _ hp => .ok ?_
    subst hp
    exact .refl _
  | belongsToTenant => exact make_belongsToTenant_agree h
  | not =>
    refine (h.exprField _ _).bind fun e e' he => .ok ?_
    rw [Expr.SameText, Expr.describe, Expr.describe, he]
  | junction => exact make_junction_agree h
  | function => exact make_function_agree h

end Shape

end Clearance
