/-
  Equal rules and equal policies.

  Two rules are equal if they are built alike and their constants are equal as values, so equal
  rules may well hold different constants.  They decide alike where all data are exact: the columns
  that a rule reads, its constants, and the values of the actor that were captured into it.  The
  actor at hand may be anything, since it is looked up in the same way for both rules.

  * `Value.HasExactFields`: resources whose columns are exact, `Expr.IsExact`: rules whose values
    are;
  * `Expr.of_equal`: what equal rules look like;
  * `evaluateLeaf_of_equal` and `evaluateNode_of_equal`: equal rules decide alike, with the same
    record of it;
  * `Policy.equal_eq_true`: what equal policies look like;
  * `Policy.decides_of_equal`: equal rules and equal policies decide alike.
-/
import Clearance.Proofs.Agreement.Footprint
import Clearance.Proofs.Decision.Exact
import Clearance.Proofs.Filter.Guarded
import Clearance.Proofs.Limits.Deciding
import Clearance.Proofs.Policy.Extension
import Mathlib.Data.List.Perm.Subperm

namespace Clearance

variable {F : Type} {config : Config} {call : Meaning F} {actor resources : Value}
  {opened : List String}

/-! ## Resources -/

namespace Value

/-- A record whose fields are exact, or rows that are such records. -/
inductive IsExactTable : Value → Prop
  | intro {v : Value} (fields : ∀ name, ∃ s, v.field name = .scalar s ∧ s.IsExact)
      (rows : ∀ rows, v.rows? = some rows → ∀ row ∈ rows, IsExactTable row) : IsExactTable v

/-- Resources with tables whose fields are exact. -/
def HasExactFields (resources : Value) : Prop := ∀ table, (resources.field table).IsExactTable

theorem IsExactTable.of_fields {fields : List (String × Value)}
    (h : ∀ f ∈ fields, ∃ s, f.2 = .scalar s ∧ s.IsExact) :
    (Value.dict fields).IsExactTable ∧ (Value.record fields).IsExactTable := by
  have hfield : ∀ name, ∃ s, (fields.lookup name).getD .null = .scalar s ∧ s.IsExact := by
    intro name
    cases hl : fields.lookup name with
    | none => exact ⟨.null, rfl, .null⟩
    | some v => exact h _ (Keyed.mem_of_lookup hl)
  exact ⟨.intro hfield nofun, .intro hfield nofun⟩

theorem IsExactTable.of_rows {rows : List Value} (h : ∀ row ∈ rows, row.IsExactTable) :
    (Value.list rows).IsExactTable ∧ (Value.tuple rows).IsExactTable := by
  have hfield : ∃ s, Value.null = .scalar s ∧ s.IsExact := ⟨.null, rfl, .null⟩
  refine ⟨.intro (fun _ => hfield) ?_, .intro (fun _ => hfield) ?_⟩
  · rintro _ ⟨⟩
    exact h
  · rintro _ ⟨⟩
    exact h

/-- Records of exact fields, and sequences of them, make up such resources. -/
theorem HasExactFields.of_tables {tables : List (String × Value)}
    (h : ∀ t ∈ tables, t.2.IsExactTable) : (Value.dict tables).HasExactFields := by
  intro name
  show ((tables.lookup name).getD .null).IsExactTable
  cases hl : tables.lookup name with
  | none => exact .intro (fun _ => ⟨.null, rfl, .null⟩) nofun
  | some v => exact h _ (Keyed.mem_of_lookup hl)

/-- A table of such resources may be bound to one of its rows. -/
theorem HasExactFields.bindTable (h : resources.HasExactFields) {table : String} {row bound : Value}
    (hrow : row.IsExactTable) (hb : bindTable resources table row = .ok bound) :
    bound.HasExactFields := by
  cases resources with
  | dict tables =>
    cases hb
    intro name
    show (((Keyed.setKey table row tables).lookup name).getD .null).IsExactTable
    by_cases hn : name = table
    · subst hn
      rw [Keyed.lookup_setKey_self]
      exact hrow
    · rw [Keyed.lookup_setKey_of_ne hn]
      exact h name
  | _ => cases hb

end Value

theorem readPath_exact (h : resources.HasExactFields) (p : PathRef) :
    ∃ s, readPath resources p = .scalar s ∧ s.IsExact := by
  obtain ⟨hfields, -⟩ := h p.table
  unfold readPath
  dsimp only
  split
  · exact ⟨.null, rfl, .null⟩
  · exact hfields p.column

/-! ## Operands -/

theorem bind_resolvePath_congr {α : Type} (h : resources.HasExactFields) (p : PathRef)
    {f g : Value → Result α} (hfg : ∀ s : Scalar, s.IsExact → f (.scalar s) = g (.scalar s)) :
    (resolvePath resources opened p >>= f) = resolvePath resources opened p >>= g := by
  obtain ⟨s, hs, hexact⟩ := readPath_exact h p
  unfold resolvePath
  rw [hs]
  cases checkScope p opened with
  | error err => rfl
  | ok => exact hfg s hexact

theorem bind_resolveOperand_congr {α : Type} {o o' : Operand} (ho : ∀ v ∈ o.constant?, v.IsExact)
    (ho' : ∀ v ∈ o'.constant?, v.IsExact) (h : o.equal o' = .ok true) {f g : Value → Result α}
    (hfg : ∀ v w, Value.Indistinct v w → f v = g w) :
    (resolveOperand resources opened o >>= f) = resolveOperand resources opened o' >>= g := by
  unfold Operand.equal at h
  split at h
  · rename_i p q
    have hpq : p = q := by simpa using h
    subst hpq
    show (resolvePath resources opened p >>= f) = resolvePath resources opened p >>= g
    cases resolvePath resources opened p with
    | error err => rfl
    | ok v => exact hfg v v (.refl v)
  · exact hfg _ _ (Value.indistinct_of_equal (ho _ rfl) (ho' _ rfl) h)
  · exact hfg _ _ (Value.indistinct_of_equal (ho _ rfl) (ho' _ rfl) h)
  · cases h

/-! ## Tests -/

/-- One comparison and then another come to equality if both do. -/
theorem both_eq_true {first second : Except InvalidOperation Bool} :
    (do if ← first then second else .ok false) = .ok true ↔
      first = .ok true ∧ second = .ok true := by
  cases first with
  | error err => exact iff_of_false nofun nofun
  | ok b => cases b <;> simp [bind, Except.bind]

theorem guarded_eq_true {c : Prop} [Decidable c] {same : Except InvalidOperation Bool} :
    (if c then same else .ok false) = .ok true ↔ c ∧ same = .ok true := by
  split <;> simp_all

section

variable {s : Scalar} {v w low high low' high' : Value}

theorem ordered_congr (hs : s.IsExact) (h : Value.Indistinct v w) (op : CompareOp) :
    ordered op (.scalar s) v = ordered op (.scalar s) w := by
  rw [ordered, ordered, h.isNull, h.compare s hs]

theorem compareValues_congr (hs : s.IsExact) (h : Value.Indistinct v w) (op : CompareOp) :
    compareValues op (.scalar s) v = compareValues op (.scalar s) w := by
  cases op with
  | eq => exact h.equal_right s hs
  | neq => rw [compareValues, compareValues, h.equal_right s hs]
  | gt | lt | gte | lte => exact ordered_congr hs h _

theorem isBetween_congr (hs : s.IsExact) (hl : Value.Indistinct low low')
    (hh : Value.Indistinct high high') :
    isBetween (.scalar s) low high = isBetween (.scalar s) low' high' := by
  rw [isBetween, isBetween, ordered_congr hs hl, ordered_congr hs hh]

theorem equalPresent_congr (hs : s.IsExact) (h : Value.Indistinct v w) :
    equalPresent v (.scalar s) = equalPresent w (.scalar s) := by
  rw [equalPresent, equalPresent, h.isNull, h.equal_left s hs]

/-- Lists of exact constants that are equal hold constants that no test tells apart. -/
theorem indistinct_of_equalScalars {xs : List Scalar} (hx : ∀ x ∈ xs, Scalar.IsExact x) :
    ∀ {ys : List Scalar}, (∀ y ∈ ys, Scalar.IsExact y) → equalScalars xs ys = .ok true →
      List.Forall₂ (fun x y => Value.Indistinct (.scalar x) (.scalar y)) xs ys := by
  induction xs with
  | nil =>
    intro ys _ h
    cases ys with
    | nil => exact .nil
    | cons => cases h
  | cons x xs ih =>
    intro ys hy h
    cases ys with
    | nil => cases h
    | cons y ys =>
      obtain ⟨hx, hxs⟩ := List.forall_mem_cons.1 hx
      obtain ⟨hy, hys⟩ := List.forall_mem_cons.1 hy
      rw [equalScalars, hx.identical, if_neg Bool.false_ne_true] at h
      obtain ⟨hxy, h⟩ := both_eq_true.1 h
      refine .cons (Value.indistinct_of_equal (Value.isExact_scalar.2 hx)
        (Value.isExact_scalar.2 hy) ?_) (ih hxs hys h)
      rw [show (Value.scalar x).identical (.scalar y) = false from hx.identical y]
      exact hxy

theorem isIn_congr (hs : s.IsExact) {xs ys : List Scalar}
    (h : List.Forall₂ (fun x y => Value.Indistinct (.scalar x) (.scalar y)) xs ys) :
    (Value.scalar s).isIn xs = (Value.scalar s).isIn ys := by
  have hid : ∀ t, (Value.scalar s).identical (.scalar t) = false := hs.identical
  induction h with
  | nil => rfl
  | cons hxy _ ih => rw [Value.isIn, Value.isIn, hid, hid, hxy.equal_right s hs, ih]

end

/-! ## Rules -/

theorem map_eq_of_forall₂ {α β γ : Type} {R : α → β → Prop} {f : α → γ} {g : β → γ} {as : List α}
    {bs : List β} (h : List.Forall₂ R as bs) (hfg : ∀ a ∈ as, ∀ b ∈ bs, R a b → f a = g b) :
    as.map f = bs.map g := by
  induction h with
  | nil => rfl
  | cons hab _ ih =>
    rw [List.map_cons, List.map_cons, hfg _ List.mem_cons_self _ List.mem_cons_self hab,
      ih fun a ha b hb => hfg a (List.mem_cons_of_mem _ ha) b (List.mem_cons_of_mem _ hb)]

namespace Expr

/-- The values that a node holds: constants, and values captured from an actor. -/
def heldValues : Expr F → List Value
  | .comparison _ _ right => right.constant?.toList
  | .inArray _ values => values.map .scalar
  | .between _ min max => min.constant?.toList ++ max.constant?.toList
  | .belongsToTenant a _ => [a.value]
  | _ => []

/-- A rule whose values are exact. -/
def IsExact (e : Expr F) : Prop := ∀ n ∈ e.preorder, ∀ v ∈ n.heldValues, v.IsExact

theorem IsExact.heldValues {e : Expr F} (h : e.IsExact) : ∀ v ∈ e.heldValues, v.IsExact :=
  h e (by rw [preorder_eq]; exact List.mem_cons_self)

theorem IsExact.of_mem_children {e child : Expr F} (h : e.IsExact) (hc : child ∈ e.children) :
    child.IsExact := by
  intro n hn
  refine h n ?_
  rw [preorder_eq]
  exact List.mem_cons_of_mem _ (mem_preorderAll.2 ⟨child, hc, hn⟩)

variable [BEq F]

theorem equalAll_eq_true {as bs : List (Expr F)} (h : equalAll as bs = .ok true) :
    List.Forall₂ (fun a b => a.equal b = .ok true) as bs := by
  induction as generalizing bs with
  | nil =>
    cases bs with
    | nil => exact .nil
    | cons => cases h
  | cons a as ih =>
    cases bs with
    | nil => cases h
    | cons b bs =>
      rw [equalAll] at h
      obtain ⟨hab, h⟩ := both_eq_true.1 h
      exact .cons hab (ih h)

variable [LawfulBEq F]

/-- **Equal rules** are built alike, and their parts and values are equal. -/
theorem of_equal {a b : Expr F} (h : a.equal b = .ok true) :
    match a with
    | .comparison op left right => ∃ right', b = .comparison op left right' ∧
        right.equal right' = .ok true
    | .inArray path values => ∃ values', b = .inArray path values' ∧
        equalScalars values values' = .ok true
    | .between path min max => ∃ min' max', b = .between path min' max' ∧
        min.equal min' = .ok true ∧ max.equal max' = .ok true
    | .belongsToTenant ref path => ∃ ref', b = .belongsToTenant ref' path ∧
        ref.equal ref' = .ok true
    | .related kind table predicate minCount => ∃ predicate',
        b = .related kind table predicate' minCount ∧ predicate.equal predicate' = .ok true
    | .not e => ∃ e', b = .not e' ∧ e.equal e' = .ok true
    | .junction kind rules => ∃ rules', b = .junction kind rules' ∧
        equalAll rules rules' = .ok true
    | a => b = a := by
  rw [equal.eq_def] at h
  split at h
  all_goals simp_all [both_eq_true, guarded_eq_true, pure, Except.pure]

theorem isLeaf_of_equal {a b : Expr F} (h : a.equal b = .ok true) : b.isLeaf = a.isLeaf := by
  have hb := of_equal h
  cases a with
  | literal | nullCheck | textMatch | «matches» | tenantScoped | function => rw [hb]
  | comparison | inArray | belongsToTenant | related | not | junction =>
    obtain ⟨_, rfl, -⟩ := hb
    rfl
  | between =>
    obtain ⟨_, _, rfl, -⟩ := hb
    rfl

end Expr

theorem Policy.bool_of_isRule {v : Value} (h : isRule (.value v : Rule F) = true) :
    ∃ b, v = .bool b := by
  cases v with
  | scalar s =>
    cases s with
    | bool b => exact ⟨b, rfl⟩
    | _ => cases h
  | _ => cases h

section

variable [BEq F] [LawfulBEq F]

/-- **Equal tests come to the same** on exact columns. -/
theorem evaluateLeaf_of_equal [CharacterNames] (hr : resources.HasExactFields) {a b : Expr F}
    (ha : ∀ v ∈ a.heldValues, v.IsExact) (hb : ∀ v ∈ b.heldValues, v.IsExact)
    (h : a.equal b = .ok true) : evaluateLeaf config actor resources opened a =
      evaluateLeaf config actor resources opened b := by
  have heq := Expr.of_equal h
  cases a with
  | literal | nullCheck | textMatch | «matches» | tenantScoped | function => rw [heq]
  | related | not | junction =>
    obtain ⟨_, rfl, -⟩ := heq
    rfl
  | comparison op left right =>
    obtain ⟨right', rfl, hright⟩ := heq
    refine bind_resolvePath_congr hr left fun s hs => ?_
    refine bind_resolveOperand_congr (fun v hv => ha v ?_) (fun v hv => hb v ?_) hright
      fun v w hvw => congrArg Result.ofComparison (compareValues_congr hs hvw op)
    · exact Option.mem_toList.2 hv
    · exact Option.mem_toList.2 hv
  | inArray path values =>
    obtain ⟨values', rfl, hvalues⟩ := heq
    have hin := indistinct_of_equalScalars
      (fun s hs => Value.isExact_scalar.1 (ha _ (List.mem_map_of_mem hs)))
      (fun s hs => Value.isExact_scalar.1 (hb _ (List.mem_map_of_mem hs))) hvalues
    have hempty : values'.isEmpty = values.isEmpty := by
      cases hin <;> rfl
    rw [evaluateLeaf, evaluateLeaf, hempty]
    split
    · rfl
    · exact bind_resolvePath_congr hr path fun s hs =>
        congrArg Result.ofComparison (isIn_congr hs hin)
  | between path min max =>
    obtain ⟨min', max', rfl, hmin, hmax⟩ := heq
    have hmem : ∀ {o o' : Operand} {v}, v ∈ o.constant? ∨ v ∈ o'.constant? →
        v ∈ o.constant?.toList ++ o'.constant?.toList := by
      intro o o' v hv
      rwa [List.mem_append, Option.mem_toList, Option.mem_toList]
    refine bind_resolvePath_congr hr path fun s hs => ?_
    refine bind_resolveOperand_congr (fun v hv => ha v (hmem (.inl hv)))
      (fun v hv => hb v (hmem (.inl hv))) hmin fun low low' hlow => ?_
    refine bind_resolveOperand_congr (fun v hv => ha v (hmem (.inr hv)))
      (fun v hv => hb v (hmem (.inr hv))) hmax fun high high' hhigh => ?_
    exact congrArg Result.ofComparison (isBetween_congr hs hlow hhigh)
  | belongsToTenant ref path =>
    obtain ⟨ref', rfl, href⟩ := heq
    have hvw := Value.indistinct_of_equal (ha _ List.mem_cons_self) (hb _ List.mem_cons_self) href
    exact bind_resolvePath_congr hr path fun s hs =>
      congrArg Result.ofComparison (equalPresent_congr hs hvw)

/-- **Equal trees are decided alike** on exact resources, whatever is done at function nodes. -/
theorem evaluateNode_of_equal [CharacterNames]
    (onFunction : OnFunction F (Value → List String → Run F Bool)) {a : Expr F} :
    ∀ {b : Expr F}, a.IsExact → b.IsExact → a.equal b = .ok true →
    ∀ {resources}, resources.HasExactFields → ∀ opened,
      evaluateNode config actor onFunction resources opened a =
        evaluateNode config actor onFunction resources opened b := by
  induction a using Expr.treeInduction with
  | literal | function =>
    intro b _ _ h resources _ opened
    rw [Expr.of_equal h]
  | leaf a hleaf =>
    intro b ha hb h resources hr opened
    rw [evaluateNode_leaf hleaf, evaluateNode_leaf ((Expr.isLeaf_of_equal h).trans hleaf),
      evaluateLeaf_of_equal hr ha.heldValues hb.heldValues h]
  | related kind table predicate minCount ih =>
    intro b ha hb h resources hr opened
    obtain ⟨predicate', rfl, hp⟩ := Expr.of_equal h
    have ha' : predicate.IsExact := ha.of_mem_children List.mem_cons_self
    have hb' : predicate'.IsExact := hb.of_mem_children List.mem_cons_self
    obtain ⟨-, hrows⟩ := hr table
    rw [evaluateNode, evaluateNode]
    congr 1
    funext _
    split
    · rfl
    · cases hv : (resources.field table).rows? with
      | none => rfl
      | some rows =>
        refine countRows_congr (List.forall₂_same.2 fun row hrow => ?_) minCount
        cases hbind : bindTable resources table row with
        | error err => rfl
        | ok bound => exact ih ha' hb' hp (hr.bindTable (hrows rows hv row hrow) hbind) _
  | not a ih =>
    intro b ha hb h resources hr opened
    obtain ⟨b, rfl, hab⟩ := Expr.of_equal h
    have ha' : a.IsExact := ha.of_mem_children List.mem_cons_self
    have hb' : b.IsExact := hb.of_mem_children List.mem_cons_self
    rw [evaluateNode, evaluateNode, ih ha' hb' hab hr opened]
  | junction kind rules ih =>
    intro b ha hb h resources hr opened
    obtain ⟨rules', rfl, hrules⟩ := Expr.of_equal h
    rw [evaluateNode, evaluateNode, evaluateJunction_eq_shortCircuit,
      evaluateJunction_eq_shortCircuit, map_eq_of_forall₂ (Expr.equalAll_eq_true hrules) ?_]
    exact fun a hrule b hrule' hab => ih a hrule (ha.of_mem_children hrule)
      (hb.of_mem_children hrule') hab hr opened

theorem evaluateWithin_of_equal [CharacterNames] {a b : Expr F} (ha : a.IsExact) (hb : b.IsExact)
    (h : a.equal b = .ok true) (hr : resources.HasExactFields) (remaining : Nat) :
    evaluateWithin config call actor remaining resources opened a =
      evaluateWithin config call actor remaining resources opened b := by
  rw [evaluateWithin_eq]
  exact evaluateNode_of_equal _ ha hb h hr opened

/-! ## Policies -/

/-- A rule whose values are exact. -/
def Rule.IsExact : Rule F → Prop
  | .expr e => e.IsExact
  | _ => True

/-- Equal rules are decided alike, if they are not one function under two names. -/
theorem Rule.evaluate_of_equal [CharacterNames] {r r' : Rule F} (hrule : Policy.isRule r = true)
    (hrule' : Policy.isRule r' = true) (hexact : r.IsExact) (hexact' : r'.IsExact)
    (hname : ∀ f n n', r = .function f n → r' = .function f n' → n = n')
    (h : r.equal r' = .ok true) (hr : resources.HasExactFields) :
    r.evaluate config call actor resources = r'.evaluate config call actor resources := by
  unfold Rule.equal at h
  split at h
  · exact evaluateWithin_of_equal hexact hexact' h hr _
  · rename_i f n g n'
    have hfg : f = g := by simpa using h
    subst hfg
    rw [hname f n n' rfl rfl]
  · rename_i v w
    obtain ⟨b, rfl⟩ := Policy.bool_of_isRule hrule
    obtain ⟨b', rfl⟩ := Policy.bool_of_isRule hrule'
    cases b <;> cases b' <;> first | rfl | cases h
  · cases h

end

/-- Comparing one thing after another comes to equality if each of them does. -/
theorem foldlM_eq_true {α : Type} {f : Bool → α → Except InvalidOperation Bool}
    (hf : ∀ a, f false a = .ok false) (xs : List α) :
    xs.foldlM f true = .ok true ↔ ∀ a ∈ xs, f true a = .ok true := by
  have hfalse : ∀ xs : List α, xs.foldlM f false = .ok false := by
    intro xs
    induction xs with
    | nil => rfl
    | cons a xs ih =>
      rw [List.foldlM_cons, hf]
      exact ih
  induction xs with
  | nil => exact iff_of_true rfl nofun
  | cons a xs ih =>
    rw [List.foldlM_cons, List.forall_mem_cons]
    cases f true a with
    | error err => exact iff_of_false nofun fun h => nomatch h.1
    | ok b =>
      cases b with
      | true => exact ih.trans (and_iff_right rfl).symm
      | false =>
        refine iff_of_false (fun h => ?_) fun h => nomatch h.1
        cases (hfalse xs).symm.trans h

namespace Policy

/-- Policies are equal if they have one subject, equally many rules, and equal rules for the
    actions of the first one. -/
theorem equal_eq_true [BEq F] {p q : Policy F} : p.equal q = .ok true ↔
    (p.subject = q.subject ∧ p.actions.length = q.actions.length) ∧
      ∀ a ∈ p.actions, ∃ r, q.action? a.1 = some r ∧ a.2.equal r = .ok true := by
  rw [equal, guarded_eq_true, foldlM_eq_true fun _ => rfl]
  refine and_congr_right fun _ => forall₂_congr fun a _ => ?_
  cases q.action? a.1 with
  | none => simp [pure, Except.pure]
  | some r => simp

/-- Equal policies have the same actions. -/
theorem actions_perm_of_equal [BEq F] {p q : Policy F} (hp : p.Proper)
    (h : p.equal q = .ok true) : (p.actions.map Prod.fst).Perm (q.actions.map Prod.fst) := by
  obtain ⟨⟨-, hlength⟩, hall⟩ := equal_eq_true.1 h
  have hsub : p.actions.map Prod.fst ⊆ q.actions.map Prod.fst := by
    intro name hname
    obtain ⟨a, ha, rfl⟩ := List.mem_map.1 hname
    obtain ⟨r, hr, -⟩ := hall a ha
    exact List.mem_map.2 ⟨_, Keyed.mem_of_lookup hr, rfl⟩
  exact (hp.nodup.subperm hsub).perm_of_length_le (by simp [hlength])

variable [BEq F] [LawfulBEq F]

/-- **Equal rules and equal policies decide alike** on exact data, errors included, and with the
    same record of it: the nodes charged, the calls made and the decisions logged.  A bare function
    has to have one name in both of them. -/
theorem decides_of_equal [CharacterNames] (config : Config) (call : Meaning F) (actor : Value)
    (hr : resources.HasExactFields) :
    (∀ r r' : Rule F, isRule r = true → isRule r' = true → r.IsExact → r'.IsExact →
      (∀ f n n', r = .function f n → r' = .function f n' → n = n') → r.equal r' = .ok true →
      r.evaluate config call actor resources = r'.evaluate config call actor resources) ∧
    ∀ p q : Policy F, p.Proper → q.Proper → (∀ a ∈ p.actions, a.2.IsExact) →
      (∀ a ∈ q.actions, a.2.IsExact) →
      (∀ action f n n', p.action? action = some (.function f n) →
        q.action? action = some (.function f n') → n = n') →
      p.equal q = .ok true →
      ∀ action, p.decision config call action actor resources =
        q.decision config call action actor resources := by
  refine ⟨fun r r' hrule hrule' he he' hname h =>
    Rule.evaluate_of_equal hrule hrule' he he' hname h hr,
    fun p q hp hq hpe hqe hname h action => ?_⟩
  obtain ⟨⟨hsubject, -⟩, hall⟩ := equal_eq_true.1 h
  have hperm := actions_perm_of_equal hp h
  cases hpa : p.action? action with
  | none =>
    have hqa : q.action? action = none := by
      rw [action?_eq_none, ← hperm.mem_iff]
      exact action?_eq_none.1 hpa
    rw [decision_of_none hpa, decision_of_none hqa, hsubject, sortedNames_congr hperm]
  | some r =>
    have hmem := Keyed.mem_of_lookup hpa
    obtain ⟨r', hqa, hrr'⟩ := hall _ hmem
    have hmem' := Keyed.mem_of_lookup hqa
    have hsame : r.evaluate config call actor resources = r'.evaluate config call actor resources :=
      Rule.evaluate_of_equal (hp.rules _ hmem) (hq.rules _ hmem') (hpe _ hmem) (hqe _ hmem')
        (fun f n n' hf hf' => hname action f n n' (hf ▸ hpa) (hf' ▸ hqa)) hrr' hr
    rw [decision_of_action hpa, decision_of_action hqa, hsubject, hsame]

section

attribute [local instance] CharacterNames.empty

/-- True, one and `1.0` may be written for each other in the rules of a policy, and an actor value
    may have been read from anywhere. -/
theorem decides_of_equal_of_stars :
    let anyone : Meaning Unit := fun _ _ => .ok (.value (.bool true))
    let stars : PathRef := ⟨false, "note", "stars"⟩
    let author : PathRef := ⟨true, "likes", "by"⟩
    let rule : Expr Unit := .junction .and [.comparison .gte stars (.scalar (.bool true)),
      .related .exists "likes" (.comparison .eq author (.actor ⟨.int 1, "user.id"⟩)) 1]
    let one : Scalar := .decimal (.finite ⟨false, 10, -1⟩)
    let twin : Expr Unit := .junction .and [.comparison .gte stars (.scalar one),
      .related .exists "likes" (.comparison .eq author (.actor ⟨.bool true, "me"⟩)) 1]
    let mine : Policy Unit := ⟨"Note", [("read", .expr rule), ("share", .function () "anyone")]⟩
    let yours : Policy Unit := ⟨"Note", [("share", .function () "anyone"), ("read", .expr twin)]⟩
    let note : Value := .dict [("note", .dict [("stars", .int 1)]),
      ("likes", .list [.dict [("by", .int 1)]])]
    rule.equal twin = .ok true ∧ mine.equal yours = .ok true ∧
      (Rule.expr rule).evaluate {} anyone .null note =
        (Rule.expr twin).evaluate {} anyone .null note ∧
      mine.decision {} anyone "read" .null note = yours.decision {} anyone "read" .null note ∧
      (yours.decision {} anyone "read" .null note).result = .ok ⟨true, "Note", "read"⟩ := by
  intro anyone stars author rule one twin mine yours note
  have hone : ∃ s, Value.int 1 = .scalar s ∧ s.IsExact := ⟨_, rfl, .int 1⟩
  have hnote : note.HasExactFields := by
    refine Value.HasExactFields.of_tables ?_
    simp only [List.forall_mem_cons]
    exact ⟨(Value.IsExactTable.of_fields (by simpa using hone)).1,
      (Value.IsExactTable.of_rows fun row hrow => by
        rw [List.mem_singleton.1 hrow]
        exact (Value.IsExactTable.of_fields (by simpa using hone)).1).1, List.forall_mem_nil _⟩
  have hrule : rule.IsExact := by
    simp [rule, Expr.IsExact, Expr.preorder, Expr.preorderAll, Expr.heldValues,
      Operand.constant?, Value.isExact_scalar, Scalar.IsExact.bool, Scalar.IsExact.int]
  have htwin : twin.IsExact := by
    simp [twin, one, Expr.IsExact, Expr.preorder, Expr.preorderAll, Expr.heldValues,
      Operand.constant?, Value.isExact_scalar, Scalar.IsExact.bool, Scalar.IsExact.decimal]
  have hequal : rule.equal twin = .ok true := rfl
  have hpolicies : mine.equal yours = .ok true := rfl
  have hmine : mine.Proper := ⟨by decide, by decide, by simp [mine, isRule]⟩
  have hyours : yours.Proper := ⟨by decide, by decide, by simp [yours, isRule]⟩
  obtain ⟨hrules, hpolicy⟩ := decides_of_equal {} anyone .null hnote
  refine ⟨hequal, hpolicies, hrules (.expr rule) (.expr twin) rfl rfl hrule htwin ?_ hequal,
    hpolicy mine yours hmine hyours ?_ ?_ ?_ hpolicies "read", ?_⟩
  · rintro f n n' ⟨⟩
  · simpa [mine, Rule.IsExact] using hrule
  · simpa [yours, Rule.IsExact] using htwin
  · intro action f n n' h h'
    have hm := Keyed.mem_of_lookup h
    have hy := Keyed.mem_of_lookup h'
    simp only [mine, yours, List.mem_cons, Prod.mk.injEq, reduceCtorEq, and_false,
      Rule.function.injEq, List.not_mem_nil, or_false, false_or] at hm hy
    rw [hm.2.2, hy.2.2]
  · rfl

end

end Policy

end Clearance
