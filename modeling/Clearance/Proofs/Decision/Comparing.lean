/-
  What scalars come to in comparisons.

  Two scalars have an order if both are numbers, or both are of one other type and, if they are
  times, both or neither of them with an offset.  Scalars without an order are neither before nor
  behind each other.  Two sorts of numbers do not compare at all: a signaling not-a-number value
  is not even equal or unequal to a number, and where a decimal is involved nothing is ordered
  against a not-a-number value.

  * `Scalar.HasOrder`: two scalars have an order;
  * `Scalar.EqualityFails`, `Scalar.OrderFails`: two scalars cannot be told equal, or ordered, and
    `CompareOp.Fails` which of these a comparison needs;
  * `compareValues_eq_error`, `isBetween_eq_error` and `isIn_eq_error`: comparisons of scalars fail
    there and nowhere else;
  * `ordered_of_not_hasOrder`: scalars without an order are never ordered as asked.
-/
import Clearance.Decision.Evaluate

namespace Clearance

/-! ## Scalars that do not compare -/

namespace Scalar

/-- A scalar is a number of some kind. -/
def IsNumber (s : Scalar) : Prop := s.numeral?.isSome = true

/-- A scalar is a not-a-number value. -/
def isNan : Scalar → Bool
  | .float (.nan _) | .decimal (.nan _ _ _ _) => true
  | _ => false

/-- A scalar is a signaling not-a-number value. -/
def isSignaling : Scalar → Bool
  | .decimal (.nan _ signaling _ _) => signaling
  | _ => false

/-- Two scalars cannot be told equal or unequal. -/
def EqualityFails (a b : Scalar) : Prop :=
  a.IsNumber ∧ b.IsNumber ∧ (a.isSignaling = true ∨ b.isSignaling = true)

/-- Two scalars cannot be ordered, although both are numbers. -/
def OrderFails (a b : Scalar) : Prop :=
  a.IsNumber ∧ b.IsNumber ∧ (a.isDecimal = true ∨ b.isDecimal = true) ∧
    (a.isNan = true ∨ b.isNan = true)

/-- Two scalars are of types between which there is an order. -/
inductive HasOrder : Scalar → Scalar → Prop
  | numbers {a b} : a.IsNumber → b.IsNumber → HasOrder a b
  | texts (s t) : HasOrder (.str s) (.str t)
  | dates (d d') : HasOrder (.date d) (.date d')
  | datetimes {t t'} : t.time.offset.isSome = t'.time.offset.isSome →
      HasOrder (.datetime t) (.datetime t')
  | times {t t'} : t.offset.isSome = t'.offset.isSome → HasOrder (.time t) (.time t')
  | uuids (u u') : HasOrder (.uuid u) (.uuid u')

/-! ## Equality and order -/

theorem isNan_of_numeral {a : Scalar} {x : Numeral.Kind} (h : a.numeral? = some x) :
    a.isNan = x.isNan ∧ a.isSignaling = x.isSignaling := by
  unfold numeral? at h
  split at h
  case h_5 =>
    obtain ⟨y, -, rfl⟩ := Option.map_eq_some_iff.1 h
    rename_i hx _
    refine ⟨?_, rfl⟩
    unfold isNan
    split
    · rename_i heq
      cases heq
      exact absurd rfl (hx _)
    · rename_i heq
      cases heq
    · rfl
  all_goals cases h <;> exact ⟨rfl, rfl⟩

theorem equal_eq_error {a b : Scalar} {e : InvalidOperation} :
    a.equal b = .error e ↔ a.EqualityFails b := by
  unfold equal EqualityFails IsNumber
  cases hx : a.numeral? with
  | none => simp
  | some x =>
    cases hy : b.numeral? with
    | none => simp
    | some y =>
      cases e
      simp only [isNan_of_numeral hx, isNan_of_numeral hy, Option.isSome_some, true_and,
        ← Bool.or_eq_true]
      cases x.isSignaling || y.isSignaling <;> simp

theorem compare?_eq_error {a b : Scalar} {e : InvalidOperation} :
    a.compare? b = .error e ↔ a.OrderFails b := by
  unfold compare? OrderFails IsNumber
  cases hx : a.numeral? with
  | none => simp
  | some x =>
    cases hy : b.numeral? with
    | none => simp
    | some y =>
      cases e
      simp only [isNan_of_numeral hx, isNan_of_numeral hy, Option.isSome_some, true_and,
        ← Bool.or_eq_true, ← Bool.and_eq_true]
      cases (a.isDecimal || b.isDecimal) && (x.isNan || y.isNan) <;> simp

theorem compareClocks_eq_none {a b : Int} {o o' : Option Int} (h : o.isSome ≠ o'.isSome) :
    compareClocks a o b o' = none := by
  cases o <;> cases o' <;> first | rfl | exact absurd rfl h

/-- Scalars without an order do not compare. -/
theorem compare?_of_not_hasOrder {a b : Scalar} (h : ¬ a.HasOrder b) : a.compare? b = .ok none := by
  have hn : a.numeral? = none ∨ b.numeral? = none := by
    cases ha : a.numeral? with
    | none => exact .inl rfl
    | some x =>
      cases hb : b.numeral? with
      | none => exact .inr rfl
      | some y => exact absurd (.numbers (by simp [IsNumber, ha]) (by simp [IsNumber, hb])) h
  have hother : a.compare? b = .ok (compareOther? a b) := by
    unfold compare?
    rcases hn with hn | hn
    · rw [hn]
    · rw [hn]
      cases a.numeral? <;> rfl
  rw [hother]
  congr 1
  unfold compareOther?
  split
  · exact absurd (.texts _ _) h
  · exact absurd (.dates _ _) h
  · exact compareClocks_eq_none fun ho => h (.datetimes ho)
  · exact compareClocks_eq_none fun ho => h (.times ho)
  · exact absurd (.uuids _ _) h
  · rfl

theorem isNull_of_isNumber {s : Scalar} (h : s.IsNumber) : (Value.scalar s).isNull = false := by
  cases s <;> first | rfl | exact absurd h Bool.false_ne_true

end Scalar

/-! ## Comparisons of scalars -/

/-- Two scalars do not compare as asked. -/
def CompareOp.Fails : CompareOp → Scalar → Scalar → Prop
  | eq | neq => Scalar.EqualityFails
  | gt | lt | gte | lte => Scalar.OrderFails

/-- A comparison that asks for an order. -/
def CompareOp.IsOrder (op : CompareOp) : Prop := op ≠ eq ∧ op ≠ neq

section

variable {a b : Scalar} {e : InvalidOperation}

theorem ordered_eq_error (op : CompareOp) :
    ordered op (.scalar a) (.scalar b) = .error e ↔ a.OrderFails b := by
  unfold ordered
  split
  · rename_i hn
    refine iff_of_false nofun fun h => ?_
    rw [Scalar.isNull_of_isNumber h.1, Scalar.isNull_of_isNumber h.2.1] at hn
    exact Bool.false_ne_true hn
  · rw [← Scalar.compare?_eq_error (e := e), Value.compare?]
    cases a.compare? b <;> simp [bind, Except.bind, pure, Except.pure]

theorem compareValues_eq_error {op : CompareOp} :
    compareValues op (.scalar a) (.scalar b) = .error e ↔ op.Fails a b := by
  cases op with
  | eq => exact Scalar.equal_eq_error
  | neq =>
    show _ ↔ a.EqualityFails b
    rw [← Scalar.equal_eq_error (e := e), compareValues, Value.equal]
    cases a.equal b <;> simp [bind, Except.bind, pure, Except.pure]
  | gt | lt | gte | lte => exact ordered_eq_error _

theorem equalPresent_eq_error :
    equalPresent (.scalar a) (.scalar b) = .error e ↔ a.EqualityFails b := by
  unfold equalPresent
  split
  · rename_i hn
    refine iff_of_false nofun fun h => ?_
    rw [Scalar.isNull_of_isNumber h.1, Scalar.isNull_of_isNumber h.2.1] at hn
    exact Bool.false_ne_true hn
  · exact Scalar.equal_eq_error

/-- Nothing but a scalar is equal to a scalar. -/
theorem equalPresent_of_not_scalar {v : Value} (h : v.scalar? = none) :
    equalPresent v (.scalar b) = .ok false := by
  unfold equalPresent
  split
  · rfl
  · cases v with
    | scalar s => cases h
    | _ => rfl

/-- Scalars without an order are never ordered as asked. -/
theorem ordered_of_not_hasOrder (h : ¬ a.HasOrder b) (op : CompareOp) :
    ordered op (.scalar a) (.scalar b) = .ok false := by
  unfold ordered
  split
  · rfl
  · rw [Value.compare?, Scalar.compare?_of_not_hasOrder h]
    rfl

theorem isBetween_eq_error {low high : Scalar} :
    isBetween (.scalar a) (.scalar low) (.scalar high) = .error e ↔ a.OrderFails low ∨
      ordered .gte (.scalar a) (.scalar low) = .ok true ∧ a.OrderFails high := by
  rw [← ordered_eq_error .gte (e := e), ← ordered_eq_error .lte (e := e), isBetween]
  rcases ordered .gte (.scalar a) (.scalar low) with err | _ | _ <;>
    simp [bind, Except.bind, pure, Except.pure]

/-- A scalar is looked for from the first of some scalars on. -/
theorem isIn_cons (a s : Scalar) (rest : List Scalar) :
    (Value.scalar a).isIn (s :: rest) =
      if a.identical s then .ok true
      else match a.equal s with
        | .error e => .error e
        | .ok true => .ok true
        | .ok false => (Value.scalar a).isIn rest := by
  rw [Value.isIn]
  show (if a.identical s then _ else _) = _
  split
  · rfl
  · rw [Value.equal]
    rcases a.equal s with err | _ | _ <;> rfl

/-- Looking for a scalar among others fails where it comes to one that it does not compare with. -/
theorem isIn_eq_error {values : List Scalar} :
    (Value.scalar a).isIn values = .error e ↔ ∃ before s after, values = before ++ s :: after ∧
      (Value.scalar a).isIn before = .ok false ∧ a.identical s = false ∧ a.EqualityFails s := by
  constructor
  · intro h
    induction values with
    | nil => cases h
    | cons s rest ih =>
      rw [isIn_cons] at h
      split at h
      · cases h
      · rename_i hi
        split at h
        · rename_i heq
          exact ⟨[], s, rest, rfl, rfl, by simpa using hi, Scalar.equal_eq_error.1 heq⟩
        · cases h
        · rename_i heq
          obtain ⟨before, s', after, rfl, hb, hs⟩ := ih h
          refine ⟨s :: before, s', after, rfl, ?_, hs⟩
          rw [isIn_cons, if_neg hi, heq]
          exact hb
  · rintro ⟨before, s, after, rfl, hb, hi, hf⟩
    induction before with
    | nil =>
      rw [List.nil_append, isIn_cons, hi, Scalar.equal_eq_error.2 hf]
      rfl
    | cons s' before ih =>
      rw [isIn_cons] at hb
      rw [List.cons_append, isIn_cons]
      split at hb
      · cases hb
      · rename_i hi'
        rw [if_neg hi']
        split at hb
        · cases hb
        · cases hb
        · exact ih hb

end

end Clearance
