/-
  Exact data: null, truth values, integers, finite decimals and texts.

  Equality of exact data is looser than identity, since one number can be written in several ways:
  true, one and `1.0` are equal.  It is a congruence all the same: whatever is compared with one of
  two equal data compares alike with the other one.  This is so since finite numbers are ordered by
  their exact values, whatever they were written as; data of other types would not do, for decimals
  cannot be ordered against a not-a-number value, and all other numbers can.

  * `Finite.compare_congr`: equal numbers have the same order to any number;
  * `Scalar.IsExact`: the scalars that are exact; `Scalar.same_or_numbers` says which of them are
    equal;
  * `Value.Indistinct`: no comparison with an exact scalar tells two values apart;
    `Value.indistinct_of_equal`: equal ones are such.
-/
import Clearance.Proofs.Agreement.Shows
import Clearance.Proofs.Decision.Comparing

namespace Clearance

/-! ## Numbers -/

namespace Finite

variable {x y z : Finite}

/-- A coefficient is brought down to a smaller exponent in one step or in two. -/
theorem scaled_eq_mul (x : Finite) {e e' : Int} (h : e' ≤ e) (hx : e ≤ x.exponent) :
    x.scaled e' = x.scaled e * power 10 (e - e').toNat := by
  have hsum : (x.exponent - e').toNat = (x.exponent - e).toNat + (e - e').toNat := by omega
  rw [scaled, scaled, hsum, power_add, Nat.mul_assoc]

/-- It does not matter to which exponent two numbers are brought. -/
theorem compare_scaled {e e' : Int} (h : e' ≤ e) (hx : e ≤ x.exponent) (hz : e ≤ z.exponent) :
    Ord.compare (x.scaled e') (z.scaled e') = Ord.compare (x.scaled e) (z.scaled e) := by
  have hpos : 0 < power 10 (e - e').toNat := power_pos (by decide) _
  rw [x.scaled_eq_mul h hx, z.scaled_eq_mul h hz, Nat.compare_eq_ite_lt, Nat.compare_eq_ite_lt]
  simp only [Nat.mul_lt_mul_right hpos]

/-- Numbers of equal magnitude have the same magnitude relative to any number. -/
theorem compareMagnitude_congr (h : compareMagnitude x y = .eq) (z : Finite) :
    compareMagnitude x z = compareMagnitude y z := by
  unfold compareMagnitude at h
  by_cases hx : x.coefficient = 0
  · by_cases hy : y.coefficient = 0
    · rw [compareMagnitude, compareMagnitude, if_pos hx, if_pos hy]
    · rw [if_pos hx, if_neg hy] at h
      cases h
  by_cases hy : y.coefficient = 0
  · rw [if_neg hx, if_pos hy] at h
    cases h
  rw [if_neg hx, if_neg hy] at h
  split at h
  case h_2 hne => exact absurd h hne
  case h_1 hleading =>
    rw [compareMagnitude, compareMagnitude, if_neg hx, if_neg hy,
      Std.LawfulEqOrd.eq_of_compare hleading]
    -- all three numbers are brought to the least of their exponents
    have hcommon : ∀ e, e ≤ min x.exponent y.exponent → x.scaled e = y.scaled e := fun e he => by
      rw [x.scaled_eq_mul he (Int.min_le_left _ _), y.scaled_eq_mul he (Int.min_le_right _ _),
        Std.LawfulEqOrd.eq_of_compare h]
    let least := min (min x.exponent y.exponent) z.exponent
    have hscaled : Ord.compare (x.scaled (min x.exponent z.exponent))
          (z.scaled (min x.exponent z.exponent)) =
        Ord.compare (y.scaled (min y.exponent z.exponent))
          (z.scaled (min y.exponent z.exponent)) := by
      calc Ord.compare (x.scaled (min x.exponent z.exponent)) (z.scaled (min x.exponent z.exponent))
          = Ord.compare (x.scaled least) (z.scaled least) :=
            (compare_scaled (by omega) (by omega) (by omega)).symm
        _ = Ord.compare (y.scaled least) (z.scaled least) := by rw [hcommon least (by omega)]
        _ = _ := compare_scaled (by omega) (by omega) (by omega)
    rw [hscaled]

/-- **Equal numbers have the same order to any number.** -/
theorem compare_congr (h : x.compare y = .eq) (z : Finite) : x.compare z = y.compare z := by
  unfold compare at h ⊢
  generalize x.isBelowZero = a, y.isBelowZero = b at h ⊢
  match a, b with
  | false, false => cases z.isBelowZero with
    | false => exact compareMagnitude_congr h z
    | true => rfl
  | true, true => cases z.isBelowZero with
    | false => rfl
    | true =>
      have hxy : compareMagnitude x y = .eq := by
        rw [← compareMagnitude_swap y x, show compareMagnitude y x = .eq from h]
        rfl
      rw [← compareMagnitude_swap x z, ← compareMagnitude_swap y z, compareMagnitude_congr hxy z]
  | true, false | false, true => cases h

end Finite

/-! ## Scalars -/

namespace Scalar

variable {a b s : Scalar} {x y : Finite}

/-- A scalar of a type whose comparisons are exact. -/
inductive IsExact : Scalar → Prop
  | null : IsExact .null
  | bool (b : Bool) : IsExact (.bool b)
  | int (i : Int) : IsExact (.int i)
  | decimal (x : Finite) : IsExact (.decimal (.finite x))
  | str (s : String) : IsExact (.str s)

/-- An exact scalar that is a number is a finite one. -/
theorem IsExact.finite (h : s.IsExact) {k : Numeral.Kind} (hs : s.numeral? = some k) :
    ∃ x, k = .finite x := by
  cases h <;> cases hs <;> exact ⟨_, rfl⟩

theorem IsExact.identical (h : s.IsExact) (a : Scalar) : s.identical a = false := by
  cases h <;> rfl

/-- Exact scalars that are equal are the same, or equal numbers. -/
theorem same_or_numbers (ha : a.IsExact) (hb : b.IsExact) (h : a.equal b = .ok true) :
    a = b ∨ ∃ x y, a.numeral? = some (.finite x) ∧ b.numeral? = some (.finite y) ∧
      x.compare y = .eq := by
  unfold equal at h
  split at h
  · rename_i k l hk hl
    obtain ⟨x, rfl⟩ := ha.finite hk
    obtain ⟨y, rfl⟩ := hb.finite hl
    exact .inr ⟨x, y, hk, hl, by simpa [Numeral.Kind.isSignaling, Numeral.Kind.compare?] using h⟩
  · left
    cases ha <;> cases hb <;> simp_all [equalOther]

/-- A number is not compared as anything else. -/
theorem other_of_number {k : Numeral.Kind} (h : a.numeral? = some k) (s : Scalar) :
    equalOther s a = false ∧ equalOther a s = false ∧ compareOther? s a = none := by
  cases a <;> first | cases h; done | (cases s <;> exact ⟨rfl, rfl, rfl⟩)

/-- Equal numbers compare alike with an exact scalar. -/
theorem compare_numbers (hs : s.IsExact) (hx : a.numeral? = some (.finite x))
    (hy : b.numeral? = some (.finite y)) (h : x.compare y = .eq) :
    s.equal a = s.equal b ∧ a.equal s = b.equal s ∧ s.compare? a = s.compare? b := by
  obtain ⟨ha₁, ha₂, ha₃⟩ := other_of_number hx s
  obtain ⟨hb₁, hb₂, hb₃⟩ := other_of_number hy s
  unfold equal compare?
  rw [hx, hy]
  cases hk : s.numeral? with
  | none => simp only [ha₁, ha₂, ha₃, hb₁, hb₂, hb₃, and_self]
  | some k =>
    obtain ⟨z, rfl⟩ := hs.finite hk
    have hxz : x.compare z = y.compare z := Finite.compare_congr h z
    have hzx : z.compare x = z.compare y := by
      rw [← Finite.compare_swap x z, ← Finite.compare_swap y z, hxz]
    simp [Numeral.Kind.isSignaling, Numeral.Kind.isNan, Numeral.Kind.compare?, hxz, hzx]

end Scalar

/-! ## Values -/

namespace Value

variable {v w : Value}

/-- A value that is exact if it is a scalar; others are not looked into. -/
def IsExact (v : Value) : Prop := ∀ s, v = .scalar s → s.IsExact

theorem isExact_scalar {s : Scalar} : (Value.scalar s).IsExact ↔ s.IsExact :=
  ⟨fun h => h s rfl, by rintro h _ ⟨⟩; exact h⟩

/-- No comparison with an exact scalar tells two values apart. -/
structure Indistinct (v w : Value) : Prop where
  isNull : v.isNull = w.isNull
  equal_right : ∀ s : Scalar, s.IsExact → (Value.scalar s).equal v = (Value.scalar s).equal w
  equal_left : ∀ s : Scalar, s.IsExact → v.equal (.scalar s) = w.equal (.scalar s)
  compare : ∀ s : Scalar, s.IsExact → (Value.scalar s).compare? v = (Value.scalar s).compare? w

theorem Indistinct.refl (v : Value) : Indistinct v v := ⟨rfl, fun _ _ => rfl, fun _ _ => rfl,
  fun _ _ => rfl⟩

/-- A scalar is never equal to what is none, and there is no order between them. -/
theorem compare_container (hv : v.scalar? = none) (s : Scalar) :
    (Value.scalar s).equal v = .ok false ∧ v.equal (.scalar s) = .ok false ∧
      (Value.scalar s).compare? v = .ok none := by
  cases v with
  | scalar => cases hv
  | _ => exact ⟨rfl, rfl, rfl⟩

/-- **Exact values that are equal are told apart by no comparison with an exact scalar.** -/
theorem indistinct_of_equal (hv : v.IsExact) (hw : w.IsExact)
    (h : (if v.identical w then .ok true else v.equal w) = .ok true) : Indistinct v w := by
  cases v with
  | scalar a =>
    have ha : a.IsExact := isExact_scalar.1 hv
    cases w with
    | scalar b =>
      have hb : b.IsExact := isExact_scalar.1 hw
      have heq : a.equal b = .ok true := by
        rwa [show (Value.scalar a).identical (.scalar b) = false from ha.identical b] at h
      rcases Scalar.same_or_numbers ha hb heq with rfl | ⟨x, y, hx, hy, hxy⟩
      · exact .refl _
      · have ha : a.IsNumber := Option.isSome_iff_exists.2 ⟨_, hx⟩
        have hb : b.IsNumber := Option.isSome_iff_exists.2 ⟨_, hy⟩
        have hall := fun s hs => Scalar.compare_numbers (s := s) hs hx hy hxy
        exact ⟨(Scalar.isNull_of_isNumber ha).trans (Scalar.isNull_of_isNumber hb).symm,
          fun s hs => (hall s hs).1, fun s hs => (hall s hs).2.1, fun s hs => (hall s hs).2.2⟩
    | _ => cases h
  | _ =>
    cases w with
    | scalar => cases h
    | _ =>
      refine ⟨rfl, fun s _ => ?_, fun s _ => ?_, fun s _ => ?_⟩
      · exact (compare_container rfl s).1.trans (compare_container rfl s).1.symm
      · exact (compare_container rfl s).2.1.trans (compare_container rfl s).2.1.symm
      · exact (compare_container rfl s).2.2.trans (compare_container rfl s).2.2.symm

end Value

end Clearance
