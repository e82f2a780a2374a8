/-
  Data of one type, in a database and as values.

  * `ColumnType.Holds`: the data that a column of a type holds, `ColumnType.Takes`: the values that
    it may be compared with;
  * `Shows t x v`: the datum `x` of type `t` stands for the value `v`;
  * `Shows.equal`, `Shows.compare`: data that stand for values are equal and ordered as the values
    are; `Shows.fit_value` and `fit_column`: nothing has to be adjusted for this.
-/
import Clearance.Proofs.Agreement.Scene
import Clearance.Proofs.Pattern.Affix

namespace Clearance

/-! ## Order of numbers -/

namespace Finite

theorem compareMagnitude_swap (x y : Finite) :
    (compareMagnitude x y).swap = compareMagnitude y x := by
  unfold compareMagnitude
  by_cases hx : x.coefficient = 0 <;> by_cases hy : y.coefficient = 0
  · rw [if_pos hx, if_pos hy, if_pos hy, if_pos hx]; rfl
  · rw [if_pos hx, if_neg hy, if_neg hy, if_pos hx]; rfl
  · rw [if_neg hx, if_pos hy, if_pos hy, if_neg hx]; rfl
  · rw [if_neg hx, if_neg hy, if_neg hy, if_neg hx, ← Int.compare_swap x.leading,
      Int.min_comm y.exponent]
    cases Ord.compare x.leading y.leading with
    | eq => exact Nat.compare_swap _ _
    | lt => rfl
    | gt => rfl

/-- Numbers the other way round are in the opposite order. -/
theorem compare_swap (x y : Finite) : (x.compare y).swap = y.compare x := by
  unfold compare
  cases x.isBelowZero <;> cases y.isBelowZero
  · exact compareMagnitude_swap x y
  · rfl
  · rfl
  · exact compareMagnitude_swap y x

end Finite

open Sql

namespace Sql

/-! ## Types -/

/-- The data that a column of a type holds. -/
def ColumnType.Holds : ColumnType → Datum → Prop
  | _, .null => True
  | .int, .integer _ => True
  | .bool, .integer i => i = 0 ∨ i = 1
  | .str, .text s => Text.NulFree s
  | _, _ => False

/-- The values that a column of a type may be compared with. -/
def ColumnType.Takes : ColumnType → Value → Prop
  | _, .null => True
  | .int, .int i => Datum.hasWordSize i = true
  | .bool, .bool _ => True
  | .str, .str s => Text.NulFree s
  | _, _ => False

/-- A datum of a type stands for a value. -/
inductive Shows : ColumnType → Datum → Value → Prop
  | null {t} : Shows t .null .null
  | int {i} : Shows .int (.integer i) (.int i)
  | bool {b} : Shows .bool (.integer (if b then 1 else 0)) (.bool b)
  | str {s} : Text.NulFree s → Shows .str (.text s) (.str s)

/-- What a column holds is read as the value that it stands for. -/
theorem ColumnType.Holds.shows {t : ColumnType} {x : Datum} (h : t.Holds x) :
    Shows t x (x.value (some t)) := by
  cases x with
  | null => exact .null
  | integer i =>
    cases t with
    | int => exact .int
    | bool =>
      rcases h with rfl | rfl
      · exact .bool (b := false)
      · exact .bool (b := true)
    | str => cases h
    | float => cases h
  | text s =>
    cases t with
    | str => exact .str h
    | _ => cases h
  | _ => cases t <;> cases h

theorem Datum.ofValueOrNull_int {i : Int} (h : hasWordSize i = true) :
    ofValueOrNull (.int i) = .integer i := by
  simp [ofValueOrNull, ofValue, ofScalar, h]

/-- What a column may be compared with is bound as what stands for it. -/
theorem ColumnType.Takes.shows {t : ColumnType} {v : Value} (h : t.Takes v) :
    Shows t (Datum.ofValueOrNull v) v := by
  cases v with
  | scalar s =>
    cases s with
    | null => exact .null
    | bool b =>
      cases t with
      | bool => exact .bool
      | _ => cases h
    | int i =>
      cases t with
      | int =>
        rw [Datum.ofValueOrNull_int h]
        exact .int
      | _ => cases h
    | str s =>
      cases t with
      | str => exact .str h
      | _ => cases h
    | _ => cases t <;> cases h
  | _ => cases t <;> cases h

/-- What a column may be compared with can be bound. -/
theorem ColumnType.Takes.bindable {t : ColumnType} {v : Value} (h : t.Takes v) : v.Bindable := by
  cases v with
  | scalar s =>
    cases s with
    | null | bool | str => exact ⟨_, rfl⟩
    | int i =>
      cases t with
      | int => exact ⟨.integer i, if_pos h⟩
      | _ => cases h
    | _ => cases t <;> cases h
  | _ => cases t <;> cases h

namespace Shows

variable {t : ColumnType} {x y : Datum} {v w : Value}

theorem isNull_eq (h : Shows t x v) : v.isNull = (x == .null) := by
  cases h <;> rfl

theorem ne_null (h : Shows t x v) (hv : v.isNull = false) : x ≠ .null := by
  rw [h.isNull_eq] at hv
  simpa using hv

/-- What a datum stands for is no NaN, which alone is identical to something. -/
theorem identical_eq (h : Shows t x v) (w : Value) : v.identical w = false := by
  cases h <;> cases w <;> rfl

theorem fit_value (hx : Shows t x v) (hy : Shows t y w) : Datum.fit (some t) none x y = (x, y) := by
  cases hx <;> cases hy <;> try rfl
  · cases t <;> rfl

theorem fit_column : Datum.fit (some t) (some t) x y = (x, y) := by
  cases t <;> rfl

/-- Data are ordered as the values that they stand for. -/
theorem compare (hx : Shows t x v) (hy : Shows t y w) (hxn : x ≠ .null) (hyn : y ≠ .null) :
    ∃ o, x.compare? y = some o ∧ v.compare? w = .ok (some o) := by
  cases hx with
  | null => exact absurd rfl hxn
  | int =>
    cases hy with
    | null => exact absurd rfl hyn
    | int => exact ⟨_, rfl, rfl⟩
  | bool =>
    cases hy with
    | null => exact absurd rfl hyn
    | bool => exact ⟨_, rfl, rfl⟩
  | str =>
    cases hy with
    | null => exact absurd rfl hyn
    | str => exact ⟨_, rfl, rfl⟩

theorem decide_eq_some_eq (o : Option Ordering) : decide (o = some .eq) = (o == some .eq) := by
  rcases o with _ | _ | _ | _ <;> rfl

theorem isSame_text (s t : String) : (Datum.text s).isSame (.text t) = decide (s = t) := by
  have h : compareOfLessAndEq s t = .eq ↔ s = t :=
    compareOfLessAndEq_eq_eq String.le_refl String.not_le
  show (some (compareOfLessAndEq s t) == some .eq) = _
  by_cases e : s = t
  · rw [h.2 e, decide_eq_true e]; rfl
  · have hn : compareOfLessAndEq s t ≠ .eq := fun he => e (h.1 he)
    rw [decide_eq_false e]
    cases ho : compareOfLessAndEq s t <;> first | rfl | exact absurd ho hn

/-- Data are equal as the values that they stand for. -/
theorem equal (hx : Shows t x v) (hy : Shows t y w) : v.equal w = .ok (x.isSame y) := by
  cases hx with
  | null => cases hy <;> rfl
  | int =>
    cases hy with
    | null => rfl
    | int => exact congrArg Except.ok (decide_eq_some_eq _)
  | bool =>
    cases hy with
    | null => rfl
    | bool => exact congrArg Except.ok (decide_eq_some_eq _)
  | str =>
    cases hy with
    | null => rfl
    | str => rw [isSame_text]; rfl

theorem isSame_integer_comm (i j : Int) :
    (Datum.integer i).isSame (.integer j) = (Datum.integer j).isSame (.integer i) := by
  show (some ((Finite.ofInt i).compare (.ofInt j)) == some .eq) =
    (some ((Finite.ofInt j).compare (.ofInt i)) == some .eq)
  rw [← Finite.compare_swap (.ofInt i)]
  cases (Finite.ofInt i).compare (.ofInt j) <;> rfl

theorem isSame_comm (hx : Shows t x v) (hy : Shows t y w) : x.isSame y = y.isSame x := by
  cases hx with
  | null => cases hy <;> rfl
  | int =>
    cases hy with
    | null => rfl
    | int => exact isSame_integer_comm _ _
  | bool =>
    cases hy with
    | null => rfl
    | bool => exact isSame_integer_comm _ _
  | str =>
    cases hy with
    | null => rfl
    | str =>
      rw [isSame_text, isSame_text]
      exact decide_eq_decide.2 eq_comm

end Shows

end Sql

end Clearance
