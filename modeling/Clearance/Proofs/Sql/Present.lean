/-
  Data that are there.

  A database stores what is not a number as null, so no datum in it is such a real number.

  * `Datum.Storable`, `Frame.Storable`: no datum is what a database cannot hold;
  * `Datum.Present`: a datum that is neither null nor unstorable; two such data are always
    ordered (`Present.compare?`), and fitting one to the type of a column keeps it present;
  * `Value.Binds`: a value that a statement can be run with and that is bound as present data,
    unless it is null (`Value.Binds.present`).
-/
import Clearance.Sql.Database

namespace Clearance

namespace Binary64

/-- Whether a floating point number is not a number. -/
def isNan : Binary64 → Bool
  | nan _ => true
  | _ => false

/-- Rounding gives a number. -/
theorem isNan_nearest (x : Finite) : (nearest x).isNan = false := by
  have h : ∀ (p : Prop) [Decidable p] (negative : Bool) (me : Nat × Int),
      (if p then infinite negative else finite negative me.1 me.2).isNan = false := by
    intro p _ negative me
    split <;> rfl
  unfold nearest
  split
  · rfl
  · split
    · rfl
    · exact h _ _ _

end Binary64

/-- Numbers are ordered. -/
theorem Numeral.Kind.exists_compare {a b : Numeral.Kind} (ha : a.isNan = false)
    (hb : b.isNan = false) : ∃ o, a.compare? b = some o := by
  cases a with
  | nan => cases ha
  | finite x | infinite x =>
    cases b with
    | nan => cases hb
    | finite y | infinite y => exact ⟨_, rfl⟩

/-- Whether a value is not a number. -/
def Value.isNan : Value → Bool
  | .scalar (.float x) => x.isNan
  | .scalar (.decimal (.nan _ _ _ _)) => true
  | _ => false

namespace Sql

/-- A datum that a database can hold. -/
def Datum.Storable : Datum → Prop
  | .real x => x.isNan = false
  | _ => True

/-- The rows of a frame hold what a database can hold. -/
def Frame.Storable (f : Frame) : Prop := ∀ entry ∈ f, ∀ cell ∈ entry.2, cell.2.Storable

/-- A datum that is there. -/
structure Datum.Present (x : Datum) : Prop where
  ne_null : x ≠ .null
  storable : x.Storable

namespace Datum.Present

theorem integer (i : Int) : (Datum.integer i).Present := ⟨by simp, trivial⟩

theorem text (s : String) : (Datum.text s).Present := ⟨by simp, trivial⟩

theorem nearest (x : Finite) : (Datum.real (.nearest x)).Present :=
  ⟨by simp, Binary64.isNan_nearest x⟩

theorem numberOfText? {s : String} {x : Datum} (h : Datum.numberOfText? s = some x) :
    x.Present := by
  have hi : ∀ i : Int, (if hasWordSize i then some (Datum.integer i)
      else some (.real (.nearest (.ofInt i)))) = some x → x.Present := by
    intro i h
    split at h <;> obtain rfl := Option.some.inj h
    · exact .integer i
    · exact .nearest _
  unfold Datum.numberOfText? at h
  dsimp only at h
  split at h
  · exact hi _ h
  · obtain ⟨y, -, rfl⟩ := Option.map_eq_some_iff.1 h
    exact .nearest y

theorem asNumber {x : Datum} (h : x.Present) : x.asNumber.Present := by
  cases x with
  | text s =>
    rw [Datum.asNumber]
    cases hn : Datum.numberOfText? s with
    | none => exact h
    | some y => exact numberOfText? hn
  | _ => exact h

theorem asText {x : Datum} (h : x.Present) : x.asText.Present := by
  unfold Datum.asText
  cases x.text? with
  | none => exact h
  | some s => exact .text s

/-- Fitting data to each other keeps them. -/
theorem fit (left right : Option ColumnType) {x y : Datum} (hx : x.Present) (hy : y.Present) :
    (Datum.fit left right x y).1.Present ∧ (Datum.fit left right x y).2.Present := by
  unfold Datum.fit
  split
  · exact ⟨hx, hy⟩
  · exact ⟨hx, hy⟩
  · exact ⟨hx, hy.asNumber⟩
  · exact ⟨hx.asNumber, hy⟩
  · exact ⟨hx, hy.asText⟩
  · exact ⟨hx.asText, hy⟩
  · exact ⟨hx, hy⟩

/-- A number that is there has a place in the order of numbers. -/
theorem number? {x : Datum} (h : x.Present) {a : Numeral.Kind} (ha : x.number? = some a) :
    a.isNan = false := by
  cases x with
  | integer i => cases ha; rfl
  | real y =>
    cases y with
    | nan tag => exact absurd h.storable (by simp [Datum.Storable, Binary64.isNan])
    | infinite negative => cases ha; rfl
    | finite negative m e =>
      obtain ⟨x, -, rfl⟩ := Option.map_eq_some_iff.1 ha
      rfl
  | _ => cases ha

/-- Data that are there are ordered. -/
theorem compare? {x y : Datum} (hx : x.Present) (hy : y.Present) : ∃ o, x.compare? y = some o := by
  unfold Datum.compare?
  split
  · exact absurd rfl hx.ne_null
  · exact absurd rfl hy.ne_null
  · exact ⟨_, rfl⟩
  · exact ⟨_, rfl⟩
  · split
    · rename_i a b ha hb
      exact Numeral.Kind.exists_compare (hx.number? ha) (hy.number? hb)
    · exact ⟨_, rfl⟩

/-- A datum that is there has a text, as far as `LIKE` is concerned. -/
theorem likeText? {x : Datum} (h : x.Present) : ∃ s, x.likeText? = some s := by
  cases x with
  | null => exact absurd rfl h.ne_null
  | _ => exact ⟨_, rfl⟩

end Datum.Present

end Sql

/-! ## Bound values -/

/-- A value that a statement can be run with. -/
def Value.Bindable (v : Value) : Prop := ∃ x, Sql.Datum.ofValue v = .ok x

/-- A value that a statement can be run with, and that is no NaN. -/
structure Value.Binds (v : Value) : Prop where
  bindable : v.Bindable
  isNan : v.isNan = false

/-- A value that is bound and neither null nor a NaN is bound as a datum that is there. -/
theorem Value.Binds.present {v : Value} (h : v.Binds) (hn : v.isNull = false) :
    (Sql.Datum.ofValueOrNull v).Present := by
  obtain ⟨⟨x, hx⟩, hnan⟩ := h
  have e : Sql.Datum.ofValueOrNull v = x := by rw [Sql.Datum.ofValueOrNull, hx]
  rw [e]
  cases v with
  | scalar s =>
    cases s with
    | null => cases hn
    | int i =>
      simp only [Sql.Datum.ofValue, Sql.Datum.ofScalar] at hx
      split at hx <;> cases hx
      exact .integer i
    | float y =>
      cases hx
      cases y with
      | nan tag => cases hnan
      | _ => exact ⟨by simp [Sql.Datum.ofFloat], rfl⟩
    | decimal d =>
      cases d with
      | finite y => cases hx; exact .nearest y
      | infinite negative => cases hx; exact ⟨by simp, rfl⟩
      | nan => cases hnan
    | bool b => cases hx; exact .integer _
    | _ => cases hx; exact .text _
  | bytes bs => cases hx; exact ⟨by simp, trivial⟩
  | _ => cases hx

namespace Sql

/-! ## Columns -/

theorem storable_of_lookup {row : Row} (hr : ∀ cell ∈ row, cell.2.Storable) {name : String}
    {x : Datum} (hx : row.lookup name = some x) : x.Storable := by
  obtain ⟨r₁, r₂, rfl, -⟩ := List.lookup_eq_some_iff.1 hx
  exact hr (name, x) (by simp)

/-- A column of storable rows is null, or it is there. -/
theorem readColumn_present {frames : List Frame} (hf : ∀ f ∈ frames, f.Storable) {c : Column}
    (hc : readColumn frames c ≠ .null) : (readColumn frames c).Present := by
  refine ⟨hc, ?_⟩
  have hrow : ∀ {row : Row}, (∃ f ∈ frames, ∃ table, (table, row) ∈ f) →
      ∀ cell ∈ row, cell.2.Storable := by
    rintro row ⟨f, hm, table, hr⟩
    exact hf f hm _ hr
  have hget : ∀ {row? : Option Row}, (∀ row ∈ row?, ∃ f ∈ frames, ∃ table, (table, row) ∈ f) →
      ((row?.bind fun r => r.lookup c.name).getD .null).Storable := by
    intro row? h
    cases row? with
    | none => trivial
    | some row =>
      cases hx : row.lookup c.name with
      | none => simp [hx, Datum.Storable]
      | some x => simpa [hx] using storable_of_lookup (hrow (h row rfl)) hx
  unfold readColumn
  refine hget fun row hr => ?_
  split at hr
  · rename_i table _
    obtain ⟨f, hm, hr⟩ := List.exists_of_findSome?_eq_some hr
    obtain ⟨f₁, f₂, rfl, -⟩ := List.lookup_eq_some_iff.1 hr
    exact ⟨_, hm, table, by simp⟩
  · obtain ⟨entry, he, rfl⟩ := List.mem_map.1 (List.mem_of_find?_eq_some hr)
    obtain ⟨f, hm, he⟩ := List.mem_flatten.1 he
    exact ⟨f, hm, entry.1, he⟩

end Sql

end Clearance
