/-
  Equality and order of values.

  Numbers of all kinds, with the truth values as zero and one, compare as exact values.
  Texts compare by code point, times as instants, sequences item by item and only with
  sequences of their own kind, sets by inclusion; dictionaries and records are equal or
  not, and never ordered.  A not-a-number value is equal to nothing, but a container that
  holds one equals itself.

  * `Value.equal` is equality, `Value.compare?` the order, with `none` for two values that
    cannot be ordered or of which neither comes first;
  * `Value.isIn` is membership in a list of scalars;
  * `Value.setOf` is the set of some values;
  * a comparison can fail: `InvalidOperation` says that a signaling not-a-number value met
    a number, or that a decimal was to be ordered against a not-a-number value.
-/
import Clearance.Value.Basic

namespace Clearance

/-- A comparison of numbers that has no answer. -/
inductive InvalidOperation where
  | comparison
deriving DecidableEq, Repr

/-- A number of any kind, by its exact value. -/
inductive Numeral.Kind where
  | finite (x : Finite)
  | infinite (negative : Bool)
  | nan (signaling : Bool)
deriving DecidableEq

namespace Scalar

/-- The exact value of a scalar that is a number; truth values count as zero and one. -/
def numeral? : Scalar → Option Numeral.Kind
  | .bool b => some (.finite (.ofInt (if b then 1 else 0)))
  | .int i => some (.finite (.ofInt i))
  | .float (.nan _) => some (.nan false)
  | .float (.infinite negative) => some (.infinite negative)
  | .float x => x.finite?.map .finite
  | .decimal (.finite x) => some (.finite x)
  | .decimal (.infinite negative) => some (.infinite negative)
  | .decimal (.nan _ signaling _ _) => some (.nan signaling)
  | _ => none

/-- Whether a scalar is a decimal number. -/
def isDecimal : Scalar → Bool
  | .decimal _ => true
  | _ => false

/-- The tag of a not-a-number value. -/
def nanTag? : Scalar → Option Nat
  | .float (.nan tag) | .decimal (.nan _ _ _ tag) => some tag
  | _ => none

end Scalar

namespace Numeral.Kind

/-- Whether a number is a signaling not-a-number value. -/
def isSignaling : Numeral.Kind → Bool
  | .nan signaling => signaling
  | _ => false

/-- Whether a number is a not-a-number value. -/
def isNan : Numeral.Kind → Bool
  | .nan _ => true
  | _ => false

/-- The order of numbers; a not-a-number value has no place in it. -/
def compare? : Numeral.Kind → Numeral.Kind → Option Ordering
  | .finite x, .finite y => some (x.compare y)
  | .finite _, .infinite negative => some (if negative then .gt else .lt)
  | .infinite negative, .finite _ => some (if negative then .lt else .gt)
  | .infinite a, .infinite b => some (if a = b then .eq else if a then .lt else .gt)
  | _, _ => none

end Numeral.Kind

namespace Scalar

/-- Whether two scalars are one and the same not-a-number value. -/
def identical (a b : Scalar) : Bool :=
  match a.nanTag?, b.nanTag? with
  | some t, some u => t = u
  | _, _ => false

/-- The order of scalars that are not both numbers. -/
def compareOther? : Scalar → Scalar → Option Ordering
  | .str a, .str b => some (compareOfLessAndEq a b)
  | .date a, .date b => some (a.compare b)
  | .datetime a, .datetime b => a.compare? b
  | .time a, .time b => a.compare? b
  | .uuid a, .uuid b => some (Ord.compare a.value b.value)
  | _, _ => none

/-- Equality of scalars that are not both numbers. -/
def equalOther : Scalar → Scalar → Bool
  | .null, .null => true
  | .str a, .str b => a = b
  | .date a, .date b => a = b
  | .datetime a, .datetime b => a.compare? b = some .eq
  | .time a, .time b => a.compare? b = some .eq
  | .uuid a, .uuid b => a = b
  | _, _ => false

/-- Equality of scalars. -/
def equal (a b : Scalar) : Except InvalidOperation Bool :=
  match a.numeral?, b.numeral? with
  | some x, some y =>
    if x.isSignaling || y.isSignaling then .error .comparison
    else .ok (x.compare? y = some .eq)
  | _, _ => .ok (equalOther a b)

/-- The order of scalars. -/
def compare? (a b : Scalar) : Except InvalidOperation (Option Ordering) :=
  match a.numeral?, b.numeral? with
  | some x, some y =>
    if (a.isDecimal || b.isDecimal) && (x.isNan || y.isNan) then .error .comparison
    else .ok (x.compare? y)
  | _, _ => .ok (compareOther? a b)

end Scalar

namespace Value

/-- Whether two values are one and the same not-a-number value. -/
def identical : Value → Value → Bool
  | .scalar a, .scalar b => a.identical b
  | _, _ => false

mutual

/-- Equality of values. -/
def equal : Value → Value → Except InvalidOperation Bool
  | .scalar a, .scalar b => a.equal b
  | .bytes a, .bytes b => .ok (a = b)
  | .list xs, .list ys => if xs.length = ys.length then equalItems xs ys else .ok false
  | .tuple xs, .tuple ys => equalItems xs ys
  | .set xs, .set ys => if xs.length = ys.length then subset xs ys else .ok false
  | .dict xs, .dict ys => if xs.length = ys.length then equalFields xs ys else .ok false
  | .record xs, .record ys => if xs.length = ys.length then equalFields xs ys else .ok false
  | _, _ => .ok false
termination_by structural v => v

/-- Whether two sequences have the same items. -/
def equalItems : List Value → List Value → Except InvalidOperation Bool
  | [], [] => .ok true
  | x :: xs, y :: ys => do
    if x.identical y then equalItems xs ys
    else if ← x.equal y then equalItems xs ys
    else return false
  | _, _ => .ok false

/-- Whether each of some values is one of others. -/
def subset : List Value → List Value → Except InvalidOperation Bool
  | [], _ => .ok true
  | x :: xs, ys => do
    if ← ys.anyM fun y => if x.identical y then .ok true else x.equal y then subset xs ys
    else return false

/-- Whether each field of one list has an equal one in the other. -/
def equalFields : List (String × Value) → List (String × Value) → Except InvalidOperation Bool
  | [], _ => .ok true
  | (key, x) :: xs, ys =>
    match ys.lookup key with
    | none => .ok false
    | some y => do
      if x.identical y then equalFields xs ys
      else if ← x.equal y then equalFields xs ys
      else return false

end

mutual

/-- The order of values, where they have one. -/
def compare? : Value → Value → Except InvalidOperation (Option Ordering)
  | .scalar a, .scalar b => a.compare? b
  | .bytes a, .bytes b => .ok (some (Ord.compare a b))
  | .list xs, .list ys => compareItems? xs ys
  | .tuple xs, .tuple ys => compareItems? xs ys
  | .set xs, .set ys => do
    return match ← subset xs ys, ← subset ys xs with
      | true, true => some .eq
      | true, false => some .lt
      | false, true => some .gt
      | false, false => none
  | _, _ => .ok none

/-- The order of sequences: the first items that differ decide, and then the lengths. -/
def compareItems? : List Value → List Value → Except InvalidOperation (Option Ordering)
  | [], [] => .ok (some .eq)
  | [], _ :: _ => .ok (some .lt)
  | _ :: _, [] => .ok (some .gt)
  | x :: xs, y :: ys => do
    if x.identical y then compareItems? xs ys
    else if ← x.equal y then compareItems? xs ys
    else x.compare? y

end

/-- Whether two values count as one member of a set. -/
def isSameMember (a b : Value) : Bool :=
  a.identical b || (match a.equal b with
    | .ok same => same
    | .error _ => false)

/-- The set of some values: of equal ones the first is kept. -/
def setOf (items : List Value) : Value :=
  let members := items.foldl (fun kept v => if kept.any v.isSameMember then kept else v :: kept) []
  .set (setOrder members.reverse)

/-- Whether a value equals one of some scalars. -/
def isIn (v : Value) : List Scalar → Except InvalidOperation Bool
  | [] => .ok false
  | s :: rest => do
    if v.identical (.scalar s) then return true
    else if ← v.equal (.scalar s) then return true
    else isIn v rest

end Value

end Clearance
