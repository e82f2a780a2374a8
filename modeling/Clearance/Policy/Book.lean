/-
  Policies under names.

  A book keeps policies under names and numbers them as they are made, so that two names for
  one policy can be told from two policies that are equal.

  * `Book.find` finds a policy, `Book.add` enters a new one, and `Book.addJoined` joins
    policies of the book: a single one is entered again under its own number.
-/
import Clearance.Policy.Basic

namespace Clearance

/-- A policy with its number. -/
structure BookEntry (F : Type) where
  number : Nat
  policy : Policy F

/-- Policies under names. -/
structure Book (F : Type) where
  /-- The policies by name, the latest first. -/
  entries : List (String × BookEntry F) := []
  /-- How many policies were made. -/
  made : Nat := 0

namespace Book

variable {F : Type}

/-- The policy of a name. -/
def find (b : Book F) (name : String) : Result (BookEntry F) :=
  match b.entries.lookup name with
  | some entry => .ok entry
  | none => .error (.noSuchPolicy name)

/-- Enters a policy that has a number already. -/
def enter (b : Book F) (name : String) (entry : BookEntry F) : Book F :=
  { b with entries := (name, entry) :: b.entries }

/-- Enters a new policy. -/
def add (b : Book F) (name : String) (p : Policy F) : Book F :=
  { entries := (name, ⟨b.made, p⟩) :: b.entries, made := b.made + 1 }

/-- Joins policies of the book and enters the result. -/
def addJoined (b : Book F) (name : String) (kind : Junction) (names : List String) :
    Run F (Book F × Policy F) := do
  let found ← Run.ofResult (names.mapM b.find)
  let p ← Policy.join kind (found.map BookEntry.policy)
  match found with
  | [entry] => return (b.enter name entry, p)
  | _ => return (b.add name p, p)

end Book

end Clearance
