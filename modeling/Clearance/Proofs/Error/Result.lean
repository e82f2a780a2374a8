/-
  Steps that can fail, one after the other.

  * `Result.bind_eq_ok` and `Result.bind_eq_error` say what a sequence of two steps comes to,
    `Result.forM_eq_ok` when all of many steps succeed;
  * `Result.FailsOnly P r`: if the step `r` fails, then with an error of the sort `P`; so do the
    sequences of such steps.
-/
import Clearance.Error.Basic

namespace Clearance.Result

variable {α β : Type}

/-- A step that succeeds after another means that both do. -/
theorem bind_eq_ok {r : Result α} {f : α → Result β} {b : β} :
    (r >>= f) = .ok b ↔ ∃ a, r = .ok a ∧ f a = .ok b := by
  cases r <;> simp [bind, Except.bind]

/-- A step that fails after another means that one of them does. -/
theorem bind_eq_error {r : Result α} {f : α → Result β} {err : Error} :
    (r >>= f) = .error err ↔ r = .error err ∨ ∃ a, r = .ok a ∧ f a = .error err := by
  cases r <;> simp [bind, Except.bind]

theorem forM_eq_ok {xs : List α} {f : α → Result Unit} :
    xs.forM f = .ok () ↔ ∀ x ∈ xs, f x = .ok () := by
  induction xs with
  | nil => exact ⟨fun _ _ h => (nomatch h), fun _ => rfl⟩
  | cons x rest ih =>
    rw [List.forall_mem_cons, ← ih]
    show (f x >>= fun _ => rest.forM f) = .ok () ↔ _
    rw [bind_eq_ok]
    exact ⟨fun ⟨_, hx, hr⟩ => ⟨hx, hr⟩, fun ⟨hx, hr⟩ => ⟨(), hx, hr⟩⟩

theorem discard_eq_ok {r : Result α} : (discard r : Result Unit) = .ok () ↔ ∃ x, r = .ok x := by
  cases r with
  | ok x => exact ⟨fun _ => ⟨x, rfl⟩, fun _ => rfl⟩
  | error e => exact ⟨fun h => (nomatch h), fun ⟨_, h⟩ => (nomatch h)⟩

/-- A step fails with errors of some sort only. -/
def FailsOnly (P : Error → Prop) (r : Result α) : Prop := ∀ err, r = .error err → P err

namespace FailsOnly

variable {P : Error → Prop}

theorem ok (a : α) : FailsOnly P (.ok a) := fun _ h => by cases h

theorem error {err : Error} (h : P err) : FailsOnly P (.error err : Result α) := by
  rintro _ ⟨⟩
  exact h

theorem mono {Q : Error → Prop} {r : Result α} (h : r.FailsOnly P) (hPQ : ∀ err, P err → Q err) :
    r.FailsOnly Q := fun err he => hPQ err (h err he)

theorem bind {r : Result α} {f : α → Result β} (hr : r.FailsOnly P)
    (hf : ∀ a, r = .ok a → (f a).FailsOnly P) : (r >>= f).FailsOnly P := by
  intro err h
  rcases bind_eq_error.1 h with h | ⟨a, ha, h⟩
  · exact hr err h
  · exact hf a ha err h

theorem forM {xs : List α} {f : α → Result Unit} (h : ∀ x ∈ xs, (f x).FailsOnly P) :
    (xs.forM f).FailsOnly P := by
  induction xs with
  | nil => exact ok ()
  | cons x rest ih =>
    show (f x >>= fun _ => rest.forM f).FailsOnly P
    exact bind (h x (by simp)) fun _ _ => ih fun x hx => h x (by simp [hx])

theorem discard {r : Result α} (h : r.FailsOnly P) : (discard r : Result Unit).FailsOnly P := by
  cases r with
  | ok a => exact ok ()
  | error err => exact error (h err rfl)

end FailsOnly

end Clearance.Result
