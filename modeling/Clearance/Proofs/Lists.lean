/-
  Lists that are searched or freed of repetitions.

  * `mem_eraseReps`: nothing is lost with the repetitions;
  * `isNone_lookup`: whether a key has a value is seen from the keys;
  * `eq_of_map_eq`: what a function cannot tell apart in two lists is the same.
-/

namespace Clearance

variable {α β : Type}

theorem mem_eraseReps_loop {a : α} [BEq α] [LawfulBEq α] (l : List α) : ∀ b acc,
    a ∈ List.eraseRepsBy.loop (· == ·) b l acc ↔ a ∈ acc ∨ a = b ∨ a ∈ l := by
  induction l with
  | nil => intro b acc; simp [List.eraseRepsBy.loop, or_comm]
  | cons c l ih =>
    intro b acc
    rw [List.eraseRepsBy.loop]
    by_cases h : b = c
    · subst h; simp [ih]
    · have h' : (b == c) = false := by simpa using h
      rw [h', ih, List.mem_cons, List.mem_cons, or_assoc, or_left_comm]

theorem mem_eraseReps {a : α} [BEq α] [LawfulBEq α] {l : List α} : a ∈ l.eraseReps ↔ a ∈ l := by
  cases l with
  | nil => rfl
  | cons b l =>
    rw [List.eraseReps, List.eraseRepsBy, mem_eraseReps_loop]
    simp

/-- Whether a key has a value, read off the keys. -/
theorem isNone_lookup [BEq α] (key : α) (pairs : List (α × β)) :
    (pairs.lookup key).isNone = !(pairs.map Prod.fst).contains key := by
  induction pairs with
  | nil => rfl
  | cons pair rest ih =>
    rw [List.lookup_cons, List.map_cons, List.contains_cons]
    cases key == pair.1 with
    | true => rfl
    | false => exact ih

/-- Lists with one image are equal if no two of their items are mixed up. -/
theorem eq_of_map_eq {f : α → β} {xs : List α} : ∀ {ys : List α}, xs.map f = ys.map f →
    (∀ x ∈ xs, ∀ y ∈ ys, f x = f y → x = y) → xs = ys := by
  induction xs with
  | nil => exact fun h _ => (List.map_eq_nil_iff.1 h.symm).symm
  | cons x xs ih =>
    intro ys h hf
    obtain ⟨y, ys, rfl, hy, hys⟩ := List.map_eq_cons_iff.1 h.symm
    rw [hf x List.mem_cons_self y List.mem_cons_self hy.symm, ih hys.symm fun x hx y hy =>
      hf x (List.mem_cons_of_mem _ hx) y (List.mem_cons_of_mem _ hy)]

end Clearance
