/-
  What compiling charges.

  Compiling visits each node once, also where a condition would not need it, and so charges a
  number of nodes that is known beforehand.

  * `Run.Charges` says how many nodes a run charges if it succeeds;
  * `Rule.compile_charges`: compiling a rule charges the nodes of the rule and of all that its
    functions return.
-/
import Clearance.Proofs.Decision.Tally
import Clearance.Proofs.Filter.Outcome

namespace Clearance

open Sql

variable {F : Type} {α β : Type}

namespace Run

/-- If it succeeds, a run charges a number of nodes, and is still within the limit if it was. -/
def Charges (config : Config) (n : Nat) (run : Run F α) : Prop :=
  ∀ t a, (run.outcomeFrom t).1 = .ok a → (run.outcomeFrom t).2.nodes = t.nodes + n ∧
    (config.Admits t.nodes → config.Admits (t.nodes + n))

namespace Charges

variable {config : Config} {n m : Nat}

theorem ofResult (r : Result α) : Charges config 0 (ofResult r : Run F α) :=
  fun t _ _ => by simp

theorem record (e : Event F) : Charges config 0 (record e) := fun _ _ _ => ⟨rfl, id⟩

theorem charge : Charges config 1 (charge config : Run F Unit) := by
  intro t a h
  rw [outcomeFrom_charge] at h ⊢
  refine ⟨rfl, fun _ limit hl => ?_⟩
  rw [hl] at h
  dsimp only at h
  split at h
  · cases h
  · omega

theorem bind {run : Run F α} {f : α → Run F β} (hr : Charges config n run)
    (hf : ∀ t a, (run.outcomeFrom t).1 = .ok a → Charges config m (f a)) :
    Charges config (n + m) (run >>= f) := by
  intro t b h
  rw [outcomeFrom_bind] at h ⊢
  rcases ht : run.outcomeFrom t with ⟨_ | a, t'⟩ <;> rw [ht] at h
  · cases h
  · obtain ⟨hn, hadm⟩ := hr t a (by rw [ht])
    obtain ⟨hm, hadm'⟩ := hf t a (by rw [ht]) t' b h
    rw [ht] at hn
    dsimp only at hn ⊢
    rw [hn] at hm hadm'
    rw [← Nat.add_assoc]
    exact ⟨hm, fun h => hadm' (hadm h)⟩

/-- What a run that follows a result goes on with is what the result goes on with. -/
theorem reckoning : Reckoning config (fun _ => True)
    (fun n _ (run : Run F _) r => Follows config run r ∧ Charges config n run) where
  ofResult r := ⟨.ofResult r, .ofResult r⟩
  record event _ := ⟨.record event, .record event⟩
  charge := ⟨.charge, .charge⟩
  bind hr hf := ⟨hr.1.bind fun a ha => (hf a ha).1,
    hr.2.bind fun _ a ha => (hf a (hr.1.eq_ok ha)).2⟩

end Charges

end Run

/-- **What compiling charges**: if it succeeds, the nodes of the rule and of all that its
    functions return, and these are no more than the limit. -/
theorem Rule.compile_charges {config : Config} {call : Meaning F} {d : Declarations}
    {actor : Value} {r : Rule F} {c : Clause}
    (h : (r.compile config call d actor).result = .ok c) :
    (r.compile config call d actor).outcome.2.nodes = r.weight config call actor ∧
      config.Admits (r.weight config call actor) := by
  obtain ⟨e, he, -⟩ := Rule.expansion_of_compile h
  obtain ⟨-, hrun⟩ := Run.Charges.reckoning.compile he
  obtain ⟨hn, ha⟩ := hrun {} c h
  rw [Nat.zero_add] at hn ha
  exact ⟨hn, ha fun limit _ => limit.zero_le⟩

end Clearance
