/-
  Runs with fewer nodes charged before them.

  A rule that stands behind others in a tree is decided from a tally in which their nodes have been
  charged already.  What it is decided to there it is decided to alone: with fewer nodes before it,
  the limit on the nodes is only further away.

  * `Run.Survives`: what one run gives from a tally, the other gives from every tally with no more
    nodes, and charges no more either;
  * `Run.survives_congruence`: this is kept by all steps that runs consist of;
  * `Expr.result_eq_of_outcomeFrom`: what a rule is decided to somewhere, it is decided to alone.
-/
import Clearance.Proofs.Limits.Congruence

namespace Clearance

variable {F : Type} {config : Config}

namespace Run

/-- What one run gives the other also gives with fewer nodes charged before it, and does not charge
    more than that. -/
def Survives (α : Type) (run run' : Run F α) : Prop :=
  ∀ t t', t'.nodes ≤ t.nodes → ∀ a u, run.outcomeFrom t = (.ok a, u) →
    ∃ u', run'.outcomeFrom t' = (.ok a, u') ∧ u'.nodes ≤ u.nodes

namespace Survives

variable {α β : Type}

theorem ofResult (r : Result α) : Survives α (ofResult r : Run F α) (Run.ofResult r) := by
  intro t t' hle a u h
  rw [outcomeFrom_ofResult] at h
  obtain ⟨rfl, rfl⟩ := Prod.mk.inj h
  exact ⟨t', outcomeFrom_ofResult _ _, hle⟩

theorem record (event : Event F) : Survives Unit (record event) (Run.record event) := by
  intro t t' hle a u h
  obtain ⟨-, rfl⟩ := Prod.mk.inj h
  exact ⟨_, rfl, hle⟩

theorem charge (config : Config) :
    Survives Unit (charge config : Run F Unit) (Run.charge config) := by
  intro t t' hle a u h
  rw [outcomeFrom_charge] at h
  obtain ⟨hok, rfl⟩ := Prod.mk.inj h
  refine ⟨{ t' with nodes := t'.nodes + 1 }, ?_, Nat.succ_le_succ hle⟩
  rw [outcomeFrom_charge, Prod.mk.injEq]
  refine ⟨?_, rfl⟩
  cases hl : config.maxExpressionNodes with
  | none => rfl
  | some limit =>
    simp only [hl] at hok
    have hadmits : ¬ limit < t.nodes + 1 := by
      intro hlt
      rw [if_pos hlt] at hok
      cases hok
    exact if_neg (by omega)

theorem bind {run run' : Run F α} {f f' : α → Run F β} (hr : Survives α run run')
    (hf : ∀ a, Survives β (f a) (f' a)) : Survives β (run >>= f) (run' >>= f') := by
  intro t t' hle b u h
  cases ho : run.outcomeFrom t with
  | mk r v =>
    cases r with
    | error err =>
      rw [outcomeFrom_bind_of_error ho] at h
      cases h
    | ok a =>
      rw [outcomeFrom_bind_of_ok ho] at h
      obtain ⟨v', ho', hv⟩ := hr t t' hle a v ho
      rw [outcomeFrom_bind_of_ok ho']
      exact hf a v v' hv b u h

end Survives

/-- Runs that consist of the same steps survive. -/
theorem survives_congruence (config : Config) :
    Congruence config config (Survives (F := F)) where
  tenantNamespace := rfl
  regexStrategy := rfl
  ofResult := .ofResult
  record := .record
  charge := .charge config
  bind := .bind

end Run

theorem evaluateWithin_survives [CharacterNames] (config : Config) (call : Meaning F)
    (actor : Value) (remaining : Nat) : ∀ e resources opened,
      Run.Survives Bool (evaluateWithin config call actor remaining resources opened e)
        (evaluateWithin config call actor remaining resources opened e) := by
  have hc := Run.survives_congruence (F := F) config
  induction remaining with
  | zero => exact hc.evaluateNode fun fn description resources opened => hc.ofResult (.error _)
  | succ remaining ih =>
    exact hc.evaluateNode fun fn description resources opened =>
      hc.bind (hc.expand call actor _ fn description) fun e => ih e resources opened

/-- **What a rule is decided to somewhere, it is decided to alone.** -/
theorem Expr.result_eq_of_outcomeFrom [CharacterNames] {call : Meaning F} {actor resources : Value}
    {e : Expr F} {t : Tally F} {b : Bool}
    (h : ((e.evaluate config call actor resources).outcomeFrom t).1 = .ok b) :
    (e.evaluate config call actor resources).result = .ok b := by
  obtain ⟨u, hu, -⟩ := evaluateWithin_survives config call actor config.maxFunctionDepth e resources
    [] t {} (Nat.zero_le _) b _ (Prod.ext h rfl)
  exact congrArg Prod.fst hu

end Clearance
