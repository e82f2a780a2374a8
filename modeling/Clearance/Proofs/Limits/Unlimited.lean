/-
  Runs without a limit on the nodes.

  Nothing of what was recorded before such a run makes a difference to it: it comes to the same
  result wherever it stands, and records the same events on top of the others.

  * `Run.ComesTo run r new`: from any tally, the run gives the result `r` and adds the events
    `new`;
  * `Run.Same run run'`: both runs come to the same; without a limit this is kept by all steps
    that runs consist of (`Run.same_congruence`), and so deciding an expression comes to the same
    wherever it is done (`evaluateWithin_same`).
-/
import Clearance.Proofs.Limits.Congruence

namespace Clearance

variable {F : Type} {α β : Type} {config : Config}

namespace Run

/-- A run gives a result from any tally, and adds some events, the latest first. -/
def ComesTo (run : Run F α) (r : Result α) (new : List (Event F)) : Prop :=
  ∀ t, (run.outcomeFrom t).1 = r ∧ (run.outcomeFrom t).2.events = new ++ t.events

/-- Two runs come to the same: one result and the same events. -/
def Same (α : Type) (run run' : Run F α) : Prop :=
  ∃ r new, run.ComesTo r new ∧ run'.ComesTo r new

namespace ComesTo

variable {run : Run F α} {r r' : Result α} {new new' : List (Event F)}

theorem ofResult (r : Result α) : ComesTo (ofResult r : Run F α) r [] := by
  intro t
  rw [outcomeFrom_ofResult]
  exact ⟨rfl, rfl⟩

theorem pure (a : α) : ComesTo (pure a : Run F α) (.ok a) [] := fun _ => ⟨rfl, rfl⟩

theorem record (event : Event F) : ComesTo (record event) (.ok ()) [event] := fun _ => ⟨rfl, rfl⟩

theorem charge (hl : config.maxExpressionNodes = none) :
    ComesTo (charge config : Run F Unit) (.ok ()) [] := by
  intro t
  rw [outcomeFrom_charge, hl]
  exact ⟨rfl, rfl⟩

theorem bind {f : α → Run F β} {s : Result β} {a : α} (hr : run.ComesTo (.ok a) new)
    (hf : (f a).ComesTo s new') : (run >>= f).ComesTo s (new' ++ new) := by
  intro t
  obtain ⟨hok, hev⟩ := hr t
  rw [outcomeFrom_bind_of_ok (Prod.ext hok rfl)]
  obtain ⟨hs, hev'⟩ := hf (run.outcomeFrom t).2
  exact ⟨hs, by rw [hev', hev, List.append_assoc]⟩

theorem bind_error {f : α → Run F β} {err : Error} (hr : run.ComesTo (.error err) new) :
    (run >>= f).ComesTo (.error err) new := by
  intro t
  obtain ⟨herr, hev⟩ := hr t
  rw [outcomeFrom_bind_of_error (Prod.ext herr rfl)]
  exact ⟨rfl, hev⟩

/-- A run comes to one thing only. -/
theorem unique (h : run.ComesTo r new) (h' : run.ComesTo r' new') : r = r' ∧ new = new' := by
  obtain ⟨hr, hev⟩ := h {}
  obtain ⟨hr', hev'⟩ := h' {}
  refine ⟨hr.symm.trans hr', ?_⟩
  have : new ++ [] = new' ++ [] := hev.symm.trans hev'
  rwa [List.append_nil, List.append_nil] at this

theorem result_eq (h : run.ComesTo r new) : run.result = r := (h {}).1

theorem follows (h : run.ComesTo r new) : run.Follows config r := fun t => .inl (h t).1

end ComesTo

namespace Same

variable {run run' run'' : Run F α}

theorem pure (a : α) : Same α (pure a : Run F α) (Pure.pure a) := ⟨_, _, .pure a, .pure a⟩

theorem symm (h : Same α run run') : Same α run' run := by
  obtain ⟨r, new, hr, hr'⟩ := h
  exact ⟨r, new, hr', hr⟩

theorem trans (h : Same α run run') (h' : Same α run' run'') : Same α run run'' := by
  obtain ⟨r, new, hr, hr'⟩ := h
  obtain ⟨s, new', hs, hs'⟩ := h'
  obtain ⟨rfl, rfl⟩ := hr'.unique hs
  exact ⟨r, new, hr, hs'⟩

theorem bind {f f' : α → Run F β} (hr : Same α run run') (hf : ∀ a, Same β (f a) (f' a)) :
    Same β (run >>= f) (run' >>= f') := by
  obtain ⟨r, new, hr, hr'⟩ := hr
  cases r with
  | error err => exact ⟨.error err, new, hr.bind_error, hr'.bind_error⟩
  | ok a =>
    obtain ⟨s, new', hf, hf'⟩ := hf a
    exact ⟨s, new' ++ new, hr.bind hf, hr'.bind hf'⟩

/-- Without a limit, a node in front makes no difference. -/
theorem charged (hl : config.maxExpressionNodes = none) (h : Same α run run') :
    Same α (do Run.charge config; run) run' := by
  obtain ⟨r, new, hr, hr'⟩ := h
  refine ⟨r, new, ?_, hr'⟩
  have := (ComesTo.charge hl).bind (f := fun _ => run) hr
  rwa [List.append_nil] at this

/-- What has been recorded before makes no difference to a run. -/
theorem outcomeFrom_eq (h : Same α run run) (t : Tally F) :
    (run.outcomeFrom t).1 = run.result := by
  obtain ⟨r, new, hr, -⟩ := h
  rw [(hr t).1, hr.result_eq]

theorem result_eq (h : Same α run run') : run.result = run'.result := by
  obtain ⟨r, new, hr, hr'⟩ := h
  rw [hr.result_eq, hr'.result_eq]

theorem follows (h : Same α run run) : run.Follows config run.result := by
  obtain ⟨r, new, hr, -⟩ := h
  rw [hr.result_eq]
  exact hr.follows

end Same

/-- Without a limit, runs that consist of the same steps come to the same. -/
theorem same_congruence (hl : config.maxExpressionNodes = none) :
    Congruence config config (Same (F := F)) where
  tenantNamespace := rfl
  regexStrategy := rfl
  ofResult r := ⟨r, [], .ofResult r, .ofResult r⟩
  record event := ⟨_, _, .record event, .record event⟩
  charge := ⟨_, _, .charge hl, .charge hl⟩
  bind := .bind

end Run

/-- Without a limit, deciding an expression comes to the same wherever it is done. -/
theorem evaluateWithin_same [CharacterNames] (hl : config.maxExpressionNodes = none)
    (call : Meaning F) (actor : Value) (remaining : Nat) : ∀ e resources opened,
      Run.Same Bool (evaluateWithin config call actor remaining resources opened e)
        (evaluateWithin config call actor remaining resources opened e) := by
  have hc := Run.same_congruence (F := F) hl
  induction remaining with
  | zero => exact hc.evaluateNode fun fn description resources opened => hc.ofResult (.error _)
  | succ remaining ih =>
    exact hc.evaluateNode fun fn description resources opened =>
      hc.bind (hc.expand call actor _ fn description) fun e => ih e resources opened

end Clearance
