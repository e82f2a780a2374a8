/-
  What a decision charges and records.

  Deciding stops as soon as a decision is settled and looks at a predicate once for each row, so
  that the nodes it charges are known beforehand for trees without related nodes only, and then
  only as a bound: the nodes that are charged by visiting everything once.

  * `Run.GivesWithin` says that a run gives a result and charges no more than a number of
    nodes, if there is room for so many: `Rule.evaluate_within`;
  * `Run.RecordsOnly` says of what kind the events are that a run records:
    `Rule.evaluate_calls`.
-/
import Clearance.Proofs.Decision.Reckoning

namespace Clearance

variable {F : Type} {α β : Type}

/-- Whether so many nodes may be visited. -/
def Config.Admits (config : Config) (nodes : Nat) : Prop :=
  ∀ limit, config.maxExpressionNodes = some limit → nodes ≤ limit

theorem Config.Admits.mono {config : Config} {n m : Nat} (h : config.Admits m) (hnm : n ≤ m) :
    config.Admits n := by
  intro limit hl
  exact Nat.le_trans hnm (h limit hl)

theorem Run.outcomeFrom_charge_admitted {config : Config} {t : Tally F}
    (h : config.Admits (t.nodes + 1)) :
    (charge config : Run F Unit).outcomeFrom t = (.ok (), { t with nodes := t.nodes + 1 }) := by
  rw [outcomeFrom_charge]
  rcases hl : config.maxExpressionNodes with _ | limit
  · rfl
  · have hle : ¬ limit < t.nodes + 1 := Nat.not_lt.2 (h limit hl)
    simp [hle]

/-! ## Runs that charge a limited number of nodes -/

namespace Run

/-- With room for some nodes, a run gives a result and charges no more than these. -/
def GivesWithin (config : Config) (n : Nat) (run : Run F α) (r : Result α) : Prop :=
  ∀ t, config.Admits (t.nodes + n) →
    (run.outcomeFrom t).1 = r ∧ (run.outcomeFrom t).2.nodes ≤ t.nodes + n

namespace GivesWithin

variable {config : Config} {n m : Nat}

theorem ofResult (r : Result α) : GivesWithin config 0 (ofResult r : Run F α) r :=
  fun t _ => by simp

theorem record (e : Event F) : GivesWithin config 0 (record e) (.ok ()) :=
  fun _ _ => ⟨rfl, Nat.le_refl _⟩

theorem charge : GivesWithin config 1 (charge config : Run F Unit) (.ok ()) := by
  intro t ht
  rw [outcomeFrom_charge_admitted ht]
  exact ⟨rfl, Nat.le_refl _⟩

theorem mono {run : Run F α} {r : Result α} (h : GivesWithin config n run r) (hnm : n ≤ m) :
    GivesWithin config m run r := by
  intro t ht
  obtain ⟨hr, hn⟩ := h t (ht.mono (by omega))
  exact ⟨hr, by omega⟩

theorem bind {run : Run F α} {r : Result α} {f : α → Run F β} {g : α → Result β}
    (hr : GivesWithin config n run r) (hf : ∀ a, r = .ok a → GivesWithin config m (f a) (g a)) :
    GivesWithin config (n + m) (run >>= f) (r >>= g) := by
  intro t ht
  obtain ⟨hs, hn⟩ := hr t (ht.mono (by omega))
  rw [outcomeFrom_bind]
  rcases h : run.outcomeFrom t with ⟨s, t'⟩
  rw [h] at hs hn
  dsimp only at hs hn
  subst hs
  cases s with
  | error e => exact ⟨rfl, by dsimp only; omega⟩
  | ok a =>
    obtain ⟨hb, hm⟩ := hf a rfl t' (ht.mono (by omega))
    exact ⟨hb, by dsimp only; omega⟩

theorem reckoning : Reckoning config (fun _ => True)
    (fun n _ (run : Run F _) r => GivesWithin config n run r) where
  ofResult := .ofResult
  record event _ := .record event
  charge := .charge
  bind := .bind

end GivesWithin

end Run

/-- **A decision without related nodes** charges no more nodes than there are, and is not
    stopped by a limit that is as large. -/
theorem Rule.evaluate_within [CharacterNames] {config : Config} {call : Meaning F} {actor : Value}
    {r : Rule F} {t : Expr Empty} (h : r.expansion config call actor = some t)
    (hr : t.relatedTables = []) (resources : Value) :
    (r.evaluate config call actor resources).GivesWithin config (r.weight config call actor)
      (t.decision config actor resources []) :=
  Run.GivesWithin.reckoning.evaluate (fun _ _ _ _ _ h hr => hr.mono h)
    (fun _ _ _ _ _ => trivial) h (.inl hr) resources

/-! ## Events -/

namespace Run

/-- All that a run records is of a kind. -/
def RecordsOnly (P : Event F → Prop) (run : Run F α) : Prop :=
  ∀ t, ∀ event ∈ (run.outcomeFrom t).2.events, event ∈ t.events ∨ P event

namespace RecordsOnly

variable {P : Event F → Prop}

theorem ofResult (r : Result α) : RecordsOnly P (ofResult r : Run F α) := by
  intro t event h
  rw [outcomeFrom_ofResult] at h
  exact .inl h

theorem record {e : Event F} (he : P e) : RecordsOnly P (record e) := by
  intro t event h
  rcases List.mem_cons.1 h with rfl | h
  · exact .inr he
  · exact .inl h

theorem charge {config : Config} : RecordsOnly P (charge config : Run F Unit) := by
  intro t event h
  rw [outcomeFrom_charge] at h
  exact .inl h

theorem bind {run : Run F α} {f : α → Run F β} (hr : RecordsOnly P run)
    (hf : ∀ t a, (run.outcomeFrom t).1 = .ok a → RecordsOnly P (f a)) :
    RecordsOnly P (run >>= f) := by
  intro t event h
  rw [outcomeFrom_bind] at h
  rcases ht : run.outcomeFrom t with ⟨_ | a, t'⟩ <;> rw [ht] at h
  · exact hr t event (by rw [ht]; exact h)
  · rcases hf t a (by rw [ht]) t' event h with h | h
    · exact hr t event (by rw [ht]; exact h)
    · exact .inr h

/-- What a run that follows a result goes on with is what the result goes on with. -/
theorem reckoning {config : Config} : Reckoning config P
    (fun _ _ (run : Run F _) r => Follows config run r ∧ RecordsOnly P run) where
  ofResult r := ⟨.ofResult r, .ofResult r⟩
  record event h := ⟨.record event, .record h⟩
  charge := ⟨.charge, .charge⟩
  bind hr hf := ⟨hr.1.bind fun a ha => (hf a ha).1,
    hr.2.bind fun _ a ha => (hf a (hr.1.eq_ok ha)).2⟩

end RecordsOnly

end Run

/-- **All functions that a decision calls return**, if the rule has an expansion. -/
theorem Rule.evaluate_calls [CharacterNames] {config : Config} {call : Meaning F} {actor : Value}
    {r : Rule F} {t : Expr Empty} (h : r.expansion config call actor = some t) (resources : Value) :
    ∀ fn description depth,
      .expanded fn description depth ∈ (r.evaluate config call actor resources).outcome.2.events →
        ∃ rule, call fn actor = .ok rule := by
  intro fn description depth hmem
  let P : Event F → Prop := fun event => ∀ fn description depth,
    event = .expanded fn description depth → ∃ rule, call fn actor = .ok rule
  have hP : ∀ fn rule description depth, call fn actor = .ok rule →
      P (.expanded fn description depth) := by
    rintro fn rule description depth hc _ _ _ ⟨⟩
    exact ⟨rule, hc⟩
  obtain ⟨-, hrun⟩ := (Run.RecordsOnly.reckoning (P := P)).evaluate (fun _ _ _ _ _ _ h => h) hP h
    (.inr fun _ _ _ _ _ h => h) resources
  rcases hrun {} _ hmem with h | h
  · cases h
  · exact h fn description depth rfl

end Clearance
