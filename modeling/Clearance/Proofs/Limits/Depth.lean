/-
  Functions may return anything, and runs end all the same.

  * `Visit.CallsLimited`: the visits of a run end, no more functions are called on the way to one
    than may be, and functions are nested too deeply only where they are;
  * `Visit.AtFunctions.calls_of_itself`: a function that returns itself is called as often as may be;
  * `Rule.calls_limited`: deciding and compiling are limited in this way, whatever the functions
    return.
-/
import Clearance.Proofs.Limits.Compiling
import Clearance.Proofs.Limits.Deciding

namespace Clearance

open Relation

variable {F C α : Type} {config : Config} {call : Meaning F} {actor : Value}

/-- The functions that were called, the latest first. -/
def Tally.calls (t : Tally F) : List F :=
  t.events.filterMap fun
    | .expanded fn _ _ => some fn
    | _ => none

/-- How the calls of functions are limited in a run, whose visits are those that its first visit
    leads to. -/
structure Visit.CallsLimited (config : Config) (call : Meaning F) (actor : Value)
    (Parts : Visit F C → Visit F C → Prop) (first : Visit F C) (outcome : Result α × Tally F) :
    Prop where
  /-- No visit leads to further visits without end. -/
  wellFounded : WellFounded fun w v => Parts v w
  /-- The visits are those of a list, which are charged one after the other, and no others. -/
  visits : ∃ visits : List (Visit F C), (∀ v, v ∈ visits ↔ ReflTransGen Parts first v) ∧
    visits.map (·.tally.nodes) = List.range visits.length ∧ outcome.2.nodes = visits.length
  /-- On the way to no visit more functions are called than may be. -/
  called_le : ∀ v, ReflTransGen Parts first v → v.called.length ≤ config.maxFunctionDepth
  /-- Functions are nested too deeply iff a function node is visited with so many functions called
      on the way, within the limit on the nodes, or a function that is called says so itself. -/
  tooDeep_iff : outcome.1.IsTooDeep ↔ ∃ v, ReflTransGen Parts first v ∧
    ((∃ fn description, v.node = .function fn description) ∧
        v.called.length = config.maxFunctionDepth ∧ config.Admits (v.tally.nodes + 1) ∨
      v.SaysTooDeep config call actor)

/-- The visits of a run from its first visit on. -/
theorem Traversal.callsLimited {Parts : Visit F C → Visit F C → Prop}
    {outcome : Visit F C → Result α × Tally F} (h : Traversal config call actor Parts outcome)
    (place : C) (e : Expr F) :
    Visit.CallsLimited config call actor Parts (.first place e) (outcome (.first place e)) := by
  have hle : ∀ v, ReflTransGen Parts (.first place e) v →
      v.called.length ≤ config.maxFunctionDepth := fun v hv => h.called_le (Nat.zero_le _) hv
  refine ⟨h.wellFounded, ?_, hle, ?_⟩
  · obtain ⟨visits, hmem, hmap, hn⟩ := h.exists_visits (.first place e)
    refine ⟨visits, hmem, ?_, ?_⟩
    · rw [hmap, List.range_eq_range']
      rfl
    · rw [hn]
      exact Nat.zero_add _
  · rw [h.isTooDeep_iff]
    refine exists_congr fun v => and_congr_right fun hv => or_congr_left ?_
    exact and_congr_right fun _ => and_congr_left fun _ =>
      ⟨fun hge => Nat.le_antisymm (hle v hv) hge, fun heq => heq.ge⟩

/-- A function that returns itself is called until it may not be called any more, and then
    functions are nested too deeply. -/
theorem Visit.AtFunctions.calls_of_itself {Parts : Visit F C → Visit F C → Prop}
    {outcome : Visit F C → Result α × Tally F} (h : AtFunctions config call actor Parts outcome)
    {fn : F} {name : String} (hself : call fn actor = .ok (.expr (.function fn name))) (place : C)
    (remaining : Nat) : ∀ called t description, called.length + remaining = config.maxFunctionDepth →
      config.Admits (t.nodes + (remaining + 1)) →
      let o := outcome ⟨called, place, t, .function fn description⟩
      (∃ shown, o.1 = .error (.depthExceeded shown config.maxFunctionDepth)) ∧
        o.2.calls = List.replicate remaining fn ++ t.calls := by
  induction remaining with
  | zero =>
    intro called t description hc hadm
    rw [h.tooDeep hadm (Nat.le_of_eq hc.symm)]
    exact ⟨⟨description, rfl⟩, rfl⟩
  | succ remaining ih =>
    intro called t description hc hadm
    obtain ⟨next, ho, hnext⟩ : ∃ next : Expr F → Run F α,
        outcome ⟨called, place, t, .function fn description⟩ =
          (Run.expand call actor called.length fn description >>= next).outcomeFrom t.charged ∧
        ∀ e t', (next e).outcomeFrom t' = outcome ⟨called ++ [fn], place, t', e⟩ :=
      h.expands (hadm.mono (by omega)) (by omega)
    let t' : Tally F :=
      { t.charged with events := .expanded fn description (called.length + 1) :: t.events }
    have hx : (Run.expand call actor called.length fn description).outcomeFrom t.charged =
        (.ok (.function fn name), t') := by
      rw [Run.outcomeFrom_expand, hself]
      rfl
    rw [ho, Run.outcomeFrom_bind_of_ok hx, hnext]
    obtain ⟨hr, hcalls⟩ := ih (called ++ [fn]) t' name
      (by rw [List.length_append, List.length_singleton]; omega)
      (hadm.mono (by simp only [t', Tally.charged]; omega))
    refine ⟨hr, hcalls.trans ?_⟩
    rw [List.replicate_succ', List.append_assoc]
    rfl

/-! ## Rules -/

section

variable {d : Declarations} {resources : Value} {r : Rule F} {e : Expr F}

/-- Deciding a rule is visiting its tree. -/
theorem Rule.evaluate_outcome [CharacterNames] (he : r.toExpr = .ok e) :
    (r.evaluate config call actor resources).outcome =
      Visit.decide config call actor (.first (resources, []) e) := by
  rw [Rule.evaluate, he]
  rfl

/-- Compiling a rule is visiting its tree. -/
theorem Rule.compile_outcome (he : r.toExpr = .ok e) :
    (r.compile config call d actor).outcome = Visit.compile config call d actor (.first [] e) := by
  rw [Rule.compile, he]
  rfl

/-- What becomes of a function that returns itself. -/
def Run.EndsCalling (config : Config) (fn : F) (run : Run F α) : Prop :=
  (∃ shown, run.result = .error (.depthExceeded shown config.maxFunctionDepth)) ∧
    run.outcome.2.calls = List.replicate config.maxFunctionDepth fn

theorem Rule.evaluate_endsCalling [CharacterNames] {fn : F} {description name : String}
    (he : r.toExpr = .ok (.function fn description))
    (hself : call fn actor = .ok (.expr (.function fn name)))
    (hadm : config.Admits (config.maxFunctionDepth + 1)) :
    (r.evaluate config call actor resources).EndsCalling config fn := by
  rw [Run.EndsCalling, Run.result, Rule.evaluate_outcome he]
  obtain ⟨hr, hcalls⟩ := (decides_atFunctions config call actor).calls_of_itself hself
    (resources, []) config.maxFunctionDepth [] {} description (Nat.zero_add _) (by simpa using hadm)
  exact ⟨hr, hcalls.trans (List.append_nil _)⟩

theorem Rule.compile_endsCalling {fn : F} {description name : String}
    (he : r.toExpr = .ok (.function fn description))
    (hself : call fn actor = .ok (.expr (.function fn name)))
    (hadm : config.Admits (config.maxFunctionDepth + 1)) :
    (r.compile config call d actor).EndsCalling config fn := by
  rw [Run.EndsCalling, Run.result, Rule.compile_outcome he]
  obtain ⟨hr, hcalls⟩ := (compiles_atFunctions config call d actor).calls_of_itself hself
    [] config.maxFunctionDepth [] {} description (Nat.zero_add _) (by simpa using hadm)
  exact ⟨hr, hcalls.trans (List.append_nil _)⟩

/-- **Functions are called to a limited depth only**, whatever they return and whether a rule is
    decided or compiled; a function that returns itself is called as often as that depth says. -/
theorem Rule.calls_limited [CharacterNames] (config : Config) (call : Meaning F) (d : Declarations)
    (actor resources : Value) {r : Rule F} {e : Expr F} (he : r.toExpr = .ok e) :
    Visit.CallsLimited config call actor (Visit.Decides config call actor)
        (.first (resources, []) e) (r.evaluate config call actor resources).outcome ∧
      Visit.CallsLimited config call actor (Visit.Compiles config call d actor)
        (.first [] e) (r.compile config call d actor).outcome ∧
      ∀ fn description name, e = .function fn description →
        call fn actor = .ok (.expr (.function fn name)) →
        config.Admits (config.maxFunctionDepth + 1) →
        (r.evaluate config call actor resources).EndsCalling config fn ∧
          (r.compile config call d actor).EndsCalling config fn := by
  refine ⟨?_, ?_, ?_⟩
  · rw [Rule.evaluate_outcome he]
    exact (decides_traversal config call actor).callsLimited _ e
  · rw [Rule.compile_outcome he]
    exact (compiles_traversal config call d actor).callsLimited _ e
  · rintro fn description name rfl hself hadm
    exact ⟨Rule.evaluate_endsCalling he hself hadm, Rule.compile_endsCalling he hself hadm⟩

end

section

attribute [local instance] CharacterNames.empty

/-- A function that returns itself is called twice where two calls may be nested, and then a visit
    of it with two calls on the way is what is wrong. -/
theorem Rule.calls_limited_of_itself :
    let config : Config := { maxFunctionDepth := 2 }
    let call : Meaning Unit := fun _ _ => .ok (.expr (.function () "again"))
    let r : Rule Unit := .function () "again"
    (r.evaluate config call .null .null).EndsCalling config () ∧
      (r.compile config call itemTables .null).EndsCalling config () ∧
      ∃ v, ReflTransGen (Visit.Decides config call .null)
          (.first (.null, []) (.function () "again")) v ∧
        v.called = [(), ()] ∧ ∃ fn description, v.node = .function fn description := by
  intro config call r
  have hadm : ∀ n, config.Admits n := fun n limit hl => by cases hl
  obtain ⟨hd, -, hself⟩ := Rule.calls_limited config call itemTables .null .null (r := r)
    (e := .function () "again") rfl
  obtain ⟨he, hc⟩ := hself () "again" "again" rfl rfl (hadm _)
  refine ⟨he, hc, ?_⟩
  obtain ⟨⟨shown, hr⟩, -⟩ := he
  obtain ⟨v, hv, ⟨hnode, hlen, -⟩ | ⟨⟨_, _, _, _, herr, _⟩, _⟩⟩ :=
    hd.tooDeep_iff.1 ⟨_, hr, rfl⟩
  · exact ⟨v, hv, List.eq_replicate_iff.2 ⟨hlen, fun _ _ => rfl⟩, hnode⟩
  · cases herr

end

end Clearance
