/-
  What a decision comes to, apart from the limit on the number of nodes.

  * `Run.Follows` says that a run gives a result from any tally, unless the node limit stops
    it; runs that follow results are put together like the results;
  * `Expr.decision` is the decision of a tree without functions, with nothing counted;
  * `countRows_eq_ok`, `Expr.decisionAll_eq_ok`: where nothing fails, neither counting rows nor
    joining decisions depends on when it stops.
-/
import Clearance.Decision.Evaluate
import Clearance.Proofs.Error.Result
import Clearance.Proofs.Rule.Expansion

namespace Clearance

variable {F : Type} {α β : Type}

/-! ## Runs -/

namespace Run

/-- The outcome of a run that goes on with a tally. -/
def outcomeFrom (run : Run F α) (t : Tally F) : Result α × Tally F := ExceptT.run run t

theorem result_eq (run : Run F α) : run.result = (run.outcomeFrom {}).1 := rfl

@[simp] theorem outcomeFrom_pure (a : α) (t : Tally F) :
    (pure a : Run F α).outcomeFrom t = (.ok a, t) := rfl

@[simp] theorem outcomeFrom_throw (e : Error) (t : Tally F) :
    (throw e : Run F α).outcomeFrom t = (.error e, t) := rfl

@[simp] theorem outcomeFrom_ofResult (r : Result α) (t : Tally F) :
    (ofResult r : Run F α).outcomeFrom t = (r, t) := by
  cases r <;> rfl

theorem outcomeFrom_bind (run : Run F α) (f : α → Run F β) (t : Tally F) :
    (run >>= f).outcomeFrom t = match run.outcomeFrom t with
      | (.ok a, t) => (f a).outcomeFrom t
      | (.error e, t) => (.error e, t) := by
  show StateT.bind (ExceptT.run run) (ExceptT.bindCont f) t = _
  unfold outcomeFrom StateT.bind
  rcases h : ExceptT.run run t with ⟨_ | a, t'⟩ <;> rfl

theorem outcomeFrom_bind_of_ok {run : Run F α} {f : α → Run F β} {t t' : Tally F} {a : α}
    (h : run.outcomeFrom t = (.ok a, t')) : (run >>= f).outcomeFrom t = (f a).outcomeFrom t' := by
  rw [outcomeFrom_bind, h]

theorem outcomeFrom_bind_of_error {run : Run F α} {f : α → Run F β} {t t' : Tally F} {err : Error}
    (h : run.outcomeFrom t = (.error err, t')) :
    (run >>= f).outcomeFrom t = (.error err, t') := by
  rw [outcomeFrom_bind, h]

/-- An error ends a sequence of runs. -/
theorem outcomeFrom_bind_error {run : Run F α} {f : α → Run F β} {t : Tally F} {err : Error}
    (h : (run.outcomeFrom t).1 = .error err) : ((run >>= f).outcomeFrom t).1 = .error err := by
  rw [outcomeFrom_bind_of_error (Prod.ext h rfl)]

/-- A sequence of runs that succeeds consists of runs that do. -/
theorem outcomeFrom_bind_ok {run : Run F α} {f : α → Run F β} {t : Tally F} {b : β}
    (h : ((run >>= f).outcomeFrom t).1 = .ok b) :
    ∃ a t', (run.outcomeFrom t).1 = .ok a ∧ ((f a).outcomeFrom t').1 = .ok b := by
  rw [outcomeFrom_bind] at h
  rcases hr : run.outcomeFrom t with ⟨_ | a, t'⟩ <;> rw [hr] at h
  · cases h
  · exact ⟨a, t', rfl, h⟩

theorem outcomeFrom_modify (f : Tally F → Tally F) (t : Tally F) :
    (modify f : Run F Unit).outcomeFrom t = (.ok (), f t) := rfl

theorem outcomeFrom_get (t : Tally F) : (get : Run F (Tally F)).outcomeFrom t = (.ok t, t) := rfl

theorem outcomeFrom_charge (config : Config) (t : Tally F) :
    (charge config : Run F Unit).outcomeFrom t =
      (match config.maxExpressionNodes with
        | some limit =>
          if limit < t.nodes + 1 then .error (.budgetExceeded limit) else .ok ()
        | none => .ok (), { t with nodes := t.nodes + 1 }) := by
  simp only [charge, outcomeFrom_bind, outcomeFrom_modify, outcomeFrom_get]
  rcases config.maxExpressionNodes with _ | limit
  · rfl
  · dsimp only
    split <;> rfl

/-- A run follows a result if it gives this result from any tally, or else is stopped by the
    limit on the number of nodes. -/
def Follows (config : Config) (run : Run F α) (r : Result α) : Prop :=
  ∀ t, (run.outcomeFrom t).1 = r ∨ ∃ limit, config.maxExpressionNodes = some limit ∧
    (run.outcomeFrom t).1 = .error (.budgetExceeded limit)

namespace Follows

variable {config : Config}

theorem pure (a : α) : Follows config (pure a : Run F α) (.ok a) := fun _ => .inl rfl

theorem ofResult (r : Result α) : Follows config (ofResult r : Run F α) r :=
  fun t => .inl (by simp)

theorem record (e : Event F) : Follows config (record e) (.ok ()) := fun _ => .inl rfl

theorem charge : Follows config (charge config : Run F Unit) (.ok ()) := by
  intro t
  rw [outcomeFrom_charge]
  rcases hl : config.maxExpressionNodes with _ | limit
  · exact .inl rfl
  · by_cases h : limit < t.nodes + 1
    · exact .inr ⟨limit, rfl, by simp [h]⟩
    · exact .inl (by simp [h])

theorem bind {run : Run F α} {r : Result α} {f : α → Run F β} {g : α → Result β}
    (hr : Follows config run r) (hf : ∀ a, r = .ok a → Follows config (f a) (g a)) :
    Follows config (run >>= f) (r >>= g) := by
  intro t
  rw [outcomeFrom_bind]
  rcases h : run.outcomeFrom t with ⟨s, t'⟩
  rcases hr t with hs | ⟨limit, hl, hs⟩
  · rw [h] at hs
    dsimp only at hs
    subst hs
    cases s with
    | error e => exact .inl rfl
    | ok a => exact hf a rfl t'
  · rw [h] at hs
    dsimp only at hs
    subst hs
    exact .inr ⟨limit, hl, rfl⟩

/-- Charging a node in front of a run changes nothing that matters. -/
theorem charged {run : Run F α} {r : Result α} (h : Follows config run r) :
    Follows config (do Run.charge config; run) r :=
  bind charge fun _ _ => h

/-- With no limit on the number of nodes, a run gives the result that it follows. -/
theorem result_eq {run : Run F α} {r : Result α} (h : Follows config run r)
    (hl : config.maxExpressionNodes = none) : run.result = r := by
  rcases h {} with h | ⟨limit, hl', -⟩
  · exact h
  · rw [hl] at hl'; cases hl'

/-- A run that succeeds gives what it follows. -/
theorem eq_ok {run : Run F α} {r : Result α} (h : Follows config run r) {t : Tally F} {a : α}
    (ha : (run.outcomeFrom t).1 = .ok a) : r = .ok a := by
  rcases h t with h | ⟨limit, -, h⟩
  · rw [← h, ha]
  · rw [ha] at h; cases h

end Follows

end Run

/-! ## Decisions -/

/-- The value of an actor for a tenant column may be missing, and nothing else goes wrong. -/
theorem lookupTenant_failsOnly (actor : Value) (column space : String) :
    (lookupTenant actor column space).FailsOnly fun err =>
      err.category? = some .missingActorField := by
  unfold lookupTenant
  split
  · exact .ok _
  · split
    · exact .ok _
    · exact .error rfl

mutual

/-- The decision of a tree without functions. -/
def Expr.decision [CharacterNames] (config : Config) (actor resources : Value)
    (opened : List String) :
    Expr Empty → Result Bool
  | .literal value => .ok value
  | .function fn _ => fn.elim
  | .related _ table predicate minCount =>
    if minCount == 0 then .ok true
    else match (resources.field table).rows? with
      | none => .ok false
      | some rows => countRows minCount (fun row => do
          let bound ← bindTable resources table row
          predicate.decision config actor bound (opened ++ [table])) rows
  | .not e => do return !(← e.decision config actor resources opened)
  | .junction kind rules => Expr.decisionAll config actor resources opened kind rules
  | e => evaluateLeaf config actor resources opened e

/-- The decision of a junction of trees without functions. -/
def Expr.decisionAll [CharacterNames] (config : Config) (actor resources : Value)
    (opened : List String) (kind : Junction) : List (Expr Empty) → Result Bool
  | [] => .ok (kind == .and)
  | e :: rest => do
    let b ← e.decision config actor resources opened
    if b == (kind == .and) then Expr.decisionAll config actor resources opened kind rest
    else return b

end

theorem Expr.decision_leaf [CharacterNames] {config : Config} {actor resources : Value}
    {opened : List String} {e : Expr Empty} (h : e.isLeaf = true) :
    e.decision config actor resources opened = evaluateLeaf config actor resources opened e := by
  cases e <;> simp_all [Expr.isLeaf, Expr.decision]

/-- A leaf is put for itself, and decided in the same way. -/
theorem evaluateLeaf_substitute [CharacterNames] (config : Config) (actor resources : Value)
    (opened : List String) {put : F → String → Option (Expr Empty)} {e : Expr F} {t : Expr Empty}
    (he : e.isLeaf = true) (h : e.substitute put = some t) :
    t.isLeaf = true ∧
      evaluateLeaf config actor resources opened t = evaluateLeaf config actor resources opened e := by
  cases e <;> simp_all only [Expr.isLeaf, Expr.substitute, Option.some.injEq, Bool.false_eq_true] <;>
    (subst h; exact ⟨rfl, rfl⟩)

theorem evaluateNode_leaf [CharacterNames] {config : Config} {actor resources : Value}
    {opened : List String} {onFunction : OnFunction F (Value → List String → Run F Bool)}
    {e : Expr F} (h : e.isLeaf = true) :
    evaluateNode config actor onFunction resources opened e = (do
      Run.charge config
      Run.ofResult (evaluateLeaf config actor resources opened e)) := by
  cases e <;> simp_all [Expr.isLeaf, evaluateNode]

/-! ## Decisions that do not fail -/

/-- Where the predicate does not fail, counting until there are enough rows is counting. -/
theorem countRows_eq_ok {p : Value → Result Bool} {f : Value → Bool} {rows : List Value}
    (h : ∀ row ∈ rows, p row = .ok (f row)) :
    ∀ needed, countRows needed p rows = .ok (decide (needed ≤ rows.countP f)) := by
  induction rows with
  | nil => intro needed; cases needed <;> rfl
  | cons row rest ih =>
    intro needed
    have ih := ih fun r hr => h r (List.mem_cons_of_mem _ hr)
    cases needed with
    | zero => simp [countRows, pure, Except.pure]
    | succ n =>
      rw [countRows, h row (by simp)]
      show (if f row then countRows n p rest else countRows (n + 1) p rest) = _
      cases hf : f row
      · rw [if_neg Bool.false_ne_true, ih, List.countP_cons_of_neg (by simp [hf])]
      · rw [if_pos rfl, ih, List.countP_cons_of_pos hf]
        simp

/-- What a junction makes of the truth values of its rules. -/
def Junction.of {α : Type} (kind : Junction) (f : α → Bool) (xs : List α) : Bool :=
  match kind with
  | and => xs.all f
  | or => xs.any f

/-- Where no rule fails, a junction is decided by all of its rules. -/
theorem Expr.decisionAll_eq_ok [CharacterNames] {config : Config} {actor resources : Value}
    {opened : List String} {es : List (Expr Empty)} {f : Expr Empty → Bool}
    (h : ∀ e ∈ es, e.decision config actor resources opened = .ok (f e)) (kind : Junction) :
    Expr.decisionAll config actor resources opened kind es = .ok (kind.of f es) := by
  induction es with
  | nil => cases kind <;> rfl
  | cons e rest ih =>
    have ih := ih fun e he => h e (List.mem_cons_of_mem _ he)
    rw [decisionAll, h e (by simp)]
    show (if (f e == (kind == .and)) = true
      then decisionAll config actor resources opened kind rest else .ok (f e)) = _
    rw [ih]
    cases kind <;> cases hf : f e <;> simp [Junction.of, hf]

end Clearance
