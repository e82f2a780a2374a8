/-
  The visits of a run.

  A run visits a node of a rule, with some functions called on the way to it, and from there
  further nodes: parts of the node, or what a function returns that is called at it.

  * `Visit` is a visit of a node, from a tally on;
  * `Visit.AtFunctions` says what is done at function nodes;
  * `Traversal` says what a way of visiting must respect: each visit leads to smaller ones, one
    after the other, and what goes wrong at one of them goes wrong at the visit that led to it;
  * `Traversal.wellFounded`: no visit leads to further visits without end;
  * `Traversal.exists_visits`: all visits of a run, in the order in which they are charged;
  * `Traversal.called_le`: no more functions are called on the way than may be;
  * `Traversal.error_of_reaches`: what goes wrong at a visit goes wrong from the start on;
  * `Traversal.isTooDeep_iff`: functions are nested too deeply iff a function node is visited
    with that many functions called on the way, or a function says so itself.
-/
import Mathlib.Data.Prod.Lex
import Mathlib.Logic.Relation
import Clearance.Proofs.Limits.Answers

namespace Clearance

variable {F C α β γ : Type} {config : Config} {call : Meaning F} {actor : Value}

theorem Expr.size_lt_junction (kind : Junction) {rules : List (Expr F)} {e : Expr F}
    (h : e ∈ rules) : e.size < (Expr.junction kind rules).size := by
  have hle : e.size ≤ Expr.sizeAll rules := by
    induction rules with
    | nil => cases h
    | cons e' rest ih =>
      rw [Expr.sizeAll]
      rcases List.mem_cons.1 h with rfl | h
      · exact Nat.le_add_right _ _
      · exact (ih h).trans (Nat.le_add_left _ _)
  exact Nat.lt_succ_of_le hle

/-- The expansions that remain where functions may still be called, and those after one call. -/
theorem exists_remaining {called : List F} {depth : Nat} (h : called.length < depth) (fn : F) :
    ∃ remaining, depth - called.length = remaining + 1 ∧
      depth - (remaining + 1) = called.length ∧ depth - (called ++ [fn]).length = remaining := by
  obtain ⟨remaining, rfl⟩ := Nat.exists_eq_add_of_lt h
  rw [List.length_append, List.length_singleton]
  exact ⟨remaining, by omega, by omega, by omega⟩

/-! ## Steps of a run -/

/-- A tally with one more node charged. -/
def Tally.charged (t : Tally F) : Tally F := { t with nodes := t.nodes + 1 }

/-- A step that does not fail for the depth of functions. -/
theorem Result.FailsOnly.not_isTooDeep {r : Result α}
    (h : r.FailsOnly fun err => err.category? ≠ some .functionDepthExceeded) : ¬ r.IsTooDeep :=
  fun ⟨err, he, hc⟩ => h err he hc

theorem Result.not_isTooDeep_ok (a : α) : ¬ Result.IsTooDeep (.ok a) :=
  fun ⟨_, he, _⟩ => nomatch he

namespace Run

/-- A run that starts with a charge for which there is room. -/
theorem outcomeFrom_charged {t : Tally F} (h : config.Admits (t.nodes + 1)) (run : Run F α) :
    (do Run.charge config; run).outcomeFrom t = run.outcomeFrom t.charged :=
  outcomeFrom_bind_of_ok (outcomeFrom_charge_admitted h)

/-- A run that starts with a charge for which there is no room. -/
theorem outcomeFrom_refused {t : Tally F} (h : ¬ config.Admits (t.nodes + 1)) (run : Run F α) :
    ∃ limit, (do Run.charge config; run).outcomeFrom t = (.error (.budgetExceeded limit), t.charged) := by
  simp only [Config.Admits, not_forall, Nat.not_le] at h
  obtain ⟨limit, hl, hlt⟩ := h
  refine ⟨limit, outcomeFrom_bind_of_error ?_⟩
  rw [outcomeFrom_charge, hl]
  simp [hlt, Tally.charged]

theorem outcomeFrom_map (run : Run F α) (f : α → β) (t : Tally F) :
    (do return f (← run)).outcomeFrom t = ((run.outcomeFrom t).1.map f, (run.outcomeFrom t).2) := by
  rcases h : run.outcomeFrom t with ⟨err | a, t'⟩
  · exact outcomeFrom_bind_of_error h
  · exact outcomeFrom_bind_of_ok h

theorem outcomeFrom_expand (call : Meaning F) (actor : Value) (depth : Nat) (fn : F)
    (description : String) (t : Tally F) :
    (expand call actor depth fn description).outcomeFrom t =
      (call fn actor >>= resultExpr description,
        { t with events := .expanded fn description (depth + 1) :: t.events }) := by
  have hr : (record (.expanded fn description (depth + 1)) : Run F Unit).outcomeFrom t =
      (.ok (), { t with events := .expanded fn description (depth + 1) :: t.events }) := rfl
  rw [expand, outcomeFrom_bind_of_ok hr]
  cases h : call fn actor with
  | error err => rfl
  | ok rule => exact outcomeFrom_ofResult _ _

end Run

/-! ## Visits -/

/-- A visit of a node. -/
structure Visit (F C : Type) where
  /-- The functions that were called on the way to the node, the outermost first. -/
  called : List F
  /-- What else the visit depends on. -/
  place : C
  /-- What was done before. -/
  tally : Tally F
  node : Expr F

namespace Visit

/-- The first visit of a run. -/
def first (place : C) (e : Expr F) : Visit F C := ⟨[], place, {}, e⟩

/-- A function node is visited with so many functions called on the way that it may not be
    called, and the limit on the nodes does not forbid the visit. -/
def IsTooDeep (config : Config) (v : Visit F C) : Prop :=
  (∃ fn description, v.node = .function fn description) ∧
    config.maxFunctionDepth ≤ v.called.length ∧ config.Admits (v.tally.nodes + 1)

/-- A function may be called and says itself that functions are nested too deeply. -/
def SaysTooDeep (config : Config) (call : Meaning F) (actor : Value) (v : Visit F C) : Prop :=
  (∃ fn description, v.node = .function fn description ∧ (call fn actor).IsTooDeep) ∧
    v.called.length < config.maxFunctionDepth ∧ config.Admits (v.tally.nodes + 1)

/-- How much a visit may still lead to: the functions that may still be called on the way, and
    for the same number of these the size of the node. -/
def measure (config : Config) (v : Visit F C) : ℕ ×ₗ ℕ :=
  toLex (config.maxFunctionDepth - v.called.length, v.node.size)

/-- Visits are done one after the other, each from the number of nodes on that the one before has
    charged, and then something comes out: the error of the last visit, or else no error that
    functions are nested too deeply. -/
inductive InTurn (outcome : Visit F C → Result α × Tally F) :
    ℕ → List (Visit F C) → Result β × Tally F → Prop
  | done {n o} : ¬ o.1.IsTooDeep → o.2.nodes = n → InTurn outcome n [] o
  | fails {v err o} : (outcome v).1 = .error err → o.1 = .error err →
      o.2.nodes = (outcome v).2.nodes → InTurn outcome v.tally.nodes [v] o
  | next {v a vs o} : (outcome v).1 = .ok a → InTurn outcome (outcome v).2.nodes vs o →
      InTurn outcome v.tally.nodes (v :: vs) o

namespace InTurn

variable {outcome : Visit F C → Result α × Tally F} {n : ℕ} {vs : List (Visit F C)}
  {o : Result β × Tally F}

/-- What goes wrong at a visit goes wrong altogether. -/
theorem error (h : InTurn outcome n vs o) {v : Visit F C} (hv : v ∈ vs) {err : Error}
    (he : (outcome v).1 = .error err) : o.1 = .error err := by
  induction h with
  | done => cases hv
  | fails hw ho _ =>
    rw [List.mem_singleton] at hv
    subst hv
    rw [he] at hw
    cases hw
    exact ho
  | next hok _ ih =>
    rcases List.mem_cons.1 hv with rfl | hv
    · rw [he] at hok
      cases hok
    · exact ih hv

/-- If functions are nested too deeply, they are so at one of the visits. -/
theorem exists_tooDeep (h : InTurn outcome n vs o) (ho : o.1.IsTooDeep) :
    ∃ v ∈ vs, (outcome v).1.IsTooDeep := by
  induction h with
  | done hn _ => exact absurd ho hn
  | @fails v err o hv he _ =>
    obtain ⟨err', he', hc⟩ := ho
    rw [he] at he'
    cases he'
    exact ⟨v, List.mem_singleton_self v, err, hv, hc⟩
  | next _ _ ih =>
    obtain ⟨v, hv, hd⟩ := ih ho
    exact ⟨v, List.mem_cons_of_mem _ hv, hd⟩

/-- A visit, and nothing else. -/
theorem single (outcome : Visit F C → Result α × Tally F) (v : Visit F C) :
    InTurn outcome v.tally.nodes [v] (outcome v) := by
  cases h : (outcome v).1 with
  | error err => exact .fails h h rfl
  | ok a =>
    refine .next h (.done ?_ rfl)
    rw [h]
    exact Result.not_isTooDeep_ok a

/-- Nothing changes if something is made of what comes out. -/
theorem map (h : InTurn outcome n vs o) (f : β → γ) : InTurn outcome n vs (o.1.map f, o.2) := by
  induction h with
  | @done n o hd hn =>
    refine .done (fun ⟨err, he, hc⟩ => hd ⟨err, ?_, hc⟩) hn
    cases h : o.1 with
    | error err' => rw [h] at he; cases he; rfl
    | ok b => rw [h] at he; cases he
  | @fails v err o hv ho hn => exact .fails hv (by rw [ho]; rfl) hn
  | next hv _ ih => exact .next hv ih

end InTurn

/-- A part of a list with one more item in front begins with the item, or is one of the rest. -/
theorem exists_split_cons {ι : Type} {x : ι} {xs : List ι} {P : List ι → ι → Prop} :
    (∃ before y after, x :: xs = before ++ y :: after ∧ P before y) ↔
      P [] x ∨ ∃ before y after, xs = before ++ y :: after ∧ P (x :: before) y := by
  constructor
  · rintro ⟨before, y, after, h, hp⟩
    cases before with
    | nil =>
      obtain ⟨rfl, -⟩ := List.cons.inj h
      exact .inl hp
    | cons z before =>
      obtain ⟨rfl, hxs⟩ := List.cons.inj h
      exact .inr ⟨before, y, after, hxs, hp⟩
  · rintro (hp | ⟨before, y, after, rfl, hp⟩)
    · exact ⟨[], x, xs, rfl, hp⟩
    · exact ⟨x :: before, y, after, rfl, hp⟩

/-- A loop that makes a visit for each of some items, until it is settled or a visit fails:
    `opens s xs t t'` says that the items `xs` leave the loop open, in the tally `t'`, where it
    starts in the state `s` and the tally `t`. -/
structure Loop {ι σ : Type} (outcome : Visit F C → Result α × Tally F)
    (visit : ι → Tally F → Visit F C) (loop : σ → List ι → Tally F → Result β × Tally F)
    (opens : σ → List ι → Tally F → Tally F → Prop) : Prop where
  tally : ∀ x t, (visit x t).tally = t
  nil : ∀ s t, ∃ b, loop s [] t = (.ok b, t)
  opens_nil : ∀ {s t t'}, opens s [] t t' ↔ t' = t
  fails : ∀ {s x t err}, (outcome (visit x t)).1 = .error err → ∀ xs,
    loop s (x :: xs) t = (.error err, (outcome (visit x t)).2) ∧ ∀ t', ¬ opens s (x :: xs) t t'
  next : ∀ {s x t a}, (outcome (visit x t)).1 = .ok a →
    (∀ xs, (∃ b, loop s (x :: xs) t = (.ok b, (outcome (visit x t)).2)) ∧
      ∀ t', ¬ opens s (x :: xs) t t') ∨
    ∃ (s' : σ) (f : β → β), ∀ xs, loop s (x :: xs) t =
        ((loop s' xs (outcome (visit x t)).2).1.map f, (loop s' xs (outcome (visit x t)).2).2) ∧
      ∀ t', opens s (x :: xs) t t' ↔ opens s' xs (outcome (visit x t)).2 t'

/-- A loop makes its visits one after the other, each for an item before which it is open. -/
theorem Loop.inTurn {ι σ : Type} {outcome : Visit F C → Result α × Tally F}
    {visit : ι → Tally F → Visit F C} {loop : σ → List ι → Tally F → Result β × Tally F}
    {opens : σ → List ι → Tally F → Tally F → Prop} (h : Loop outcome visit loop opens)
    (xs : List ι) : ∀ s t, ∃ ws,
      (∀ w, w ∈ ws ↔ ∃ before x after, xs = before ++ x :: after ∧
        ∃ t', opens s before t t' ∧ w = visit x t') ∧
      InTurn outcome t.nodes ws (loop s xs t) := by
  induction xs with
  | nil =>
    intro s t
    obtain ⟨b, hb⟩ := h.nil s t
    exact ⟨[], by simp, by rw [hb]; exact .done (Result.not_isTooDeep_ok b) rfl⟩
  | cons x xs ih =>
    intro s t
    have hindex : (visit x t).tally.nodes = t.nodes := by rw [h.tally]
    have hfirst : ∀ w, (∃ t', opens s [] t t' ∧ w = visit x t') ↔ w = visit x t := by
      simp [h.opens_nil]
    have hsplit : ∀ w, (∃ before y after, x :: xs = before ++ y :: after ∧
        ∃ t', opens s before t t' ∧ w = visit y t') ↔ w = visit x t ∨
        ∃ before y after, xs = before ++ y :: after ∧
          ∃ t', opens s (x :: before) t t' ∧ w = visit y t' := by
      intro w
      rw [exists_split_cons, hfirst]
    simp only [hsplit, ← hindex]
    cases ho : (outcome (visit x t)).1 with
    | error err =>
      have hfails := h.fails (s := s) ho
      refine ⟨[visit x t], fun w => by simp [(hfails _).2], ?_⟩
      rw [(hfails xs).1]
      exact .fails ho rfl rfl
    | ok a =>
      rcases h.next (s := s) ho with hend | ⟨s', f, hnext⟩
      · obtain ⟨⟨b, hb⟩, -⟩ := hend xs
        refine ⟨[visit x t], fun w => by simp [(hend _).2], ?_⟩
        rw [hb]
        exact .next ho (.done (Result.not_isTooDeep_ok b) rfl)
      · obtain ⟨ws, hws, hturn⟩ := ih s' (outcome (visit x t)).2
        refine ⟨visit x t :: ws, fun w => by simp [hws, (hnext _).2], ?_⟩
        rw [(hnext xs).1]
        exact .next ho (hturn.map f)

section

variable {Parts : Visit F C → Visit F C → Prop} {outcome : Visit F C → Result α × Tally F}

/-- A visit that leads to no other. -/
theorem inTurn_none {n : ℕ} {v : Visit F C} (hp : ∀ w, ¬ Parts v w)
    (hd : ¬ (outcome v).1.IsTooDeep) (hn : (outcome v).2.nodes = n) :
    ∃ ws, (∀ w, w ∈ ws ↔ Parts v w) ∧ InTurn outcome n ws (outcome v) :=
  ⟨[], fun w => iff_of_false List.not_mem_nil (hp w), .done hd hn⟩

/-- A visit for whose node there is no room. -/
theorem inTurn_refused {v : Visit F C} (hp : ∀ w, ¬ Parts v w)
    (ho : ∃ limit, outcome v = (.error (.budgetExceeded limit), v.tally.charged)) :
    ∃ ws, (∀ w, w ∈ ws ↔ Parts v w) ∧ InTurn outcome (v.tally.nodes + 1) ws (outcome v) := by
  obtain ⟨limit, ho⟩ := ho
  refine inTurn_none hp ?_ (by rw [ho]; rfl)
  rw [ho]
  rintro ⟨_, ⟨⟩, hc⟩
  cases hc

/-- A visit that leads to one other and makes something of what comes out there. -/
theorem inTurn_one {v w : Visit F C} (hp : ∀ u, Parts v u ↔ u = w) (f : α → α)
    (ho : outcome v = ((outcome w).1.map f, (outcome w).2)) :
    ∃ ws, (∀ u, u ∈ ws ↔ Parts v u) ∧ InTurn outcome w.tally.nodes ws (outcome v) := by
  refine ⟨[w], fun u => by rw [List.mem_singleton, hp], ?_⟩
  rw [ho]
  exact (InTurn.single outcome w).map f

/-- What a way of visiting does at function nodes: a function that may be called is expanded, and
    what it returns is visited. -/
structure AtFunctions (config : Config) (call : Meaning F) (actor : Value)
    (Parts : Visit F C → Visit F C → Prop) (outcome : Visit F C → Result α × Tally F) : Prop where
  parts : ∀ {called place t fn description w},
    Parts ⟨called, place, t, .function fn description⟩ w ↔
      config.Admits (t.nodes + 1) ∧ called.length < config.maxFunctionDepth ∧ ∃ e t',
        (Run.expand call actor called.length fn description).outcomeFrom t.charged = (.ok e, t') ∧
        w = ⟨called ++ [fn], place, t', e⟩
  tooDeep : ∀ {called place t fn description}, config.Admits (t.nodes + 1) →
    config.maxFunctionDepth ≤ called.length →
      outcome ⟨called, place, t, .function fn description⟩ =
        (.error (.depthExceeded description config.maxFunctionDepth), t.charged)
  expands : ∀ {called place t fn description}, config.Admits (t.nodes + 1) →
    called.length < config.maxFunctionDepth → ∃ next : Expr F → Run F α,
      outcome ⟨called, place, t, .function fn description⟩ =
        (Run.expand call actor called.length fn description >>= next).outcomeFrom t.charged ∧
      ∀ e t', (next e).outcomeFrom t' = outcome ⟨called ++ [fn], place, t', e⟩

/-- A function that may not be called, or says so itself, ends the visit. -/
theorem AtFunctions.stops (h : AtFunctions config call actor Parts outcome) {v : Visit F C}
    (hv : v.IsTooDeep config ∨ v.SaysTooDeep config call actor) :
    (∀ w, ¬ Parts v w) ∧ (outcome v).1.IsTooDeep ∧ (outcome v).2.nodes = v.tally.nodes + 1 := by
  obtain ⟨called, place, t, e⟩ := v
  obtain ⟨⟨fn, description, rfl⟩, hle, hadm⟩ | ⟨⟨fn, description, rfl, err, herr, hc⟩, hlt, hadm⟩ :=
    hv
  · refine ⟨fun w hw => absurd (h.parts.1 hw).2.1 (Nat.not_lt.2 hle), ?_⟩
    rw [h.tooDeep hadm hle]
    exact ⟨⟨_, rfl, rfl⟩, rfl⟩
  · have hx := Run.outcomeFrom_expand call actor called.length fn description t.charged
    rw [herr] at hx
    refine ⟨fun w hw => ?_, ?_⟩
    · obtain ⟨-, -, e, t', hok, -⟩ := h.parts.1 hw
      rw [hx] at hok
      cases hok
    · obtain ⟨next, ho, -⟩ := h.expands hadm hlt
      rw [ho, Run.outcomeFrom_bind_of_error hx]
      exact ⟨⟨err, rfl, hc⟩, rfl⟩

/-- Any other function that is visited is called, and a visit of what it returns follows. -/
theorem AtFunctions.inTurn (h : AtFunctions config call actor Parts outcome) {called : List F}
    {place : C} {t : Tally F} {fn : F} {description : String} (hadm : config.Admits (t.nodes + 1))
    (hstop : ¬ (IsTooDeep config ⟨called, place, t, .function fn description⟩ ∨
      SaysTooDeep config call actor ⟨called, place, t, .function fn description⟩)) :
    ∃ ws, (∀ w, w ∈ ws ↔ Parts ⟨called, place, t, .function fn description⟩ w) ∧
      InTurn outcome (t.nodes + 1) ws (outcome ⟨called, place, t, .function fn description⟩) := by
  have hlt : called.length < config.maxFunctionDepth := by
    by_contra hle
    exact hstop (.inl ⟨⟨fn, description, rfl⟩, Nat.not_lt.1 hle, hadm⟩)
  have hcall : ¬ (call fn actor).IsTooDeep := fun hsays =>
    hstop (.inr ⟨⟨fn, description, rfl, hsays⟩, hlt, hadm⟩)
  have hparts : ∀ w, Parts ⟨called, place, t, .function fn description⟩ w ↔ ∃ e t',
      (Run.expand call actor called.length fn description).outcomeFrom t.charged = (.ok e, t') ∧
      w = ⟨called ++ [fn], place, t', e⟩ := fun w => by simp [h.parts, hadm, hlt]
  obtain ⟨next, ho, hnext⟩ : ∃ next : Expr F → Run F α,
      outcome ⟨called, place, t, .function fn description⟩ =
        (Run.expand call actor called.length fn description >>= next).outcomeFrom t.charged ∧
      ∀ e t', (next e).outcomeFrom t' = outcome ⟨called ++ [fn], place, t', e⟩ :=
    h.expands hadm hlt
  have hx := Run.outcomeFrom_expand call actor called.length fn description t.charged
  cases hr : call fn actor >>= Run.resultExpr description with
  | error err =>
    rw [hr] at hx
    rw [Run.outcomeFrom_bind_of_error hx] at ho
    refine inTurn_none (fun w hw => ?_) ?_ (by rw [ho]; rfl)
    · obtain ⟨e, t', hok, -⟩ := (hparts w).1 hw
      rw [hx] at hok
      cases hok
    · rw [ho]
      rintro ⟨_, ⟨⟩, hc⟩
      rcases Result.bind_eq_error.1 hr with hr | ⟨rule, -, hr⟩
      · exact hcall ⟨err, hr, hc⟩
      · unfold Run.resultExpr at hr
        split at hr <;> cases hr
        cases hc
  | ok e =>
    obtain ⟨t', hx, hn⟩ : ∃ t', (Run.expand call actor called.length fn description).outcomeFrom
        t.charged = (.ok e, t') ∧ t'.nodes = t.nodes + 1 := ⟨_, hx.trans (by rw [hr]), rfl⟩
    rw [Run.outcomeFrom_bind_of_ok hx, hnext] at ho
    rw [← hn]
    refine inTurn_one (w := ⟨called ++ [fn], place, t', e⟩) (fun u => ?_) id ?_
    · simp [hparts, hx]
    · rw [ho, Except.map_id]
      rfl

end

end Visit

/-! ## Ways of visiting -/

/-- What a way of visiting respects, where the visits that a visit leads to are its `Parts` and
    `outcome` is what becomes of a visit. -/
structure Traversal (config : Config) (call : Meaning F) (actor : Value)
    (Parts : Visit F C → Visit F C → Prop) (outcome : Visit F C → Result α × Tally F) : Prop where
  /-- A visit leads to parts of its node, or to what a function returns that may be called. -/
  smaller : ∀ {v w}, Parts v w → w.called = v.called ∧ w.node.size < v.node.size ∨
    v.called.length < config.maxFunctionDepth ∧
      ∃ fn description, v.node = .function fn description ∧ w.called = v.called ++ [fn]
  /-- A function that may not be called, or says so itself, ends the visit. -/
  stops : ∀ {v}, v.IsTooDeep config ∨ v.SaysTooDeep config call actor →
    (∀ w, ¬ Parts v w) ∧ (outcome v).1.IsTooDeep ∧ (outcome v).2.nodes = v.tally.nodes + 1
  /-- All other visits charge their node and then lead to some visits, one after the other. -/
  inTurn : ∀ v, ¬ (v.IsTooDeep config ∨ v.SaysTooDeep config call actor) →
    ∃ ws, (∀ w, w ∈ ws ↔ Parts v w) ∧ Visit.InTurn outcome (v.tally.nodes + 1) ws (outcome v)

namespace Traversal

variable {Parts : Visit F C → Visit F C → Prop} {outcome : Visit F C → Result α × Tally F}

open Relation

theorem measure_lt (h : Traversal config call actor Parts outcome) {v w : Visit F C}
    (hp : Parts v w) : w.measure config < v.measure config := by
  unfold Visit.measure
  rw [Prod.Lex.toLex_lt_toLex]
  rcases h.smaller hp with ⟨hc, hs⟩ | ⟨hlt, fn, description, -, hc⟩
  · exact .inr ⟨by rw [hc], hs⟩
  · refine .inl ?_
    show config.maxFunctionDepth - w.called.length < config.maxFunctionDepth - v.called.length
    rw [hc, List.length_append, List.length_singleton]
    omega

/-- **Visits end**: none leads to further visits without end. -/
theorem wellFounded (h : Traversal config call actor Parts outcome) :
    WellFounded fun w v => Parts v w :=
  Subrelation.wf (fun hp => h.measure_lt hp) (InvImage.wf (Visit.measure config) wellFounded_lt)

/-- On the way to no visit more functions are called than may be. -/
theorem called_le (h : Traversal config call actor Parts outcome) {v w : Visit F C}
    (hv : v.called.length ≤ config.maxFunctionDepth) (hr : ReflTransGen Parts v w) :
    w.called.length ≤ config.maxFunctionDepth := by
  induction hr with
  | refl => exact hv
  | tail _ hp ih =>
    rcases h.smaller hp with ⟨hc, -⟩ | ⟨hlt, fn, description, -, hc⟩
    · rw [hc]
      exact ih
    · rw [hc, List.length_append, List.length_singleton]
      exact hlt

/-- The visits that a visit leads to, in order: each finds one node charged more than the one
    before it. -/
theorem exists_visits (h : Traversal config call actor Parts outcome) (v : Visit F C) :
    ∃ visits : List (Visit F C), (∀ w, w ∈ visits ↔ ReflTransGen Parts v w) ∧
      visits.map (·.tally.nodes) = List.range' v.tally.nodes visits.length ∧
      (outcome v).2.nodes = v.tally.nodes + visits.length := by
  induction v using h.wellFounded.induction with
  | h v ih =>
  -- The visits below a visit, from those below each of the visits that it leads to.
  have hbelow : ∀ {n ws} {o : Result α × Tally F}, Visit.InTurn outcome n ws o →
      (∀ w ∈ ws, Parts v w) → ∃ visits : List (Visit F C),
        (∀ u, u ∈ visits ↔ ∃ w ∈ ws, ReflTransGen Parts w u) ∧
        visits.map (·.tally.nodes) = List.range' n visits.length ∧
        o.2.nodes = n + visits.length := by
    intro n ws o hw hp
    induction hw with
    | done _ hn => exact ⟨[], by simp [hn]⟩
    | @fails w err o _ _ ho =>
      obtain ⟨visits, hmem, hmap, hn⟩ := ih w (hp w (by simp))
      exact ⟨visits, by simpa using hmem, hmap, ho.trans hn⟩
    | @next w a ws o _ _ ihw =>
      obtain ⟨visits, hmem, hmap, hn⟩ := ih w (hp w (by simp))
      obtain ⟨visits', hmem', hmap', hn'⟩ := ihw fun w hw => hp w (by simp [hw])
      refine ⟨visits ++ visits', fun u => by simp [hmem, hmem'], ?_, ?_⟩
      · rw [List.map_append, hmap, hmap', hn, List.length_append, List.range'_append_1]
      · rw [hn', hn, List.length_append, Nat.add_assoc]
  have hcons : ∀ {visits : List (Visit F C)}, (∀ u, u ∈ visits ↔ ∃ w, Parts v w ∧
      ReflTransGen Parts w u) → ∀ u, u ∈ v :: visits ↔ ReflTransGen Parts v u := by
    intro visits hmem u
    rw [List.mem_cons, hmem, ReflTransGen.cases_head_iff, eq_comm]
  by_cases hstop : v.IsTooDeep config ∨ v.SaysTooDeep config call actor
  · obtain ⟨hnone, -, hn⟩ := h.stops hstop
    exact ⟨[v], hcons (by simp [hnone]), rfl, hn⟩
  · obtain ⟨ws, hws, hw⟩ := h.inTurn v hstop
    obtain ⟨visits, hmem, hmap, hn⟩ := hbelow hw fun w hm => (hws w).1 hm
    refine ⟨v :: visits, hcons fun u => by simp [hmem, hws], ?_, ?_⟩
    · rw [List.map_cons, hmap, List.length_cons, List.range'_succ]
    · rw [hn, List.length_cons]
      omega

/-- What goes wrong at a visit goes wrong at all visits that led to it. -/
theorem error_of_reaches (h : Traversal config call actor Parts outcome) {v w : Visit F C}
    (hr : ReflTransGen Parts v w) {err : Error} (he : (outcome w).1 = .error err) :
    (outcome v).1 = .error err := by
  induction hr using ReflTransGen.head_induction_on with
  | refl => exact he
  | @head v u hp _ ih =>
    by_cases hstop : v.IsTooDeep config ∨ v.SaysTooDeep config call actor
    · exact absurd hp ((h.stops hstop).1 u)
    · obtain ⟨ws, hws, hturn⟩ := h.inTurn v hstop
      exact hturn.error ((hws u).2 hp) ih

/-- **Functions are nested too deeply** iff a function node is visited that may not be called, or
    a function that is called says so itself. -/
theorem isTooDeep_iff (h : Traversal config call actor Parts outcome) (v : Visit F C) :
    (outcome v).1.IsTooDeep ↔ ∃ w, ReflTransGen Parts v w ∧
      (w.IsTooDeep config ∨ w.SaysTooDeep config call actor) := by
  constructor
  · induction v using h.wellFounded.induction with
    | h v ih =>
    intro hd
    by_cases hstop : v.IsTooDeep config ∨ v.SaysTooDeep config call actor
    · exact ⟨v, .refl, hstop⟩
    · obtain ⟨ws, hws, hw⟩ := h.inTurn v hstop
      obtain ⟨w, hm, hd⟩ := hw.exists_tooDeep hd
      have hp := (hws w).1 hm
      obtain ⟨u, hu, hs⟩ := ih w hp hd
      exact ⟨u, .head hp hu, hs⟩
  · rintro ⟨w, hr, hs⟩
    obtain ⟨-, ⟨err, he, hc⟩, -⟩ := h.stops hs
    exact ⟨err, h.error_of_reaches hr he, hc⟩

end Traversal

end Clearance
