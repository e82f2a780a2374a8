/-
  Rows are never read as a record, and a record is never read as rows.

  * `Value.without` takes a table out of the resources;
  * `Expr.BlindTo`: two resources differ in one table only, and a tree cannot tell: it reads the
    same under its paths on the table and finds no rows wherever it opens the table;
  * this holds on whatever else is bound (`Expr.BlindTo.bind`), so deciding a part of the tree does
    the same on both (`evaluateNode_blind`);
  * `Rule.evaluate_without_shape` says so of a rule without functions: a table that is only opened
    counts for nothing unless it holds rows, and a table that is never opened if it holds rows.
-/
import Clearance.Proofs.Agreement.Footprint

namespace Clearance

variable {F : Type}

/-! ## Resources without a table -/

/-- The resources without a table. -/
def Value.without (table : String) : Value → Value
  | .dict tables => .dict (tables.filter (·.1 != table))
  | v => v

namespace Value

variable {table : String} {tables : List (String × Value)}

theorem field_without_self : ((dict tables).without table).field table = .null := by
  have h : (tables.filter (·.1 != table)).lookup table = none := by
    rw [← Option.isNone_iff_eq_none, isNone_lookup]
    simp
  show ((tables.filter (·.1 != table)).lookup table).getD .null = .null
  rw [h, Option.getD_none]

theorem field_without_of_ne {other : String} (h : other ≠ table) :
    ((dict tables).without table).field other = (dict tables).field other := by
  show ((tables.filter (·.1 != table)).lookup other).getD .null = _
  rw [@Keyed.lookup_filter _ (· != table) other (bne_iff_ne.2 h)]
  rfl

end Value

/-! ## What a tree cannot tell -/

/-- The resources are mappings that differ in one table only, and a tree cannot tell: what it finds
    under its paths on the table is the same, and there are no rows if it opens the table. -/
structure Expr.BlindTo (e : Expr F) (table : String) (resources resources' : Value) : Prop where
  mappings : ∃ fields fields', resources = .dict fields ∧ resources' = .dict fields'
  field : ∀ other, other ≠ table → resources.field other = resources'.field other
  path : ∀ p ∈ e.paths, p.table = table → p.isScoped = false →
    readPath resources p = readPath resources' p
  rows : table ∈ e.relatedTables →
    (resources.field table).rows? = none ∧ (resources'.field table).rows? = none

namespace Expr.BlindTo

variable {e : Expr F} {table : String} {resources resources' : Value}

/-- A path that is scoped to the table strays in both resources, since the table is not open; all
    others read the same. -/
theorem resolvePath (h : e.BlindTo table resources resources') {opened : List String}
    (ho : table ∉ opened) {p : PathRef} (hp : p ∈ e.paths) :
    Clearance.resolvePath resources opened p = Clearance.resolvePath resources' opened p := by
  rw [Clearance.resolvePath, Clearance.resolvePath]
  by_cases ht : p.table = table
  · cases hs : p.isScoped with
    | false => rw [h.path p hp ht hs]
    | true =>
      have hstray : checkScope p opened = .error (.strayPath p (some opened)) := by
        rw [checkScope, if_pos]
        simpa [hs, ht] using ho
      rw [hstray]
      rfl
  · rw [readPath, readPath, h.field _ ht]

/-- Binding another table leaves the tree blind. -/
theorem bind (h : e.BlindTo table resources resources') {other : String} (ho : other ≠ table)
    (row : Value) :
    ∃ bound bound', bindTable resources other row = .ok bound ∧
      bindTable resources' other row = .ok bound' ∧ e.BlindTo table bound bound' := by
  obtain ⟨⟨fields, fields', rfl, rfl⟩, hf, hp, hr⟩ := h
  have hself : ∀ fields : List (String × Value),
      (Value.dict (Keyed.setKey other row fields)).field table = (Value.dict fields).field table :=
    fun fields => congrArg (·.getD .null) (Keyed.lookup_setKey_of_ne ho.symm row fields)
  refine ⟨_, _, rfl, rfl, ⟨_, _, rfl, rfl⟩, fun name hn => ?_, fun p hm ht hs => ?_, fun hm => ?_⟩
  · show ((Keyed.setKey other row fields).lookup name).getD .null =
      ((Keyed.setKey other row fields').lookup name).getD .null
    by_cases e : name = other
    · subst e
      rw [Keyed.lookup_setKey_self, Keyed.lookup_setKey_self]
    · rw [Keyed.lookup_setKey_of_ne e, Keyed.lookup_setKey_of_ne e]
      exact hf name hn
  · have := hp p hm ht hs
    rw [readPath, readPath, ht] at this ⊢
    rwa [hself, hself]
  · rw [hself, hself]
    exact hr hm

end Expr.BlindTo

section

variable {config : Config} {actor : Value}

/-- Deciding a part of a tree does the same on resources that the tree cannot tell apart. -/
theorem evaluateNode_blind [CharacterNames] {e : Expr F} {table : String}
    (onFunction : OnFunction F (Value → List String → Run F Bool)) (part : Expr F)
    (hf : part.hasFunction = false) (hp : ∀ p ∈ part.paths, p ∈ e.paths)
    (ht : ∀ name ∈ part.relatedTables, name ∈ e.relatedTables) :
    ∀ resources resources' opened, e.BlindTo table resources resources' → table ∉ opened →
      evaluateNode config actor onFunction resources opened part =
        evaluateNode config actor onFunction resources' opened part := by
  induction part using Expr.treeInduction with
  | literal value => intro resources resources' opened _ _; rw [evaluateNode, evaluateNode]
  | leaf part hleaf =>
    intro resources resources' opened h ho
    rw [evaluateNode_leaf hleaf, evaluateNode_leaf hleaf, evaluateLeaf_congr fun p hn => ?_]
    exact h.resolvePath ho (hp p (by rwa [Expr.paths_leaf hleaf]))
  | function fn description =>
    rw [Expr.hasFunction_function] at hf
    cases hf
  | related kind name predicate minCount ih =>
    intro resources resources' opened h ho
    rw [Expr.hasFunction_related] at hf
    rw [Expr.paths_related] at hp
    rw [Expr.relatedTables_related] at ht
    rw [evaluateNode, evaluateNode]
    congr 1
    funext _
    by_cases hn : name = table
    · -- the table itself: its rows would be bound, but there are none
      obtain ⟨hrows, hrows'⟩ := h.rows (hn ▸ ht name (by simp))
      rw [hn, hrows, hrows']
    · rw [h.field name hn]
      split
      · rfl
      · cases (resources'.field name).rows? with
        | none => rfl
        | some rows =>
          refine countRows_congr (List.forall₂_same.2 fun row _ => ?_) minCount
          obtain ⟨bound, bound', hb, hb', hblind⟩ := h.bind hn row
          rw [hb, hb']
          refine ih hf hp (fun other ho => ht other (List.mem_cons_of_mem _ ho)) _ _ _ hblind ?_
          simpa [ho] using fun e : table = name => hn e.symm
  | not part ih =>
    intro resources resources' opened h ho
    rw [Expr.hasFunction_not] at hf
    rw [Expr.paths_not] at hp
    rw [Expr.relatedTables_not] at ht
    rw [evaluateNode, evaluateNode, ih hf hp ht _ _ _ h ho]
  | junction kind rules ih =>
    intro resources resources' opened h ho
    rw [evaluateNode, evaluateNode, evaluateJunction_congr fun part hpart => ?_]
    exact ih part hpart (Expr.hasFunction_junction.1 hf part hpart)
      (fun p hm => hp p (Expr.mem_paths_junction.2 ⟨part, hpart, hm⟩))
      (fun name hm => ht name (Expr.mem_relatedTables_junction.2 ⟨part, hpart, hm⟩)) _ _ _ h ho

/-! ## Rules -/

theorem Expr.evaluate_blind [CharacterNames] {e : Expr F} (call : Meaning F)
    (hf : e.hasFunction = false) {table : String} {resources resources' : Value}
    (h : e.BlindTo table resources resources') :
    e.evaluate config call actor resources = e.evaluate config call actor resources' := by
  unfold Expr.evaluate
  cases config.maxFunctionDepth <;>
    exact evaluateNode_blind _ e hf (fun _ h => h) (fun _ h => h) _ _ _ h List.not_mem_nil

/-- **A table is never coerced between a record and rows.**  For a rule without functions, wherever
    its nodes stand: a table that is opened and read by scoped paths alone may as well be missing
    unless it holds rows, and a table that is never opened may as well be missing if it holds rows.
    The decision, the error and the calls are the same either way. -/
theorem Rule.evaluate_without_shape [CharacterNames] (config : Config) (call : Meaning F)
    (actor : Value) {r : Rule F} {e : Expr F} (hr : r.toExpr = .ok e) (hf : e.hasFunction = false)
    (table : String) (tables : List (String × Value)) :
    ((∀ p ∈ e.paths, p.table = table → p.isScoped = true) →
      ((Value.dict tables).field table).rows? = none →
        r.evaluate config call actor (.dict tables) =
          r.evaluate config call actor ((Value.dict tables).without table)) ∧
    (table ∉ e.relatedTables → ((Value.dict tables).field table).rows?.isSome →
      r.evaluate config call actor (.dict tables) =
        r.evaluate config call actor ((Value.dict tables).without table)) := by
  have hblind : (∀ p ∈ e.paths, p.table = table → p.isScoped = false →
        readPath (.dict tables) p = readPath ((Value.dict tables).without table) p) →
      (table ∈ e.relatedTables → ((Value.dict tables).field table).rows? = none) →
        r.evaluate config call actor (.dict tables) =
          r.evaluate config call actor ((Value.dict tables).without table) := by
    intro hpath hrows
    rw [Rule.evaluate, Rule.evaluate, hr]
    have hblind : e.BlindTo table (.dict tables) ((Value.dict tables).without table) := by
      refine ⟨⟨_, _, rfl, rfl⟩, ?_, hpath, ?_⟩
      · exact fun other ho => (Value.field_without_of_ne ho).symm
      · exact fun hm => ⟨hrows hm, by rw [Value.field_without_self]; rfl⟩
    exact Expr.evaluate_blind call hf hblind
  refine ⟨fun hs hrows => hblind (fun p hm ht hs' => ?_) fun _ => hrows,
    fun hn hrows => hblind (fun p hm ht _ => ?_) fun hm => absurd hm hn⟩
  · rw [hs p hm ht] at hs'
    cases hs'
  · rw [readPath, readPath, ht, if_pos hrows, Value.field_without_self]
    rfl

section

attribute [local instance] CharacterNames.empty

/-- Items that have the number one and no note without an item.  A single note in the place of the
    notes is no row among them, and several items in the place of the item have no number. -/
theorem Rule.evaluate_without_shape_of_notes :
    let e : Expr Empty := .junction .and
      [.comparison .eq ⟨false, "item", "id"⟩ (.scalar (.int 1)),
        .not (.related .exists "notes" (.nullCheck .isNull ⟨true, "notes", "item_id"⟩) 1)]
    let item : Value := .dict [("id", .int 1)]
    let note : Value := .dict [("item_id", .null)]
    let decide (tables : List (String × Value)) :=
      (Rule.expr e).evaluate {} noFunctions .null (.dict tables)
    decide [("item", item), ("notes", note)] = decide [("item", item)] ∧
      (decide [("item", item)]).result = .ok true ∧
      (decide [("item", item), ("notes", .list [note])]).result = .ok false ∧
    decide [("notes", .list []), ("item", .list [item])] = decide [("notes", .list [])] ∧
      (decide [("notes", .list [])]).result = .ok false := by
  intro e item note decide
  have hp : e.paths = [⟨false, "item", "id"⟩, ⟨true, "notes", "item_id"⟩] := by
    rw [← Expr.map_references_eq_paths []]
    rfl
  have ht : e.relatedTables = ["notes"] := by
    rw [Expr.relatedTables, Expr.walk_eq_preorder]
    rfl
  have hf : e.hasFunction = false := by
    rw [Expr.hasFunction, Expr.walk_eq_preorder]
    rfl
  have hnotes := (Rule.evaluate_without_shape {} noFunctions .null (r := .expr e) rfl hf "notes"
    [("item", item), ("notes", note)]).1 (by rw [hp]; decide) rfl
  have hitem := (Rule.evaluate_without_shape {} noFunctions .null (r := .expr e) rfl hf "item"
    [("notes", .list []), ("item", .list [item])]).2 (by rw [ht]; decide) rfl
  exact ⟨hnotes, rfl, rfl, hitem, rfl⟩

end

end

end Clearance
