/-
  The tables that inner selections name.

  An inner selection is meant to name its own table only.  It leaves out the tables that the
  selection right around it names, but no others: a column of a table further out makes it name
  that table again.

  * `Nested.IsNear`: the table of a column is that of one of the two innermost selections
    around it;
  * `visibleTables_eq_own_iff`: a selection inside one from a single table names its own table
    only iff its columns are of these two tables;
  * `Clause.selections_own_iff`: all inner selections of a clause name their own tables only iff
    all its columns are near.
-/
import Mathlib.Data.List.Nodup
import Clearance.Proofs.Sql.Joining

namespace Clearance

/-- The table of a column is that of one of the two innermost selections around it. -/
def Nested.IsNear (q : Nested Sql.Column) : Prop :=
  ∀ table ∈ q.item.table, table ∈ q.around.reverse.take 2

namespace Sql

/-! ## Names -/

theorem distinctNames_invariant (names : List String) : ∀ seen : List String, seen.Nodup →
    let all := names.foldl (fun seen name => if seen.contains name then seen else seen ++ [name]) seen
    all.Nodup ∧ ∀ x, x ∈ all ↔ x ∈ seen ∨ x ∈ names := by
  induction names with
  | nil => intro seen h; simpa using h
  | cons name rest ih =>
    intro seen h
    rw [List.foldl_cons]
    by_cases hn : name ∈ seen
    · obtain ⟨hd, hm⟩ := ih seen h
      rw [if_pos (by simpa using hn)]
      refine ⟨hd, fun x => ?_⟩
      rw [hm x, List.mem_cons]
      constructor
      · rintro (hx | hx)
        · exact .inl hx
        · exact .inr (.inr hx)
      · rintro (hx | rfl | hx)
        · exact .inl hx
        · exact .inl hn
        · exact .inr hx
    · have hs : (seen ++ [name]).Nodup := by
        rw [List.nodup_append]
        exact ⟨h, List.nodup_singleton name, by rintro a ha b hb rfl; simp at hb; exact hn (hb ▸ ha)⟩
      obtain ⟨hd, hm⟩ := ih (seen ++ [name]) hs
      rw [if_neg (by simpa using hn)]
      refine ⟨hd, fun x => ?_⟩
      rw [hm x, List.mem_append, List.mem_singleton, List.mem_cons, or_assoc]

theorem nodup_distinctNames (names : List String) : (distinctNames names).Nodup :=
  (distinctNames_invariant names [] List.nodup_nil).1

theorem mem_distinctNames {names : List String} {x : String} :
    x ∈ distinctNames names ↔ x ∈ names := by
  rw [distinctNames, (distinctNames_invariant names [] List.nodup_nil).2 x]
  simp

/-- Names that are all the same, each once. -/
theorem eq_singleton_of_nodup {names : List String} {x : String} (hd : names.Nodup)
    (hx : x ∈ names) (h : ∀ y ∈ names, y = x) : names = [x] := by
  cases names with
  | nil => cases hx
  | cons y rest =>
    obtain rfl := h y (by simp)
    cases rest with
    | nil => rfl
    | cons z rest =>
      obtain rfl := h z (by simp)
      simp at hd

/-! ## Selections -/

/-- A selection whose columns are of its own table names no other. -/
theorem visibleTables_none_eq_own {own : String} {p : Clause} (h : ∀ t ∈ p.tables, t = own) :
    visibleTables none [own] p = [own] := by
  refine eq_singleton_of_nodup (nodup_distinctNames _) (mem_distinctNames.2 (by simp)) fun x hx => ?_
  rcases List.mem_append.1 (mem_distinctNames.1 hx) with hx | hx
  · exact List.mem_singleton.1 hx
  · exact h x hx

/-- **Which table a selection names**: inside a selection from one table, its own table only
    iff all its columns are of one of the two. -/
theorem visibleTables_eq_own_iff {outer own : String} {p : Clause} :
    visibleTables (some [outer]) [own] p = [own] ↔ ∀ t ∈ p.tables, t = own ∨ t = outer := by
  have hall : ∀ x, x ∈ distinctNames ([own] ++ p.tables) ↔ x = own ∨ x ∈ p.tables := by
    intro x
    rw [mem_distinctNames, List.mem_append, List.mem_singleton]
  have hd := nodup_distinctNames ([own] ++ p.tables)
  unfold visibleTables
  dsimp only
  split
  · rename_i hlen
    constructor
    · intro h t ht
      by_cases ho : t = outer
      · exact .inr ho
      · have hm : t ∈ [own] := by
          rw [← h, List.mem_filter]
          exact ⟨(hall t).2 (.inr ht), by simpa using ho⟩
        exact .inl (List.mem_singleton.1 hm)
    · intro h
      have hne : own ≠ outer := by
        rintro rfl
        rw [eq_singleton_of_nodup hd ((hall own).2 (.inl rfl)) fun x hx => ?_] at hlen
        · simp at hlen
        · rcases (hall x).1 hx with rfl | hx
          · rfl
          · exact (h x hx).elim id id
      refine eq_singleton_of_nodup (hd.filter _) ?_ fun x hx => ?_
      · rw [List.mem_filter]
        exact ⟨(hall own).2 (.inl rfl), by simpa using hne⟩
      · obtain ⟨hx, ho⟩ := List.mem_filter.1 hx
        rcases (hall x).1 hx with rfl | hx
        · rfl
        · exact (h x hx).resolve_right (by simpa using ho)
  · rename_i hlen
    have hown : distinctNames ([own] ++ p.tables) = [own] := by
      have hm := (hall own).2 (.inl rfl)
      generalize distinctNames ([own] ++ p.tables) = all at hlen hm
      match all, hlen, hm with
      | [x], _, hm => rw [List.mem_singleton.1 hm]
      | _ :: _ :: _, hlen, _ => simp at hlen
    rw [hown]
    refine ⟨fun _ t ht => .inl ?_, fun _ => rfl⟩
    have hm := (hall t).2 (.inr ht)
    rwa [hown, List.mem_singleton] at hm

namespace Clause

/-- The columns of a clause itself are placed where the clause is. -/
theorem mem_placed_of_mem_columns {c : Clause} {around : List String} {column : Column}
    (h : column ∈ c.columns) : ⟨around, column⟩ ∈ c.placed around := by
  induction c using clauseInduction with
  | test c hc => cases c <;> first | exact List.mem_map_of_mem h | cases hc
  | not x ih => exact ih h
  | and xs ih | or xs ih =>
    rw [columns, columnsAll_eq, List.mem_flatMap] at h
    obtain ⟨x, hx, h⟩ := h
    rw [placed, placedAll_eq, List.mem_flatMap]
    exact ⟨x, hx, ih x hx h⟩
  | exists' table p | count table p => cases h

theorem mem_tables {c : Clause} {table : String} :
    table ∈ c.tables ↔ ∃ column ∈ c.columns, column.table = some table := List.mem_filterMap

/-- The tables that are named inside an inner selection are near iff the selection names its own
    table only and so do those inside it. -/
theorem selection_own_iff {table outer : String} {around : List String} {p : Clause}
    (ih : (∀ t ∈ p.tables, t ∈ (around ++ [outer] ++ [table]).reverse.take 2) →
      ((∀ s ∈ p.selections (some [table]), s.2 = [s.1]) ↔
        ∀ q ∈ p.placed (around ++ [outer] ++ [table]), q.IsNear)) :
    (∀ s ∈ (table, visibleTables (some [outer]) [table] p) ::
        p.selections (some (visibleTables (some [outer]) [table] p)), s.2 = [s.1]) ↔
      ∀ q ∈ p.placed (around ++ [outer] ++ [table]), q.IsNear := by
  have htake : (around ++ [outer] ++ [table]).reverse.take 2 = [table, outer] := by simp
  have hown : visibleTables (some [outer]) [table] p = [table] ↔
      ∀ t ∈ p.tables, t ∈ (around ++ [outer] ++ [table]).reverse.take 2 := by
    rw [visibleTables_eq_own_iff, htake]
    simp
  rw [List.forall_mem_cons]
  constructor
  · rintro ⟨hv, hs⟩
    dsimp only at hv
    rw [hv] at hs
    exact (ih (hown.1 hv)).1 hs
  · intro hq
    have ht : ∀ t ∈ p.tables, t ∈ (around ++ [outer] ++ [table]).reverse.take 2 := by
      intro t ht
      obtain ⟨column, hc, ht⟩ := mem_tables.1 ht
      exact hq _ (mem_placed_of_mem_columns hc) t ht
    have hv := hown.2 ht
    refine ⟨hv, ?_⟩
    rw [hv]
    exact (ih ht).2 hq

/-- **Inner selections name their own tables only iff all columns in them are near.** -/
theorem selections_own_iff (c : Clause) : ∀ (around : List String) (outer : String),
    (∀ t ∈ c.tables, t ∈ (around ++ [outer]).reverse.take 2) →
    ((∀ s ∈ c.selections (some [outer]), s.2 = [s.1]) ↔
      ∀ q ∈ c.placed (around ++ [outer]), q.IsNear) := by
  induction c using clauseInduction with
  | test c hc =>
    intro around outer ht
    have hs : c.selections (some [outer]) = [] := by
      cases c <;> first | rfl | cases hc
    have hp : c.placed (around ++ [outer]) = c.columns.map fun x => ⟨around ++ [outer], x⟩ := by
      cases c <;> first | rfl | cases hc
    refine ⟨fun _ q hq t hqt => ?_, fun _ s h => ?_⟩
    · rw [hp, List.mem_map] at hq
      obtain ⟨column, hcol, rfl⟩ := hq
      exact ht t (mem_tables.2 ⟨column, hcol, hqt⟩)
    · rw [hs] at h
      cases h
  | not x ih => exact fun around outer ht => ih around outer ht
  | and xs ih | or xs ih =>
    intro around outer ht
    have ht' : ∀ x ∈ xs, ∀ t ∈ x.tables, t ∈ (around ++ [outer]).reverse.take 2 := by
      intro x hx t hxt
      obtain ⟨column, hcol, hxt⟩ := mem_tables.1 hxt
      refine ht t (mem_tables.2 ⟨column, ?_, hxt⟩)
      rw [columns, columnsAll_eq]
      exact List.mem_flatMap.2 ⟨x, hx, hcol⟩
    rw [selections, selectionsAll_eq, placed, placedAll_eq]
    simp only [List.mem_flatMap]
    constructor
    · rintro h q ⟨x, hx, hq⟩
      exact (ih x hx around outer (ht' x hx)).1 (fun s hs => h s ⟨x, hx, hs⟩) q hq
    · rintro h s ⟨x, hx, hs⟩
      exact (ih x hx around outer (ht' x hx)).2 (fun q hq => h q ⟨x, hx, hq⟩) s hs
  | exists' table p ih => exact fun around outer _ => selection_own_iff (ih (around ++ [outer]) table)
  | count table p _ _ ih => exact fun around outer _ => selection_own_iff (ih (around ++ [outer]) table)

end Clause

end Sql

end Clearance
