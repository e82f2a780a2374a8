/-
  Searches for patterns, and when they fail.

  A search fails on numbers and byte strings, and so does one for a pattern that cannot be read.
  Which searches a selection comes to depends on the order in which it looks at the parts of its
  condition; where all of them succeed, the order does not matter.

  * `Datum.Searchable`: null and texts; `Column.SearchableIn`: a column holds one of them in a row;
  * `Clause.Searchable`: all patterns of a clause can be read, and all columns in which they are
    searched are searchable, in the rows at hand and in those of the database;
  * `Clause.fails_eq_false`: looking for the truth value of such a clause does not fail, nor does a
    selection by it (`Selection.fails_eq_false`).
-/
import Clearance.Sql.Database
import Clearance.Proofs.Sql.Joining

namespace Clearance.Sql

/-! ## Data -/

/-- A datum in which a pattern can be searched; in null it is not found. -/
inductive Datum.Searchable : Datum → Prop
  | null : Searchable .null
  | text (s : String) : Searchable (.text s)

/-- A column that may be of a table holds a searchable datum in a row of this table. -/
def Column.SearchableIn (c : Column) (table : String) (row : Row) : Prop :=
  c.table = none ∨ c.table = some table → ((row.lookup c.name).getD .null).Searchable

/-- The rows of a combination are from their tables. -/
theorem Database.mem_frames {db : Database} {f : Frame} : ∀ {tables : List String},
    f ∈ db.frames tables → ∀ entry ∈ f, entry.2 ∈ db.rows entry.1 := by
  intro tables
  induction tables generalizing f with
  | nil =>
    intro hf
    rw [List.mem_singleton.1 hf]
    exact nofun
  | cons table rest ih =>
    intro hf entry he
    obtain ⟨row, hrow, hf⟩ := List.mem_flatMap.1 hf
    obtain ⟨g, hg, rfl⟩ := List.mem_map.1 hf
    rcases List.mem_cons.1 he with rfl | he
    · exact hrow
    · exact ih hg entry he

/-- A column that is searchable in all rows at hand is read as a searchable datum. -/
theorem readColumn_searchable {frames : List Frame} {c : Column}
    (h : ∀ f ∈ frames, ∀ entry ∈ f, c.SearchableIn entry.1 entry.2) :
    (readColumn frames c).Searchable := by
  have hget : ∀ {row? : Option Row},
      (∀ row ∈ row?, ((row.lookup c.name).getD .null).Searchable) →
      ((row?.bind fun r => r.lookup c.name).getD .null).Searchable := by
    intro row? h
    cases row? with
    | none => exact .null
    | some row => exact h row rfl
  unfold readColumn
  refine hget fun row hr => ?_
  split at hr
  · rename_i table htable
    obtain ⟨f, hf, hr⟩ := List.exists_of_findSome?_eq_some hr
    obtain ⟨before, after, rfl, -⟩ := List.lookup_eq_some_iff.1 hr
    exact h _ hf (table, row) (by simp) (.inr htable)
  · rename_i htable
    obtain ⟨entry, he, rfl⟩ := List.mem_map.1 (List.mem_of_find?_eq_some hr)
    obtain ⟨f, hf, he⟩ := List.mem_flatten.1 he
    exact h f hf entry he (.inl htable)

/-- A search for a pattern that can be read does not fail in a searchable datum. -/
theorem regexpFails_eq_false [CharacterNames] {pattern : String} {program : Pattern.Program}
    (h : Pattern.compile pattern .none = .ok program) {x : Datum} (hx : x.Searchable) :
    regexpFails pattern x = false := by
  cases hx with
  | null => rfl
  | text s => rw [regexpFails, h]

/-- It is decided where the datum is not null. -/
theorem exists_regexpHolds [CharacterNames] {pattern : String} {program : Pattern.Program}
    (h : Pattern.compile pattern .none = .ok program) {x : Datum} (hx : x.Searchable)
    (hn : x ≠ .null) : ∃ b, regexpHolds pattern x = some b := by
  cases hx with
  | null => exact absurd rfl hn
  | text s => exact ⟨_, by rw [regexpHolds, h]⟩

/-! ## Clauses -/

namespace Clause

/-- All searches in a clause are for patterns that can be read, in columns that are searchable. -/
structure Searchable [CharacterNames] (c : Clause) (db : Database) (frames : List Frame) :
    Prop where
  pattern : ∀ q ∈ c.searches, ∃ program, Pattern.compile q.2 .none = .ok program
  frame : ∀ q ∈ c.searches, ∀ f ∈ frames, ∀ entry ∈ f, q.1.SearchableIn entry.1 entry.2
  row : ∀ q ∈ c.searches, ∀ table, ∀ row ∈ db.rows table, q.1.SearchableIn table row

variable {c : Clause} {db : Database} {frames : List Frame}

/-- A clause without searches is searchable. -/
theorem Searchable.of_nil [CharacterNames] (h : c.searches = []) : c.Searchable db frames := by
  constructor <;> rw [h] <;> exact nofun

theorem Searchable.mono [CharacterNames] (h : c.Searchable db frames) {c' : Clause}
    (hs : ∀ q ∈ c'.searches, q ∈ c.searches) : c'.Searchable db frames :=
  ⟨fun q hq => h.pattern q (hs q hq), fun q hq => h.frame q (hs q hq),
    fun q hq => h.row q (hs q hq)⟩

/-- A clause stays searchable if a selection looks at more rows of the database. -/
theorem Searchable.cons [CharacterNames] (h : c.Searchable db frames) {f : Frame}
    {tables : List String} (hf : f ∈ db.frames tables) : c.Searchable db (f :: frames) := by
  refine ⟨h.pattern, fun q hq g hg entry he => ?_, h.row⟩
  rcases List.mem_cons.1 hg with rfl | hg
  · exact h.row q hq entry.1 entry.2 (Database.mem_frames hf entry he)
  · exact h.frame q hq g hg entry he

theorem failsUntil_eq_false {α : Type} {fails decides : α → Bool} {as : List α}
    (h : ∀ a ∈ as, fails a = false) : failsUntil fails decides as = false := by
  induction as with
  | nil => rfl
  | cons a rest ih =>
    rw [failsUntil, h a (by simp), ih fun a ha => h a (by simp [ha]), Bool.and_false, Bool.or_false]

theorem failsBefore_eq_false [CharacterNames] {value : Bool} {cs : List Clause}
    (h : ∀ c ∈ cs, c.fails db frames = false) : failsBefore value db frames cs = false := by
  induction cs with
  | nil => rfl
  | cons c rest ih =>
    rw [failsBefore, h c (by simp), ih fun c hc => h c (by simp [hc]), Bool.and_false, Bool.or_false]

/-- **Where all searches succeed**, looking for the truth value of a clause does not fail. -/
theorem fails_eq_false [CharacterNames] (c : Clause) : ∀ {frames}, c.Searchable db frames →
    c.fails db frames = false := by
  induction c using clauseInduction with
  | test c hc =>
    intro frames h
    cases c with
    | regexp column pattern =>
      obtain ⟨program, hp⟩ := h.pattern (column, pattern) List.mem_cons_self
      exact regexpFails_eq_false hp
        (readColumn_searchable (h.frame (column, pattern) List.mem_cons_self))
    | «exists» | count | not | and | or => cases hc
    | _ => rfl
  | not x ih => exact fun h => ih (h.mono fun _ hq => hq)
  | and xs ih | or xs ih =>
    intro frames h
    rw [fails]
    refine failsBefore_eq_false fun x hx => ih x hx (h.mono fun q hq => ?_)
    rw [searches, searchesAll_eq]
    exact List.mem_flatMap.2 ⟨x, hx, hq⟩
  | exists' table p ih =>
    intro frames h
    rw [fails]
    have hp : p.Searchable db frames := h.mono fun _ hq => hq
    exact failsUntil_eq_false fun f hf => ih (hp.cons hf)
  | count table p _ _ ih =>
    intro frames h
    rw [fails, List.any_eq_false]
    have hp : p.Searchable db frames := h.mono fun _ hq => hq
    exact fun f hf => Bool.not_eq_true _ ▸ ih (hp.cons hf)

end Clause

/-- A selection by a condition whose searches all succeed does not fail. -/
theorem Selection.fails_eq_false [CharacterNames] {s : Selection} {db : Database}
    (h : s.condition.Searchable db []) : s.fails db = false := by
  rw [fails, List.any_eq_false]
  exact fun f hf => Bool.not_eq_true _ ▸ s.condition.fails_eq_false (h.cons hf)

end Clearance.Sql
