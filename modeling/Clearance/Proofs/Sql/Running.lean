/-
  What it takes for a selection to run.

  * `boundPieces` are the values that are bound in a text; those of a clause are its own
    (`Clause.boundPieces_pieces`), and a clause whose inner selections name tables can be
    written (`Clause.exists_pieces`);
  * `Selection.run_eq`: a selection whose values can be bound and whose searches succeed gives its
    rows, and `Selection.bindable_of_run`: one with another value never runs;
  * `Selection.rows_eq`: a selection from one table looks at one row after the other.
-/
import Clearance.Proofs.Decision.Outcome
import Clearance.Proofs.Sql.Joining
import Clearance.Proofs.Sql.Present
import Clearance.Proofs.Sql.Searching

namespace Clearance.Sql

/-! ## Pieces -/

/-- The values that are bound in a text. -/
def boundPieces : List Piece → List Value
  | [] => []
  | .bound _ v :: rest => v :: boundPieces rest
  | .boundList _ vs :: rest => vs.map .scalar ++ boundPieces rest
  | _ :: rest => boundPieces rest

theorem boundPieces_append (ps qs : List Piece) :
    boundPieces (ps ++ qs) = boundPieces ps ++ boundPieces qs := by
  induction ps with
  | nil => rfl
  | cons p rest ih => cases p <;> simp [boundPieces, ih]

theorem boundPieces_fromWhere (tables : List String) (ps : List Piece) :
    boundPieces (fromWhere tables ps) = boundPieces ps := by
  rw [fromWhere, boundPieces_append]
  rfl

theorem boundPieces_parenthesized (ps : List Piece) :
    boundPieces (parenthesized ps) = boundPieces ps := by
  rw [parenthesized, boundPieces_append, boundPieces_append]
  exact List.append_nil _

theorem boundPieces_joinPieces (separator : String) (pss : List (List Piece)) :
    boundPieces (joinPieces separator pss) = pss.flatMap boundPieces := by
  fun_induction joinPieces separator pss with
  | case1 => rfl
  | case2 ps => simp
  | case3 ps rest _ ih =>
    have ht : ∀ qs, boundPieces (.text separator :: qs) = boundPieces qs := fun _ => rfl
    rw [boundPieces_append, ht, ih, List.flatMap_cons]

theorem boundPieces_columnPieces (columns : List Column) : ∀ seen,
    ∀ ps ∈ columnPieces seen columns, boundPieces ps = [] := by
  induction columns with
  | nil => exact fun _ _ h => nomatch h
  | cons c rest ih =>
    intro seen ps hp
    rcases List.mem_cons.1 hp with rfl | hp
    · split <;> rfl
    · exact ih _ ps hp

theorem boundPieces_affixPieces (test : TextTest) (c : Column) (text : String) :
    boundPieces (affixPieces test c text) = [.str (escapeLike text)] := by
  cases test <;> rfl

/-! ## Clauses -/

namespace Clause

variable {dialect : Dialect}

/-- As a condition, a clause is written with the same values. -/
theorem boundPieces_conditionPieces {c : Clause} {outer : Option (List String)} {ps : List Piece}
    (h : c.conditionPieces dialect (c.pieces dialect outer) = .ok ps)
    (ih : ∀ qs, c.pieces dialect outer = .ok qs → boundPieces qs = c.bound) :
    boundPieces ps = c.bound := by
  unfold conditionPieces at h
  split at h
  · cases h
    rfl
  · exact ih ps h

theorem boundPieces_piecesAll {outer : Option (List String)} {isLoose : Clause → Bool}
    {cs : List Clause} (h : ∀ c ∈ cs, ∀ ps, c.pieces dialect outer = .ok ps → boundPieces ps = c.bound) :
    ∀ pss, piecesAll dialect outer isLoose cs = .ok pss → pss.flatMap boundPieces = boundAll cs := by
  induction cs with
  | nil =>
    intro pss hp
    cases hp
    rfl
  | cons c rest ih =>
    intro pss hp
    obtain ⟨ps, hc, hp⟩ := Result.bind_eq_ok.1 hp
    obtain ⟨qss, hr, hp⟩ := Result.bind_eq_ok.1 hp
    cases hp
    have he : boundPieces (if isLoose c then parenthesized ps else ps) = boundPieces ps := by
      split
      · exact boundPieces_parenthesized ps
      · rfl
    rw [List.flatMap_cons, he, h c (by simp) ps hc, ih (fun c hc => h c (by simp [hc])) qss hr,
      boundAll]

/-- **A clause is written with its own values**, in their order. -/
theorem boundPieces_pieces (c : Clause) : ∀ outer ps, c.pieces dialect outer = .ok ps →
    boundPieces ps = c.bound := by
  induction c using clauseInduction with
  | test c hc =>
    intro outer ps h
    cases c with
    | affix test c text => cases h; exact boundPieces_affixPieces test c text
    | oneOf c values => cases h; simp [boundPieces, bound, testBound]
    | order op c right => cases right <;> cases h <;> rfl
    | truth | wrapped | isNull | isNotNull | same | distinct | equalsBool | equals | like
    | likeLower | regexp => cases h; rfl
    | _ => cases hc
  | not x ih =>
    intro outer ps h
    obtain ⟨qs, hq, h⟩ := Result.bind_eq_ok.1 h
    cases h
    rw [boundPieces_append, boundPieces_append, ih outer qs hq]
    simp [boundPieces, bound]
  | and xs ih | or xs ih =>
    intro outer ps h
    obtain ⟨pss, hp, h⟩ := Result.bind_eq_ok.1 h
    cases h
    rw [boundPieces_joinPieces, boundPieces_piecesAll (fun x hx => ih x hx outer) pss hp, bound]
  | exists' table p ih =>
    intro outer ps h
    simp only [pieces] at h
    split at h
    · cases h
    obtain ⟨qs, hq, h⟩ := Result.bind_eq_ok.1 h
    cases h
    rw [boundPieces_append, boundPieces_append, boundPieces_fromWhere,
      boundPieces_conditionPieces hq (ih _)]
    simp [boundPieces, bound]
  | count table p atLeast n ih =>
    intro outer ps h
    simp only [pieces] at h
    split at h
    · cases h
    obtain ⟨qs, hq, h⟩ := Result.bind_eq_ok.1 h
    cases h
    rw [boundPieces_append, boundPieces_append, boundPieces_fromWhere,
      boundPieces_conditionPieces hq (ih _)]
    simp [boundPieces, bound]

theorem exists_conditionPieces {c : Clause} {outer : Option (List String)}
    (h : ∃ ps, c.pieces dialect outer = .ok ps) :
    ∃ ps, c.conditionPieces dialect (c.pieces dialect outer) = .ok ps := by
  unfold conditionPieces
  split
  · exact ⟨_, rfl⟩
  · exact h

theorem exists_piecesAll {outer : Option (List String)} {isLoose : Clause → Bool}
    {cs : List Clause} (h : ∀ c ∈ cs, ∃ ps, c.pieces dialect outer = .ok ps) :
    ∃ pss, piecesAll dialect outer isLoose cs = .ok pss := by
  induction cs with
  | nil => exact ⟨[], rfl⟩
  | cons c rest ih =>
    obtain ⟨ps, hp⟩ := h c (by simp)
    obtain ⟨pss, hps⟩ := ih fun c hc => h c (by simp [hc])
    exact ⟨_, by rw [piecesAll, hp, hps]; rfl⟩

/-- A clause can be written if its inner selections all name tables. -/
theorem exists_pieces (c : Clause) : ∀ outer, (∀ s ∈ c.selections outer, s.2 ≠ []) →
    ∃ ps, c.pieces dialect outer = .ok ps := by
  induction c using clauseInduction with
  | test c hc =>
    intro outer _
    cases c with
    | order op c right => cases right <;> exact ⟨_, rfl⟩
    | «exists» | count | not | and | or => cases hc
    | _ => exact ⟨_, rfl⟩
  | not x ih =>
    intro outer h
    obtain ⟨ps, hp⟩ := ih outer h
    exact ⟨_, by rw [pieces, hp]; rfl⟩
  | and xs ih | or xs ih =>
    intro outer h
    rw [selections, selectionsAll_eq] at h
    obtain ⟨pss, hp⟩ := exists_piecesAll fun x hx =>
      ih x hx outer fun s hs => h s (List.mem_flatMap.2 ⟨x, hx, hs⟩)
    exact ⟨_, by rw [pieces, hp]; rfl⟩
  | exists' table p ih | count table p _ _ ih =>
    intro outer h
    rw [selections, List.forall_mem_cons] at h
    obtain ⟨hv, hs⟩ := h
    obtain ⟨ps, hp⟩ := exists_conditionPieces (ih _ hs)
    exact ⟨_, by simp only [pieces, List.isEmpty_iff, hv, if_false, hp]; rfl⟩

end Clause

/-! ## Binding -/

/-- The values of a text can be bound iff each of them can. -/
theorem bindPieces_eq_ok {ps : List Piece} :
    ps.forM Selection.bindPiece = .ok () ↔ ∀ v ∈ boundPieces ps, v.Bindable := by
  induction ps with
  | nil => exact ⟨fun _ _ h => (nomatch h), fun _ => rfl⟩
  | cons p rest ih =>
    rw [Result.forM_eq_ok] at ih
    rw [Result.forM_eq_ok, List.forall_mem_cons, ih]
    cases p with
    | text s | label base => exact ⟨fun h => h.2, fun h => ⟨rfl, h⟩⟩
    | bound base v =>
      rw [boundPieces, List.forall_mem_cons]
      exact and_congr_left fun _ => Result.discard_eq_ok
    | boundList base vs =>
      rw [boundPieces, List.forall_mem_append, List.forall_mem_map]
      refine and_congr_left fun _ => Result.forM_eq_ok.trans ?_
      exact forall₂_congr fun s _ => Result.discard_eq_ok

/-! ## Selections -/

theorem Database.frames_singleton (db : Database) (table : String) :
    db.frames [table] = (db.rows table).map fun row => [(table, row)] := by
  rw [List.map_eq_flatMap]
  rfl

namespace Selection

/-- A selection is written with the values of its condition. -/
theorem boundPieces_pieces {s : Selection} {dialect : Dialect} {ps : List Piece}
    (h : s.pieces dialect = .ok ps) : boundPieces ps = s.condition.bound := by
  unfold pieces at h
  split at h
  · cases h
  obtain ⟨qs, hq, h⟩ := Result.bind_eq_ok.1 h
  cases h
  have hc : boundPieces (joinPieces ", " (columnPieces [] s.columns)) = [] := by
    rw [boundPieces_joinPieces, List.flatMap_eq_nil_iff]
    exact boundPieces_columnPieces _ _
  rw [boundPieces_append, boundPieces_fromWhere,
    Clause.boundPieces_conditionPieces hq (s.condition.boundPieces_pieces _)]
  show boundPieces (joinPieces ", " (columnPieces [] s.columns)) ++ s.condition.bound = _
  rw [hc, List.nil_append]

/-- **A selection runs** if it names a table, its inner selections do, all its values can be
    bound, and its searches succeed. -/
theorem run_eq [CharacterNames] {s : Selection} {db : Database} (ht : s.tables ≠ [])
    (hs : ∀ q ∈ s.condition.selections (some s.tables), q.2 ≠ [])
    (hb : ∀ v ∈ s.condition.bound, v.Bindable) (hsearch : s.condition.Searchable db []) :
    s.run db = .ok (s.rows db) := by
  obtain ⟨qs, hq⟩ : ∃ qs, s.condition.conditionPieces .sqlite
      (s.condition.pieces .sqlite (some s.tables)) = .ok qs :=
    Clause.exists_conditionPieces (s.condition.exists_pieces (some s.tables) hs)
  obtain ⟨ps, hp⟩ : ∃ ps, s.pieces .sqlite = .ok ps :=
    ⟨_, by simp only [pieces, List.isEmpty_iff, ht, if_false, hq]; rfl⟩
  have hbind : ps.forM bindPiece = .ok () :=
    bindPieces_eq_ok.2 fun v hv => hb v (boundPieces_pieces hp ▸ hv)
  rw [run, hp, fails_eq_false hsearch]
  show (do ps.forM bindPiece; return s.rows db) = _
  rw [hbind]
  rfl

/-- All values of a selection that runs can be bound. -/
theorem bindable_of_run [CharacterNames] {s : Selection} {db : Database} {rows : List (List Datum)}
    (h : s.run db = .ok rows) : ∀ v ∈ s.condition.bound, v.Bindable := by
  obtain ⟨ps, hp, h⟩ := Result.bind_eq_ok.1 h
  obtain ⟨⟨⟩, hbind, -⟩ := Result.bind_eq_ok.1 h
  rw [← boundPieces_pieces hp]
  exact bindPieces_eq_ok.1 hbind

/-- A selection from one table looks at its rows one by one. -/
theorem rows_eq [CharacterNames] {s : Selection} {db : Database} {table : String}
    (ht : s.tables = [table]) :
    s.rows db = ((db.rows table).filter fun row =>
      s.condition.truthValue db [[(table, row)]] == some true).map fun row =>
        s.columns.map (readColumn [[(table, row)]]) := by
  unfold rows
  rw [ht, Database.frames_singleton, List.filterMap_map, ← List.filterMap_eq_filter,
    List.map_filterMap]
  refine List.filterMap_congr fun row _ => ?_
  by_cases h : s.condition.truthValue db [[(table, row)]] = some true <;> simp [Option.guard, h]

end Selection

end Clearance.Sql
