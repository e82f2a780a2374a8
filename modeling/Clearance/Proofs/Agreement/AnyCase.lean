/-
  Patterns that ignore case, as `LIKE` forms in lower case.

  A pattern that has a `LIKE` form and ignores case is compiled to this form, in lower case as the
  text is.  A database lowers the letters of ASCII only, the evaluator folds by Unicode.

  * `Expr.Negated`: a tree that is a leaf under negations comes out as the leaf does, turned round
    as often, on both sides;
  * `Expr.truthValue_likeLower`: the clause of such a pattern;
  * `Rule.Selects`, `Declarations.Stores.selects_matches`: what a rule that stands for the pattern,
    or for a negation of it, allows, and what its filter selects;
  * `Rule.select_anyCase`: when these are the same for all texts of one line.
-/
import Clearance.Proofs.Agreement.Native
import Clearance.Proofs.Pattern.Folding

namespace Clearance

open Sql

variable {F : Type} {config : Config} {d : Declarations} {actor : Value} {main : String}
  {owner : String → String} {db : Database}

/-! ## Negations -/

/-- A tree that is a leaf under negations; `turned` says that their number is odd. -/
inductive Expr.Negated (leaf : Expr F) : Bool → Expr F → Prop
  | leaf : Negated leaf false leaf
  | not {turned e} : Negated leaf turned e → Negated leaf (!turned) (.not e)

/-- A clause holds what another one does, and has its truth values, or the opposite ones if it is
    turned round. -/
structure Sql.Clause.Turned [CharacterNames] (c₀ : Clause) (turned : Bool) (c : Clause) : Prop where
  holds {α : Type} {f : Clause → List α} : Clause.Joined f → f c = f c₀
  truth {db : Database} {frames : List Frame} {b : Bool} :
    c₀.truthValue db frames = some b → c.truthValue db frames = some (b != turned)

namespace Expr.Negated

variable {opened : List String} {turned : Bool}

theorem relatedTables_eq {leaf e : Expr F} (h : leaf.Negated turned e) :
    e.relatedTables = leaf.relatedTables := by
  induction h with
  | leaf => rfl
  | not _ ih => rw [relatedTables_not, ih]

variable {leaf e : Expr Empty}

theorem decision_eq [CharacterNames] (h : leaf.Negated turned e) (hl : leaf.isLeaf = true)
    {resources : Value} {b : Bool} (hb : evaluateLeaf config actor resources opened leaf = .ok b) :
    e.decision config actor resources opened = .ok (b != turned) := by
  induction h with
  | leaf => rw [decision_leaf hl, hb, Bool.bne_false]
  | @not turned e _ ih =>
    rw [decision, ih]
    cases b <;> cases turned <;> rfl

theorem exists_clause [CharacterNames] (h : leaf.Negated turned e) (hl : leaf.isLeaf = true) :
    ∀ {c},
    e.clause config d actor opened = .ok c →
    ∃ c₀ : Clause, leafClause config d actor opened leaf = .ok c₀ ∧ c₀.Turned turned c := by
  induction h with
  | leaf =>
    intro c hc
    rw [clause_leaf hl] at hc
    exact ⟨c, hc, ⟨fun _ => rfl, fun hb => by rw [hb, Bool.bne_false]⟩⟩
  | @not turned e _ ih =>
    intro c hc
    obtain ⟨p, hp, rfl⟩ := clause_not_eq_ok.1 hc
    obtain ⟨c₀, hc₀, ht⟩ := ih hp
    refine ⟨c₀, hc₀, ⟨fun hf => (hf.negate p).trans (ht.holds hf), fun {_ _ b} hb => ?_⟩⟩
    rw [Clause.truthValue_negate, ht.truth hb]
    cases b <;> cases turned <;> rfl

end Expr.Negated

/-! ## Clauses -/

/-- The `LIKE` form that a pattern is compiled to. -/
theorem likeForm?_eq_some {strategy : RegexStrategy} {pattern like : String}
    {flags : List PatternFlag} (h : likeForm? strategy pattern flags = some like) :
    (∀ f ∈ flags, f = .ignoreCase) ∧ Pattern.likeOf? pattern = some like := by
  unfold likeForm? at h
  split at h
  · rename_i hs
    rw [Bool.and_eq_true, List.all_eq_true] at hs
    exact ⟨fun f hf => beq_iff_eq.1 (hs.2 f hf), h⟩
  · cases h

/-- Whether a datum is like a form, both in lower case. -/
def Sql.Datum.isLikeLowered (like : String) (x : Datum) : Bool :=
  Datum.isLike '\\' (some (Datum.lowered like)) (x.likeText?.map Datum.lowered) == some true

theorem Sql.Datum.isLikeLowered_text {like s : String} {b : Bool} :
    (Datum.text s).isLikeLowered like = b ↔
      Datum.isLike '\\' (some (Datum.lowered like)) (some (Datum.lowered s)) = some b := by
  show (some _ == some true) = b ↔ some _ = some b
  rw [Option.some_beq_some, beq_true, Option.some.injEq]

section

variable {pattern like : String} {flags : List PatternFlag} {p : PathRef} {opened : List String}

/-- A pattern that ignores case is compiled to its form in lower case, behind a guard. -/
theorem Expr.leafClause_likeLower
    (hlike : likeForm? config.regexStrategy pattern flags = some like) (hne : flags ≠ [])
    {c : Clause} {column : Column}
    (hc : leafClause config d actor opened (.matches p pattern flags : Expr F) = .ok c)
    (hp : columnOf d opened p = .ok column) :
    c = .conj [.isNotNull column, .likeLower column like] := by
  have hclause : patternClause config.regexStrategy column pattern flags =
      .ok (.likeLower column like) := by
    rw [patternClause, hlike]
    simp [hne]
  rw [leafClause, hp] at hc
  have hc : (do return Clause.conj [.isNotNull column,
      ← patternClause config.regexStrategy column pattern flags] : Result Clause) = .ok c := hc
  rw [hclause] at hc
  exact (Except.ok.inj hc).symm

/-- Nothing is searched in such a clause. -/
theorem Expr.searches_likeLower
    (hlike : likeForm? config.regexStrategy pattern flags = some like) (hne : flags ≠ [])
    {c : Clause} {column : Column}
    (hc : leafClause config d actor opened (.matches p pattern flags : Expr F) = .ok c)
    (hp : columnOf d opened p = .ok column) : c.searches = [] := by
  rw [Expr.leafClause_likeLower hlike hne hc hp]
  rfl

/-- **The clause** of a pattern that ignores case is true where the text is like the form, both in
    lower case. -/
theorem Expr.truthValue_likeLower [CharacterNames]
    (hlike : likeForm? config.regexStrategy pattern flags = some like) (hne : flags ≠ [])
    {c : Clause} {column : Column}
    (hc : leafClause config d actor opened (.matches p pattern flags : Expr F) = .ok c)
    (hp : columnOf d opened p = .ok column) {frames : List Frame}
    (hx : ColumnType.str.Stores (readColumn frames column)) :
    c.truthValue db frames = some ((readColumn frames column).isLikeLowered like) := by
  rw [Expr.leafClause_likeLower hlike hne hc hp, Clause.truthValue_guarded]
  show (if _ then _ else Datum.isLike '\\' (some (Datum.lowered like))
    ((readColumn frames column).likeText?.map Datum.lowered)) = _
  generalize readColumn frames column = x at hx
  cases hx with
  | null => rfl
  | text s =>
    rw [if_neg (by simp)]
    exact Datum.isLikeLowered_text.1 rfl

/-- Some flags that ignore case are this flag. -/
theorem Pattern.FlagSet.ofFlags_ignoreCase (hne : flags ≠ []) (h : ∀ f ∈ flags, f = .ignoreCase) :
    Pattern.FlagSet.ofFlags flags = { ignoreCase := true } := by
  have hnot : ∀ f, f ≠ .ignoreCase → flags.contains f = false := by
    intro f hf
    rw [Bool.eq_false_iff, ne_eq, List.contains_iff_mem]
    exact fun hm => hf (h f hm)
  have hin : flags.contains .ignoreCase = true := by
    obtain ⟨f, hf⟩ := List.exists_mem_of_ne_nil flags hne
    rw [List.contains_iff_mem]
    exact h f hf ▸ hf
  rw [Pattern.FlagSet.ofFlags, hin, hnot _ (by simp), hnot _ (by simp), hnot _ (by simp)]

end

/-! ## Texts of one line -/

/-- Null, or a text of one line. -/
inductive Sql.Datum.IsLine : Datum → Prop
  | null : IsLine .null
  | text (s : String) : Pattern.IsLine s.toList → IsLine (.text s)

theorem Sql.Datum.IsLine.stores {x : Datum} (h : x.IsLine) : ColumnType.str.Stores x := by
  cases h with
  | null => exact .null
  | text s => exact .text s

section

variable {form : Pattern.Form} {like : String} {program : Pattern.Program}

/-- A program finds in texts of one line what has the items of a form, whatever their case. -/
def Pattern.Program.IsForm (program : Pattern.Program) (form : Pattern.Form) : Prop :=
  ∀ text : String, Pattern.IsLine text.toList →
    program.search text = Pattern.itemsMatch Pattern.Mode.anyCase.same form.items text.toList

/-- **A pattern that ignores case** and has a `LIKE` form can be read, and finds in a text of one
    line what has the items of the form, whatever their case. -/
theorem Pattern.Form.search_anyCase [CharacterNames] {pattern : String} {flags : List PatternFlag}
    (hform : pattern.toList = form.written) (hne : flags ≠ [])
    (h : ∀ f ∈ flags, f = .ignoreCase) :
    ∃ program, Pattern.compileWith pattern flags = .ok program ∧ program.IsForm form := by
  have hflags := Pattern.FlagSet.ofFlags_ignoreCase hne h
  refine ⟨_, form.compile_eq hform (by rw [hflags]; exact ⟨rfl, rfl, rfl⟩), fun text ht => ?_⟩
  rw [hflags]
  exact form.search_eq_itemsMatch rfl ht.1

/-- **Both sides are the same for all texts of one line** iff ASCII and Unicode make the same of the
    form. -/
theorem Pattern.Program.IsForm.agrees_iff (h : program.IsForm form)
    (hl : like.toList = form.image) :
    (∀ x : Datum, x.IsLine → x.isLikeLowered like = program.holds x) ↔
      Pattern.FoldsAlike like := by
  rw [← Pattern.Form.foldsAlike_iff hl]
  constructor
  · intro ha s hs
    rw [← h s hs]
    exact Datum.isLikeLowered_text.1 (ha (.text s) (.text s hs))
  · rintro ha x (_ | ⟨s, hs⟩)
    · rfl
    · rw [Datum.isLikeLowered_text, ha s hs]
      exact congrArg some (h s hs).symm

/-- What is like the form in lower case is found, if no null character stops the reading and no
    character of the form is taken for another one. -/
theorem Pattern.Program.IsForm.holds_of_isLikeLowered (h : program.IsForm form)
    (hl : like.toList = form.image) (hn : Text.NulFree like)
    (hd : ∀ d ∈ like.toList, d ∉ Datum.blurred) {x : Datum} (hx : x.IsLine)
    (hlike : x.isLikeLowered like = true) : program.holds x = true := by
  cases hx with
  | null => cases hlike
  | text s hs =>
    show program.search s = true
    rw [h s hs]
    exact Pattern.Form.itemsMatch_of_isLike hl hn hd hs.2 (Datum.isLikeLowered_text.1 hlike)

end

/-! ## Filters -/

/-- A rule allows some rows of the main table, and its filter selects some. -/
def Rule.Selects [CharacterNames] (r : Rule F) (config : Config) (call : Meaning F)
    (d : Declarations) (actor : Value) (main : String) (owner : String → String) (db : Database)
    (c : Clause) (allows selects : Row → Bool) : Prop :=
  (∀ row ∈ db.rows (owner main),
    (r.evaluate config call actor (d.resources main owner db row)).result = .ok (allows row)) ∧
  ∀ id : Column, id.table = some (owner main) → (Selection.mk [id] c).run db =
    .ok (((db.rows (owner main)).filter selects).map fun row => [cell row id])

/-- Where there is one row, an exact filter selects it if it is allowed. -/
theorem Rule.Selects.selects_eq [CharacterNames] {r : Rule F} {call : Meaning F} {c : Clause}
    {allows selects : Row → Bool} {id : Column} {row : Row}
    (h : r.Selects config call d actor main owner db c allows selects)
    (hexact : r.SelectsExactly config call d actor main owner db c)
    (hid : id.table = some (owner main)) (hrow : db.rows (owner main) = [row]) :
    selects row = allows row := by
  obtain ⟨heval, hrun⟩ := h
  obtain ⟨allows', heval', hrun'⟩ := hexact
  have hm : row ∈ db.rows (owner main) := by rw [hrow]; exact List.mem_singleton_self row
  have hallows : allows' row = allows row := Except.ok.inj ((heval' row hm).symm.trans (heval row hm))
  have hlists := Except.ok.inj ((hrun id hid).symm.trans (hrun' id hid))
  have hlength := congrArg List.length hlists
  rw [hrow, List.length_map, List.length_map, List.filter_cons, List.filter_cons, List.filter_nil,
    List.filter_nil, hallows] at hlength
  cases hs : selects row <;> cases ha : allows row <;> simp [hs, ha] at hlength ⊢

section

variable {p : PathRef} {column : Column} {call : Meaning F} {r : Rule F} {c : Clause}
  {pattern like : String} {flags : List PatternFlag} {turned : Bool} {e : Expr Empty}

/-- The rows of the main table may be others, with data of the type in them. -/
theorem Declarations.Stores.of_rows {t : ColumnType} (h : d.Stores main owner db t p column)
    {db' : Database} (hrows : ∀ row ∈ db'.rows (owner main), t.Stores (cell row column)) :
    d.Stores main owner db' t p column :=
  { h with data := hrows }

/-- **What a rule that stands for a pattern allows, and what its filter selects**, where the pattern
    ignores case and has a `LIKE` form: the rows in which it is found, and those with a text that is
    like the form, both in lower case; under a negation the others. -/
theorem Declarations.Stores.selects_matches [CharacterNames]
    (hs : d.Stores main owner db .str p column) (h : (r.compile config call d actor).result = .ok c)
    (he : r.expansion config call actor = some e)
    (hn : (Expr.matches p pattern flags : Expr Empty).Negated turned e)
    (hlike : likeForm? config.regexStrategy pattern flags = some like) (hne : flags ≠ [])
    {program : Pattern.Program} (hprogram : Pattern.compileWith pattern flags = .ok program) :
    r.Selects config call d actor main owner db c
      (fun row => program.holds (cell row column) != turned)
      (fun row => (cell row column).isLikeLowered like != turned) := by
  have hleaf : (Expr.matches p pattern flags : Expr Empty).isLeaf = true := rfl
  have hc : e.clause config d actor [] = .ok c := (Rule.compile_follows he).eq_ok h
  obtain ⟨c₀, hc₀, ht⟩ := hn.exists_clause hleaf hc
  refine ⟨fun row _ => ?_, fun id hid => ?_⟩
  · rw [Rule.evaluate_unrelated h he (hn.relatedTables_eq.trans (Expr.relatedTables_leaf hleaf))]
    exact hn.decision_eq hleaf (Expr.evaluate_matches hprogram (hs.resolvePath_eq [] row))
  · have htables : ∀ table ∈ c.tables, table = owner main := by
      rw [Clause.tables, ht.holds Clause.joined_columns]
      exact hs.tables_eq hleaf rfl hc₀
    have hselections : ∀ q ∈ c.selections (some [owner main]), q.2 ≠ [] := by
      rw [ht.holds (Clause.joined_selections _), leafClause_selections hleaf hc₀]
      exact fun _ hq => nomatch hq
    have hbound : ∀ v ∈ c.bound, v.Bindable := by
      rw [ht.holds Clause.joined_bound]
      intro v hv
      obtain ⟨-, ⟨s, rfl⟩ | hv⟩ := leafClause_bound hleaf hc₀ v hv
      · exact ⟨_, rfl⟩
      · cases hv
    have hnone : c.searches = [] := by
      rw [ht.holds Clause.joined_searches]
      exact Expr.searches_likeLower hlike hne hc₀ (hs.columnOf_eq [])
    rw [Selection.run_own hid htables hselections hbound (.of_nil hnone)]
    refine congrArg (fun rows => Except.ok (List.map _ rows)) (List.filter_congr fun row hrow => ?_)
    have hread : readColumn [[(owner main, row)]] column = cell row column :=
      readColumn_of_eq hs.owned row []
    have htruth : c.truthValue db [[(owner main, row)]] = _ :=
      ht.truth (Expr.truthValue_likeLower hlike hne hc₀ (hs.columnOf_eq [])
        (by rw [hread]; exact hs.data row hrow))
    rw [htruth, hread, Option.some_beq_some, beq_true]

end

/-! ## Notes by their text -/

/-- The notes in which a pattern is found in any case. -/
def notesLike (pattern : String) : Expr Empty :=
  .matches ⟨false, "note", "body"⟩ pattern [.ignoreCase]

/-! ## Agreement -/

/-- **When a `LIKE` form in lower case selects what is found in any case.**  For a rule that stands
    for a pattern that ignores case, or for a negation of it, and that is compiled to a `LIKE` form:
    its filter selects the rows that the evaluator allows, for all texts of one line, iff ASCII and
    Unicode make the same of the form.  A form without null characters and such as are taken for one
    another selects no other rows, and under a negation all that are allowed. -/
theorem Rule.select_anyCase [CharacterNames] (config : Config) (call : Meaning F) (d : Declarations)
    (actor : Value) (main : String) (owner : String → String) (r : Rule F) (c : Clause)
    (h : (r.compile config call d actor).result = .ok c) :
    ∃ e, r.expansion config call actor = some e ∧
      ∀ p column pattern flags like turned db,
        (Expr.matches p pattern flags : Expr Empty).Negated turned e →
        likeForm? config.regexStrategy pattern flags = some like → flags ≠ [] →
        d.Stores main owner db .str p column →
        ((∀ db', (∀ row ∈ db'.rows (owner main), (cell row column).IsLine) →
            r.SelectsExactly config call d actor main owner db' c) ↔ Pattern.FoldsAlike like) ∧
        (Text.NulFree like → (∀ c ∈ like.toList, c ∉ Datum.blurred) →
          ∀ db', (∀ row ∈ db'.rows (owner main), (cell row column).IsLine) →
            ∃ allows selects, r.Selects config call d actor main owner db' c allows selects ∧
              ∀ row ∈ db'.rows (owner main),
                (selects row != turned) = true → (allows row != turned) = true) := by
  obtain ⟨e, he, -⟩ := Rule.expansion_of_compile h
  refine ⟨e, he, fun p column pattern flags like turned db hn hlike hne hs => ?_⟩
  obtain ⟨hflags, hof⟩ := likeForm?_eq_some hlike
  obtain ⟨form, hwritten, hl⟩ := Pattern.likeOf?_eq_some hof
  obtain ⟨program, hprogram, hform⟩ := form.search_anyCase hwritten hne hflags
  have hselects : ∀ db', (∀ row ∈ db'.rows (owner main), (cell row column).IsLine) →
      r.Selects config call d actor main owner db' c
        (fun row => program.holds (cell row column) != turned)
        (fun row => (cell row column).isLikeLowered like != turned) := fun db' hdata =>
    (hs.of_rows fun row hrow => (hdata row hrow).stores).selects_matches h he hn hlike hne hprogram
  refine ⟨?_, fun hnul hchars db' hdata => ⟨_, _, hselects db' hdata, fun row hrow hsel => ?_⟩⟩
  · rw [← hform.agrees_iff hl]
    constructor
    · intro ha x hx
      -- a main table with this datum only
      let row : Row := [(column.name, x)]
      let db' : Database := [(owner main, [row])]
      have hcell : cell row column = x := by
        rw [cell, List.lookup_cons_self]
        rfl
      have hrows : db'.rows (owner main) = [row] := by
        rw [Database.rows, List.lookup_cons_self]
        rfl
      have hdata : ∀ row ∈ db'.rows (owner main), (cell row column).IsLine := by
        rw [hrows]
        intro row hrow
        rw [List.mem_singleton.1 hrow, hcell]
        exact hx
      have hexact := (hselects _ hdata).selects_eq (ha _ hdata) hs.owned hrows
      rw [hcell] at hexact
      exact Bool.bne_left_inj.1 hexact
    · intro ha db' hdata
      obtain ⟨heval, hrun⟩ := hselects db' hdata
      refine ⟨_, heval, fun id hid => (hrun id hid).trans ?_⟩
      refine congrArg (fun rows => Except.ok (List.map _ rows)) (List.filter_congr fun row hrow => ?_)
      rw [ha _ (hdata row hrow)]
  · rw [Bool.bne_assoc, bne_self_eq_false, Bool.bne_false] at hsel ⊢
    exact hform.holds_of_isLikeLowered hl hnul hchars (hdata row hrow) hsel

section

attribute [local instance] CharacterNames.empty

/-- The notes that do not begin with a word, which is written without I, K and S. -/
theorem Rule.select_anyCase_of_drafts : ∃ c,
    ((Rule.expr (notesLike "^draft").not).compile {} noFunctions noteTables .null).result = .ok c ∧
    (Rule.expr (notesLike "^draft").not).SelectsExactly {} noFunctions noteTables .null "note"
      (fun _ => "notes") (textRows "DRAFT of \u00c9mile") c := by
  refine ⟨_, rfl, ?_⟩
  obtain ⟨e, he, hs⟩ := Rule.select_anyCase {} noFunctions noteTables .null "note"
    (fun _ => "notes") (.expr (notesLike "^draft").not) _ rfl
  cases he
  have hlike : likeForm? .auto "^draft" [.ignoreCase] = some "draft%" := by decide +kernel
  obtain ⟨hexact, -⟩ := hs _ _ _ _ _ _ noteRows (.not .leaf) hlike (by decide) noteTables_stores
  refine hexact.2 (.inr ⟨by unfold Text.NulFree; decide, fun d hd => ?_⟩) _ fun row hrow => ?_
  · have hd : d ∈ ['d', 'r', 'a', 'f', 't', '%'] := hd
    simp only [List.mem_cons, List.not_mem_nil, or_false] at hd
    rcases hd with rfl | rfl | rfl | rfl | rfl | rfl <;>
      exact ⟨(Pattern.foldsInAscii_iff (by decide)).2 (by decide), by decide⟩
  · rcases mem_textRows hrow with rfl | rfl
    · exact .text _ ⟨by decide, by decide⟩
    · exact .null

/-- A note with a capital beyond ASCII: the evaluator finds the small letter in it, and no row is
    like the form in lower case. -/
theorem Rule.select_misses_capital : ∃ c,
    ((Rule.expr (notesLike "\u00e9")).compile {} noFunctions noteTables .null).result = .ok c ∧
    Pattern.likeOf? "\u00e9" = some "%\u00e9%" ∧ Pattern.IsLine "\u00c9".toList ∧
    (Selection.mk [⟨"id", some "notes", some .int⟩] c).run (textRows "\u00c9") = .ok [] ∧
    ((Rule.expr (notesLike "\u00e9")).evaluate {} noFunctions .null
      (noteTables.resources "note" (fun _ => "notes") (textRows "\u00c9")
        [("id", .integer 1), ("body", .text "\u00c9")])).result = .ok true := by
  refine ⟨_, rfl, ?_, ?_, ?_, ?_⟩
  · decide +kernel
  · exact ⟨by decide, by decide⟩
  · rfl
  · rfl

end

end Clearance
