/-
  Patterns that are left to the database.

  Under the native strategy the clause of a pattern holds it with its flags in front.  A database
  that searches a text for it, under no flags, finds what the evaluator finds under these flags.

  * `Operator.search_eq_ok`: a node that was built for a pattern has its flags in the order in which
    they were written, and the pattern can be read under them;
  * `regexpHolds_inlineFlags`: what a database makes of the pattern with its flags in front;
  * `Expr.evaluate_matches` and `Expr.truthValue_matches`: the node on both sides;
  * `Rule.select_matches`: a filter selects the rows in which the pattern is found;
  * `Operator.search_native`: all of this from how the node was built.
-/
import Clearance.Draft.Operator
import Clearance.Proofs.Agreement.Mismatch
import Clearance.Proofs.Pattern.InlineFlags

namespace Clearance

open Sql

variable {F : Type} {config : Config} {d : Declarations} {actor : Value} {main : String}
  {owner : String → String} {db : Database}

/-! ## Building -/

theorem letter_of_ofLetter? {c : Char} {f : PatternFlag} (h : PatternFlag.ofLetter? c = some f) :
    f.letter = c := by
  unfold PatternFlag.ofLetter? at h
  split at h <;> cases h <;> rfl

/-- The flags of letters have these letters, in this order. -/
theorem Operator.flags_eq_ok {letters : String} {flags : List PatternFlag}
    (h : Operator.flags letters = .ok flags) : flagText flags = letters := by
  have hletters : ∀ cs : List Char, (cs.filter fun c => (PatternFlag.ofLetter? c).isNone) = [] →
      (cs.filterMap PatternFlag.ofLetter?).map PatternFlag.letter = cs := by
    intro cs hcs
    induction cs with
    | nil => rfl
    | cons c cs ih =>
      cases hc : PatternFlag.ofLetter? c with
      | none => rw [List.filter_cons_of_pos (by rw [hc]; rfl)] at hcs; cases hcs
      | some f =>
        rw [List.filter_cons_of_neg (by rw [hc]; exact Bool.false_ne_true)] at hcs
        rw [List.filterMap_cons_some hc, List.map_cons, ih hcs, letter_of_ofLetter? hc]
  unfold Operator.flags at h
  dsimp only at h
  split at h
  · rename_i hnone
    cases h
    rw [flagText, hletters _ (List.isEmpty_iff.1 hnone), String.ofList_toList]
  · cases h

/-- **A node for a pattern** has the flags as they were written, and the pattern can be read under
    them. -/
theorem Operator.search_eq_ok [CharacterNames] {path : Argument F} {pattern letters : String}
    {e : Expr F} (h : Operator.search path (.str pattern) (.str letters) = .ok e) :
    ∃ p flags program, e = .matches p pattern flags ∧ flagText flags = letters ∧
      Pattern.compileWith pattern flags = .ok program := by
  obtain ⟨p, -, h⟩ := Result.bind_eq_ok.1 h
  obtain ⟨_, htext, h⟩ := Result.bind_eq_ok.1 h
  cases htext
  obtain ⟨_, htext, h⟩ := Result.bind_eq_ok.1 h
  cases htext
  obtain ⟨flags, hflags, h⟩ := Result.bind_eq_ok.1 h
  cases hcompile : Pattern.compileWith pattern flags with
  | ok program =>
    rw [hcompile] at h
    cases h
    exact ⟨p, flags, program, rfl, Operator.flags_eq_ok hflags, hcompile⟩
  | error e =>
    rw [hcompile] at h
    dsimp only at h
    split at h
    · cases h
    · cases h

/-- A pattern that can be read under its flags has a node. -/
theorem Operator.search_of_compileWith [CharacterNames] {path : Argument F} {p : PathRef}
    {pattern letters : String} {flags : List PatternFlag} {program : Pattern.Program}
    (hp : path.path = .ok p) (hflags : Operator.flags letters = .ok flags)
    (h : Pattern.compileWith pattern flags = .ok program) :
    Operator.search path (.str pattern) (.str letters) = .ok (.matches p pattern flags) := by
  refine Result.bind_eq_ok.2 ⟨p, hp, Result.bind_eq_ok.2 ⟨pattern, rfl,
    Result.bind_eq_ok.2 ⟨letters, rfl, Result.bind_eq_ok.2 ⟨flags, hflags, ?_⟩⟩⟩⟩
  rw [h]
  rfl

/-! ## Both sides -/

/-- Whether a program is found in a datum, which has to be a text. -/
def Pattern.Program.holds (program : Pattern.Program) : Datum → Bool
  | .text s => program.search s
  | _ => false

section

variable {pattern : String} {flags : List PatternFlag} {program : Pattern.Program}

/-- **A database** that is given a pattern with its flags in front looks for the pattern under
    these flags. -/
theorem regexpHolds_inlineFlags [CharacterNames]
    (h : Pattern.compileWith pattern flags = .ok program) {x : Datum} (hx : x.Searchable)
    (hn : x ≠ .null) :
    regexpHolds (Pattern.inlineFlags pattern flags) x = some (program.holds x) := by
  have hinlined : Pattern.compile (Pattern.inlineFlags pattern flags) .none = .ok program :=
    Pattern.compileWith_inlineFlags_eq_ok.2 h
  cases hx with
  | null => exact absurd rfl hn
  | text s => rw [regexpHolds, hinlined]; rfl

variable {p : PathRef} {opened : List String}

/-- **The evaluator** looks for a pattern under its flags. -/
theorem Expr.evaluate_matches [CharacterNames] (h : Pattern.compileWith pattern flags = .ok program)
    {resources : Value} {x : Datum} {type : Option ColumnType}
    (hp : resolvePath resources opened p = .ok (x.value type)) :
    evaluateLeaf config actor resources opened (.matches p pattern flags : Expr F) =
      .ok (program.holds x) := by
  rw [evaluateLeaf, hp]
  cases x with
  | text s =>
    show Pattern.finds pattern flags s = _
    rw [Pattern.finds, h]
    rfl
  | integer i =>
    rw [Datum.value]
    split
    · rfl
    · rfl
  | _ => rfl

/-- A pattern that is left to the database is compiled to a search behind a guard. -/
theorem Expr.leafClause_native (hn : config.regexStrategy = .native) {c : Clause} {column : Column}
    (hc : leafClause config d actor opened (.matches p pattern flags : Expr F) = .ok c)
    (hp : columnOf d opened p = .ok column) :
    c = .conj [.isNotNull column, .regexp column (Pattern.inlineFlags pattern flags)] := by
  have hclause : patternClause config.regexStrategy column pattern flags =
      .ok (.regexp column (Pattern.inlineFlags pattern flags)) := by
    rw [hn]
    rfl
  rw [leafClause, hp] at hc
  have hc : (do return Clause.conj [.isNotNull column,
      ← patternClause config.regexStrategy column pattern flags] : Result Clause) = .ok c := hc
  rw [hclause] at hc
  exact (Except.ok.inj hc).symm

/-- **The clause** of a pattern that is left to the database is true where the pattern is found. -/
theorem Expr.truthValue_matches [CharacterNames] (hn : config.regexStrategy = .native)
    (h : Pattern.compileWith pattern flags = .ok program) {c : Clause} {column : Column}
    (hc : leafClause config d actor opened (.matches p pattern flags : Expr F) = .ok c)
    (hp : columnOf d opened p = .ok column) {frames : List Frame}
    (hx : (readColumn frames column).Searchable) :
    c.truthValue db frames = some (program.holds (readColumn frames column)) := by
  rw [Expr.leafClause_native hn hc hp, Clause.truthValue_guarded]
  split
  · rename_i hnull
    rw [hnull]
    rfl
  · rename_i hnull
    exact regexpHolds_inlineFlags h hx hnull

end

/-! ## Filters -/

/-- A filter of a rule, as the condition of a selection from the main table, selects the rows that
    the evaluator allows, and no row is left undecided. -/
def Rule.SelectsExactly [CharacterNames] (r : Rule F) (config : Config) (call : Meaning F)
    (d : Declarations) (actor : Value) (main : String) (owner : String → String) (db : Database)
    (c : Clause) : Prop :=
  ∃ allows : Row → Bool,
    (∀ row ∈ db.rows (owner main),
      (r.evaluate config call actor (d.resources main owner db row)).result = .ok (allows row)) ∧
    ∀ id : Column, id.table = some (owner main) → (Selection.mk [id] c).run db =
      .ok (((db.rows (owner main)).filter allows).map fun row => [cell row id])

theorem Sql.ColumnType.Stores.searchable {x : Datum} (h : ColumnType.str.Stores x) :
    x.Searchable := by
  cases h with
  | null => exact .null
  | text s => exact .text s

/-- The search of a pattern in a column of texts succeeds. -/
theorem Declarations.Stores.searchable [CharacterNames] {p : PathRef} {column : Column}
    {pattern : String} {flags : List PatternFlag} {program : Pattern.Program}
    (hs : d.Stores main owner db .str p column) (hn : config.regexStrategy = .native)
    (hprogram : Pattern.compileWith pattern flags = .ok program) {opened : List String} {c : Clause}
    (hc : leafClause config d actor opened (.matches p pattern flags : Expr F) = .ok c) :
    c.Searchable db [] := by
  rw [Expr.leafClause_native hn hc (hs.columnOf_eq opened)]
  have hq : ∀ q ∈ (Clause.conj [.isNotNull column,
      .regexp column (Pattern.inlineFlags pattern flags)]).searches,
      q = (column, Pattern.inlineFlags pattern flags) := fun q hq => List.mem_singleton.1 hq
  refine ⟨fun q hm => ?_, fun q _ => nofun, fun q hm table row hrow htable => ?_⟩
  · rw [hq q hm]
    exact ⟨program, Pattern.compileWith_inlineFlags_eq_ok.2 hprogram⟩
  · rw [hq q hm, hs.owned] at htable
    obtain rfl := Option.some.inj (htable.resolve_left (Option.some_ne_none _))
    rw [hq q hm]
    exact (hs.data row hrow).searchable

/-- A filter of a rule that stands for a pattern selects the rows in which it is found. -/
theorem Rule.select_matches [CharacterNames] {call : Meaning F} {r : Rule F} {c : Clause}
    {p : PathRef} {pattern : String} {flags : List PatternFlag} {program : Pattern.Program}
    {column : Column} (hn : config.regexStrategy = .native)
    (hprogram : Pattern.compileWith pattern flags = .ok program)
    (hs : d.Stores main owner db .str p column)
    (hr : (r.compile config call d actor).result = .ok c)
    (he : r.expansion config call actor = some (.matches p pattern flags)) :
    r.SelectsExactly config call d actor main owner db c := by
  obtain ⟨e, he', hc⟩ := Rule.expansion_of_compile hr
  obtain rfl := Option.some.inj (he.symm.trans he')
  rw [Expr.clause_leaf rfl] at hc
  refine ⟨fun row => program.holds (cell row column), fun row _ => ?_, fun id hid => ?_⟩
  · rw [Rule.evaluate_leaf hr he rfl]
    exact Expr.evaluate_matches hprogram (hs.resolvePath_eq [] row)
  · have hbound : ∀ v ∈ c.bound, v.Bindable := by
      intro v hv
      obtain ⟨-, ⟨s, rfl⟩ | hv⟩ := leafClause_bound rfl hc v hv
      · exact ⟨_, rfl⟩
      · cases hv
    rw [hs.run_leaf rfl rfl hc hid hbound (hs.searchable hn hprogram hc)]
    refine congrArg (fun rows => Except.ok (List.map _ rows)) (List.filter_congr fun row hrow => ?_)
    have hread : readColumn [[(owner main, row)]] column = cell row column :=
      readColumn_of_eq hs.owned row []
    have htruth : c.truthValue db [[(owner main, row)]] = _ :=
      Expr.truthValue_matches hn hprogram hc (hs.columnOf_eq [])
        (by rw [hread]; exact (hs.data row hrow).searchable)
    rw [htruth, hread, Option.some_beq_some, beq_true]

/-- **Flags travel in front of a pattern.**  A pattern that a node was built for can, with its flags
    in front, be read under no flags, and is found in the same texts.  So where it is left to the
    database, the node is decided as its clause is wherever the column holds a text, and a filter of
    a rule that stands for the node selects the rows that the evaluator allows. -/
theorem Operator.search_native [CharacterNames] {path : Argument F} {pattern letters : String}
    {e : Expr F} (h : Operator.search path (.str pattern) (.str letters) = .ok e) :
    ∃ p flags, e = .matches p pattern flags ∧ flagText flags = letters ∧
      (∃ program, Pattern.compileWith (Pattern.inlineFlags pattern flags) [] = .ok program) ∧
      (∀ text, Pattern.finds (Pattern.inlineFlags pattern flags) [] text =
        Pattern.finds pattern flags text) ∧
      ∀ (config : Config) (d : Declarations) (actor : Value), config.regexStrategy = .native →
        (∀ opened c column (db : Database) frames resources text,
          leafClause config d actor opened e = .ok c → columnOf d opened p = .ok column →
          readColumn frames column = .text text →
          resolvePath resources opened p = .ok (.str text) →
          ∃ b, evaluateLeaf config actor resources opened e = .ok b ∧
            c.truthValue db frames = some b) ∧
        (∀ (call : Meaning F) (main : String) (owner : String → String) (db : Database) (r : Rule F)
          c column, d.Stores main owner db .str p column →
          (r.compile config call d actor).result = .ok c →
          r.expansion config call actor = some (.matches p pattern flags) →
          r.SelectsExactly config call d actor main owner db c) := by
  obtain ⟨p, flags, program, rfl, hletters, hprogram⟩ := Operator.search_eq_ok h
  have hinlined := Pattern.compileWith_inlineFlags_eq_ok.2 hprogram
  refine ⟨p, flags, rfl, hletters, ⟨program, hinlined⟩, fun text => ?_, fun config d actor hn =>
    ⟨fun opened c column db frames resources text hc hp hread hpath => ?_,
      fun call main owner db r c column hs hr he => Rule.select_matches hn hprogram hs hr he⟩⟩
  · rw [Pattern.finds, Pattern.finds, hinlined, hprogram]
  · have htext : resolvePath resources opened p = .ok ((Datum.text text).value none) := hpath
    refine ⟨_, Expr.evaluate_matches hprogram htext, ?_⟩
    rw [Expr.truthValue_matches hn hprogram hc hp (by rw [hread]; exact .text text), hread]

/-! ## Notes by their first words -/

/-- Two notes, of which the second one has no text. -/
def noteRows : Database :=
  [("notes", [[("id", .integer 1), ("body", .text "b\nA")], [("id", .integer 2), ("body", .null)]])]

theorem noteTables_stores : noteTables.Stores "note" (fun _ => "notes") noteRows .str
    ⟨false, "note", "body"⟩ ⟨"body", some "notes", some .str⟩ where
  subject := rfl
  isMain := rfl
  declared := ⟨_, ⟨_, .subject rfl, rfl⟩, rfl⟩
  owned := rfl
  type := rfl
  data row hrow := by
    have hrow : row = [("id", .integer 1), ("body", .text "b\nA")] ∨
        row = [("id", .integer 2), ("body", .null)] := by
      simpa [noteRows, Database.rows] using hrow
    rcases hrow with rfl | rfl
    · exact .text _
    · exact .null

/-- The notes with a line that begins with an `a`, which is written by its name, in either case. -/
def linedNotes : Rule Empty :=
  .expr (.matches ⟨false, "note", "body"⟩ "^\\N\x7bA\x7d" [.multiline, .ignoreCase, .multiline])

section

/-- One letter has a name. -/
@[reducible] def CharacterNames.ofA : CharacterNames where
  char?
    | ['A'] => some 'a'
    | _ => none

attribute [local instance] CharacterNames.ofA

/-- A pattern whose flags were written in another order and with a repetition: it is found at the
    start of the second line, in another case. -/
theorem Operator.search_native_of_lines :
    Pattern.inlineFlags "^\\N\x7bA\x7d" [.multiline, .ignoreCase, .multiline] =
      "(?im)^\\N\x7bA\x7d" ∧
    Pattern.finds "(?im)^\\N\x7bA\x7d" [] "b\nA" = .ok true ∧
    ∃ c, (linedNotes.compile { regexStrategy := .native } noFunctions noteTables .null).result =
        .ok c ∧
      linedNotes.SelectsExactly { regexStrategy := .native } noFunctions noteTables .null "note"
        (fun _ => "notes") noteRows c := by
  have hinline : Pattern.inlineFlags "^\\N\x7bA\x7d" [.multiline, .ignoreCase, .multiline] =
      "(?im)^\\N\x7bA\x7d" := by
    have hsorted : (['m', 'i', 'm'].mergeSort fun a b => a ≤ b) = ['i', 'm', 'm'] := by
      simp [List.mergeSort, List.MergeSort.Internal.splitInTwo]
    show "(?" ++ String.ofList (['m', 'i', 'm'].mergeSort _).eraseReps ++ ")" ++
      "^\\N\x7bA\x7d" = _
    rw [hsorted]
    rfl
  have hsearch : (Pattern.compileWith "^\\N\x7bA\x7d"
      [.multiline, .ignoreCase, .multiline]).toOption.any (·.search "b\nA") = true := by
    decide +kernel
  cases hprogram : Pattern.compileWith "^\\N\x7bA\x7d" [.multiline, .ignoreCase, .multiline] with
  | error e => rw [hprogram] at hsearch; cases hsearch
  | ok program =>
    rw [hprogram] at hsearch
    have hfound : Pattern.finds "^\\N\x7bA\x7d" [.multiline, .ignoreCase, .multiline] "b\nA" =
        .ok true := by
      rw [Pattern.finds, hprogram]
      exact congrArg Except.ok hsearch
    have hnode : Operator.search (F := Empty) (.pathRef ⟨false, "note", "body"⟩)
        (.str "^\\N\x7bA\x7d") (.str "mim") = .ok (.matches ⟨false, "note", "body"⟩
          "^\\N\x7bA\x7d" [.multiline, .ignoreCase, .multiline]) :=
      Operator.search_of_compileWith rfl rfl hprogram
    obtain ⟨p, flags, he, -, -, hfinds, hnative⟩ := Operator.search_native hnode
    cases he
    refine ⟨hinline, (hinline ▸ hfinds "b\nA").trans hfound, _, rfl, ?_⟩
    obtain ⟨-, hselect⟩ := hnative { regexStrategy := .native } noteTables .null rfl
    exact hselect noFunctions "note" (fun _ => "notes") noteRows _ _ _ noteTables_stores rfl rfl

end

end Clearance
