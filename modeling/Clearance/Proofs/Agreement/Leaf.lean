/-
  Tests of columns come out the same on both sides.

  * `Expr.Compares`: all columns of a leaf are of one type, and its constants are null or of this
    type; a text is told apart from those in the column, and patterns are left to others;
  * `Term.Stands`: what an operand is compiled to stands for what it is resolved to;
  * `compareClause_agree`, `isOneOf_agree` and `oneOfClause_truth`, `affix_agree`,
    `between_agree`, `presentClause_agree`: the tests one by one, null included;
  * `Expr.Compares.agree`: a leaf is decided as its clause is.
-/
import Clearance.Proofs.Agreement.Shows
import Clearance.Proofs.Agreement.Tree

namespace Clearance

open Sql

variable {F : Type} {config : Config} {d : Declarations} {actor : Value} {main : String}
  {owner : String → String} {db : Database}

/-- A leaf compares columns of one type with each other and with constants of this type. -/
structure Expr.Compares (config : Config) (d : Declarations) (actor : Value)
    (owner : String → String) (db : Database) (t : ColumnType) (e : Expr F) : Prop where
  columns : ∀ p ∈ e.nodePaths, ∀ h, d.Declares p h → h.column.type = some t ∧
    ∀ row ∈ db.rows (owner p.table), t.Holds (cell row h.column)
  constants : ∀ v ∈ e.constants config actor, t.Takes v
  text : ∀ test path text, e = .textMatch test path text → t = .str ∧ Text.NulFree text
  apart : ∀ test path text, e = .textMatch test path text → ∀ h, d.Declares path h →
    ∀ row ∈ db.rows (owner path.table), ∀ s, cell row h.column = .text s → Text.ToldApart text s
  noPattern : ∀ path pattern flags, e ≠ .matches path pattern flags

/-! ## Operands -/

/-- A term stands for a datum, and this for a value. -/
inductive Sql.Term.Stands (frames : List Frame) (t : ColumnType) : Term → Datum → Value → Prop
  | column {c v} : c.type = some t → Shows t (readColumn frames c) v →
      Stands frames t (.column c) (readColumn frames c) v
  | value {v} : Shows t (Datum.ofValueOrNull v) v →
      Stands frames t (.value v) (Datum.ofValueOrNull v) v

theorem Sql.Term.Stands.shows {frames : List Frame} {t : ColumnType} {term : Term} {y : Datum}
    {w : Value} (h : term.Stands frames t y w) : Shows t y w := by
  cases h with
  | column _ h => exact h
  | value h => exact h

section

variable {t : ColumnType} {frames : List Frame} {c : Column} {v : Value}

theorem orderOf_column {e : Column} (hc : c.type = some t) (he : e.type = some t) :
    orderOf frames c (.column e) = (readColumn frames c).compare? (readColumn frames e) := by
  show (Datum.fit c.type e.type _ _).1.compare? (Datum.fit c.type e.type _ _).2 = _
  rw [hc, he, Shows.fit_column]

theorem orderOf_value {w : Value} (hc : c.type = some t) (hx : Shows t (readColumn frames c) v)
    (hw : Shows t (Datum.ofValueOrNull w) w) :
    orderOf frames c (.value w) = (readColumn frames c).compare? (Datum.ofValueOrNull w) := by
  show (Datum.fit c.type none _ _).1.compare? (Datum.fit c.type none _ _).2 = _
  rw [hc, hx.fit_value hw]

/-! ## Equality -/

theorem isSame_null_left {y : Datum} (h : y ≠ .null) : Datum.null.isSame y = false := by
  cases y <;> first | rfl | exact absurd rfl h

theorem isSame_of_compare {x y : Datum} {o : Ordering} (h : x.compare? y = some o) :
    x.isSame y = (o == .eq) := by
  unfold Datum.isSame
  split
  · cases h
  · rw [h]; rfl

/-- A guarded test for equality tells whether the data are the same. -/
theorem guarded_equals [CharacterNames] (hc : c.type = some t)
    (hx : Shows t (readColumn frames c) v) {w : Value} (hw : Shows t (Datum.ofValueOrNull w) w)
    (hn : Datum.ofValueOrNull w ≠ .null) {test : Clause}
    (ht : test.truthValue db frames = (orderOf frames c (.value w)).map (· == .eq)) :
    (Clause.conj [.isNotNull c, test]).truthValue db frames =
      some ((readColumn frames c).isSame (Datum.ofValueOrNull w)) := by
  rw [Clause.truthValue_guarded]
  split
  · rename_i h
    rw [h, isSame_null_left hn]
  · rename_i h
    obtain ⟨o, ho, -⟩ := hx.compare hw h hn
    rw [ht, orderOf_value hc hx hw, ho, isSame_of_compare ho]
    rfl

theorem isSame_null_right (x : Datum) : x.isSame .null = (x == .null) := by
  cases x <;> rfl

theorem equalClause_truth [CharacterNames] (hc : c.type = some t)
    (hx : Shows t (readColumn frames c) v) {term : Term} {y : Datum} {w : Value}
    (hy : term.Stands frames t y w) :
    (equalClause c term).truthValue db frames = some ((readColumn frames c).isSame y) := by
  cases hy with
  | @column e w he hw =>
    show some (Datum.isSame (Datum.fit c.type e.type _ _).1 (Datum.fit c.type e.type _ _).2) = _
    rw [hc, he, Shows.fit_column]
  | value hw =>
    unfold equalClause
    split
    · rename_i h; cases h
    · rename_i h
      cases h
      rw [show Datum.ofValueOrNull .null = .null from rfl, isSame_null_right]
      rfl
    · rename_i h
      cases h
      exact guarded_equals hc hx hw (hw.ne_null rfl) rfl
    · rename_i h _ e
      cases e
      exact guarded_equals hc hx hw (hw.ne_null (Value.isNull_of_ne h)) rfl

/-! ## Order -/

/-- Whether data are ordered as a sign asks; null is not ordered. -/
def Sql.Datum.ordered (op : OrderOp) (x y : Datum) : Bool := ((x.compare? y).map op.admits).getD false

theorem ordered_null_left (op : OrderOp) (y : Datum) : Datum.ordered op .null y = false := by
  cases y <;> rfl

theorem ordered_null_right (op : OrderOp) (x : Datum) : Datum.ordered op x .null = false := by
  cases x <;> rfl

/-- Values are ordered as the data that stand for them. -/
theorem ordered_agree {cop : CompareOp} {op : OrderOp} (h : ∀ o, cop.admits o = op.admits o)
    {x y : Datum} {w : Value} (hx : Shows t x v) (hy : Shows t y w) :
    ordered cop v w = .ok (Datum.ordered op x y) := by
  unfold ordered
  rw [hx.isNull_eq, hy.isNull_eq]
  by_cases hxn : x = .null
  · subst hxn
    rw [ordered_null_left]
    rfl
  · by_cases hyn : y = .null
    · subst hyn
      rw [ordered_null_right]
      simp
    · obtain ⟨o, hd, hv⟩ := hx.compare hy hxn hyn
      have hb : (x == Datum.null || y == Datum.null) = false := by simp [hxn, hyn]
      rw [hb, hv, Datum.ordered, hd]
      exact congrArg Except.ok (h o)

theorem orderClause_truth [CharacterNames] (op : OrderOp) (hc : c.type = some t)
    (hx : Shows t (readColumn frames c) v) {term : Term} {y : Datum} {w : Value}
    (hy : term.Stands frames t y w) :
    (orderClause op c term).truthValue db frames =
      some (Datum.ordered op (readColumn frames c) y) := by
  unfold orderClause
  cases hy with
  | @column e w he hw =>
    dsimp only
    rw [Clause.truthValue_guarded₂]
    split
    · rename_i h
      rcases h with h | h
      · rw [h, ordered_null_left]
      · rw [h, ordered_null_right]
    · rename_i h
      obtain ⟨hcn, hen⟩ := not_or.1 h
      obtain ⟨o, ho, -⟩ := hx.compare hw hcn hen
      show (orderOf frames c (.column e)).map op.admits = _
      rw [orderOf_column hc he, Datum.ordered, ho]
      rfl
  | @value w hw =>
    split
    · rename_i h
      cases h
      rw [show Datum.ofValueOrNull .null = .null from rfl, ordered_null_right]
      rfl
    · rename_i h e
      cases e
      rw [Clause.truthValue_guarded]
      split
      · rename_i h
        rw [h, ordered_null_left]
      · rename_i hcn
        obtain ⟨o, ho, -⟩ := hx.compare hw hcn (hw.ne_null (Value.isNull_of_ne h))
        show (orderOf frames c (.value w)).map op.admits = _
        rw [orderOf_value hc hx hw, Datum.ordered, ho]
        rfl
    · rename_i h; cases h

/-- **Comparisons come out the same.** -/
theorem compareClause_agree [CharacterNames] (op : CompareOp) (hc : c.type = some t)
    (hx : Shows t (readColumn frames c) v) {term : Term} {y : Datum} {w : Value}
    (hy : term.Stands frames t y w) :
    ∃ b, compareValues op v w = .ok b ∧ (compareClause op c term).truthValue db frames = some b := by
  cases op with
  | eq => exact ⟨_, hx.equal hy.shows, equalClause_truth hc hx hy⟩
  | neq =>
    refine ⟨!(readColumn frames c).isSame y, ?_, ?_⟩
    · rw [compareValues, hx.equal hy.shows]; rfl
    · rw [compareClause, Clause.truthValue_negate, equalClause_truth hc hx hy]; rfl
  | gt => exact ⟨_, ordered_agree (fun _ => rfl) hx hy.shows, orderClause_truth .gt hc hx hy⟩
  | lt => exact ⟨_, ordered_agree (fun _ => rfl) hx hy.shows, orderClause_truth .lt hc hx hy⟩
  | gte => exact ⟨_, ordered_agree (fun _ => rfl) hx hy.shows, orderClause_truth .gte hc hx hy⟩
  | lte => exact ⟨_, ordered_agree (fun _ => rfl) hx hy.shows, orderClause_truth .lte hc hx hy⟩

/-! ## Constants -/

/-- Whether a datum is that of one of some constants. -/
def Sql.Datum.isAmong (x : Datum) (values : List Scalar) : Bool :=
  values.any fun s => x.isSame (Datum.ofValueOrNull (.scalar s))

theorem isAmong_cons (x : Datum) (s : Scalar) (rest : List Scalar) :
    x.isAmong (s :: rest) = (x.isSame (Datum.ofValueOrNull (.scalar s)) || x.isAmong rest) := rfl

theorem isIn_agree {x : Datum} (hx : Shows t x v) {values : List Scalar}
    (hv : ∀ s ∈ values, t.Takes (.scalar s)) : v.isIn values = .ok (x.isAmong values) := by
  induction values with
  | nil => rfl
  | cons s rest ih =>
    rw [Value.isIn, hx.identical_eq, hx.equal (hv s (by simp)).shows,
      ih fun s hs => hv s (List.mem_cons_of_mem _ hs), isAmong_cons]
    cases x.isSame (Datum.ofValueOrNull (.scalar s)) <;> rfl

theorem isOneOf_agree (hc : c.type = some t) (hx : Shows t (readColumn frames c) v)
    (hn : readColumn frames c ≠ .null) {values : List Scalar}
    (hv : ∀ s ∈ values, t.Takes (.scalar s) ∧ s ≠ .null) :
    isOneOf frames c values = some ((readColumn frames c).isAmong values) := by
  induction values with
  | nil => rfl
  | cons s rest ih =>
    obtain ⟨hs, hsn⟩ := hv s (by simp)
    have hyn : Datum.ofValueOrNull (.scalar s) ≠ .null :=
      hs.shows.ne_null (Value.isNull_of_ne fun e => hsn (Value.scalar.inj e))
    obtain ⟨o, ho, -⟩ := hx.compare hs.shows hn hyn
    rw [isOneOf, orderOf_value hc hx hs.shows, ho,
      ih fun s hs => hv s (List.mem_cons_of_mem _ hs), Option.map_some, or3_some,
      isAmong_cons, isSame_of_compare ho]

/-- Constants that are not null do not count where the column is null, and null does not count
    where it is not. -/
theorem isAmong_eq {x : Datum} (hx : Shows t x v) {values : List Scalar}
    (hv : ∀ s ∈ values, t.Takes (.scalar s)) :
    x.isAmong values = if x = .null then decide (.null ∈ values)
      else x.isAmong (values.filter (· != .null)) := by
  induction values with
  | nil => split <;> rfl
  | cons s rest ih =>
    have ih := ih fun s hs => hv s (List.mem_cons_of_mem _ hs)
    rw [isAmong_cons, ih]
    have hs : s ≠ .null → Datum.ofValueOrNull (.scalar s) ≠ .null := fun hn =>
      (hv s (by simp)).shows.ne_null (Value.isNull_of_ne fun e => hn (Value.scalar.inj e))
    by_cases hxn : x = .null
    · subst hxn
      rw [if_pos rfl, if_pos rfl]
      by_cases hsn : s = .null
      · subst hsn
        simp [Datum.ofValueOrNull, Datum.ofValue, Datum.ofScalar, Datum.isSame]
      · have hm : .null ∈ s :: rest ↔ .null ∈ rest :=
          ⟨fun h => (List.mem_cons.1 h).resolve_left fun e => hsn e.symm, List.mem_cons_of_mem _⟩
        rw [isSame_null_left (hs hsn), Bool.false_or, decide_eq_decide.2 hm]
    · rw [if_neg hxn, if_neg hxn]
      by_cases hsn : s = .null
      · subst hsn
        have hd : x.isSame (Datum.ofValueOrNull (.scalar .null)) = false := by
          rw [show Datum.ofValueOrNull (.scalar .null) = .null from rfl, isSame_null_right]
          simpa using hxn
        rw [hd, Bool.false_or, List.filter_cons_of_neg (by simp)]
      · rw [List.filter_cons_of_pos (by simpa using hsn), isAmong_cons]

/-- **Membership comes out the same.** -/
theorem oneOfClause_truth [CharacterNames] (hc : c.type = some t)
    (hx : Shows t (readColumn frames c) v) {values : List Scalar}
    (hv : ∀ s ∈ values, t.Takes (.scalar s)) :
    (oneOfClause c values).truthValue db frames =
      some ((readColumn frames c).isAmong values) := by
  have hp : ∀ s ∈ values.filter (· != .null), t.Takes (.scalar s) ∧ s ≠ .null := by
    intro s hs
    rw [List.mem_filter] at hs
    exact ⟨hv s hs.1, by simpa using hs.2⟩
  have hlen : (values.filter (· != .null)).length = values.length ↔ .null ∉ values := by
    rw [List.length_filter_eq_length_iff]
    constructor
    · intro h hn
      simpa using h _ hn
    · intro h s hs
      simp only [bne_iff_ne]
      rintro rfl
      exact h hs
  have hfirst : Clause.someTrue db frames (if (values.filter (· != .null)).isEmpty then []
      else [.conj [.isNotNull c, .oneOf c (values.filter (· != .null))]]) =
        some (if readColumn frames c = .null then false
          else (readColumn frames c).isAmong (values.filter (· != .null))) := by
    split
    · rename_i he
      rw [List.isEmpty_iff.1 he]
      split <;> rfl
    · rw [Clause.someTrue, Clause.someTrue, or3_false_right, Clause.truthValue_guarded]
      split
      · rfl
      · rename_i hn
        exact isOneOf_agree hc hx hn hp
  have hsecond : Clause.someTrue db frames (if (values.filter (· != .null)).length = values.length
      then [] else [.isNull c]) =
        some (decide (readColumn frames c = .null) && decide (.null ∈ values)) := by
    split
    · rename_i he
      rw [decide_eq_false (hlen.1 he), Bool.and_false]
      rfl
    · rename_i he
      rw [decide_eq_true (not_not.1 fun h => he (hlen.2 h)), Bool.and_true, Clause.someTrue,
        Clause.someTrue, or3_false_right]
      show some (readColumn frames c == .null) = _
      rw [beq_eq_decide]
  rw [oneOfClause_eq, Clause.truthValue_junctionClause, isAmong_eq hx hv]
  dsimp only
  rw [oneOfTests, Clause.someTrue_append, hfirst, hsecond, or3_some]
  by_cases hn : readColumn frames c = .null <;> simp [hn]

/-! ## Texts -/

/-- **Tests against a text come out the same.** -/
theorem affix_agree [CharacterNames] (test : TextTest) {text : String} (ht : Text.NulFree text)
    (hx : Shows .str (readColumn frames c) v)
    (ha : ∀ s, readColumn frames c = .text s → Text.ToldApart text s) :
    (Clause.conj [.isNotNull c, .affix test c text]).truthValue db frames =
      some (v.text?.any (test.holds text)) := by
  rw [Clause.truthValue_guarded]
  generalize hr : readColumn frames c = x at hx
  cases hx with
  | null => rfl
  | @str s hs =>
    rw [if_neg (by simp)]
    show Datum.isLike '/' (some (affixPattern test text)) (readColumn frames c).likeText? = _
    rw [hr]
    exact isLike_affixPattern test ht hs (ha s hr)

/-! ## Actor values -/

/-- **Tests against a value of the actor come out the same.** -/
theorem presentClause_agree [CharacterNames] (hc : c.type = some t)
    (hx : Shows t (readColumn frames c) v) {w : Value} (hw : t.Takes w) :
    ∃ b, equalPresent w v = .ok b ∧ (presentClause c w).truthValue db frames = some b := by
  unfold equalPresent presentClause
  cases hn : w.isNull with
  | true => exact ⟨false, rfl, rfl⟩
  | false =>
    refine ⟨(readColumn frames c).isSame (Datum.ofValueOrNull w), ?_,
      equalClause_truth hc hx (.value hw.shows)⟩
    rw [Bool.false_or, hx.isNull_eq]
    by_cases hxn : readColumn frames c = .null
    · rw [hxn, isSame_null_left (hw.shows.ne_null hn)]
      rfl
    · have hb : (readColumn frames c == Datum.null) = false := by simpa using hxn
      rw [hb, hw.shows.equal hx, hx.isSame_comm hw.shows]
      rfl

end

/-! ## Leaves -/

section

variable {t : ColumnType} {s : Scene} {e : Expr F} {resources : Value} {opened : List String}
  {frames : List Frame}

/-- The columns that the paths of a leaf stand for hold what the paths are resolved to. -/
def Expr.Shown (d : Declarations) (t : ColumnType) (resources : Value) (opened : List String)
    (frames : List Frame) (e : Expr F) : Prop :=
  ∀ p ∈ e.nodePaths, ∀ c, columnOf d opened p = .ok c →
    ∃ v, resolvePath resources opened p = .ok v ∧ c.type = some t ∧
      Shows t (readColumn frames c) v ∧ ∀ test text, e = .textMatch test p text →
        ∀ s, readColumn frames c = .text s → Text.ToldApart text s

/-- With rows of the database at hand, a column holds what a path of it is resolved to. -/
theorem Expr.Compares.shown (h : e.Compares config d actor owner db t)
    (hv : s.Valid d main owner db)
    (hm : ∀ p ∈ e.nodePaths, p.isScoped = false → p.table = main) :
    e.Shown d t (s.resources d main owner db) s.opened (s.frames main owner) := by
  intro p hp c hc
  obtain ⟨hs, handle, hd, rfl⟩ := columnOf_eq_ok.1 hc
  obtain ⟨row, -, hrow, hread, hpath⟩ := Scene.reads hv hs (hm p hp) hd
  obtain ⟨ht, hh⟩ := h.columns p hp handle hd
  refine ⟨_, by rw [resolvePath, checkScope_eq_ok.2 hs]; rfl, ht, ?_, fun test text he s hr => ?_⟩
  · rw [hpath, hread, ht]
    exact (hh row hrow).shows
  · exact h.apart test p text he handle hd row hrow s (hread.symm.trans hr)

/-- What an operand of a leaf is compiled to stands for what it is resolved to. -/
theorem Expr.Compares.operand (h : e.Compares config d actor owner db t)
    (hr : e.Shown d t resources opened frames) {o : Operand} {term : Term}
    (hp : ∀ p ∈ o.path?, p ∈ e.nodePaths) (hk : ∀ v ∈ o.constant?, v ∈ e.constants config actor)
    (ho : termOf d opened o = .ok term) :
    ∃ y w, resolveOperand resources opened o = .ok w ∧ term.Stands frames t y w := by
  rcases termOf_eq_ok ho with ⟨p, c, rfl, hc, rfl⟩ | ⟨v, hv', rfl⟩
  · obtain ⟨v, hr, ht, hx, -⟩ := hr p (hp p rfl) c hc
    exact ⟨_, v, hr, .column ht hx⟩
  · refine ⟨_, v, ?_, .value (h.constants v (hk v hv')).shows⟩
    cases o <;> cases hv' <;> rfl

/-- **A leaf is decided as its clause is.** -/
theorem Expr.Compares.agree [CharacterNames] (h : e.Compares config d actor owner db t)
    (he : e.isLeaf = true) (hr : e.Shown d t resources opened frames) {c : Clause}
    (hc : leafClause config d actor opened e = .ok c) :
    ∃ b, evaluateLeaf config actor resources opened e = .ok b ∧ c.truthValue db frames = some b := by
  cases e with
  | comparison op left right =>
    obtain ⟨column, hl, hc⟩ := Result.bind_eq_ok.1 hc
    obtain ⟨term, ht, hc⟩ := Result.bind_eq_ok.1 hc
    cases hc
    obtain ⟨v, hvl, hty, hx, -⟩ := hr _ (by simp [nodePaths]) _ hl
    obtain ⟨y, w, hw, hy⟩ := h.operand hr (by simp +contextual [nodePaths])
      (by simp +contextual [Expr.constants]) ht
    obtain ⟨b, hb, hcb⟩ := compareClause_agree op hty hx hy
    exact ⟨b, by rw [evaluateLeaf, hvl, hw]; exact congrArg Result.ofComparison hb, hcb⟩
  | inArray path values =>
    obtain ⟨column, hl, hc⟩ := Result.bind_eq_ok.1 hc
    cases hc
    obtain ⟨v, hvl, hty, hx, -⟩ := hr _ (by simp [nodePaths]) _ hl
    have hk : ∀ s ∈ values, t.Takes (.scalar s) := fun s hs =>
      h.constants _ (by simpa [Expr.constants] using hs)
    refine ⟨_, ?_, oneOfClause_truth hty hx hk⟩
    rw [evaluateLeaf, hvl]
    split
    · rename_i hnil
      rw [List.isEmpty_iff.1 hnil]
      rfl
    · exact congrArg Result.ofComparison (isIn_agree hx hk)
  | nullCheck test path =>
    obtain ⟨column, hl, hc⟩ := Result.bind_eq_ok.1 hc
    cases hc
    obtain ⟨v, hvl, hty, hx, -⟩ := hr _ (by simp [nodePaths]) _ hl
    rw [evaluateLeaf, hvl]
    cases test with
    | isNull => exact ⟨_, rfl, congrArg some hx.isNull_eq.symm⟩
    | isNotNull => exact ⟨_, rfl, congrArg (fun b => some !b) hx.isNull_eq.symm⟩
  | textMatch test path text =>
    obtain ⟨column, hl, hc⟩ := Result.bind_eq_ok.1 hc
    cases hc
    obtain ⟨v, hvl, hty, hx, ha⟩ := hr _ (by simp [nodePaths]) _ hl
    obtain ⟨rfl, ht⟩ := h.text test path text rfl
    refine ⟨_, ?_, affix_agree test ht hx (ha test text rfl)⟩
    rw [evaluateLeaf, hvl]
    generalize readColumn frames column = x at hx
    cases hx <;> rfl
  | between path min max =>
    obtain ⟨column, hl, hc⟩ := Result.bind_eq_ok.1 hc
    obtain ⟨low, hlow, hc⟩ := Result.bind_eq_ok.1 hc
    obtain ⟨high, hhigh, hc⟩ := Result.bind_eq_ok.1 hc
    cases hc
    obtain ⟨v, hvl, hty, hx, -⟩ := hr _ (by simp [nodePaths]) _ hl
    obtain ⟨y, w, hw, hy⟩ := h.operand hr (by simp +contextual [nodePaths])
      (by simp +contextual [Expr.constants]) hlow
    obtain ⟨z, u, hu, hz⟩ := h.operand hr (by simp +contextual [nodePaths])
      (by simp +contextual [Expr.constants]) hhigh
    have hge : ordered .gte v w = .ok (Datum.ordered .gte _ y) :=
      ordered_agree (fun _ => rfl) hx hy.shows
    have hle : ordered .lte v u = .ok (Datum.ordered .lte _ z) :=
      ordered_agree (fun _ => rfl) hx hz.shows
    refine ⟨_, ?_, by rw [Clause.truthValue_conj, Clause.allTrue, Clause.allTrue, Clause.allTrue,
      and3_true_right, orderClause_truth .gte hty hx hy, orderClause_truth .lte hty hx hz, and3_some]⟩
    rw [evaluateLeaf, hvl, hw, hu]
    show Result.ofComparison (isBetween v w u) = _
    rw [isBetween, hge, hle]
    cases Datum.ordered .gte (readColumn frames column) y <;> rfl
  | «matches» path pattern flags => exact absurd rfl (h.noPattern path pattern flags)
  | tenantScoped path =>
    obtain ⟨column, hl, hc⟩ := Result.bind_eq_ok.1 hc
    obtain ⟨w, hw, hc⟩ := Result.bind_eq_ok.1 hc
    cases hc
    obtain ⟨v, hvl, hty, hx, -⟩ := hr _ (by simp [nodePaths]) _ hl
    have hk : t.Takes w := h.constants w (by simp [Expr.constants, hw, Except.toOption])
    obtain ⟨b, hb, hcb⟩ : ∃ b, equalPresent w v = .ok b ∧
        (presentClause column w).truthValue db frames = some b :=
      presentClause_agree hty hx hk
    exact ⟨b, by rw [evaluateLeaf, hw, hvl]; exact congrArg Result.ofComparison hb, hcb⟩
  | belongsToTenant a path =>
    obtain ⟨column, hl, hc⟩ := Result.bind_eq_ok.1 hc
    cases hc
    obtain ⟨v, hvl, hty, hx, -⟩ := hr _ (by simp [nodePaths]) _ hl
    have hk : t.Takes a.value := h.constants a.value (by simp [Expr.constants])
    obtain ⟨b, hb, hcb⟩ : ∃ b, equalPresent a.value v = .ok b ∧
        (presentClause column a.value).truthValue db frames = some b :=
      presentClause_agree hty hx hk
    exact ⟨b, by rw [evaluateLeaf, hvl]; exact congrArg Result.ofComparison hb, hcb⟩
  | _ => cases he

end

end Clearance
