/-
  Clauses that differ in the values that they bind only.

  A family of clauses, one for each variant of something, is uniform if its members have the
  same parts and differ in bound values only, each such value varying as some property `P` of
  families of values allows.  Uniform families are closed under all that clauses are built with,
  and their members are written with one text and the same placeholders.

  * `Lists` and `Results` say of a family of lists, and of steps that can fail, that its members
    have the same length, and the same error or none;
  * `Clause.Uniform` are the uniform families; `Uniform.conj`, `Uniform.disj` and
    `Uniform.negate` are closure lemmas;
  * `Clause.Uniform.statement`: the texts of the members are the same, and their bound values
    vary as `P` allows.
-/
import Clearance.Proofs.Sql.Joining

namespace Clearance

variable {ι α β : Type}

/-! ## Families of lists and of results -/

/-- The lists of a family have the same length, and each place of them is a family of a kind. -/
def Lists (Q : (ι → α) → Prop) (l : ι → List α) : Prop :=
  ∃ xs : List (ι → α), (∀ x ∈ xs, Q x) ∧ l = fun i => xs.map (· i)

namespace Lists

variable {Q : (ι → α) → Prop}

theorem nil : Lists Q fun _ => [] := ⟨[], by simp, rfl⟩

theorem cons {x : ι → α} {l : ι → List α} (hx : Q x) (hl : Lists Q l) :
    Lists Q fun i => x i :: l i := by
  obtain ⟨xs, hxs, rfl⟩ := hl
  exact ⟨x :: xs, by simpa using ⟨hx, hxs⟩, rfl⟩

theorem singleton {x : ι → α} (hx : Q x) : Lists Q fun i => [x i] := cons hx nil

theorem append {k l : ι → List α} (hk : Lists Q k) (hl : Lists Q l) :
    Lists Q fun i => k i ++ l i := by
  obtain ⟨xs, hxs, rfl⟩ := hk
  obtain ⟨ys, hys, rfl⟩ := hl
  refine ⟨xs ++ ys, fun x hx => ?_, by simp⟩
  rcases List.mem_append.1 hx with hx | hx
  · exact hxs x hx
  · exact hys x hx

/-- A list that does not vary. -/
theorem const {l : List α} (h : ∀ a ∈ l, Q fun _ => a) : Lists Q fun _ => l := by
  refine ⟨l.map fun a _ => a, by simpa using h, ?_⟩
  simp [Function.comp_def]

theorem flatMap {R : (ι → β) → Prop} {f : α → List β} {l : ι → List α} (hl : Lists Q l)
    (hf : ∀ x, Q x → Lists R fun i => f (x i)) : Lists R fun i => (l i).flatMap f := by
  obtain ⟨xs, hxs, rfl⟩ := hl
  induction xs with
  | nil => exact nil
  | cons x xs ih =>
    have hx := hf x (hxs x (by simp))
    exact hx.append (ih fun y hy => hxs y (by simp [hy]))

end Lists

/-- The steps of a family fail with the same error, or give a family of a kind. -/
inductive Results (Q : (ι → α) → Prop) : (ι → Result α) → Prop
  | error (err : Error) : Results Q fun _ => .error err
  | ok {a : ι → α} : Q a → Results Q fun i => .ok (a i)

theorem Results.bind {Q : (ι → α) → Prop} {R : (ι → β) → Prop} {r : ι → Result α}
    {f : ι → α → Result β} (hr : Results Q r) (hf : ∀ a, Q a → Results R fun i => f i (a i)) :
    Results R fun i => r i >>= f i := by
  cases hr with
  | error err => exact .error err
  | ok ha => exact hf _ ha

theorem Results.error_or {Q : (ι → α) → Prop} {r : ι → Result α} (h : Results Q r) :
    (∃ err, ∀ i, r i = .error err) ∨ ∃ a, Q a ∧ ∀ i, r i = .ok (a i) := by
  cases h with
  | error err => exact .inl ⟨err, fun _ => rfl⟩
  | ok ha => exact .inr ⟨_, ha, fun _ => rfl⟩

namespace Sql

variable {P : (ι → Value) → Prop}

/-! ## Uniform families of clauses -/

/-- The clauses of a family are the same, apart from values that they bind. -/
inductive Clause.Uniform (P : (ι → Value) → Prop) : (ι → Clause) → Prop
  | const (c : Clause) : Uniform P fun _ => c
  | equals (c : Column) {v : ι → Value} : P v → Uniform P fun i => .equals c (v i)
  | order (op : OrderOp) (c : Column) {v : ι → Value} : P v →
      Uniform P fun i => .order op c (.value (v i))
  | oneOf (c : Column) {values : ι → List Scalar} :
      P (fun i => .list ((values i).map .scalar)) → Uniform P fun i => .oneOf c (values i)
  | affix (test : TextTest) (c : Column) {text : ι → String} :
      P (fun i => .str (escapeLike (text i))) → Uniform P fun i => .affix test c (text i)
  | not {x : ι → Clause} : Uniform P x → Uniform P fun i => .not (x i)
  | and {xs : List (ι → Clause)} : (∀ x ∈ xs, Uniform P x) →
      Uniform P fun i => .and (xs.map (· i))
  | or {xs : List (ι → Clause)} : (∀ x ∈ xs, Uniform P x) →
      Uniform P fun i => .or (xs.map (· i))
  | exists (table : String) {p : ι → Clause} : Uniform P p →
      Uniform P fun i => .exists table (p i)
  | count (table : String) {p : ι → Clause} (atLeast : Bool) (n : Nat) : Uniform P p →
      Uniform P fun i => .count table (p i) atLeast n

namespace Clause.Uniform

variable {x : ι → Clause}

theorem andOf {l : ι → List Clause} (h : Lists (Uniform P) l) : Uniform P fun i => .and (l i) := by
  obtain ⟨xs, hxs, rfl⟩ := h
  exact .and hxs

theorem orOf {l : ι → List Clause} (h : Lists (Uniform P) l) : Uniform P fun i => .or (l i) := by
  obtain ⟨xs, hxs, rfl⟩ := h
  exact .or hxs

theorem conjuncts (h : Uniform P x) : Lists (Uniform P) fun i => (x i).conjuncts := by
  cases h with
  | and h => exact ⟨_, h, rfl⟩
  | const c => exact .const fun a _ => .const a
  | equals c h => exact .singleton (.equals c h)
  | order op c h => exact .singleton (.order op c h)
  | oneOf c h => exact .singleton (.oneOf c h)
  | affix test c h => exact .singleton (.affix test c h)
  | not h => exact .singleton (.not h)
  | or h => exact .singleton (.or h)
  | «exists» table h => exact .singleton (.exists table h)
  | count table atLeast n h => exact .singleton (.count table atLeast n h)

theorem disjuncts (h : Uniform P x) : Lists (Uniform P) fun i => (x i).disjuncts := by
  cases h with
  | or h => exact ⟨_, h, rfl⟩
  | const c => exact .const fun a _ => .const a
  | equals c h => exact .singleton (.equals c h)
  | order op c h => exact .singleton (.order op c h)
  | oneOf c h => exact .singleton (.oneOf c h)
  | affix test c h => exact .singleton (.affix test c h)
  | not h => exact .singleton (.not h)
  | and h => exact .singleton (.and h)
  | «exists» table h => exact .singleton (.exists table h)
  | count table atLeast n h => exact .singleton (.count table atLeast n h)

theorem negate (h : Uniform P x) : Uniform P fun i => (x i).negate := by
  cases h with
  | const c => exact .const c.negate
  | equals c h => exact .not (.equals c h)
  | order op c h => exact .not (.order op c h)
  | oneOf c h => exact .not (.oneOf c h)
  | affix test c h => exact .not (.affix test c h)
  | not h => exact .not (.not h)
  | and h => exact .not (.and h)
  | or h => exact .not (.or h)
  | «exists» table h => exact .not (.exists table h)
  | count table atLeast n h => exact .count table (!atLeast) n h

/-- The members of a family are the same truth value, or none of them is one. -/
theorem truth_or (h : Uniform P x) : (∃ b, x = fun _ => .truth b) ∨ ∀ i b, x i ≠ .truth b := by
  cases h with
  | const c =>
    cases c with
    | truth b => exact .inl ⟨b, rfl⟩
    | _ => exact .inr fun _ _ h => by cases h
  | _ => exact .inr fun _ _ h => by cases h

theorem undecided_cons {neutral : Bool} {c : Clause} {rest : List Clause}
    (h : ∀ b, c ≠ .truth b) :
    undecided neutral (c :: rest) = (undecided neutral rest).map (c :: ·) := by
  cases c <;> first | rfl | exact absurd rfl (h _)

/-- Whether a truth value decides does not vary, and neither does which clauses are dropped. -/
theorem undecided (neutral : Bool) {xs : List (ι → Clause)} (h : ∀ x ∈ xs, Uniform P x) :
    (∀ i, undecided neutral (xs.map (· i)) = none) ∨ ∃ ys : List (ι → Clause),
      (∀ y ∈ ys, Uniform P y) ∧ ∀ i, Clause.undecided neutral (xs.map (· i)) =
        some (ys.map (· i)) := by
  induction xs with
  | nil => exact .inr ⟨[], by simp, fun _ => rfl⟩
  | cons x xs ih =>
    have ih := ih fun y hy => h y (by simp [hy])
    rcases (h x (by simp)).truth_or with ⟨b, rfl⟩ | hx
    · by_cases hb : b = neutral
      · simpa [Clause.undecided, hb] using ih
      · exact .inl fun i => by simp [Clause.undecided, hb]
    · rcases ih with hn | ⟨ys, hys, hs⟩
      · exact .inl fun i => by rw [List.map_cons, undecided_cons (hx i), hn i]; rfl
      · refine .inr ⟨x :: ys, ?_, fun i => ?_⟩
        · simpa using ⟨h x (by simp), hys⟩
        · rw [List.map_cons, undecided_cons (hx i), hs i]
          rfl

theorem conj {l : ι → List Clause} (h : Lists (Uniform P) l) :
    Uniform P fun i => Clause.conj (l i) := by
  obtain ⟨xs, hxs, rfl⟩ := h
  rcases undecided true hxs with hn | ⟨ys, hys, hs⟩
  · simpa only [Clause.conj, hn] using .const (.wrapped false)
  · simp only [Clause.conj, hs]
    match ys, hys with
    | [], _ => exact .const (.wrapped true)
    | [y], hys => exact hys y (by simp)
    | y :: z :: ys, hys => exact .andOf (.flatMap ⟨_, hys, rfl⟩ fun _ h => h.conjuncts)

theorem disj {l : ι → List Clause} (h : Lists (Uniform P) l) :
    Uniform P fun i => Clause.disj (l i) := by
  obtain ⟨xs, hxs, rfl⟩ := h
  rcases undecided false hxs with hn | ⟨ys, hys, hs⟩
  · simpa only [Clause.disj, hn] using .const (.wrapped true)
  · simp only [Clause.disj, hs]
    match ys, hys with
    | [], _ => exact .const (.wrapped false)
    | [y], hys => exact hys y (by simp)
    | y :: z :: ys, hys => exact .orOf (.flatMap ⟨_, hys, rfl⟩ fun _ h => h.disjuncts)

/-- The members of a family test the same columns. -/
theorem columns_eq (h : Uniform P x) (i j : ι) : (x i).columns = (x j).columns := by
  have hall : ∀ xs : List (ι → Clause), (∀ x ∈ xs, (x i).columns = (x j).columns) →
      columnsAll (xs.map (· i)) = columnsAll (xs.map (· j)) := by
    intro xs h
    induction xs with
    | nil => rfl
    | cons y ys ih =>
      rw [List.map_cons, List.map_cons, columnsAll, columnsAll, h y (by simp),
        ih fun z hz => h z (by simp [hz])]
  induction h with
  | not _ ih => exact ih
  | and _ ih => exact hall _ ih
  | or _ ih => exact hall _ ih
  | _ => rfl

end Clause.Uniform

/-! ## Pieces -/

/-- The pieces of a family are the same, apart from bound values. -/
inductive Piece.Uniform (P : (ι → Value) → Prop) : (ι → Piece) → Prop
  | text (s : String) : Uniform P fun _ => .text s
  | label (base : String) : Uniform P fun _ => .label base
  | bound (base : String) {v : ι → Value} : P v → Uniform P fun i => .bound base (v i)
  | boundList (base : String) {values : ι → List Scalar} :
      P (fun i => .list ((values i).map .scalar)) → Uniform P fun i => .boundList base (values i)

/-- Pieces that do not vary, where constant families of values are allowed. -/
theorem Piece.Uniform.const (hP : ∀ v, P fun _ => v) (p : Piece) : Uniform P fun _ => p := by
  cases p with
  | text s => exact .text s
  | bound base v => exact .bound base (hP v)
  | boundList base values => exact .boundList base (hP _)
  | label base => exact .label base

theorem joinPieces_uniform {separator : String} {l : ι → List (List Piece)}
    (h : Lists (Lists (Piece.Uniform P)) l) :
    Lists (Piece.Uniform P) fun i => joinPieces separator (l i) := by
  obtain ⟨xs, hxs, rfl⟩ := h
  induction xs with
  | nil => exact .nil
  | cons x xs ih =>
    have hx := hxs x (by simp)
    cases xs with
    | nil => exact hx
    | cons y ys => exact hx.append (.cons (.text _) (ih fun z hz => hxs z (by simp [hz])))

theorem affixPieces_uniform (test : TextTest) (c : Column) {text : ι → String}
    (h : P fun i => .str (escapeLike (text i))) :
    Lists (Piece.Uniform P) fun i => affixPieces test c (text i) := by
  have hv : Lists (Piece.Uniform P) fun i => [.bound c.name (.str (escapeLike (text i)))] :=
    .singleton (.bound c.name h)
  have ht : ∀ s, Lists (Piece.Uniform P) fun _ => [.text s] := fun s => .singleton (.text s)
  unfold affixPieces
  cases test with
  | startsWith => exact ((ht _).append (hv.append (ht _))).append (ht _)
  | endsWith => exact ((ht _).append (.append (ht _) hv)).append (ht _)
  | contains => exact ((ht _).append (.append (ht _) (hv.append (ht _)))).append (ht _)

namespace Clause.Uniform

variable {x : ι → Clause} {d : Dialect} {outer : Option (List String)}

theorem visibleTables_eq [Nonempty ι] (h : Uniform P x) (outer : Option (List String))
    (own : List String) :
    ∃ tables, ∀ i, visibleTables outer own (x i) = tables := by
  obtain ⟨i₀⟩ := ‹Nonempty ι›
  refine ⟨visibleTables outer own (x i₀), fun i => ?_⟩
  unfold visibleTables Clause.tables
  rw [h.columns_eq i i₀]

theorem conditionPieces (h : Uniform P x) {r : ι → Result (List Piece)}
    (hr : Results (Lists (Piece.Uniform P)) r) :
    Results (Lists (Piece.Uniform P)) fun i => (x i).conditionPieces d (r i) := by
  rcases h.truth_or with ⟨b, rfl⟩ | hx
  · exact .ok (.singleton (.text _))
  · have he : ∀ i, (x i).conditionPieces d (r i) = r i := by
      intro i
      unfold Clause.conditionPieces
      split
      · exact absurd ‹_› (hx i _)
      · rfl
    simpa only [he] using hr

/-- Whether a member stands in parentheses does not vary. -/
theorem isWeak_eq (h : Uniform P x) : ∃ b, ∀ i, (x i).isWeak = b := by
  cases h with
  | const c => exact ⟨c.isWeak, fun _ => rfl⟩
  | or | «exists» => exact ⟨true, fun _ => rfl⟩
  | _ => exact ⟨false, fun _ => rfl⟩

theorem isSelection_eq (h : Uniform P x) : ∃ b, ∀ i, (x i).isSelection = b := by
  cases h with
  | const c => exact ⟨c.isSelection, fun _ => rfl⟩
  | «exists» => exact ⟨true, fun _ => rfl⟩
  | _ => exact ⟨false, fun _ => rfl⟩

theorem piecesAll {isLoose : Clause → Bool} {xs : List (ι → Clause)}
    (hloose : ∀ x ∈ xs, ∃ b, ∀ i, isLoose (x i) = b)
    (h : ∀ x ∈ xs, Results (Lists (Piece.Uniform P)) fun i => (x i).pieces d outer) :
    Results (Lists (Lists (Piece.Uniform P))) fun i =>
      Clause.piecesAll d outer isLoose (xs.map (· i)) := by
  induction xs with
  | nil => exact .ok .nil
  | cons x xs ih =>
    obtain ⟨b, hb⟩ := hloose x (by simp)
    have ih := ih (fun y hy => hloose y (by simp [hy])) fun y hy => h y (by simp [hy])
    refine (h x (by simp)).bind fun ps hps => ih.bind fun pss hpss => .ok (.cons ?_ hpss)
    simp only [hb]
    cases b with
    | true => exact (Lists.append (.singleton (.text _)) hps).append (.singleton (.text _))
    | false => exact hps

theorem selectionPieces [Nonempty ι] (h : Uniform P x) (table : String)
    (ih : ∀ outer, Results (Lists (Piece.Uniform P)) fun i => (x i).pieces d outer)
    {f : List String → List Piece → List Piece}
    (hf : ∀ tables ps, Lists (Piece.Uniform P) ps → Lists (Piece.Uniform P) fun i =>
      f tables (ps i)) :
    Results (Lists (Piece.Uniform P)) fun i => do
      let tables := visibleTables outer [table] (x i)
      if tables.isEmpty then throw .statementWithoutTables
      let condition ← (x i).conditionPieces d ((x i).pieces d (some tables))
      return f tables condition := by
  obtain ⟨tables, ht⟩ := h.visibleTables_eq outer [table]
  simp only [ht]
  split
  · exact .error _
  · exact (h.conditionPieces (ih (some tables))).bind fun ps hps => .ok (hf tables ps hps)

/-- **Members of a uniform family are written in the same pieces**, apart from bound values. -/
theorem pieces [Nonempty ι] (hP : ∀ v, P fun _ => v) (h : Uniform P x) :
    ∀ outer, Results (Lists (Piece.Uniform P)) fun i => (x i).pieces d outer := by
  induction h with
  | const c =>
    intro outer
    show Results _ fun _ => c.pieces d outer
    rcases c.pieces d outer with err | ps
    · exact .error err
    · exact .ok (.const fun p _ => .const hP p)
  | equals c h => exact fun outer => .ok (.cons (.text _) (.singleton (.bound _ h)))
  | order op c h => exact fun outer => .ok (.cons (.text _) (.singleton (.bound _ h)))
  | oneOf c h =>
    exact fun outer => .ok (.cons (.text _) (.cons (.boundList _ h) (.singleton (.text _))))
  | affix test c h => exact fun outer => .ok (affixPieces_uniform test c h)
  | not _ ih =>
    exact fun outer => (ih outer).bind fun ps hps =>
      .ok ((Lists.append (.singleton (.text _)) hps).append (.singleton (.text _)))
  | and h ih =>
    exact fun outer => (piecesAll (fun x hx => (h x hx).isWeak_eq) fun x hx => ih x hx outer).bind
      fun pss hpss => .ok (joinPieces_uniform hpss)
  | or h ih =>
    exact fun outer =>
      (piecesAll (fun x hx => (h x hx).isSelection_eq) fun x hx => ih x hx outer).bind
        fun pss hpss => .ok (joinPieces_uniform hpss)
  | «exists» table h ih =>
    intro outer
    refine h.selectionPieces table ih (f := fun tables condition =>
      [.text "EXISTS (SELECT ", .bound "param" (.int 1), .text " AS ", .label "anon"] ++
        fromWhere tables condition ++ [.text ")"]) fun tables ps hps => ?_
    exact (Lists.append (.const fun p _ => .const hP p)
      (.append (.singleton (.text _)) hps)).append (.singleton (.text _))
  | count table atLeast n h ih =>
    intro outer
    refine h.selectionPieces table ih (f := fun tables condition =>
      [.text "(SELECT count(*) AS ", .label "count"] ++ fromWhere tables condition ++
        [.text (if atLeast then ") >= " else ") < "), .bound "param" (.int n)])
      fun tables ps hps => ?_
    exact (Lists.append (.const fun p _ => .const hP p)
      (.append (.singleton (.text _)) hps)).append (.const fun p _ => .const hP p)

end Clause.Uniform

/-! ## Statements -/

/-- Bound values with their names, which do not vary. -/
def Statement.Uniform (P : (ι → Value) → Prop) (s : ι → Statement) : Prop :=
  ∃ text, ∃ bound : List (String × (ι → Value)), (∀ b ∈ bound, P b.2) ∧
    ∀ i, s i = ⟨text, bound.map fun b => (b.1, b.2 i)⟩

theorem finish_text (d : Dialect) (n : Numbering) (s : String) (rest : List Piece) :
    finish d n (.text s :: rest) = ⟨s ++ (finish d n rest).text, (finish d n rest).bound⟩ := rfl

theorem finish_label (d : Dialect) (n : Numbering) (base : String) (rest : List Piece) :
    finish d n (.label base :: rest) =
      ⟨(n.next base).1 ++ (finish d (n.next base).2 rest).text,
        (finish d (n.next base).2 rest).bound⟩ := rfl

/-- How a bound value shows in a text. -/
def Dialect.placeholder (d : Dialect) (name : String) : String :=
  match d with
  | .named => ":" ++ name
  | .sqlite => "?"

theorem finish_bound (d : Dialect) (n : Numbering) (base : String) (v : Value)
    (rest : List Piece) :
    finish d n (.bound base v :: rest) =
      ⟨d.placeholder (n.next base).1 ++ (finish d (n.next base).2 rest).text,
        ((n.next base).1, v) :: (finish d (n.next base).2 rest).bound⟩ := rfl

theorem finish_boundList (d : Dialect) (n : Numbering) (base : String) (values : List Scalar)
    (rest : List Piece) :
    finish d n (.boundList base values :: rest) =
      ⟨"__[POSTCOMPILE_" ++ (n.next base).1 ++ "]" ++ (finish d (n.next base).2 rest).text,
        ((n.next base).1, .list (values.map .scalar)) :: (finish d (n.next base).2 rest).bound⟩ :=
  rfl

theorem finish_uniform {d : Dialect} {ps : ι → List Piece} (h : Lists (Piece.Uniform P) ps) :
    ∀ n, Statement.Uniform P fun i => finish d n (ps i) := by
  obtain ⟨xs, hxs, rfl⟩ := h
  induction xs with
  | nil => exact fun n => ⟨"", [], by simp, fun _ => rfl⟩
  | cons x xs ih =>
    intro n
    have ih := ih fun y hy => hxs y (by simp [hy])
    cases hxs x (by simp) with
    | text s =>
      obtain ⟨text, bound, hb, he⟩ := ih n
      refine ⟨s ++ text, bound, hb, fun i => ?_⟩
      simp only [List.map_cons, finish_text, he i]
    | label base =>
      obtain ⟨text, bound, hb, he⟩ := ih (n.next base).2
      refine ⟨(n.next base).1 ++ text, bound, hb, fun i => ?_⟩
      simp only [List.map_cons, finish_label, he i]
    | @bound base v hv =>
      obtain ⟨text, bound, hb, he⟩ := ih (n.next base).2
      refine ⟨d.placeholder (n.next base).1 ++ text, ((n.next base).1, v) :: bound,
        List.forall_mem_cons.2 ⟨hv, hb⟩, fun i => ?_⟩
      simp only [List.map_cons, finish_bound, he i]
    | @boundList base values hv =>
      obtain ⟨text, bound, hb, he⟩ := ih (n.next base).2
      refine ⟨"__[POSTCOMPILE_" ++ (n.next base).1 ++ "]" ++ text, ((n.next base).1, _) :: bound,
        List.forall_mem_cons.2 ⟨hv, hb⟩, fun i => ?_⟩
      simp only [List.map_cons, finish_boundList, he i]

/-- **Members of a uniform family have one text**, with the same placeholders. -/
theorem Clause.Uniform.statement [Nonempty ι] (hP : ∀ v, P fun _ => v) {x : ι → Clause}
    (h : Uniform P x) (d : Dialect) :
    Results (Statement.Uniform P) fun i => (x i).statement d :=
  (h.pieces hP none).bind fun _ hps => .ok (finish_uniform hps [])

end Sql

end Clearance
