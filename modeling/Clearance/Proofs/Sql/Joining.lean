/-
  Clauses that are joined, and what stands inside clauses.

  * `Clause.isTest` tells the clauses without parts, `Clause.clauseInduction` is induction over
    clauses with one case for all of them;
  * `Clause.placed` are the columns of a clause, inner selections included, each with the
    tables that the selections around it are from; `Clause.bound` are the values that are
    bound in it, `Clause.searches` the patterns that are searched in its columns, and
    `Clause.selections` its inner selections with the tables that they name;
  * joining keeps all of these in their order, unless a truth value displaces them
    (`Joined.conj`, `Joined.disj`), and so does negating (`Joined.negate`);
  * `Clause.MadeOf` are the clauses that are made of others by joining and negating.
-/
import Clearance.Sql.Statement
import Clearance.Proofs.Rule.Tree

namespace Clearance.Sql

namespace Clause

/-! ## Induction -/

/-- Whether a clause has no parts. -/
def isTest : Clause → Bool
  | not _ | and _ | or _ | .exists _ _ | count _ _ _ _ => false
  | _ => true

/-- Induction over a clause, with one case for all clauses without parts. -/
@[elab_as_elim]
theorem clauseInduction {motive : Clause → Prop}
    (test : ∀ c, c.isTest = true → motive c)
    (not : ∀ x, motive x → motive (.not x))
    (and : ∀ xs, (∀ x ∈ xs, motive x) → motive (.and xs))
    (or : ∀ xs, (∀ x ∈ xs, motive x) → motive (.or xs))
    (exists' : ∀ table p, motive p → motive (.exists table p))
    (count : ∀ table p atLeast n, motive p → motive (.count table p atLeast n)) :
    ∀ c, motive c
  | .not x => not x (clauseInduction test not and or exists' count x)
  | .and xs => and xs fun x _ => clauseInduction test not and or exists' count x
  | .or xs => or xs fun x _ => clauseInduction test not and or exists' count x
  | .exists table p => exists' table p (clauseInduction test not and or exists' count p)
  | .count table p atLeast n =>
    count table p atLeast n (clauseInduction test not and or exists' count p)
  | .truth b => test (.truth b) rfl
  | .wrapped b => test (.wrapped b) rfl
  | .isNull c => test (.isNull c) rfl
  | .isNotNull c => test (.isNotNull c) rfl
  | .same a b => test (.same a b) rfl
  | .distinct a b => test (.distinct a b) rfl
  | .equalsBool c b => test (.equalsBool c b) rfl
  | .equals c v => test (.equals c v) rfl
  | .order op c right => test (.order op c right) rfl
  | .oneOf c values => test (.oneOf c values) rfl
  | .affix t c text => test (.affix t c text) rfl
  | .like c pattern => test (.like c pattern) rfl
  | .likeLower c pattern => test (.likeLower c pattern) rfl
  | .regexp c pattern => test (.regexp c pattern) rfl

/-! ## What stands in a clause -/

mutual

/-- The columns of a clause, each with the tables that the selections around it are from. -/
def placed (around : List String) : Clause → List (Nested Column)
  | not x => x.placed around
  | and xs | or xs => placedAll around xs
  | .exists table p | count table p _ _ => p.placed (around ++ [table])
  | c => c.columns.map fun column => ⟨around, column⟩

/-- The columns of some clauses. -/
def placedAll (around : List String) : List Clause → List (Nested Column)
  | [] => []
  | c :: rest => c.placed around ++ placedAll around rest

end

/-- The values that a clause without parts binds. -/
def testBound : Clause → List Value
  | equals _ v | order _ _ (.value v) => [v]
  | oneOf _ values => values.map .scalar
  | affix _ _ text => [.str (escapeLike text)]
  | like _ pattern | likeLower _ pattern | regexp _ pattern => [.str pattern]
  | _ => []

mutual

/-- The values that are bound in a clause. -/
def bound : Clause → List Value
  | not x => x.bound
  | and xs | or xs => boundAll xs
  | .exists _ p => .int 1 :: p.bound
  | count _ p _ n => p.bound ++ [.int n]
  | c => c.testBound

/-- The values that are bound in some clauses. -/
def boundAll : List Clause → List Value
  | [] => []
  | c :: rest => c.bound ++ boundAll rest

end

/-- The pattern that a clause without parts searches, with its column. -/
def testSearches : Clause → List (Column × String)
  | regexp c pattern => [(c, pattern)]
  | _ => []

mutual

/-- The patterns that are searched in a clause, each with its column. -/
def searches : Clause → List (Column × String)
  | not x => x.searches
  | and xs | or xs => searchesAll xs
  | .exists _ p | count _ p _ _ => p.searches
  | c => c.testSearches

/-- The patterns that are searched in some clauses. -/
def searchesAll : List Clause → List (Column × String)
  | [] => []
  | c :: rest => c.searches ++ searchesAll rest

end

mutual

/-- The inner selections of a clause: the table that each is from, and the tables that it
    names. -/
def selections (outer : Option (List String)) : Clause → List (String × List String)
  | not x => x.selections outer
  | and xs | or xs => selectionsAll outer xs
  | .exists table p | count table p _ _ =>
    (table, visibleTables outer [table] p) ::
      p.selections (some (visibleTables outer [table] p))
  | _ => []

/-- The inner selections of some clauses. -/
def selectionsAll (outer : Option (List String)) : List Clause → List (String × List String)
  | [] => []
  | c :: rest => c.selections outer ++ selectionsAll outer rest

end

theorem placedAll_eq (around : List String) (cs : List Clause) :
    placedAll around cs = cs.flatMap (placed around) := by
  induction cs with
  | nil => rfl
  | cons c rest ih => simp [placedAll, ih]

theorem boundAll_eq (cs : List Clause) : boundAll cs = cs.flatMap bound := by
  induction cs with
  | nil => rfl
  | cons c rest ih => simp [boundAll, ih]

theorem searchesAll_eq (cs : List Clause) : searchesAll cs = cs.flatMap searches := by
  induction cs with
  | nil => rfl
  | cons c rest ih => simp [searchesAll, ih]

theorem selectionsAll_eq (outer : Option (List String)) (cs : List Clause) :
    selectionsAll outer cs = cs.flatMap (selections outer) := by
  induction cs with
  | nil => rfl
  | cons c rest ih => simp [selectionsAll, ih]

theorem columnsAll_eq (cs : List Clause) : columnsAll cs = cs.flatMap columns := by
  induction cs with
  | nil => rfl
  | cons c rest ih => simp [columnsAll, ih]

/-! ## Joining -/

/-- A list of things in a clause that are those of its parts where clauses are joined. -/
structure Joined {α : Type} (f : Clause → List α) : Prop where
  truth : ∀ b, f (.truth b) = []
  wrapped : ∀ b, f (.wrapped b) = []
  isNull : ∀ c, f (.isNull c) = f (.isNotNull c)
  same : ∀ a b, f (.same a b) = f (.distinct a b)
  count : ∀ table p n, f (.count table p true n) = f (.count table p false n)
  not : ∀ x, f (.not x) = f x
  and : ∀ xs, f (.and xs) = xs.flatMap f
  or : ∀ xs, f (.or xs) = xs.flatMap f

theorem joined_placed (around : List String) : Joined (placed around) where
  truth _ := rfl
  wrapped _ := rfl
  isNull _ := rfl
  same _ _ := rfl
  count _ _ _ := rfl
  not _ := rfl
  and := placedAll_eq around
  or := placedAll_eq around

theorem joined_bound : Joined bound where
  truth _ := rfl
  wrapped _ := rfl
  isNull _ := rfl
  same _ _ := rfl
  count _ _ _ := rfl
  not _ := rfl
  and := boundAll_eq
  or := boundAll_eq

theorem joined_searches : Joined searches where
  truth _ := rfl
  wrapped _ := rfl
  isNull _ := rfl
  same _ _ := rfl
  count _ _ _ := rfl
  not _ := rfl
  and := searchesAll_eq
  or := searchesAll_eq

theorem joined_selections (outer : Option (List String)) : Joined (selections outer) where
  truth _ := rfl
  wrapped _ := rfl
  isNull _ := rfl
  same _ _ := rfl
  count _ _ _ := rfl
  not _ := rfl
  and := selectionsAll_eq outer
  or := selectionsAll_eq outer

theorem joined_columns : Joined columns where
  truth _ := rfl
  wrapped _ := rfl
  isNull _ := rfl
  same _ _ := rfl
  count _ _ _ := rfl
  not _ := rfl
  and := columnsAll_eq
  or := columnsAll_eq

/-- A truth value that decides is what keeps clauses from being joined. -/
theorem mem_of_undecided_eq_none {neutral : Bool} {cs : List Clause}
    (h : undecided neutral cs = none) : .truth (!neutral) ∈ cs := by
  fun_induction undecided neutral cs with
  | case1 => cases h
  | case2 rest ih => exact List.mem_cons_of_mem _ (ih h)
  | case3 b rest hb =>
    have : b = !neutral := by cases b <;> cases neutral <;> simp_all
    simp [this]
  | case4 c rest _ ih =>
    exact List.mem_cons_of_mem _ (ih (Option.map_eq_none_iff.1 h))

namespace Joined

variable {α : Type} {f : Clause → List α} (hf : Joined f)
include hf

theorem undecided {neutral : Bool} {cs ks : List Clause}
    (h : undecided neutral cs = some ks) : ks.flatMap f = cs.flatMap f := by
  fun_induction Clause.undecided neutral cs generalizing ks with
  | case1 => cases h; rfl
  | case2 rest ih => rw [List.flatMap_cons, hf.truth, List.nil_append, ih h]
  | case3 => cases h
  | case4 c rest _ ih =>
    obtain ⟨ks', hk, rfl⟩ := Option.map_eq_some_iff.1 h
    rw [List.flatMap_cons, List.flatMap_cons, ih hk]

theorem conjuncts (c : Clause) : (conjuncts c).flatMap f = f c := by
  unfold Clause.conjuncts
  split
  · rw [hf.and]
  · simp

theorem disjuncts (c : Clause) : (disjuncts c).flatMap f = f c := by
  unfold Clause.disjuncts
  split
  · rw [hf.or]
  · simp

/-- A conjunction holds what its parts hold, unless a false one displaces them. -/
theorem conj (cs : List Clause) :
    (.truth false ∈ cs ∧ f (conj cs) = []) ∨ f (conj cs) = cs.flatMap f := by
  unfold Clause.conj
  split
  · rename_i h
    exact .inl ⟨mem_of_undecided_eq_none h, hf.wrapped _⟩
  · rename_i h
    exact .inr (by rw [hf.wrapped, ← hf.undecided h]; rfl)
  · rename_i c h
    exact .inr (by rw [← hf.undecided h]; simp)
  · rename_i ks _ _ h
    exact .inr (by
      rw [hf.and, List.flatMap_assoc, ← hf.undecided h]
      simp only [hf.conjuncts])

/-- A disjunction holds what its parts hold, unless a true one displaces them. -/
theorem disj (cs : List Clause) :
    (.truth true ∈ cs ∧ f (disj cs) = []) ∨ f (disj cs) = cs.flatMap f := by
  unfold Clause.disj
  split
  · rename_i h
    exact .inl ⟨mem_of_undecided_eq_none h, hf.wrapped _⟩
  · rename_i h
    exact .inr (by rw [hf.wrapped, ← hf.undecided h]; rfl)
  · rename_i c h
    exact .inr (by rw [← hf.undecided h]; simp)
  · rename_i ks _ _ h
    exact .inr (by
      rw [hf.or, List.flatMap_assoc, ← hf.undecided h]
      simp only [hf.disjuncts])

/-- A negation holds what the clause holds. -/
theorem negate (c : Clause) : f c.negate = f c := by
  unfold Clause.negate
  split
  · rw [hf.truth, hf.truth]
  · rw [hf.truth, hf.wrapped]
  · exact (hf.isNull _).symm
  · exact hf.isNull _
  · exact (hf.same _ _).symm
  · exact hf.same _ _
  · rename_i table p atLeast n
    cases atLeast
    · exact hf.count table p n
    · exact (hf.count table p n).symm
  · exact hf.not _

theorem mem_conj {cs : List Clause} {a : α} (h : a ∈ f (Clause.conj cs)) : ∃ c ∈ cs, a ∈ f c := by
  rcases hf.conj cs with ⟨-, e⟩ | e <;> rw [e] at h
  · cases h
  · exact List.mem_flatMap.1 h

theorem mem_disj {cs : List Clause} {a : α} (h : a ∈ f (Clause.disj cs)) : ∃ c ∈ cs, a ∈ f c := by
  rcases hf.disj cs with ⟨-, e⟩ | e <;> rw [e] at h
  · cases h
  · exact List.mem_flatMap.1 h

end Joined

/-! ## What clauses are made of -/

/-- A clause that is made of clauses of a sort. -/
inductive MadeOf (P : Clause → Prop) : Clause → Prop where
  | base {c : Clause} : P c → MadeOf P c
  | truth (b : Bool) : MadeOf P (.truth b)
  | conj {cs : List Clause} : (∀ c ∈ cs, MadeOf P c) → MadeOf P (conj cs)
  | disj {cs : List Clause} : (∀ c ∈ cs, MadeOf P c) → MadeOf P (disj cs)
  | negate {c : Clause} : MadeOf P c → MadeOf P c.negate

/-- What a clause holds is held by one of the clauses that it is made of. -/
theorem MadeOf.mem {P : Clause → Prop} {c : Clause} (hc : MadeOf P c) {α : Type}
    {f : Clause → List α} (hf : Joined f) {a : α} (ha : a ∈ f c) : ∃ b, P b ∧ a ∈ f b := by
  induction hc with
  | base hb => exact ⟨_, hb, ha⟩
  | truth b => rw [hf.truth] at ha; cases ha
  | conj _ ih =>
    obtain ⟨c, hc, ha⟩ := hf.mem_conj ha
    exact ih c hc ha
  | disj _ ih =>
    obtain ⟨c, hc, ha⟩ := hf.mem_disj ha
    exact ih c hc ha
  | negate _ ih => exact ih (by rwa [hf.negate] at ha)

end Clause

end Clearance.Sql
