/-
  The truth value of clauses that are joined or negated.

  * `and3`, `or3` and `not3` obey the laws that joining relies on;
  * `Clause.truthValue_conj`, `truthValue_disj` and `truthValue_negate`: the clauses that joining
    and negating simplify are worth what the connectives make of their parts;
  * `Clause.truthValue_junctionClause`: so is the clause of a junction;
  * `Clause.truthValue_guarded`: a test behind a guard counts only where the column is not null.
-/
import Clearance.Sql.Database
import Clearance.Filter.Compile
import Clearance.Proofs.Sql.Joining

namespace Clearance.Sql

/-! ## Connectives -/

@[simp] theorem and3_true_left (b : Option Bool) : and3 (some true) b = b := by
  rcases b with _ | _ | _ <;> rfl

@[simp] theorem and3_true_right (b : Option Bool) : and3 b (some true) = b := by
  rcases b with _ | _ | _ <;> rfl

@[simp] theorem and3_false_left (b : Option Bool) : and3 (some false) b = some false := by
  rcases b with _ | _ | _ <;> rfl

@[simp] theorem and3_false_right (b : Option Bool) : and3 b (some false) = some false := by
  rcases b with _ | _ | _ <;> rfl

theorem and3_assoc (a b c : Option Bool) : and3 (and3 a b) c = and3 a (and3 b c) := by
  rcases a with _ | _ | _ <;> rcases b with _ | _ | _ <;> rcases c with _ | _ | _ <;> rfl

@[simp] theorem or3_false_left (b : Option Bool) : or3 (some false) b = b := by
  rcases b with _ | _ | _ <;> rfl

@[simp] theorem or3_false_right (b : Option Bool) : or3 b (some false) = b := by
  rcases b with _ | _ | _ <;> rfl

@[simp] theorem or3_true_left (b : Option Bool) : or3 (some true) b = some true := by
  rcases b with _ | _ | _ <;> rfl

@[simp] theorem or3_true_right (b : Option Bool) : or3 b (some true) = some true := by
  rcases b with _ | _ | _ <;> rfl

theorem or3_assoc (a b c : Option Bool) : or3 (or3 a b) c = or3 a (or3 b c) := by
  rcases a with _ | _ | _ <;> rcases b with _ | _ | _ <;> rcases c with _ | _ | _ <;> rfl

theorem and3_some (a b : Bool) : and3 (some a) (some b) = some (a && b) := by
  cases a <;> cases b <;> rfl

theorem or3_some (a b : Bool) : or3 (some a) (some b) = some (a || b) := by
  cases a <;> cases b <;> rfl

/-- A conjunction is true iff both sides are. -/
theorem and3_beq_true (a b : Option Bool) :
    (and3 a b == some true) = (a == some true && b == some true) := by
  rcases a with _ | _ | _ <;> rcases b with _ | _ | _ <;> rfl

/-- A disjunction is true iff one of the sides is. -/
theorem or3_beq_true (a b : Option Bool) :
    (or3 a b == some true) = (a == some true || b == some true) := by
  rcases a with _ | _ | _ <;> rcases b with _ | _ | _ <;> rfl

namespace Clause

variable (db : Database) (frames : List Frame)

/-! ## Lists of clauses -/

theorem allTrue_append [CharacterNames] (cs ds : List Clause) :
    allTrue db frames (cs ++ ds) = and3 (allTrue db frames cs) (allTrue db frames ds) := by
  induction cs with
  | nil => simp [allTrue]
  | cons c rest ih => simp only [List.cons_append, allTrue, ih, and3_assoc]

theorem someTrue_append [CharacterNames] (cs ds : List Clause) :
    someTrue db frames (cs ++ ds) = or3 (someTrue db frames cs) (someTrue db frames ds) := by
  induction cs with
  | nil => simp [someTrue]
  | cons c rest ih => simp only [List.cons_append, someTrue, ih, or3_assoc]

theorem allTrue_conjuncts [CharacterNames] (c : Clause) :
    allTrue db frames (conjuncts c) = c.truthValue db frames := by
  unfold conjuncts
  split
  · rw [truthValue]
  · simp [allTrue]

theorem someTrue_disjuncts [CharacterNames] (c : Clause) :
    someTrue db frames (disjuncts c) = c.truthValue db frames := by
  unfold disjuncts
  split
  · rw [truthValue]
  · simp [someTrue]

theorem allTrue_flatMap_conjuncts [CharacterNames] (cs : List Clause) :
    allTrue db frames (cs.flatMap conjuncts) = allTrue db frames cs := by
  induction cs with
  | nil => rfl
  | cons c rest ih => rw [List.flatMap_cons, allTrue_append, allTrue_conjuncts, ih, allTrue]

theorem someTrue_flatMap_disjuncts [CharacterNames] (cs : List Clause) :
    someTrue db frames (cs.flatMap disjuncts) = someTrue db frames cs := by
  induction cs with
  | nil => rfl
  | cons c rest ih => rw [List.flatMap_cons, someTrue_append, someTrue_disjuncts, ih, someTrue]

theorem allTrue_of_mem_false [CharacterNames] {cs : List Clause} (h : truth false ∈ cs) :
    allTrue db frames cs = some false := by
  induction cs with
  | nil => cases h
  | cons c rest ih =>
    rcases List.mem_cons.1 h with rfl | h
    · rw [allTrue]; exact and3_false_left _
    · rw [allTrue, ih h]; exact and3_false_right _

theorem someTrue_of_mem_true [CharacterNames] {cs : List Clause} (h : truth true ∈ cs) :
    someTrue db frames cs = some true := by
  induction cs with
  | nil => cases h
  | cons c rest ih =>
    rcases List.mem_cons.1 h with rfl | h
    · rw [someTrue]; exact or3_true_left _
    · rw [someTrue, ih h]; exact or3_true_right _

/-- Truth values that do not matter may be dropped from a conjunction. -/
theorem allTrue_undecided [CharacterNames] {cs ks : List Clause} (h : undecided true cs = some ks) :
    allTrue db frames ks = allTrue db frames cs := by
  fun_induction undecided true cs generalizing ks with
  | case1 => cases h; rfl
  | case2 rest ih => rw [ih h, allTrue]; exact (and3_true_left _).symm
  | case3 => cases h
  | case4 c rest _ ih =>
    obtain ⟨ks', hk, rfl⟩ := Option.map_eq_some_iff.1 h
    rw [allTrue, allTrue, ih hk]

/-- Truth values that do not matter may be dropped from a disjunction. -/
theorem someTrue_undecided [CharacterNames] {cs ks : List Clause}
    (h : undecided false cs = some ks) :
    someTrue db frames ks = someTrue db frames cs := by
  fun_induction undecided false cs generalizing ks with
  | case1 => cases h; rfl
  | case2 rest ih => rw [ih h, someTrue]; exact (or3_false_left _).symm
  | case3 => cases h
  | case4 c rest _ ih =>
    obtain ⟨ks', hk, rfl⟩ := Option.map_eq_some_iff.1 h
    rw [someTrue, someTrue, ih hk]

/-! ## Joined and negated clauses -/

/-- A conjunction is worth what its parts are worth together. -/
theorem truthValue_conj [CharacterNames] (cs : List Clause) :
    (conj cs).truthValue db frames = allTrue db frames cs := by
  unfold conj
  split
  · rename_i h
    rw [allTrue_of_mem_false db frames (mem_of_undecided_eq_none h)]
    rfl
  · rename_i h; rw [← allTrue_undecided db frames h]; rfl
  · rename_i c h; rw [← allTrue_undecided db frames h]; simp [allTrue]
  · rename_i ks _ _ h
    rw [truthValue, allTrue_flatMap_conjuncts, allTrue_undecided db frames h]

/-- A disjunction is worth what its parts are worth together. -/
theorem truthValue_disj [CharacterNames] (cs : List Clause) :
    (disj cs).truthValue db frames = someTrue db frames cs := by
  unfold disj
  split
  · rename_i h
    rw [someTrue_of_mem_true db frames (mem_of_undecided_eq_none h)]
    rfl
  · rename_i h; rw [← someTrue_undecided db frames h]; rfl
  · rename_i c h; rw [← someTrue_undecided db frames h]; simp [someTrue]
  · rename_i ks _ _ h
    rw [truthValue, someTrue_flatMap_disjuncts, someTrue_undecided db frames h]

/-- A negation is worth the opposite. -/
theorem truthValue_negate [CharacterNames] (c : Clause) :
    c.negate.truthValue db frames = not3 (c.truthValue db frames) := by
  unfold negate
  split
  · rfl
  · rfl
  · simp [truthValue, testTruth, not3, bne]
  · simp [truthValue, testTruth, not3, bne]
  · rfl
  · simp [truthValue, testTruth, not3]
  · rename_i table p atLeast n
    simp only [truthValue, not3, Option.map_some]
    cases atLeast
    · simp only [Bool.not_false, if_true, Bool.false_eq_true, if_false, ← decide_not, Nat.not_lt]
    · simp only [Bool.not_true, if_true, Bool.false_eq_true, if_false, ← decide_not, Nat.not_le]
  · rw [truthValue]

/-! ## Guards -/

theorem truthValue_isNotNull [CharacterNames] (c : Column) :
    (isNotNull c).truthValue db frames = some (decide (readColumn frames c ≠ .null)) := by
  show some (readColumn frames c != .null) = _
  by_cases h : readColumn frames c = .null <;> simp [h]

/-- A test behind a guard counts only where the column is not null. -/
theorem truthValue_guarded [CharacterNames] (c : Column) (t : Clause) :
    (conj [.isNotNull c, t]).truthValue db frames =
      if readColumn frames c = .null then some false else t.truthValue db frames := by
  rw [truthValue_conj, allTrue, allTrue, allTrue, and3_true_right, truthValue_isNotNull]
  by_cases h : readColumn frames c = .null <;> simp [h]

/-- A test behind two guards counts only where neither column is null. -/
theorem truthValue_guarded₂ [CharacterNames] (c e : Column) (t : Clause) :
    (conj [.isNotNull c, .isNotNull e, t]).truthValue db frames =
      if readColumn frames c = .null ∨ readColumn frames e = .null then some false
      else t.truthValue db frames := by
  rw [truthValue_conj, allTrue, allTrue, allTrue, allTrue, and3_true_right, truthValue_isNotNull,
    truthValue_isNotNull]
  by_cases hc : readColumn frames c = .null <;> by_cases he : readColumn frames e = .null <;>
    simp [hc, he]

/-- The clause of a junction is worth what its parts are worth together. -/
theorem truthValue_junctionClause [CharacterNames] (kind : Junction) (cs : List Clause) :
    (junctionClause kind cs).truthValue db frames =
      match kind with
      | .and => allTrue db frames cs
      | .or => someTrue db frames cs := by
  unfold junctionClause
  split
  · rfl
  · rfl
  · cases kind <;> simp [allTrue, someTrue]
  · exact truthValue_conj db frames _
  · exact truthValue_disj db frames _

end Clause

end Clearance.Sql
