/-
  Traversals of a rule.

  * `Expr.walk` lists the nodes of a tree, depth first and from left to right, with a stack
    of pending nodes; `Expr.preorder` says the same by recursion (`walk_eq_preorder`).
    Function nodes are listed and not expanded;
  * `Expr.nodePaths` are the paths that a node holds itself, `Expr.paths` those of all nodes;
  * `Expr.unscopedPaths` are the scoped paths whose table no related node around them opens;
  * `Expr.referencedColumns` are the columns of the paths, sorted and without repetition.
-/
import Clearance.Rule.Basic

namespace Clearance.Expr

variable {F : Type}

/-! ## Nodes -/

/-- The nodes of the pending trees, the first tree first. -/
def walkStack : List (Expr F) → List (Expr F)
  | [] => []
  | e :: stack => e :: walkStack (e.children ++ stack)
termination_by stack => sizeAll stack
decreasing_by
  rw [sizeAll_append, sizeAll, size_eq]
  omega

/-- The nodes of a tree, each before its parts. -/
def walk (e : Expr F) : List (Expr F) := walkStack [e]

mutual

/-- The nodes of a tree, by recursion. -/
def preorder : Expr F → List (Expr F)
  | e@(junction _ rules) => e :: preorderAll rules
  | e@(.not inner) => e :: inner.preorder
  | e@(related _ _ predicate _) => e :: predicate.preorder
  | e => [e]

/-- The nodes of some trees. -/
def preorderAll : List (Expr F) → List (Expr F)
  | [] => []
  | e :: rest => e.preorder ++ preorderAll rest

end

theorem preorderAll_append (es fs : List (Expr F)) :
    preorderAll (es ++ fs) = preorderAll es ++ preorderAll fs := by
  induction es with
  | nil => simp [preorderAll]
  | cons e rest ih => simp [preorderAll, ih]

theorem preorder_eq (e : Expr F) : e.preorder = e :: preorderAll e.children := by
  cases e <;> simp [preorder, children, preorderAll]

theorem walkStack_eq_preorderAll (stack : List (Expr F)) :
    walkStack stack = preorderAll stack := by
  fun_induction walkStack stack with
  | case1 => simp [preorderAll]
  | case2 e stack ih => rw [ih, preorderAll_append, preorderAll, preorder_eq]; simp

theorem walk_eq_preorder (e : Expr F) : e.walk = e.preorder := by
  simp [walk, walkStack_eq_preorderAll, preorderAll]

/-! ## Paths -/

/-- The paths that a node holds itself. -/
def nodePaths : Expr F → List PathRef
  | comparison _ left right => left :: right.path?.toList
  | between path min max => path :: (min.path?.toList ++ max.path?.toList)
  | belongsToTenant _ path => [path]
  | inArray path _ | nullCheck _ path | textMatch _ path _ | .matches path _ _
  | tenantScoped path => [path]
  | _ => []

/-- The paths of all nodes of a tree. -/
def paths (e : Expr F) : List PathRef := e.walk.flatMap nodePaths

/-- Whether a path is scoped to a table that is not open. -/
def isStray (scopes : List String) (p : PathRef) : Bool := p.isScoped && !scopes.contains p.table

/-- The tables that are open for the parts of a node. -/
def opened (scopes : List String) : Expr F → List String
  | related _ table _ _ => table :: scopes
  | _ => scopes

mutual

/-- The scoped paths of a tree whose table neither is open around it nor is opened by a
    related node of the tree around the path. -/
def unscopedPaths (scopes : List String) : Expr F → List PathRef
  | junction _ rules => unscopedAll scopes rules
  | .not inner => inner.unscopedPaths scopes
  | related _ table predicate _ => predicate.unscopedPaths (table :: scopes)
  | e => e.nodePaths.filter (isStray scopes)

/-- The scoped paths of some trees that no related node opens. -/
def unscopedAll (scopes : List String) : List (Expr F) → List PathRef
  | [] => []
  | e :: rest => e.unscopedPaths scopes ++ unscopedAll scopes rest

end

/-- The names of the tables that the related nodes of a tree open. -/
def relatedTables (e : Expr F) : List String :=
  e.walk.filterMap fun node =>
    match node with
    | related _ table _ _ => some table
    | _ => none

/-- Whether a tree holds a function node. -/
def hasFunction (e : Expr F) : Bool :=
  e.walk.any fun node =>
    match node with
    | function _ _ => true
    | _ => false

/-! ## Columns -/

/-- Whether a column comes no later than another in the order of tables and columns. -/
def columnLe (a b : String × String) : Bool :=
  match compareOfLessAndEq a.1 b.1 with
  | .lt => true
  | .gt => false
  | .eq => a.2 ≤ b.2

/-- The columns that the paths of a tree name, sorted, each once. -/
def referencedColumns (e : Expr F) : List (String × String) :=
  ((e.paths.map fun p => (p.table, p.column)).mergeSort columnLe).eraseReps

end Clearance.Expr
