/-
  The kinds of nodes in a rule, with the families that share a shape.

  * `Kind` tags every node; `Kind.name` is its name in texts, `Kind.ofName?` reads it, and
    `Kind.display` is its text inside a message that shows a node;
  * `CompareOp`, `NullTest`, `TextTest`, `RelatedKind` and `Junction` are the families of
    kinds whose nodes differ in nothing else; each family knows the kinds of its members.
-/

namespace Clearance

/-- The kind of a node. -/
inductive Kind where
  | literal
  | eq | neq | gt | lt | gte | lte
  | inArray
  | isNull | isNotNull
  | startsWith | endsWith | contains
  | between
  | matches
  | exists | count | hasMany
  | tenantScoped
  | belongsToTenant
  | not
  | and | or
  | function
deriving DecidableEq, Repr

namespace Kind

/-- All kinds, in the order of their declaration. -/
def all : List Kind :=
  [literal, eq, neq, gt, lt, gte, lte, inArray, isNull, isNotNull, startsWith, endsWith,
   contains, between, .matches, Kind.exists, count, hasMany, tenantScoped, belongsToTenant,
   Kind.not, Kind.and, Kind.or, function]

/-- The name of a kind. -/
def name : Kind → String
  | literal => "literal"
  | eq => "eq"
  | neq => "neq"
  | gt => "gt"
  | lt => "lt"
  | gte => "gte"
  | lte => "lte"
  | inArray => "inArray"
  | isNull => "isNull"
  | isNotNull => "isNotNull"
  | startsWith => "startsWith"
  | endsWith => "endsWith"
  | contains => "contains"
  | between => "between"
  | .matches => "matches"
  | .exists => "exists"
  | count => "count"
  | hasMany => "hasMany"
  | tenantScoped => "tenantScoped"
  | belongsToTenant => "belongsToTenant"
  | .not => "not"
  | .and => "and"
  | .or => "or"
  | function => "function"

/-- The name of a kind in capitals, its words set apart. -/
def constantName : Kind → String
  | inArray => "IN_ARRAY"
  | isNull => "IS_NULL"
  | isNotNull => "IS_NOT_NULL"
  | startsWith => "STARTS_WITH"
  | endsWith => "ENDS_WITH"
  | hasMany => "HAS_MANY"
  | tenantScoped => "TENANT_SCOPED"
  | belongsToTenant => "BELONGS_TO_TENANT"
  | kind => kind.name.toUpper

/-- The kind of a name. -/
def ofName? (s : String) : Option Kind := all.find? fun kind => kind.name == s

/-- The text of a kind inside a message. -/
def display (kind : Kind) : String :=
  "<ExprKind." ++ kind.constantName ++ ": '" ++ kind.name ++ "'>"

end Kind

/-- The comparisons of a column with an operand. -/
inductive CompareOp where
  | eq | neq | gt | lt | gte | lte
deriving DecidableEq, Repr

/-- The tests whether a column holds a value. -/
inductive NullTest where
  | isNull | isNotNull
deriving DecidableEq, Repr

/-- The tests of a column against a text. -/
inductive TextTest where
  | startsWith | endsWith | contains
deriving DecidableEq, Repr

/-- The tests of how many related rows satisfy a predicate. -/
inductive RelatedKind where
  | exists | count | hasMany
deriving DecidableEq, Repr

/-- The two ways to join rules. -/
inductive Junction where
  | and | or
deriving DecidableEq, Repr

/-- The kind of a comparison. -/
def CompareOp.kind : CompareOp → Kind
  | eq => .eq
  | neq => .neq
  | gt => .gt
  | lt => .lt
  | gte => .gte
  | lte => .lte

/-- The kind of a null test. -/
def NullTest.kind : NullTest → Kind
  | isNull => .isNull
  | isNotNull => .isNotNull

/-- The kind of a text test. -/
def TextTest.kind : TextTest → Kind
  | startsWith => .startsWith
  | endsWith => .endsWith
  | contains => .contains

/-- The kind of a test of related rows. -/
def RelatedKind.kind : RelatedKind → Kind
  | .exists => .exists
  | count => .count
  | hasMany => .hasMany

/-- The kind of a junction. -/
def Junction.kind : Junction → Kind
  | .and => .and
  | .or => .or

/-- The comparison of a kind. -/
def Kind.compareOp? : Kind → Option CompareOp
  | .eq => some .eq
  | .neq => some .neq
  | .gt => some .gt
  | .lt => some .lt
  | .gte => some .gte
  | .lte => some .lte
  | _ => none

/-- The null test of a kind. -/
def Kind.nullTest? : Kind → Option NullTest
  | .isNull => some .isNull
  | .isNotNull => some .isNotNull
  | _ => none

/-- The text test of a kind. -/
def Kind.textTest? : Kind → Option TextTest
  | .startsWith => some .startsWith
  | .endsWith => some .endsWith
  | .contains => some .contains
  | _ => none

/-- The test of related rows of a kind. -/
def Kind.relatedKind? : Kind → Option RelatedKind
  | .exists => some .exists
  | .count => some .count
  | .hasMany => some .hasMany
  | _ => none

/-- The junction of a kind. -/
def Kind.junction? : Kind → Option Junction
  | .and => some .and
  | .or => some .or
  | _ => none

/-- The number of rows that a test of related rows asks for by default. -/
def RelatedKind.defaultCount : RelatedKind → Nat
  | hasMany => 2
  | _ => 1

end Clearance
