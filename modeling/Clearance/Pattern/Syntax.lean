/-
  Regular expressions over texts.

  A `Regex` is built from single characters, character sets and anchors by sequence,
  alternation and repetition, with capturing groups, references to them, conditions on
  them, look-around and atomic groups.  Code points are numbers, since a pattern may name
  one that no text can hold.

  * `Regex.ofItems` joins the items of a sequence;
  * `Regex.width` bounds the number of characters that a match takes;
  * `FlagSet` is a set of flags as written in a pattern, `Mode` what is in force at a node.
-/

namespace Clearance.Pattern

/-- A class of characters. -/
inductive CharClass where
  | digit | space | word
deriving DecidableEq, Repr

/-- A member of a character set. -/
inductive SetItem where
  | char (code : Nat)
  | range (first last : Nat)
  | cls (c : CharClass) (negated : Bool)
deriving DecidableEq, Repr

/-- A test of the place in the text. -/
inductive Anchor where
  /-- The start of the text or, in multiline mode, of a line. -/
  | lineStart
  /-- The end of the text, or before a line feed that ends it; in multiline mode the end of
      a line. -/
  | lineEnd
  /-- The start of the text. -/
  | textStart
  /-- The end of the text. -/
  | textEnd
  /-- Between a word character and another character. -/
  | boundary
  /-- Not at a word boundary. -/
  | nonBoundary
deriving DecidableEq, Repr

/-- How a repetition chooses its count. -/
inductive Greed where
  | greedy | reluctant | possessive
deriving DecidableEq, Repr

/-- Flags as they are written in a pattern. -/
structure FlagSet where
  ignoreCase : Bool := false
  multiline : Bool := false
  dotAll : Bool := false
  verbose : Bool := false
  ascii : Bool := false
  unicode : Bool := false
  template : Bool := false
deriving DecidableEq, Repr

namespace FlagSet

/-- No flag. -/
def none : FlagSet := {}

/-- The flags of two sets together. -/
def union (a b : FlagSet) : FlagSet where
  ignoreCase := a.ignoreCase || b.ignoreCase
  multiline := a.multiline || b.multiline
  dotAll := a.dotAll || b.dotAll
  verbose := a.verbose || b.verbose
  ascii := a.ascii || b.ascii
  unicode := a.unicode || b.unicode
  template := a.template || b.template

/-- Whether two sets have a flag in common. -/
def meets (a b : FlagSet) : Bool :=
  (a.ignoreCase && b.ignoreCase) || (a.multiline && b.multiline) || (a.dotAll && b.dotAll) ||
    (a.verbose && b.verbose) || (a.ascii && b.ascii) || (a.unicode && b.unicode) ||
    (a.template && b.template)

end FlagSet

/-- The flags in force at a node of a regular expression. -/
structure Mode where
  ignoreCase : Bool := false
  multiline : Bool := false
  dotAll : Bool := false
  ascii : Bool := false
deriving DecidableEq, Repr

/-- The mode that a set of flags puts a whole pattern in. -/
def FlagSet.mode (f : FlagSet) : Mode where
  ignoreCase := f.ignoreCase
  multiline := f.multiline
  dotAll := f.dotAll
  ascii := f.ascii

/-- The mode inside a group that turns flags on and off. -/
def Mode.adjust (m : Mode) (on off : FlagSet) : Mode where
  ignoreCase := (m.ignoreCase || on.ignoreCase) && !off.ignoreCase
  multiline := (m.multiline || on.multiline) && !off.multiline
  dotAll := (m.dotAll || on.dotAll) && !off.dotAll
  ascii := if on.ascii || on.unicode then on.ascii else m.ascii

/-- A regular expression. -/
inductive Regex where
  /-- Matches the empty text. -/
  | empty
  /-- One character. -/
  | char (code : Nat)
  /-- Any one character but this. -/
  | notChar (code : Nat)
  /-- Any one character; not a line feed, unless the dot matches all. -/
  | any
  /-- One character of a set, or one outside it. -/
  | set (negated : Bool) (items : List SetItem)
  /-- A test of the place. -/
  | anchor (a : Anchor)
  /-- A group, with its number if it captures, and the flags it turns on and off. -/
  | group (index : Option Nat) (on off : FlagSet) (body : Regex)
  /-- A group that is matched once and for all. -/
  | atomic (body : Regex)
  /-- A look ahead or behind, for a match or for none. -/
  | look (behind negated : Bool) (body : Regex)
  /-- The text of a group again; the bounds are those of the group. -/
  | backref (index : Nat) (least most : Nat)
  /-- One of two, by whether a group has matched. -/
  | cond (index : Nat) (yes no : Regex)
  /-- A repetition, with its bounds. -/
  | rep (greed : Greed) (least : Nat) (most : Option Nat) (body : Regex)
  /-- One after the other. -/
  | seq (first second : Regex)
  /-- One or the other, the first one first. -/
  | alt (first second : Regex)
deriving DecidableEq, Repr

namespace Regex

/-- The items of a sequence as one expression. -/
def ofItems : List Regex → Regex
  | [] => .empty
  | [r] => r
  | r :: rest => .seq r (ofItems rest)

/-- Alternatives as one expression. -/
def ofBranches : List Regex → Regex
  | [] => .empty
  | [r] => r
  | r :: rest => .alt r (ofBranches rest)

/-- Whether an expression is a test of the place. -/
def isAnchor : Regex → Bool
  | anchor _ => true
  | _ => false

/-- Whether an expression is a repetition. -/
def isRepetition : Regex → Bool
  | rep _ _ _ _ => true
  | _ => false

/-- The bound of a width beyond which it is not told apart. -/
def maxWidth : Nat := 18446744073709551616

/-- A width kept within the bound. -/
def capped (w : Nat × Nat) : Nat × Nat := (min w.1 maxWidth, min w.2 maxWidth)

/-- The least and the greatest number of characters that a match takes. -/
def width : Regex → Nat × Nat
  | empty | anchor _ | look _ _ _ => (0, 0)
  | char _ | notChar _ | any | set _ _ => (1, 1)
  | group _ _ _ body | atomic body => body.width
  | backref _ least most => (least, most)
  | cond _ yes no => (min yes.width.1 no.width.1, max yes.width.2 no.width.2)
  | rep _ least most body =>
    let (low, high) := body.width
    capped (low * least,
      match most with
      | some n => high * n
      | none => if high = 0 then 0 else maxWidth)
  | seq a b => capped (a.width.1 + b.width.1, a.width.2 + b.width.2)
  | alt a b => (min a.width.1 b.width.1, max a.width.2 b.width.2)

end Regex

end Clearance.Pattern
