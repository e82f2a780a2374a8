/-
  `LIKE` patterns, and the patterns of regular expressions that have one.

  Only a small part of the patterns has a `LIKE` form: plain characters, characters behind
  a backslash that are no letters or digits, the dot alone or with a star or a plus, and an
  anchor at either end.  An end without an anchor gets a percent sign.  Where a backslash
  counts as one, the last dollar sign is an anchor only if an even number of backslashes
  stands before it.

  * `likeOf?` gives the `LIKE` form of a pattern, with the backslash as escape character;
  * `likeMatches` decides `LIKE`: the low line is any one character, the percent sign any
    text, and a character behind the escape character stands for itself;
  * `inlineFlags` puts flags in front of a pattern, sorted and each once.
-/
import Clearance.Rule.Basic
import Clearance.Text.Affix
import Clearance.Text.Alphanumeric

namespace Clearance.Pattern

/-! ## From regular expressions -/

/-- The characters with a meaning of their own in patterns, the backslash apart. -/
def metacharacters : List Char :=
  ['.', '^', '$', '*', '+', '?', '(', ')', '[', ']', '\x7b', '\x7d', '|']

/-- A character as it stands for itself in a `LIKE` pattern. -/
def likeLiteral (c : Char) : List Char :=
  if c = '%' || c = '_' || c = '\\' then ['\\', c] else [c]

/-- Whether the last character of a pattern is an anchor. -/
def endsWithAnchor (pattern : List Char) : Bool :=
  match pattern.reverse with
  | '$' :: rest => (rest.takeWhile (· == '\\')).length % 2 == 0
  | _ => false

/-- The `LIKE` form of a pattern without its anchors, if it has one. -/
def likeBody? : List Char → Option (List Char)
  | [] => some []
  | ['\\'] => none
  | '\\' :: c :: rest =>
    if Text.isAlphanumeric c then none else (likeBody? rest).map (likeLiteral c ++ ·)
  | '.' :: '*' :: rest => (likeBody? rest).map ('%' :: ·)
  | '.' :: '+' :: rest => (likeBody? rest).map (['_', '%'] ++ ·)
  | '.' :: rest => (likeBody? rest).map ('_' :: ·)
  | c :: rest =>
    if metacharacters.contains c then none else (likeBody? rest).map (likeLiteral c ++ ·)

/-- The `LIKE` form of a pattern, if it has one. -/
def likeOf? (pattern : String) : Option String :=
  let cs := pattern.toList
  let atStart := cs.head? == some '^'
  let atEnd := endsWithAnchor cs
  let body := if atStart then cs.drop 1 else cs
  let body := if atEnd then body.dropLast else body
  (likeBody? body).map fun like =>
    String.ofList
      ((if atStart then [] else ['%']) ++ like ++ if atEnd then [] else ['%'])

/-- Puts flags in front of a pattern. -/
def inlineFlagText (pattern : String) (flags : List Char) : String :=
  if flags.isEmpty then pattern
  else
    let letters := (flags.mergeSort fun a b => a ≤ b).eraseReps
    "(?" ++ String.ofList letters ++ ")" ++ pattern

/-- Puts flags in front of a pattern. -/
def inlineFlags (pattern : String) (flags : List PatternFlag) : String :=
  inlineFlagText pattern (flags.map PatternFlag.letter)

/-! ## Matching -/

/-- A part of a `LIKE` pattern. -/
inductive LikeItem where
  /-- This character. -/
  | char (c : Char)
  /-- Any one character. -/
  | one
  /-- Any text. -/
  | many
deriving DecidableEq, Repr

/-- The parts of a `LIKE` pattern with an escape character.  Nothing matches a pattern that
    ends in its escape character. -/
def likeItems? (escape : Char) : List Char → Option (List LikeItem)
  | [] => some []
  | c :: rest =>
    if c = escape then
      match rest with
      | [] => none
      | d :: rest => (likeItems? escape rest).map (.char d :: ·)
    else if c = '%' then (likeItems? escape rest).map (.many :: ·)
    else if c = '_' then (likeItems? escape rest).map (.one :: ·)
    else (likeItems? escape rest).map (.char c :: ·)

section

variable {escape : Char} (rest : List Char)

theorem likeItems?_escape (c : Char) :
    likeItems? escape (escape :: c :: rest) = (likeItems? escape rest).map (.char c :: ·) := by
  rw [likeItems?.eq_def]
  exact if_pos rfl

theorem likeItems?_many (h : '%' ≠ escape) :
    likeItems? escape ('%' :: rest) = (likeItems? escape rest).map (.many :: ·) := by
  rw [likeItems?.eq_def]
  exact if_neg h

theorem likeItems?_one (h : '_' ≠ escape) :
    likeItems? escape ('_' :: rest) = (likeItems? escape rest).map (.one :: ·) := by
  rw [likeItems?.eq_def]
  exact if_neg h

theorem likeItems?_char {c : Char} (h : c ≠ escape) (hmany : c ≠ '%') (hone : c ≠ '_') :
    likeItems? escape (c :: rest) = (likeItems? escape rest).map (.char c :: ·) := by
  rw [likeItems?.eq_def]
  dsimp only
  rw [if_neg h, if_neg hmany, if_neg hone]

end

/-- Whether a text has the parts of a `LIKE` pattern. -/
def likeItemsMatch : List LikeItem → List Char → Bool
  | [], cs => cs.isEmpty
  | .char d :: items, c :: cs => c == d && likeItemsMatch items cs
  | .one :: items, _ :: cs => likeItemsMatch items cs
  | .many :: items, cs => Text.anySuffix (likeItemsMatch items) cs
  | _ :: _, [] => false

/-- Whether a text is like a pattern. -/
def likeMatches (escape : Char) (pattern text : List Char) : Bool :=
  match likeItems? escape pattern with
  | none => false
  | some items => likeItemsMatch items text

end Clearance.Pattern
