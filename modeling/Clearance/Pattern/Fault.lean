/-
  What can be wrong with a pattern.

  * `Fault` names the cause, `Fault.text` words it;
  * `PatternError` adds the position in the pattern, and `PatternError.message` is the full
    text: the position follows the wording, and in a pattern of several lines the line and
    the column follow the position.
-/
import Clearance.Text.Quoted

namespace Clearance.Pattern

/-- The cause of an error in a pattern. -/
inductive Fault where
  | danglingEscape
  | badEscape (escape : List Char)
  | incompleteEscape (escape : List Char)
  | octalTooLarge (escape : List Char)
  | missingBrace
  | unknownCharacterName (name : List Char)
  | missingName (what : String)
  | unterminatedName (terminator : Char)
  | openGroup
  | lookbehindGroup
  | noSuchGroup (index : Nat)
  | unterminatedSet
  | badRange (first last : List Char)
  | bounds
  | nothingToRepeat
  | multipleRepeat
  | unexpectedEnd
  | unknownGroupName (name : List Char)
  | badGroupName (name : List Char)
  | badGroupNumber
  | unknownExtension (text : List Char)
  | unterminatedComment
  | unterminatedGroup
  | redefinedName (name : List Char) (new old : Nat)
  | lateFlags
  | tooManyBranches
  | localeFlag
  | exclusiveFlags
  | missingFlagsEnd
  | unknownFlag
  | missingFlag
  | missingColon
  | globalFlagOn
  | globalFlagOff
  | typeFlagOff
  | flagOnAndOff
  | unbalanced
  | variableLookbehind
  | farLookbehind
  | templateOperator (name : String)
  /-- A repetition count beyond the limit. -/
  | countTooLarge
  /-- The ASCII and the Unicode mode asked for at once. -/
  | exclusiveModes
deriving DecidableEq, Repr

namespace Fault

/-- The wording of a cause. -/
def text : Fault → String
  | danglingEscape => "bad escape (end of pattern)"
  | badEscape escape => "bad escape " ++ String.ofList escape
  | incompleteEscape escape => "incomplete escape " ++ String.ofList escape
  | octalTooLarge escape =>
    "octal escape value " ++ String.ofList escape ++ " outside of range 0-0o377"
  | missingBrace => "missing \x7b"
  | unknownCharacterName name =>
    "undefined character name " ++ Text.quoted (String.ofList name)
  | missingName what => "missing " ++ what
  | unterminatedName terminator =>
    "missing " ++ String.ofList [terminator] ++ ", unterminated name"
  | openGroup => "cannot refer to an open group"
  | lookbehindGroup => "cannot refer to group defined in the same lookbehind subpattern"
  | noSuchGroup index => "invalid group reference " ++ toString index
  | unterminatedSet => "unterminated character set"
  | badRange first last =>
    "bad character range " ++ String.ofList first ++ "-" ++ String.ofList last
  | bounds => "min repeat greater than max repeat"
  | nothingToRepeat => "nothing to repeat"
  | multipleRepeat => "multiple repeat"
  | unexpectedEnd => "unexpected end of pattern"
  | unknownGroupName name => "unknown group name " ++ Text.quoted (String.ofList name)
  | badGroupName name => "bad character in group name " ++ Text.quoted (String.ofList name)
  | badGroupNumber => "bad group number"
  | unknownExtension text => "unknown extension ?" ++ String.ofList text
  | unterminatedComment => "missing ), unterminated comment"
  | unterminatedGroup => "missing ), unterminated subpattern"
  | redefinedName name new old =>
    "redefinition of group name " ++ Text.quoted (String.ofList name) ++ " as group " ++
      toString new ++ "; was group " ++ toString old
  | lateFlags => "global flags not at the start of the expression"
  | tooManyBranches => "conditional backref with more than two branches"
  | localeFlag => "bad inline flags: cannot use 'L' flag with a str pattern"
  | exclusiveFlags => "bad inline flags: flags 'a', 'u' and 'L' are incompatible"
  | missingFlagsEnd => "missing -, : or )"
  | unknownFlag => "unknown flag"
  | missingFlag => "missing flag"
  | missingColon => "missing :"
  | globalFlagOn => "bad inline flags: cannot turn on global flag"
  | globalFlagOff => "bad inline flags: cannot turn off global flag"
  | typeFlagOff => "bad inline flags: cannot turn off flags 'a', 'u' and 'L'"
  | flagOnAndOff => "bad inline flags: flag turned on and off"
  | unbalanced => "unbalanced parenthesis"
  | variableLookbehind => "look-behind requires fixed-width pattern"
  | farLookbehind => "looks too much behind"
  | templateOperator name => "internal: unsupported template operator " ++ name
  | countTooLarge => "the repetition number is too large"
  | exclusiveModes => "ASCII and UNICODE flags are incompatible"

end Fault

/-- An error in a pattern, with its position where it has one. -/
structure PatternError where
  fault : Fault
  position : Option Nat
deriving DecidableEq, Repr

/-- The line of a position, counted from one, and its column, counted from one. -/
def lineAndColumn (pattern : List Char) (position : Nat) : Nat × Nat :=
  let before := pattern.take position
  (before.count '\n' + 1, (before.reverse.takeWhile (· != '\n')).length + 1)

/-- The full text of an error in a pattern. -/
def PatternError.message (e : PatternError) (pattern : String) : String :=
  match e.position with
  | none => e.fault.text
  | some p =>
    let cs := pattern.toList
    let place :=
      if cs.contains '\n' then
        let (line, column) := lineAndColumn cs p
        " (line " ++ toString line ++ ", column " ++ toString column ++ ")"
      else ""
    e.fault.text ++ " at position " ++ toString p ++ place

end Clearance.Pattern
