/-
  Patterns of rules: reading them under their flags and looking for them in a text.

  * `compileWith` reads a pattern under flags, `finds` looks for it in a text.
-/
import Clearance.Pattern.Match
import Clearance.Error.Basic
import Clearance.Rule.Basic

namespace Clearance.Pattern

/-- The set of some flags. -/
def FlagSet.ofFlags (flags : List PatternFlag) : FlagSet where
  ignoreCase := flags.contains .ignoreCase
  multiline := flags.contains .multiline
  dotAll := flags.contains .dotAll
  verbose := flags.contains .verbose

/-- Reads a pattern under flags. -/
def compileWith [CharacterNames] (pattern : String) (flags : List PatternFlag) :
    Except PatternError Program :=
  compile pattern (FlagSet.ofFlags flags)

/-- Whether a pattern, read under flags, matches somewhere in a text. -/
def finds [CharacterNames] (pattern : String) (flags : List PatternFlag) (text : String) :
    Result Bool :=
  match compileWith pattern flags with
  | .ok program => .ok (program.search text)
  | .error e => .error (.patternFault pattern e)

end Clearance.Pattern
