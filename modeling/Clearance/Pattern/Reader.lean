/-
  Reading a pattern token by token.

  A token is a character or a backslash with the character behind it.  The reader looks one
  token ahead; a backslash at the very end of the pattern is an error as soon as it is the
  token ahead, whatever comes before it in the syntax.

  * `tokens` splits a pattern, `start` opens the reader on it;
  * `next?`, `take`, `accept` and `takeWhile` are the moves of the reader;
  * `fail` reports a fault at a distance before the token ahead, `failAt` at a position.
-/
import Clearance.Pattern.Syntax
import Clearance.Pattern.Fault

namespace Clearance.Pattern

/-- A token of a pattern. -/
inductive Token where
  | plain (c : Char)
  | escape (c : Char)
  /-- A backslash with nothing behind it. -/
  | dangling
deriving DecidableEq, Repr

namespace Token

/-- The characters of a token. -/
def text : Token → List Char
  | plain c => [c]
  | escape c => ['\\', c]
  | dangling => ['\\']

end Token

/-- The tokens of a pattern. -/
def tokens : List Char → List Token
  | [] => []
  | '\\' :: [] => [.dangling]
  | '\\' :: c :: rest => .escape c :: tokens rest
  | c :: rest => .plain c :: tokens rest

/-- What is known while a pattern is read. -/
structure ReadState where
  /-- The tokens ahead. -/
  rest : List Token
  /-- The position of the token ahead. -/
  position : Nat
  /-- The flags of the whole pattern. -/
  flags : FlagSet
  /-- For each group opened so far the width of its body; none while the group is open. -/
  groups : List (Option (Nat × Nat))
  /-- The groups that have names. -/
  names : List (String × Nat)
  /-- Inside a look behind, the number of groups opened before it. -/
  lookbehind : Option Nat
  /-- The groups that conditions name by number, with the position of the first mention. -/
  conditions : List (Nat × Nat)

/-- A step in reading a pattern. -/
abbrev Read (α : Type) := StateT ReadState (Except PatternError) α

/-- Reports a fault at a position. -/
def failAt {α : Type} (fault : Fault) (position : Nat) : Read α :=
  throw ⟨fault, some position⟩

/-- Reports a fault at a distance before the token ahead. -/
def fail {α : Type} (fault : Fault) (back : Nat) : Read α := do
  failAt fault ((← get).position - back)

/-- The token ahead. -/
def next? : Read (Option Token) := return (← get).rest.head?

/-- Whether the token ahead is a given character. -/
def isNext (c : Char) : Read Bool := return (← next?) == some (.plain c)

/-- Takes the token ahead, if there is one. -/
def take : Read (Option Token) := do
  let s ← get
  match s.rest with
  | [] => return none
  | token :: rest =>
    let position := s.position + token.text.length
    if rest.head? = some .dangling then failAt .danglingEscape position
    else
      set { s with rest, position }
      return some token

/-- Takes the token ahead if it is a given character. -/
def accept (c : Char) : Read Bool := do
  if ← isNext c then
    let _ ← take
    return true
  else return false

/-- Takes characters of a kind while they come, up to a number of them. -/
def takeWhile (p : Char → Bool) : Nat → Read (List Char)
  | 0 => return []
  | n + 1 => do
    match ← next? with
    | some (.plain c) =>
      if p c then
        let _ ← take
        return c :: (← takeWhile p n)
      else return []
    | _ => return []

/-- Takes a name up to a terminator; what the name is of is said in the error. -/
def takeName (terminator : Char) (what : String) (taken : List Char) : Nat → Read (List Char)
  | 0 => return taken
  | n + 1 => do
    match ← take with
    | none =>
      if taken.isEmpty then fail (.missingName what) 0
      else fail (.unterminatedName terminator) taken.length
    | some token =>
      if token = .plain terminator then
        if taken.isEmpty then fail (.missingName what) 1 else return taken
      else takeName terminator what (taken ++ token.text) n

/-- Takes a name, with as many steps as there are tokens. -/
def takeUntil (terminator : Char) (what : String) : Read (List Char) := do
  takeName terminator what [] ((← get).rest.length + 1)

/-- The state in which a pattern is begun. -/
def start (pattern : List Char) (flags : FlagSet) : Except PatternError ReadState :=
  let rest := tokens pattern
  if rest.head? = some .dangling then .error ⟨.danglingEscape, some 0⟩
  else
    .ok { rest, position := 0, flags, groups := [], names := [], lookbehind := none,
          conditions := [] }

end Clearance.Pattern
