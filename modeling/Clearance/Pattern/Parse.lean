/-
  The syntax of patterns.

  A pattern is read into a `Regex` by recursive descent: alternatives, sequences, items.
  The first fault met decides the error.  Every step of a loop and every nested call takes
  a unit of fuel, and a pattern has fuel for four steps for each of its characters, more
  than reading it can use.

  * `CharacterNames` is what a pattern may take for granted: characters written by their names;
  * `Pattern.parse` reads a pattern under flags;
  * `Regex.check` finds what is wrong with the finished expression: a look behind must have
    a fixed width;
  * `Pattern.compile` does both, and gives the expression with its mode.
-/
import Clearance.Pattern.Reader
import Clearance.Text.Identifier
import Clearance.Text.CharClass
import Clearance.Number.Numeral

namespace Clearance

/-- The names that characters go by, with which a pattern may write them.  They are those of the
    character database, which is no part of this library. -/
class CharacterNames where
  /-- The character of a name; missing if it names none, or several in a row. -/
  char? : List Char → Option Char

/-- No character has a name. -/
@[reducible] def CharacterNames.empty : CharacterNames := ⟨fun _ => none⟩

namespace Pattern

variable [CharacterNames]

/-! ## Escapes -/

/-- Whether a character is an octal digit. -/
def isOctal (c : Char) : Bool := '0' ≤ c && c ≤ '7'

/-- The number that digits of a base denote. -/
def digitsIn (base : Nat) (digits : List Char) : Nat :=
  digits.foldl (fun n c => base * n + (hexDigit? c).getD 0) 0

/-- The control characters that letters stand for, in sets and outside. -/
def controlEscape? : Char → Option Nat
  | 'a' => some 7
  | 'f' => some 12
  | 'n' => some 10
  | 'r' => some 13
  | 't' => some 9
  | 'v' => some 11
  | '\\' => some 92
  | _ => none

/-- The character class of a letter. -/
def classEscape? : Char → Option SetItem
  | 'd' => some (.cls .digit false)
  | 'D' => some (.cls .digit true)
  | 's' => some (.cls .space false)
  | 'S' => some (.cls .space true)
  | 'w' => some (.cls .word false)
  | 'W' => some (.cls .word true)
  | _ => none

/-- The place test of a letter. -/
def anchorEscape? : Char → Option Anchor
  | 'A' => some .textStart
  | 'b' => some .boundary
  | 'B' => some .nonBoundary
  | 'Z' => some .textEnd
  | _ => none

/-- A code of a fixed number of hexadecimal digits behind its letter. -/
def hexEscape (letter : Char) (count : Nat) : Read Nat := do
  let digits ← takeWhile (fun c => (hexDigit? c).isSome) count
  let escape := '\\' :: letter :: digits
  if digits.length = count then
    let code := digitsIn 16 digits
    if code < 0x110000 then return code else fail (.badEscape escape) escape.length
  else fail (.incompleteEscape escape) escape.length

/-- A character named in braces. -/
def namedEscape : Read Nat := do
  if ← accept '\x7b' then
    let name ← takeUntil '\x7d' "character name"
    match CharacterNames.char? name with
    | some c => return c.toNat
    | none => fail (.unknownCharacterName name) (name.length + 4)
  else fail .missingBrace 0

/-- An escape whose letter has no meaning of its own: a letter is refused, any other
    character stands for itself. -/
def otherEscape (c : Char) : Read Nat :=
  if c.isAlpha then fail (.badEscape ['\\', c]) 2 else return c.toNat

/-- An octal code that must stay within a byte. -/
def octalCode (digits : List Char) : Read Nat :=
  let code := digitsIn 8 digits
  if code > 0o377 then fail (.octalTooLarge ('\\' :: digits)) (digits.length + 1)
  else return code

/-- An escape inside a character set. -/
def setEscape (c : Char) : Read SetItem := do
  if c = 'b' then return .char 8
  match controlEscape? c, classEscape? c with
  | some code, _ => return .char code
  | _, some item => return item
  | none, none =>
    if c = 'x' then return .char (← hexEscape c 2)
    else if c = 'u' then return .char (← hexEscape c 4)
    else if c = 'U' then return .char (← hexEscape c 8)
    else if c = 'N' then return .char (← namedEscape)
    else if isOctal c then
      let more ← takeWhile isOctal 2
      return .char (← octalCode (c :: more))
    else if c.isDigit then fail (.badEscape ['\\', c]) 2
    else return .char (← otherEscape c)

/-- Refuses a reference that a look behind must not make. -/
def checkLookbehind (index : Nat) : Read Unit := do
  let s ← get
  match s.lookbehind with
  | none => return ()
  | some before =>
    if ((s.groups[index - 1]?).join).isNone then fail .openGroup 0
    else if index > before then fail .lookbehindGroup 0
    else return ()

/-- A reference to a group by number; the escape was as long as said. -/
def numberedReference (index length : Nat) : Read Regex := do
  match (← get).groups[index - 1]? with
  | none => fail (.noSuchGroup index) (length - 1)
  | some none => fail .openGroup length
  | some (some (least, most)) =>
    checkLookbehind index
    return .backref index least most

/-- An escape that begins with a digit other than zero: an octal code if there are three
    octal digits, else a reference. -/
def digitEscape (c : Char) : Read Regex := do
  match ← next? with
  | some (.plain d) =>
    if d.isDigit then
      let _ ← take
      match ← next? with
      | some (.plain e) =>
        if isOctal c && isOctal d && isOctal e then
          let _ ← take
          return .char (← octalCode [c, d, e])
        else numberedReference (digitsIn 10 [c, d]) 3
      | _ => numberedReference (digitsIn 10 [c, d]) 3
    else numberedReference (digitsIn 10 [c]) 2
  | _ => numberedReference (digitsIn 10 [c]) 2

/-- An escape outside a character set. -/
def itemEscape (c : Char) : Read Regex := do
  match anchorEscape? c, classEscape? c, controlEscape? c with
  | some a, _, _ => return .anchor a
  | _, some item, _ => return .set false [item]
  | _, _, some code => return .char code
  | none, none, none =>
    if c = 'x' then return .char (← hexEscape c 2)
    else if c = 'u' then return .char (← hexEscape c 4)
    else if c = 'U' then return .char (← hexEscape c 8)
    else if c = 'N' then return .char (← namedEscape)
    else if c = '0' then
      let more ← takeWhile isOctal 2
      return .char (digitsIn 8 more)
    else if c.isDigit then digitEscape c
    else return .char (← otherEscape c)

/-! ## Character sets -/

/-- The expression of a set; one character alone is a character. -/
def ofSet (negated : Bool) (items : List SetItem) : Regex :=
  match items.eraseDups with
  | [.char code] => if negated then .notChar code else .char code
  | items => .set negated items

/-- A member of a set, with the token that it began with. -/
def setMember (opening : Nat) (token : Option Token) : Read (SetItem × List Char) := do
  match token with
  | none => failAt .unterminatedSet opening
  | some (.escape c) => return (← setEscape c, ['\\', c])
  | some token => return (.char ((token.text.headD '\\').toNat), token.text)

/-- The members of a set, up to the bracket that closes it.  A bracket in the first place
    stands for itself. -/
def setMembers (opening : Nat) (taken : List SetItem) : Nat → Read (List SetItem)
  | 0 => return taken
  | n + 1 => do
    let token ← take
    if token = some (.plain ']') && !taken.isEmpty then return taken
    let (low, lowText) ← setMember opening token
    if ← accept '-' then
      let token ← take
      if token = some (.plain ']') then return taken ++ [low, .char '-'.toNat]
      let (high, highText) ← setMember opening token
      let length := lowText.length + 1 + highText.length
      match low, high with
      | .char a, .char b =>
        if b < a then fail (.badRange lowText highText) length
        else setMembers opening (taken ++ [.range a b]) n
      | _, _ => fail (.badRange lowText highText) length
    else setMembers opening (taken ++ [low]) n

/-- A character set, its opening bracket taken. -/
def characterSet : Read Regex := do
  let opening := (← get).position - 1
  let negated ← accept '^'
  let items ← setMembers opening [] ((← get).rest.length + 1)
  return ofSet negated items

/-! ## Repetitions -/

/-- The count from which on a repetition is too large. -/
def countLimit : Nat := 4294967295

/-- A count in a repetition. -/
def repeatCount (digits : List Char) : Read Nat :=
  let n := digitsIn 10 digits
  if n ≥ countLimit then throw ⟨.countTooLarge, none⟩ else return n

/-- The bounds of a repetition written in braces, the opening brace taken; none if the text
    is no repetition, and then nothing is taken. -/
def bracedBounds : Read (Option (Nat × Option Nat)) := do
  let saved ← get
  if ← isNext '\x7d' then return none
  let low ← takeWhile Char.isDigit saved.rest.length
  let hasComma ← accept ','
  let high ← if hasComma then takeWhile Char.isDigit saved.rest.length else pure low
  if ← accept '\x7d' then
    let least ← if low.isEmpty then pure 0 else repeatCount low
    if high.isEmpty then return some (least, none)
    else
      let most ← repeatCount high
      if most < least then failAt .bounds saved.position
      else return some (least, some most)
  else
    set saved
    return none

/-- The bounds of a repetition, its first character taken. -/
def repeatBounds (c : Char) : Read (Option (Nat × Option Nat)) :=
  if c = '?' then return some (0, some 1)
  else if c = '*' then return some (0, none)
  else if c = '+' then return some (1, none)
  else bracedBounds

/-- The mark behind a repetition. -/
def repeatGreed : Read Greed := do
  if ← accept '?' then return .reluctant
  else if ← accept '+' then return .possessive
  else return .greedy

/-- Repeats the last of some items, which come last first. -/
def repeatLast (items : List Regex) (least : Nat) (most : Option Nat) (at_ : Nat) :
    Read (List Regex) := do
  match items with
  | [] => failAt .nothingToRepeat at_
  | item :: rest =>
    if item.isAnchor then failAt .nothingToRepeat at_
    else if item.isRepetition then failAt .multipleRepeat at_
    else return .rep (← repeatGreed) least most item :: rest

/-! ## Flags -/

/-- The flag of a letter. -/
def flagOf? : Char → Option FlagSet
  | 'i' => some { ignoreCase := true }
  | 'm' => some { multiline := true }
  | 's' => some { dotAll := true }
  | 'x' => some { verbose := true }
  | 'a' => some { ascii := true }
  | 'u' => some { unicode := true }
  | 't' => some { template := true }
  | 'L' => some {}
  | _ => none

/-- Whether a token is a letter. -/
def isLetterToken : Token → Bool
  | .plain c => if c.toNat < 128 then c.isAlpha else Text.isAlphanumeric c && !Text.isDigit c
  | _ => false

/-- The fault of a token that is no flag. -/
def flagFault (token : Token) (other : Fault) : Fault :=
  if isLetterToken token then .unknownFlag else other

/-- The flags to turn on, the first letter being at hand, with the mark that ends them. -/
def flagsOn (on : FlagSet) (c : Char) : Nat → Read (FlagSet × Char)
  | 0 => return (on, ')')
  | n + 1 => do
    if c = 'L' then fail .localeFlag 0
    let flag := (flagOf? c).getD {}
    let on := on.union flag
    if (flag.ascii || flag.unicode) && on.ascii && on.unicode then fail .exclusiveFlags 0
    match ← take with
    | none => fail .missingFlagsEnd 0
    | some (.plain d) =>
      if d = ')' || d = '-' || d = ':' then return (on, d)
      else if (flagOf? d).isSome then flagsOn on d n
      else fail (flagFault (.plain d) .missingFlagsEnd) 1
    | some token => fail (flagFault token .missingFlagsEnd) token.text.length

/-- The flags to turn off, the first letter being at hand. -/
def flagsOff (off : FlagSet) (c : Char) : Nat → Read FlagSet
  | 0 => return off
  | n + 1 => do
    if c = 'a' || c = 'u' || c = 'L' then fail .typeFlagOff 0
    let off := off.union ((flagOf? c).getD {})
    match ← take with
    | none => fail .missingColon 0
    | some (.plain ':') => return off
    | some (.plain d) =>
      if (flagOf? d).isSome then flagsOff off d n
      else fail (flagFault (.plain d) .missingColon) 1
    | some token => fail (flagFault token .missingColon) token.text.length

/-- The flags of a group, the first character being at hand: those to turn on and off
    inside the group, or none if the flags are for the whole pattern. -/
def groupFlags (c : Char) : Read (Option (FlagSet × FlagSet)) := do
  let fuel := (← get).rest.length + 1
  let (on, mark) ← if c = '-' then pure (({} : FlagSet), '-') else flagsOn {} c fuel
  if mark = ')' then
    modify fun s => { s with flags := s.flags.union on }
    return none
  if on.template then fail .globalFlagOn 1
  let off ←
    if mark = '-' then
      match ← take with
      | none => fail .missingFlag 0
      | some (.plain d) =>
        if (flagOf? d).isSome then flagsOff {} d fuel
        else fail (flagFault (.plain d) .missingFlag) 1
      | some token => fail (flagFault token .missingFlag) token.text.length
    else pure {}
  if off.template then fail .globalFlagOff 1
  if on.meets off then fail .flagOnAndOff 1
  return some (on, off)

/-! ## Groups -/

/-- Refuses a name that is no identifier. -/
def checkName (name : List Char) : Read Unit :=
  if Text.isIdentifier name then return () else fail (.badGroupName name) (name.length + 1)

/-- Opens a capturing group, and gives its number. -/
def openGroup (name : Option (List Char)) : Read Nat := do
  let s ← get
  let index := s.groups.length + 1
  match name with
  | none =>
    set { s with groups := s.groups ++ [none] }
    return index
  | some name =>
    let key := String.ofList name
    match s.names.lookup key with
    | some old => fail (.redefinedName name index old) (name.length + 1)
    | none =>
      set { s with groups := s.groups ++ [none], names := s.names ++ [(key, index)] }
      return index

/-- Closes a capturing group, whose body now has a width. -/
def closeGroup (index : Nat) (body : Regex) : Read Unit :=
  modify fun s => { s with groups := s.groups.set (index - 1) (some body.width) }

/-- A reference to a group by name, up to the closing parenthesis. -/
def namedReference : Read Regex := do
  let name ← takeUntil ')' "group name"
  checkName name
  let s ← get
  match s.names.lookup (String.ofList name) with
  | none => fail (.unknownGroupName name) (name.length + 1)
  | some index =>
    match (s.groups[index - 1]?).join with
    | none => fail .openGroup (name.length + 1)
    | some (least, most) =>
      checkLookbehind index
      return .backref index least most

/-- Drops the low lines that stand between two digits; any other makes the text no number. -/
def joinDigits? : List Char → Option (List Char)
  | [] => some []
  | ['_'] => none
  | '_' :: d :: rest => if d.isDigit then (joinDigits? rest).map (d :: ·) else none
  | c :: rest => if c.isDigit then (joinDigits? rest).map (c :: ·) else none

/-- A whole number as a group may be named by: with white space around it, a sign in front
    and low lines between the digits. -/
def groupNumber? (name : List Char) : Option Nat := do
  let trimmed := ((name.dropWhile Text.isSpace).reverse.dropWhile Text.isSpace).reverse
  let (negative, digits) := Numeral.splitSign trimmed
  let first ← digits.head?
  let digits ← if first.isDigit then joinDigits? digits else none
  let n := digitsIn 10 digits
  if negative && n != 0 then none else some n

/-- The group that a condition asks about, its parenthesis taken. -/
def conditionGroup : Read Nat := do
  let name ← takeUntil ')' "group name"
  let back := name.length + 1
  if Text.isIdentifier name then
    match (← get).names.lookup (String.ofList name) with
    | none => fail (.unknownGroupName name) back
    | some index => return index
  else
    match groupNumber? name with
    | none => fail (.badGroupName name) back
    | some index =>
      if index = 0 then fail .badGroupNumber back
      let s ← get
      if index ≥ 1073741823 then fail (.noSuchGroup index) back
      if (s.conditions.lookup index).isNone then
        set { s with conditions := s.conditions ++ [(index, s.position - back)] }
      return index

/-- Passes over a comment, up to the closing parenthesis. -/
def skipComment (opening : Nat) : Nat → Read Unit
  | 0 => return ()
  | n + 1 => do
    match ← next? with
    | none => failAt .unterminatedComment opening
    | some token =>
      let _ ← take
      if token = .plain ')' then return () else skipComment opening n

/-- Passes over the rest of a line. -/
def skipLine : Nat → Read Unit
  | 0 => return ()
  | n + 1 => do
    match ← take with
    | none => return ()
    | some token => if token = .plain '\n' then return () else skipLine n

/-- What a parenthesis with a question mark behind it begins. -/
inductive GroupHead where
  /-- A group that captures, under a name or none. -/
  | capture (name : Option (List Char))
  /-- A group that does not capture, with its flags. -/
  | plain (on off : FlagSet)
  | atomic
  | look (behind negated : Bool)
  | condition (index : Nat)
  /-- An item that is complete already. -/
  | item (r : Regex)
  /-- A comment. -/
  | comment
  /-- Flags for the whole pattern. -/
  | globalFlags

/-- Reads what follows a parenthesis and a `P`. -/
def namedHead : Read GroupHead := do
  if ← accept '<' then
    let name ← takeUntil '>' "group name"
    checkName name
    return .capture (some name)
  else if ← accept '=' then return .item (← namedReference)
  else
    match ← take with
    | none => fail .unexpectedEnd 0
    | some token => fail (.unknownExtension ('P' :: token.text)) (token.text.length + 2)

/-- Reads what follows a parenthesis and a question mark. -/
def groupHead (opening : Nat) : Read GroupHead := do
  match ← take with
  | none => fail .unexpectedEnd 0
  | some (.plain c) =>
    if c = 'P' then namedHead
    else if c = ':' then return .plain {} {}
    else if c = '#' then
      skipComment opening ((← get).rest.length + 1)
      return .comment
    else if c = '=' then return .look false false
    else if c = '!' then return .look false true
    else if c = '<' then
      match ← take with
      | none => fail .unexpectedEnd 0
      | some token =>
        if token = .plain '=' then return .look true false
        else if token = .plain '!' then return .look true true
        else fail (.unknownExtension ('<' :: token.text)) (token.text.length + 2)
    else if c = '(' then
      let index ← conditionGroup
      checkLookbehind index
      return .condition index
    else if c = '>' then return .atomic
    else if (flagOf? c).isSome || c = '-' then
      match ← groupFlags c with
      | none => return .globalFlags
      | some (on, off) => return .plain on off
    else fail (.unknownExtension [c]) 2
  | some token => fail (.unknownExtension token.text) (token.text.length + 1)

/-- Takes the parenthesis that closes a group. -/
def closing (opening : Nat) : Read Unit := do
  if ← accept ')' then return () else failAt .unterminatedGroup opening

/-! ## Sequences and alternatives -/

/-- Whether a character is passed over in verbose patterns. -/
def isBlank (c : Char) : Bool := c == ' ' || (9 ≤ c.toNat && c.toNat ≤ 13)

mutual

/-- Alternatives; `top` says that they are those of the whole pattern. -/
def alternatives (top verbose : Bool) : Nat → Read Regex
  | 0 => return .empty
  | n + 1 => do
    let first ← sequence verbose top [] n
    let branches ← moreBranches top verbose n
    return .ofBranches (.ofItems first :: branches)

/-- The alternatives behind the first one. -/
def moreBranches (top verbose : Bool) : Nat → Read (List Regex)
  | 0 => return []
  | n + 1 => do
    if ← accept '|' then
      let flags := (← get).flags
      let verbose := if top then flags.verbose else verbose
      let items ← sequence verbose false [] n
      return .ofItems items :: (← moreBranches top verbose n)
    else return []

/-- A sequence of items; those read so far come last first.  Flags for the whole pattern may
    stand only in front of the first item of a sequence that comes first. -/
def sequence (verbose first : Bool) (items : List Regex) : Nat → Read (List Regex)
  | 0 => return items.reverse
  | n + 1 => do
    match ← next? with
    | none => return items.reverse
    | some (.escape c) =>
      let _ ← take
      sequence verbose first ((← itemEscape c) :: items) n
    | some .dangling => return items.reverse
    | some (.plain c) =>
      if c = '|' || c = ')' then return items.reverse
      let opening := (← get).position
      let _ ← take
      if verbose && isBlank c then sequence verbose first items n
      else if verbose && c = '#' then
        skipLine ((← get).rest.length + 1)
        sequence verbose first items n
      else if c = '[' then sequence verbose first ((← characterSet) :: items) n
      else if c = '.' then sequence verbose first (.any :: items) n
      else if c = '^' then sequence verbose first (.anchor .lineStart :: items) n
      else if c = '$' then sequence verbose first (.anchor .lineEnd :: items) n
      else if c = '*' || c = '+' || c = '?' || c = '\x7b' then
        match ← repeatBounds c with
        | none => sequence verbose first (.char c.toNat :: items) n
        | some (least, most) =>
          sequence verbose first (← repeatLast items least most opening) n
      else if c = '(' then
        let head ← if ← accept '?' then groupHead opening else pure (.capture none)
        match head with
        | .comment => sequence verbose first items n
        | .globalFlags =>
          if !first || !items.isEmpty then failAt .lateFlags opening
          sequence (← get).flags.verbose first items n
        | .item r => sequence verbose first (r :: items) n
        | head => sequence verbose first ((← groupBody opening verbose head n) :: items) n
      else sequence verbose first (.char c.toNat :: items) n

/-- The rest of a group, its head taken. -/
def groupBody (opening : Nat) (verbose : Bool) (head : GroupHead) : Nat → Read Regex
  | 0 => return .empty
  | n + 1 => do
    match head with
    | .capture name =>
      let index ← openGroup name
      let body ← alternatives false verbose n
      closing opening
      closeGroup index body
      return .group (some index) {} {} body
    | .plain on off =>
      let body ← alternatives false ((verbose || on.verbose) && !off.verbose) n
      closing opening
      return .group none on off body
    | .atomic =>
      let body ← alternatives false verbose n
      closing opening
      return .atomic body
    | .look behind negated =>
      let outer := (← get).lookbehind
      if behind && outer.isNone then
        modify fun s => { s with lookbehind := some s.groups.length }
      let body ← alternatives false verbose n
      if behind then modify fun s => { s with lookbehind := outer }
      closing opening
      return .look behind negated body
    | .condition index =>
      let yes ← sequence verbose false [] n
      let no ←
        if ← accept '|' then
          let no ← sequence verbose false [] n
          if ← isNext '|' then fail .tooManyBranches 0
          pure no
        else pure []
      closing opening
      return .cond index (.ofItems yes) (.ofItems no)
    | _ => return .empty

end

/-- Reads a pattern to its end. -/
def whole (length : Nat) : Read Regex := do
  let verbose := (← get).flags.verbose
  let r ← alternatives true verbose (4 * length + 4)
  let s ← get
  if s.flags.ascii && s.flags.unicode then throw ⟨.exclusiveModes, none⟩
  if !s.rest.isEmpty then fail .unbalanced 0
  match s.conditions.find? fun c => c.1 > s.groups.length with
  | some (index, position) => failAt (.noSuchGroup index) position
  | none => return r

/-- Reads a pattern under flags; the result comes with all flags of the whole pattern. -/
def parse (pattern : List Char) (flags : FlagSet) : Except PatternError (Regex × FlagSet) := do
  let (r, s) ← (whole pattern.length).run (← start pattern flags)
  return (r, s.flags)

/-! ## Checks on the finished expression -/

/-- The name of a repetition in a fault. -/
def Greed.name : Greed → String
  | .greedy => "MAX_REPEAT"
  | .reluctant => "MIN_REPEAT"
  | .possessive => "POSSESSIVE_REPEAT"

namespace Regex

/-- Checks an expression: what a look behind looks for has a fixed width, and a pattern
    flagged as a template repeats nothing. -/
def check (template : Bool) : Regex → Except PatternError Unit
  | group _ _ _ body | atomic body => body.check template
  | look behind _ body => do
    if behind then
      let (least, most) := body.width
      if least > countLimit then throw ⟨.farLookbehind, none⟩
      if least ≠ most then throw ⟨.variableLookbehind, none⟩
    body.check template
  | cond _ yes no => do
    yes.check template
    no.check template
  | rep greed _ _ body => do
    if template then throw ⟨.templateOperator greed.name, none⟩
    body.check template
  | seq a b | alt a b => do
    a.check template
    b.check template
  | _ => .ok ()

end Regex

/-- A pattern ready to be matched. -/
structure Program where
  regex : Regex
  mode : Mode
deriving DecidableEq, Repr

/-- Reads and checks a pattern under flags. -/
def compile (pattern : String) (flags : FlagSet) : Except PatternError Program := do
  let (regex, flags) ← parse pattern.toList flags
  regex.check flags.template
  return ⟨regex, flags.mode⟩

end Pattern

end Clearance
