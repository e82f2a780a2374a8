/-
  Matching a regular expression against a text.

  The matcher tries the alternatives of an expression in order and hands each place that it
  reaches to a continuation; the first continuation that succeeds decides.  A place is a
  cursor between the characters before it, the nearest first, and those after it, together
  with what the groups have captured on the way.

  A repetition takes its least count of rounds first.  Beyond it a further round is tried
  only if the round before has moved the cursor, so there are at most as many more rounds
  as there are characters left, and one besides.

  A search starts at every place in turn.  Where every match has to begin with a character of
  a known set, it passes over the places in front of other characters.

  * `Regex.run` matches at a place, `Regex.matchesAt` says whether it can;
  * `Regex.leadingSet?` is the set that a search looks for first, if there is one;
  * `Program.search` says whether a pattern matches anywhere in a text.
-/
import Clearance.Pattern.Parse
import Clearance.Text.LetterCase

namespace Clearance.Pattern

/-! ## Characters -/

/-- Whether a character has a class. -/
def CharClass.holds (m : Mode) (c : Char) : CharClass → Bool
  | .digit => if m.ascii then Text.isAsciiDigit c else Text.isDigit c
  | .space => if m.ascii then Text.isAsciiSpace c else Text.isSpace c
  | .word => if m.ascii then Text.isAsciiWord c else Text.isWord c

/-- A code point in lower case, as far as the mode knows letters. -/
def Mode.lower (m : Mode) (code : Nat) : Nat :=
  if m.ascii then Text.asciiLower code else Text.lower code

/-- The lower case letters that are not told apart from one where case is ignored. -/
def Mode.folded (m : Mode) (code : Nat) : List Nat :=
  if m.ascii then [code] else code :: Text.alternates code

/-- The code points whose lower case is the given one. -/
def Mode.unlowered (m : Mode) (code : Nat) : List Nat :=
  if m.ascii then
    if 97 ≤ code && code ≤ 122 then [code, code - 32] else [code]
  else code :: Text.capitals code

/-- Whether a code point is a letter that comes in two cases. -/
def Mode.isCased (m : Mode) (code : Nat) : Bool :=
  m.lower code != code || m.folded code != [code] || m.unlowered code != [code]

/-- Whether a character is the one of a pattern. -/
def Mode.sameChar (m : Mode) (code : Nat) (c : Char) : Bool :=
  if m.ignoreCase then (m.folded (m.lower code)).contains (m.lower c.toNat)
  else c.toNat == code

/-- Whether a character lies in a range. -/
def Mode.inRange (m : Mode) (first last : Nat) (c : Char) : Bool :=
  if m.ignoreCase then
    ((m.folded (m.lower c.toNat)).flatMap m.unlowered).any fun n => first ≤ n && n ≤ last
  else first ≤ c.toNat && c.toNat ≤ last

/-- Whether a character is a member of a set. -/
def SetItem.holds (m : Mode) (c : Char) : SetItem → Bool
  | .char code => m.sameChar code c
  | .range first last => m.inRange first last c
  | .cls k negated => k.holds m c != negated

/-- Whether a member of a set is a class of characters. -/
def SetItem.isClass : SetItem → Bool
  | .cls _ _ => true
  | _ => false

/-- Whether a member of a set has a letter that comes in two cases. -/
def SetItem.isCased (m : Mode) : SetItem → Bool
  | .char code => m.isCased code
  | .range first last =>
    0xffff < last || (List.range (last + 1 - first)).any fun n => m.isCased (first + n)
  | .cls _ _ => false

/-- Whether the members of a set name a class and, if case is ignored, no letter that comes
    in two cases. -/
def Mode.mayLead (m : Mode) (items : List SetItem) : Bool :=
  items.any SetItem.isClass && !(m.ignoreCase && items.any (SetItem.isCased m))

/-! ## Places -/

/-- What a group has captured: where its latest match began, and where the latest complete
    one ended, with its text. -/
structure Capture where
  begun : Nat
  ended : Option (Nat × List Char)

/-- A place in a text. -/
structure Place where
  /-- The characters before the place, the nearest first. -/
  before : List Char
  /-- The characters after the place. -/
  after : List Char
  /-- What the groups have captured, the latest first. -/
  captures : List (Nat × Capture)

namespace Place

/-- How many characters are before the place. -/
def position (p : Place) : Nat := p.before.length

/-- The place behind the next character, with that character. -/
def step? (p : Place) : Option (Char × Place) :=
  match p.after with
  | [] => none
  | c :: rest => some (c, { p with before := c :: p.before, after := rest })

/-- The place a number of characters back. -/
def back? (p : Place) : Nat → Option Place
  | 0 => some p
  | n + 1 =>
    match p.before with
    | [] => none
    | c :: rest => back? { p with before := rest, after := c :: p.after } n

/-- Whether the place is between a word character and another one or an end.  An empty text
    has no such place. -/
def atBoundary (p : Place) (m : Mode) : Bool :=
  let isWord (c : Option Char) : Bool := (c.map fun c => CharClass.word.holds m c).getD false
  isWord p.before.head? != isWord p.after.head?

/-- Whether the text is empty. -/
def inEmptyText (p : Place) : Bool := p.before.isEmpty && p.after.isEmpty

/-- Whether an anchor holds at the place. -/
def holds (p : Place) (m : Mode) : Anchor → Bool
  | .lineStart => p.before.isEmpty || (m.multiline && p.before.head? == some '\n')
  | .lineEnd =>
    p.after.isEmpty || p.after == ['\n'] || (m.multiline && p.after.head? == some '\n')
  | .textStart => p.before.isEmpty
  | .textEnd => p.after.isEmpty
  | .boundary => !p.inEmptyText && p.atBoundary m
  | .nonBoundary => !p.inEmptyText && !p.atBoundary m

/-- The place with a group begun. -/
def beginGroup (p : Place) (index : Nat) : Place :=
  let ended := (p.captures.lookup index).bind Capture.ended
  { p with captures := (index, ⟨p.position, ended⟩) :: p.captures }

/-- The place with a group ended. -/
def endGroup (p : Place) (index : Nat) : Place :=
  match p.captures.lookup index with
  | none => p
  | some c =>
    let text := (p.before.take (p.position - c.begun)).reverse
    { p with captures := (index, ⟨c.begun, some (p.position, text)⟩) :: p.captures }

/-- The text that a group has captured. -/
def captured? (p : Place) (index : Nat) : Option (List Char) := do
  let c ← p.captures.lookup index
  let (stop, text) ← c.ended
  if c.begun ≤ stop then some text else none

/-- The place behind a given text, if the text comes next. -/
def passText? (p : Place) (m : Mode) : List Char → Option Place
  | [] => some p
  | c :: rest =>
    match p.step? with
    | none => none
    | some (d, q) =>
      let same := if m.ignoreCase then m.lower c.toNat == m.lower d.toNat else c == d
      if same then passText? q m rest else none

end Place

/-! ## Expressions -/

/-- What is to be matched behind a place. -/
abbrev Rest := Place → Option Place

/-- Takes one character that passes a test. -/
def oneChar (test : Char → Bool) (k : Rest) (p : Place) : Option Place :=
  match p.step? with
  | none => none
  | some (c, q) => if test c then k q else none

/-- Whether one more round of a repetition may be tried at a place: the count allows it,
    and the round before, if it was one beyond the least count, has moved the cursor. -/
def mayRepeat (most : Option Nat) (count : Nat) (last : Option Nat) (p : Place) : Bool :=
  (most.map fun n => decide (count < n)).getD true && last != some p.position

/-- Rounds of a repetition that prefers more of them; `round` is one round. -/
def greedyRounds (round : Rest → Rest) (least : Nat) (most : Option Nat) (k : Rest) :
    Nat → Nat → Option Nat → Rest
  | 0, _, _, p => k p
  | fuel + 1, count, last, p =>
    if count < least then round (greedyRounds round least most k fuel (count + 1) last) p
    else if mayRepeat most count last p then
      match round (greedyRounds round least most k fuel (count + 1) (some p.position)) p with
      | some q => some q
      | none => k p
    else k p

/-- Rounds of a repetition that prefers fewer of them. -/
def reluctantRounds (round : Rest → Rest) (least : Nat) (most : Option Nat) (k : Rest) :
    Nat → Nat → Option Nat → Rest
  | 0, _, _, p => k p
  | fuel + 1, count, last, p =>
    if count < least then round (reluctantRounds round least most k fuel (count + 1) last) p
    else
      match k p with
      | some q => some q
      | none =>
        if mayRepeat most count last p then
          round (reluctantRounds round least most k fuel (count + 1) (some p.position)) p
        else none

/-- Rounds of a repetition that gives nothing back. -/
def possessiveRounds (round : Rest → Rest) (least : Nat) (most : Option Nat) :
    Nat → Nat → Option Nat → Rest
  | 0, _, _, p => some p
  | fuel + 1, count, last, p =>
    if count < least then
      match round some p with
      | some q => possessiveRounds round least most fuel (count + 1) last q
      | none => none
    else if mayRepeat most count last p then
      match round some p with
      | some q => possessiveRounds round least most fuel (count + 1) (some p.position) q
      | none => some p
    else some p

namespace Regex

/-- Matches an expression at a place, and then the rest. -/
def run (m : Mode) : Regex → Rest → Rest
  | empty, k, p => k p
  | char code, k, p => oneChar (m.sameChar code) k p
  | notChar code, k, p => oneChar (fun c => !m.sameChar code c) k p
  | any, k, p => oneChar (fun c => m.dotAll || c != '\n') k p
  | set negated items, k, p => oneChar (fun c => items.any (SetItem.holds m c) != negated) k p
  | anchor a, k, p => if p.holds m a then k p else none
  | group index on off body, k, p =>
    let inner := m.adjust on off
    match index with
    | none => body.run inner k p
    | some i => body.run inner (fun q => k (q.endGroup i)) (p.beginGroup i)
  | atomic body, k, p =>
    match body.run m some p with
    | some q => k q
    | none => none
  | look behind negated body, k, p =>
    let found :=
      match if behind then p.back? body.width.1 else some p with
      | none => none
      | some q => body.run m some q
    match found, negated with
    | some q, false => k { p with captures := q.captures }
    | none, true => k p
    | _, _ => none
  | backref index _ _, k, p =>
    match (p.captured? index).bind (p.passText? m) with
    | some q => k q
    | none => none
  | cond index yes no, k, p =>
    if (p.captured? index).isSome then yes.run m k p else no.run m k p
  | rep greed least most body, k, p =>
    let fuel := least + p.after.length + 2
    match greed with
    | .greedy => greedyRounds (fun k => body.run m k) least most k fuel 0 none p
    | .reluctant => reluctantRounds (fun k => body.run m k) least most k fuel 0 none p
    | .possessive =>
      match possessiveRounds (fun k => body.run m k) least most fuel 0 none p with
      | some q => k q
      | none => none
  | seq a b, k, p => a.run m (fun q => b.run m k q) p
  | alt a b, k, p =>
    match a.run m k p with
    | some q => some q
    | none => b.run m k p

/-- Whether an expression matches at a place. -/
def matchesAt (m : Mode) (r : Regex) (before after : List Char) : Bool :=
  (r.run m some ⟨before, after, []⟩).isSome

/-- The characters of a choice among single characters. -/
def choice? : Regex → Option (List SetItem)
  | char code => some [.char code]
  | set false items => some items
  | alt a b => return (← a.choice?) ++ (← b.choice?)
  | _ => none

/-- The set that a sequence opens with. -/
def opening? : Regex → Option (Bool × List SetItem)
  | set negated items => some (negated, items)
  | seq a _ => a.opening?
  | alt a b => if a.opening? = b.opening? then a.opening? else none
  | _ => none

/-- The set of characters that every match begins with, where the expression shows one that
    names a class and is blind to letter case. -/
def leadingSet? (m : Mode) : Regex → Option (Bool × List SetItem)
  | set negated items => if m.mayLead items then some (negated, items) else none
  | group _ on off body => body.leadingSet? (m.adjust on off)
  | seq a _ => a.leadingSet? m
  | alt a b =>
    match (alt a b).choice?.map (Prod.mk false) <|> (alt a b).opening? with
    | some (negated, items) => if m.mayLead items then some (negated, items) else none
    | none => none
  | _ => none

/-- Whether a search looks at the places in front of a character.  It passes over those
    outside the leading set, and reads that set in the mode of the whole pattern, whatever
    the groups around the set say. -/
def mayBegin (m : Mode) (lead : Option (Bool × List SetItem)) (c : Char) : Bool :=
  match lead with
  | some (negated, items) =>
    items.any (SetItem.holds { m with ignoreCase := false } c) != negated
  | none => true

/-- Whether an expression matches at a place or at one behind it, where the test says which
    places are looked at. -/
def searchFrom (m : Mode) (r : Regex) (begins : Char → Bool) (before : List Char) :
    List Char → Bool
  | [] => r.matchesAt m before []
  | c :: rest =>
    (begins c && r.matchesAt m before (c :: rest)) ||
      searchFrom m r begins (c :: before) rest

end Regex

/-- Whether a pattern matches somewhere in a text. -/
def Program.search (p : Program) (text : String) : Bool :=
  p.regex.searchFrom p.mode (Regex.mayBegin p.mode (p.regex.leadingSet? p.mode)) [] text.toList

end Clearance.Pattern
