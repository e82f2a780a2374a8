/-
  Flags in front of a pattern are flags that it is read under.

  The flags are read first, before any item, so they may set the flags of the whole pattern.
  Behind them the reader is where it is at the start of the pattern under these flags, but for its
  position and its fuel.

  * `tokens_inlineFlags`: the tokens of a pattern with flags in front;
  * `sequence_flags`: how they are read;
  * `whole_flags`: the readers of both patterns come to the same;
  * `compileWith_inlineFlags`: so both patterns are the same program, or have the same fault.
-/
import Mathlib.Data.List.Basic
import Mathlib.Data.Set.List
import Clearance.Pattern.Like
import Clearance.Proofs.Pattern.Descent
import Clearance.Proofs.Pattern.Reading

namespace Clearance.Pattern

/-! ## Sets of flags -/

namespace FlagSet

/-- The set of flags is decided by which flags there are. -/
theorem ofFlags_congr {flags flags' : List PatternFlag} (h : ∀ f, f ∈ flags ↔ f ∈ flags') :
    ofFlags flags = ofFlags flags' := by
  have hc : ∀ f, flags.contains f = flags'.contains f := fun f => by
    rw [Bool.eq_iff_iff, List.contains_iff_mem, List.contains_iff_mem, h]
  rw [ofFlags, ofFlags, hc, hc, hc, hc]

theorem ofFlags_append (flags flags' : List PatternFlag) :
    ofFlags (flags ++ flags') = (ofFlags flags).union (ofFlags flags') := by
  simp [ofFlags, union]

theorem ofFlags_nil_union (s : FlagSet) : union {} s = s := by
  simp [union]

end FlagSet

/-- The flag of a letter. -/
theorem flagOf?_letter (f : PatternFlag) : flagOf? f.letter = some (.ofFlags [f]) := by
  cases f <;> rfl

/-! ## Tokens -/

/-- The tokens of letters. -/
def letterTokens (flags : List PatternFlag) : List Token := flags.map fun f => .plain f.letter

theorem letterTokens_cons (f : PatternFlag) (flags : List PatternFlag) :
    letterTokens (f :: flags) = .plain f.letter :: letterTokens flags := rfl

theorem tokens_letters (flags : List PatternFlag) (rest : List Char) :
    tokens (flags.map PatternFlag.letter ++ rest) = letterTokens flags ++ tokens rest := by
  induction flags with
  | nil => rfl
  | cons f flags ih =>
    have hne : f.letter ≠ '\\' := by cases f <;> decide
    rw [List.map_cons, List.cons_append, tokens_cons hne, ih]
    rfl

theorem letter_injective : Function.Injective PatternFlag.letter := by
  intro f g h
  cases f <;> cases g <;> first | rfl | cases h

/-- The letters that are put in front of a pattern: those of its flags, in another order and
    without repetitions. -/
theorem exists_letters {flags : List PatternFlag} (h : flags ≠ []) :
    ∃ f rest, (∀ g, g ∈ f :: rest ↔ g ∈ flags) ∧
      ((flags.map PatternFlag.letter).mergeSort fun a b => a ≤ b).eraseReps =
        (f :: rest).map PatternFlag.letter := by
  have hmem : ∀ c, c ∈ ((flags.map PatternFlag.letter).mergeSort fun a b => a ≤ b).eraseReps ↔
      c ∈ flags.map PatternFlag.letter := fun c => mem_eraseReps.trans List.mem_mergeSort
  generalize ((flags.map PatternFlag.letter).mergeSort fun a b => a ≤ b).eraseReps = sorted
    at hmem ⊢
  have hrange : sorted ∈ Set.range (List.map PatternFlag.letter) := by
    rw [Set.range_list_map]
    intro c hc
    obtain ⟨f, -, hf⟩ := List.mem_map.1 ((hmem c).1 hc)
    exact ⟨f, hf⟩
  obtain ⟨letters, rfl⟩ := hrange
  have hflags : ∀ g, g ∈ letters ↔ g ∈ flags := fun g => by
    rw [← List.mem_map_of_injective letter_injective, hmem,
      List.mem_map_of_injective letter_injective]
  cases letters with
  | nil => exact absurd (List.eq_nil_iff_forall_not_mem.2 fun g hg => nomatch (hflags g).2 hg) h
  | cons f rest => exact ⟨f, rest, hflags, rfl⟩

theorem tokens_inlineFlags {flags : List PatternFlag} (h : flags ≠ []) (pattern : String) :
    ∃ f rest, (∀ g, g ∈ f :: rest ↔ g ∈ flags) ∧
      tokens (inlineFlags pattern flags).toList =
        .plain '(' :: .plain '?' :: letterTokens (f :: rest) ++
          .plain ')' :: tokens pattern.toList := by
  obtain ⟨f, rest, hmem, hletters⟩ := exists_letters h
  refine ⟨f, rest, hmem, ?_⟩
  have htext : (inlineFlags pattern flags).toList =
      '(' :: '?' :: ((f :: rest).map PatternFlag.letter ++ ')' :: pattern.toList) := by
    rw [inlineFlags, inlineFlagText, if_neg (by simpa using h), hletters]
    simp
  rw [htext, tokens_cons (by decide), tokens_cons (by decide), tokens_letters,
    tokens_cons (by decide)]
  rfl

/-! ## Reading the flags -/

section

variable (s : ReadState) (rest : List Token)

/-- No letter is a backslash without a character. -/
theorem head?_letterTokens (flags : List PatternFlag) :
    (letterTokens flags ++ .plain ')' :: rest).head? ≠ some .dangling := by
  cases flags <;> simp [letterTokens]

/-- The flag of the letter at hand is turned on, and the character ahead is looked at. -/
theorem run_flagsOn (f : PatternFlag) (taken : List PatternFlag) (c : Char) (fuel position : Nat) :
    (flagsOn (.ofFlags taken) f.letter (fuel + 1)).run (s.ahead (.plain c :: rest) position) =
      if rest.head? = some .dangling then .error ⟨.danglingEscape, some (position + 1)⟩
      else (if c = ')' || c = '-' || c = ':' then pure (.ofFlags (taken ++ [f]), c)
        else if (flagOf? c).isSome then flagsOn (.ofFlags (taken ++ [f])) c fuel
        else fail (flagFault (.plain c) .missingFlagsEnd) 1 : Read (FlagSet × Char)).run
          (s.ahead rest (position + 1)) := by
  have hne : f.letter ≠ 'L' := by cases f <;> decide
  have hexclusive : ((FlagSet.ofFlags [f]).ascii || (FlagSet.ofFlags [f]).unicode) = false := rfl
  rw [flagsOn, if_neg hne, flagOf?_letter]
  dsimp only [Option.getD_some]
  rw [← FlagSet.ofFlags_append, hexclusive, Bool.false_and, Bool.false_and,
    if_neg Bool.false_ne_true]
  exact run_take_eq _ _ _

/-- Letters up to a closing parenthesis turn their flags on. -/
theorem flagsOn_letters (flags : List PatternFlag) : ∀ f taken fuel position,
    flags.length < fuel → ∃ position',
    (flagsOn (.ofFlags taken) f.letter fuel).run
        (s.ahead (letterTokens flags ++ .plain ')' :: rest) position) =
      if rest.head? = some .dangling then .error ⟨.danglingEscape, some position'⟩
      else .ok ((.ofFlags (taken ++ f :: flags), ')'), s.ahead rest position') := by
  induction flags with
  | nil =>
    rintro f taken (_ | fuel) position hfuel
    · cases hfuel
    · exact ⟨position + 1, run_flagsOn _ _ f taken ')' fuel position⟩
  | cons g flags ih =>
    rintro f taken (_ | fuel) position hfuel
    · cases hfuel
    obtain ⟨position', hrest⟩ := ih g (taken ++ [f]) fuel (position + 1)
      (Nat.lt_of_succ_lt_succ hfuel)
    refine ⟨position', ?_⟩
    have hmark : (g.letter = ')' || g.letter = '-' || g.letter = ':') = false := by cases g <;> rfl
    rw [letterTokens_cons, List.cons_append, run_flagsOn, if_neg (head?_letterTokens _ flags),
      hmark, if_neg Bool.false_ne_true, flagOf?_letter, Option.isSome_some, if_pos rfl, hrest,
      List.append_assoc]
    rfl

/-- Flags in a parenthesis of their own are added to those of the whole pattern. -/
theorem groupFlags_letters (f : PatternFlag) (flags : List PatternFlag) (position : Nat) :
    ∃ position', (groupFlags f.letter).run
        (s.ahead (letterTokens flags ++ .plain ')' :: rest) position) =
      if rest.head? = some .dangling then .error ⟨.danglingEscape, some position'⟩
      else .ok (none,
        { s with flags := s.flags.union (.ofFlags (f :: flags)) }.ahead rest position') := by
  have hfuel : flags.length < (letterTokens flags ++ .plain ')' :: rest).length + 1 := by
    rw [List.length_append, letterTokens, List.length_map]
    omega
  obtain ⟨position', hon⟩ := flagsOn_letters s rest flags f [] _ position hfuel
  refine ⟨position', ?_⟩
  have hne : f.letter ≠ '-' := by cases f <;> decide
  rw [groupFlags, run_get]
  extract_lets fuel jp
  rw [if_neg hne]
  refine (congrArg (· >>= fun r => (jp r.1).run r.2) hon).trans ?_
  split
  · rfl
  · rfl

/-- A parenthesis with flags and nothing else is about the whole pattern. -/
theorem groupHead_letters (f : PatternFlag) (flags : List PatternFlag) (opening position : Nat) :
    ∃ position', (groupHead opening).run
        (s.ahead (letterTokens (f :: flags) ++ .plain ')' :: rest) position) =
      if rest.head? = some .dangling then .error ⟨.danglingEscape, some position'⟩
      else .ok (.globalFlags,
        { s with flags := s.flags.union (.ofFlags (f :: flags)) }.ahead rest position') := by
  obtain ⟨position', hflags⟩ := groupFlags_letters s rest f flags (position + 1)
  refine ⟨position', ?_⟩
  -- of the rest of the step only what it makes of flags for the whole pattern matters
  obtain ⟨next, hnext, hgroup⟩ : ∃ next : Option (FlagSet × FlagSet) → Read GroupHead,
      next none = pure .globalFlags ∧ (groupHead opening).run
        (s.ahead (letterTokens (f :: flags) ++ .plain ')' :: rest) position) =
          (groupFlags f.letter >>= next).run
            (s.ahead (letterTokens flags ++ .plain ')' :: rest) (position + 1)) := by
    rw [groupHead, letterTokens_cons, List.cons_append, run_take _ _ (head?_letterTokens _ flags)]
    cases f <;>
    · refine ⟨_, ?_, rfl⟩
      rfl
  rw [hgroup, StateT.run_bind, hflags]
  split
  · rfl
  · exact congrArg (StateT.run · _) hnext

/-- Flags in front of all items are those of the whole pattern, and decide how to read on. -/
theorem sequence_flags [CharacterNames] (f : PatternFlag) (flags : List PatternFlag)
    (n position : Nat) :
    ∃ position', (sequence false true [] (n + 1)).run
        (s.ahead (.plain '(' :: .plain '?' :: letterTokens (f :: flags) ++ .plain ')' :: rest)
          position) =
      if rest.head? = some .dangling then .error ⟨.danglingEscape, some position'⟩
      else (sequence (s.flags.union (.ofFlags (f :: flags))).verbose true [] n).run
        ({ s with flags := s.flags.union (.ofFlags (f :: flags)) }.ahead rest position') := by
  obtain ⟨position', hgroup⟩ := groupHead_letters s rest f flags position (position + 2)
  refine ⟨position', ?_⟩
  rw [sequence, run_next?]
  show (get >>= fun _ => take >>= _).run _ = _
  rw [run_get, List.cons_append, List.cons_append, run_take _ _ (by simp)]
  show (accept '?' >>= _).run _ = _
  rw [run_accept_self _ (head?_letterTokens _ (f :: flags))]
  show (groupHead position >>= _).run _ = _
  rw [StateT.run_bind]
  refine (congrArg (· >>= _) hgroup).trans ?_
  split
  · rfl
  · rfl

end

/-! ## Whole patterns -/

open Read

/-- Behind the first alternative of a whole pattern its flags decide how to read on. -/
theorem moreBranches_top [CharacterNames] (verbose verbose' : Bool) (n : Nat) :
    moreBranches true verbose n = moreBranches true verbose' n := by
  cases n with
  | zero => rw [moreBranches, moreBranches]
  | succ n =>
    rw [moreBranches, moreBranches]
    rfl

/-- What is done behind the first alternative of a whole pattern. -/
def afterFirst [CharacterNames] (verbose : Bool) (fuel : Nat) (first : List Regex) :
    Read Regex := do
  let rest ← moreBranches true verbose fuel
  let s ← get
  if s.flags.ascii && s.flags.unicode then throw ⟨.exclusiveModes, none⟩
  if !s.rest.isEmpty then fail .unbalanced 0
  match s.conditions.find? fun c => c.1 > s.groups.length with
  | some (index, position) => failAt (.noSuchGroup index) position
  | none => return .ofBranches (.ofItems first :: rest)

theorem run_whole [CharacterNames] (length : Nat) (s : ReadState) : (whole length).run s =
    (sequence s.flags.verbose true [] (4 * length + 3)).run s >>= fun p =>
      (afterFirst s.flags.verbose (4 * length + 3) p.1).run p.2 := by
  rw [whole, run_get]
  show (alternatives true s.flags.verbose (4 * length + 3 + 1) >>= _).run s = _
  rw [alternatives]
  simp only [bind_assoc, pure_bind]
  rfl

theorem afterFirst_alike [CharacterNames] (verbose verbose' : Bool) (first : List Regex)
    (fuel fuel' n : Nat) (h : 4 * n + 1 ≤ fuel) (h' : 4 * n + 1 ≤ fuel') :
    Alike n n (afterFirst verbose fuel first) (afterFirst verbose' fuel' first) := by
  rw [afterFirst, afterFirst, moreBranches_top verbose' verbose]
  refine (moreBranches_alike true verbose fuel fuel' n h h').bind fun branches => ?_
  refine .get fun s s' h _ => ?_
  have hfound : (s.conditions.find? fun c => c.1 > s.groups.length).map Prod.fst =
      (s'.conditions.find? fun c => c.1 > s'.groups.length).map Prod.fst := by
    have hkeys : ∀ s : ReadState, (s.conditions.find? fun c => c.1 > s.groups.length).map Prod.fst =
        (s.conditions.map Prod.fst).find? fun index => index > s.groups.length := fun s => by
      rw [List.find?_map]
      rfl
    rw [hkeys, hkeys, h.conditions, h.groups]
  rw [h.flags, h.rest]
  extract_lets last rest last' rest'
  have hlast : ∀ u, Alike n n (last u) (last' u) := fun _ => by
    dsimp only [last, last']
    generalize s.conditions.find? _ = found at hfound
    generalize s'.conditions.find? _ = found' at hfound
    cases found with
    | none =>
      rw [Option.map_none, eq_comm, Option.map_eq_none_iff] at hfound
      rw [hfound]
      exact .pure _ (Nat.le_refl n)
    | some c =>
      rw [Option.map_some, eq_comm, Option.map_eq_some_iff] at hfound
      obtain ⟨c', rfl, hc⟩ := hfound
      dsimp only
      rw [hc]
      exact .failAt _ _ _
  have hrest : ∀ u, Alike n n (rest u) (rest' u) := fun _ =>
    .ite (.fail_bind _ _ _) (hlast ())
  refine .ite ?_ (hrest ())
  exact .bind (.throw rfl) hrest

theorem start_eq (cs : List Char) (flags : FlagSet) : start cs flags =
    if (tokens cs).head? = some .dangling then .error ⟨.danglingEscape, some 0⟩
    else .ok ((ReadState.under flags).ahead (tokens cs) 0) := rfl

/-- **A whole pattern with flags in front** is read as the pattern under these flags. -/
theorem whole_flags [CharacterNames] (f : PatternFlag) (flags : List PatternFlag)
    {rest : List Token} {length length' : Nat} (h : rest.length ≤ length)
    (h' : rest.length ≤ length') :
    let inlined := (whole length).run ((ReadState.under {}).ahead
      (.plain '(' :: .plain '?' :: letterTokens (f :: flags) ++ .plain ')' :: rest) 0)
    if rest.head? = some .dangling then ∃ position, inlined = .error ⟨.danglingEscape, position⟩
    else Ends rest.length inlined
      ((whole length').run ((ReadState.under (.ofFlags (f :: flags))).ahead rest 0)) := by
  obtain ⟨position, hflags⟩ := sequence_flags (.under {}) rest f flags (4 * length + 2) 0
  have hunion : (ReadState.under {}).flags.union (.ofFlags (f :: flags)) = .ofFlags (f :: flags) :=
    FlagSet.ofFlags_nil_union _
  rw [hunion] at hflags
  intro inlined
  have hinlined : inlined = _ := run_whole length _
  have hverbose : ∀ ts, ((ReadState.under {}).ahead ts 0).flags.verbose = false := fun _ => rfl
  rw [hverbose, hflags] at hinlined
  rw [hinlined]
  split
  · exact ⟨position, rfl⟩
  · have halike := (sequence_alike (FlagSet.ofFlags (f :: flags)).verbose true []
      (4 * length + 2) (4 * length' + 3) rest.length (by omega) (by omega)).bind fun first =>
        afterFirst_alike false (FlagSet.ofFlags (f :: flags)).verbose first
          (4 * length + 3) (4 * length' + 3) rest.length (by omega) (by omega)
    rw [run_whole]
    exact halike rest (Nat.le_refl _) _ _ ⟨rfl, rfl, rfl, rfl, rfl, rfl⟩ rfl

/-! ## Programs -/

/-- What is made of a pattern that has been read. -/
def toProgram (read : Except PatternError (Regex × ReadState)) : Except PatternError Program := do
  let (regex, s) ← read
  regex.check s.flags.template
  return ⟨regex, s.flags.mode⟩

theorem compile_eq [CharacterNames] (pattern : String) (flags : FlagSet) : compile pattern flags =
    if (tokens pattern.toList).head? = some .dangling then .error ⟨.danglingEscape, some 0⟩
    else toProgram ((whole pattern.toList.length).run
      ((ReadState.under flags).ahead (tokens pattern.toList) 0)) := by
  rw [compile, parse, start_eq]
  split
  · rfl
  · simp only [toProgram, bind_assoc, pure_bind]
    rfl

/-- Two readers that come to the same give the same program, or have the same fault. -/
theorem Read.Ends.toProgram {m : Nat} {read read' : Except PatternError (Regex × ReadState)}
    (h : Ends m read read') : (toProgram read).mapError PatternError.fault =
      (Pattern.toProgram read').mapError PatternError.fault := by
  cases h with
  | @ok r s s' hs _ =>
    have hmake : ∀ s : ReadState, Pattern.toProgram (.ok (r, s)) =
        do r.check s.flags.template; return ⟨r, s.flags.mode⟩ := fun _ => rfl
    rw [hmake, hmake, hs.flags]
  | error he => exact congrArg Except.error he

/-- **A pattern with its flags in front**, read under none, is the program that the pattern is under
    these flags, or has the same fault. -/
theorem compileWith_inlineFlags [CharacterNames] (pattern : String) (flags : List PatternFlag) :
    (compileWith (inlineFlags pattern flags) []).mapError PatternError.fault =
      (compileWith pattern flags).mapError PatternError.fault := by
  by_cases hnil : flags = []
  · rw [hnil]
    rfl
  obtain ⟨f, rest, hmem, htokens⟩ := tokens_inlineFlags hnil pattern
  have hlength : (tokens pattern.toList).length ≤ (inlineFlags pattern flags).toList.length := by
    have hle := length_tokens_le (inlineFlags pattern flags).toList
    rw [htokens] at hle
    simp only [List.length_append, List.length_cons] at hle
    omega
  have hwhole := whole_flags f rest hlength (length_tokens_le pattern.toList)
  have hnone : FlagSet.ofFlags [] = {} := rfl
  rw [compileWith, compileWith, compile_eq, compile_eq, htokens, ← FlagSet.ofFlags_congr hmem,
    hnone, if_neg (by simp)]
  dsimp only at hwhole
  split at hwhole
  · rename_i h
    obtain ⟨position, herror⟩ := hwhole
    rw [if_pos h, herror]
    rfl
  · rename_i h
    rw [if_neg h]
    exact hwhole.toProgram

theorem mapError_eq_ok {ε ε' α : Type} {f : ε → ε'} {x : Except ε α} {a : α} :
    x.mapError f = .ok a ↔ x = .ok a := by
  cases x <;> simp [Except.mapError]

/-- So the one can be read if the other can, and gives the same program. -/
theorem compileWith_inlineFlags_eq_ok [CharacterNames] {pattern : String} {flags : List PatternFlag}
    {program : Program} : compileWith (inlineFlags pattern flags) [] = .ok program ↔
      compileWith pattern flags = .ok program := by
  rw [← mapError_eq_ok (f := PatternError.fault), compileWith_inlineFlags, mapError_eq_ok]

end Clearance.Pattern
