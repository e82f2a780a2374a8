/-
  Reading the patterns that have a `LIKE` form.

  The reader is followed token by token; the tokens behind those of a part matter only in that they
  must not be read as the mark of a repetition (`Settled`).

  * `Part.tokens_written`, `Form.tokens_written`: the tokens of a written part and of a pattern;
  * `itemEscape_of_not_alphanumeric`: a backslash takes no meaning from such a character but its
    own;
  * `sequence_part`, `sequence_parts`: parts are read as their expressions;
  * `Form.parse_eq`: the whole pattern is read as the sequence of its items, and sets no flag.
-/
import Clearance.Pattern.Search
import Clearance.Proofs.Pattern.Moves
import Clearance.Proofs.Pattern.Parts

namespace Clearance.Pattern

/-! ## Tokens -/

namespace Part

/-- The tokens of a part. -/
def tokens : Part → List Token
  | plain c _ => [.plain c]
  | escaped c _ => [.escape c]
  | dot => [.plain '.']
  | dotStar => [.plain '.', .plain '*']
  | dotPlus => [.plain '.', .plain '+']

/-- The expression of a part. -/
def regex : Part → Regex
  | plain c _ | escaped c _ => .char c.toNat
  | dot => .any
  | dotStar => .rep .greedy 0 none .any
  | dotPlus => .rep .greedy 1 none .any

end Part

theorem Part.tokens_written (part : Part) (rest : List Char) :
    Pattern.tokens (part.written ++ rest) = part.tokens ++ Pattern.tokens rest := by
  cases part with
  | plain c h => exact tokens_cons h.1 rest
  | escaped c => rw [written, List.cons_append, List.singleton_append, Pattern.tokens]; rfl
  | dot => exact tokens_cons (by decide) rest
  | dotStar | dotPlus =>
    rw [written, List.cons_append, tokens_cons (by decide), List.singleton_append,
      tokens_cons (by decide)]
    rfl

/-! ## Escapes -/

/-- The letters and digits of ASCII are among all letters and digits. -/
theorem codes_of_not_alphanumeric {c : Char} (h : Text.isAlphanumeric c = false) :
    ¬ (48 ≤ c.toNat ∧ c.toNat ≤ 57) ∧ ¬ (65 ≤ c.toNat ∧ c.toNat ≤ 90) ∧
      ¬ (97 ≤ c.toNat ∧ c.toNat ≤ 122) := by
  rw [Text.isAlphanumeric, Text.alphanumericRanges, Text.inRanges_cons_eq_false,
    Text.inRanges_cons_eq_false, Text.inRanges_cons_eq_false] at h
  rcases h with h | ⟨h, h' | ⟨h', h'' | ⟨h'', -⟩⟩⟩ <;> omega

theorem isAlpha_of_not_alphanumeric {c : Char} (h : Text.isAlphanumeric c = false) :
    c.isAlpha = false ∧ c.isDigit = false := by
  obtain ⟨hd, hu, hl⟩ := codes_of_not_alphanumeric h
  have hupper : c.isUpper = false := decide_eq_false hu
  have hlower : c.isLower = false := (Bool.decide_and _ _).symm.trans (decide_eq_false hl)
  have hdigit : c.isDigit = false := (Bool.decide_and _ _).symm.trans (decide_eq_false hd)
  exact ⟨Bool.or_eq_false_iff.2 ⟨hupper, hlower⟩, hdigit⟩

/-- Behind a backslash, what is no letter or digit stands for itself. -/
theorem itemEscape_of_not_alphanumeric [CharacterNames] {c : Char}
    (h : Text.isAlphanumeric c = false) :
    itemEscape c = return .char c.toNat := by
  obtain ⟨ha, hd⟩ := isAlpha_of_not_alphanumeric h
  have hanchor : anchorEscape? c = none := by
    unfold anchorEscape?
    split <;> first | rfl | cases ha
  have hclass : classEscape? c = none := by
    unfold classEscape?
    split <;> first | rfl | cases ha
  have hne : ∀ d : Char, d.isAlpha = true ∨ d.isDigit = true → c ≠ d := by
    rintro d (hl | hl) rfl
    · rw [ha] at hl; cases hl
    · rw [hd] at hl; cases hl
  have hcontrol : controlEscape? c = none ∨ controlEscape? c = some c.toNat := by
    unfold controlEscape?
    split <;> first | exact .inl rfl | exact .inr rfl | cases ha
  unfold itemEscape
  rw [hanchor, hclass]
  rcases hcontrol with hcontrol | hcontrol
  · rw [hcontrol]
    dsimp only
    rw [if_neg (hne 'x' (by decide)), if_neg (hne 'u' (by decide)), if_neg (hne 'U' (by decide)),
      if_neg (hne 'N' (by decide)), if_neg (hne '0' (by decide)), hd, otherEscape, ha]
    rfl
  · rw [hcontrol]

/-! ## Items -/

section

variable {s : ReadState} {rest : List Token} {first : Bool} {items : List Regex} {n position : Nat}

theorem ne_of_not_mem_metacharacters {c : Char} (hc : metacharacters.contains c = false) {d : Char}
    (hd : d ∈ metacharacters) : c ≠ d := by
  rintro rfl
  rw [List.contains_iff_mem.2 hd] at hc
  cases hc

/-- A character without another meaning stands for itself. -/
theorem sequence_plain [CharacterNames] {c : Char} (hc : metacharacters.contains c = false)
    (h : rest.head? ≠ some .dangling) :
    (sequence false first items (n + 1)).run (s.ahead (.plain c :: rest) position) =
      (sequence false first (.char c.toNat :: items) n).run (s.ahead rest (position + 1)) := by
  have hne : ∀ d ∈ metacharacters, c ≠ d := fun d hd => ne_of_not_mem_metacharacters hc hd
  rw [sequence, run_next?]
  show StateT.run (if c = '|' || c = ')' then _ else _) _ = _
  simp only [hne '|' (by decide), hne ')' (by decide), hne '[' (by decide), hne '.' (by decide),
    hne '^' (by decide), hne '$' (by decide), hne '*' (by decide), hne '+' (by decide),
    hne '?' (by decide), hne '\x7b' (by decide), hne '(' (by decide), decide_false, Bool.or_self,
    Bool.false_and, Bool.false_eq_true, if_false]
  rw [run_get, run_take _ _ h]
  rfl

theorem sequence_escape [CharacterNames] {c : Char} (hc : Text.isAlphanumeric c = false)
    (h : rest.head? ≠ some .dangling) :
    (sequence false first items (n + 1)).run (s.ahead (.escape c :: rest) position) =
      (sequence false first (.char c.toNat :: items) n).run (s.ahead rest (position + 2)) := by
  rw [sequence, run_next?]
  show StateT.run (do let _ ← take; let r ← itemEscape c; sequence false first (r :: items) n) _ = _
  rw [run_take _ _ h, itemEscape_of_not_alphanumeric hc, pure_bind]
  rfl

/-- A dot or an anchor, wherever it stands. -/
theorem sequence_item [CharacterNames] {c : Char} {r : Regex}
    (hc : (c, r) ∈ [('.', Regex.any), ('^', .anchor .lineStart), ('$', .anchor .lineEnd)])
    (h : rest.head? ≠ some .dangling) :
    (sequence false first items (n + 1)).run (s.ahead (.plain c :: rest) position) =
      (sequence false first (r :: items) n).run (s.ahead rest (position + 1)) := by
  rw [sequence, run_next?]
  simp only [List.mem_cons, Prod.mk.injEq, List.not_mem_nil, or_false] at hc
  rcases hc with ⟨rfl, rfl⟩ | ⟨rfl, rfl⟩ | ⟨rfl, rfl⟩ <;>
  · show StateT.run (do let _ ← get; let _ ← take; sequence false first (_ :: items) n) _ = _
    rw [run_get, run_take _ _ h]
    rfl

/-- What may stand behind a repetition: nothing that would be its mark, and no backslash without
    a character. -/
def Settled (rest : List Token) : Prop :=
  rest.head? ≠ some .dangling ∧ rest.head? ≠ some (.plain '?') ∧ rest.head? ≠ some (.plain '+')

theorem run_repeatGreed (f : Greed → Read (List Regex)) (h : Settled rest) :
    (repeatGreed >>= f).run (s.ahead rest position) = (f .greedy).run (s.ahead rest position) := by
  rw [repeatGreed, bind_assoc, run_accept _ h.2.1, if_neg Bool.false_ne_true, bind_assoc,
    run_accept _ h.2.2, if_neg Bool.false_ne_true, pure_bind]

/-- A star or a plus repeats the dot in front of it. -/
theorem sequence_repeat [CharacterNames] {c : Char} {least : Nat}
    (hc : (c, least) ∈ [('*', 0), ('+', 1)]) (h : Settled rest) :
    (sequence false first (.any :: items) (n + 1)).run (s.ahead (.plain c :: rest) position) =
      (sequence false first (.rep .greedy least none .any :: items) n).run
        (s.ahead rest (position + 1)) := by
  rw [sequence, run_next?]
  simp only [List.mem_cons, Prod.mk.injEq, List.not_mem_nil, or_false] at hc
  rcases hc with ⟨rfl, rfl⟩ | ⟨rfl, rfl⟩ <;>
  · show StateT.run (get >>= fun _ => take >>= _) _ = _
    rw [run_get, run_take _ _ h.1]
    show ((do let greed ← repeatGreed; return .rep greed _ none .any :: items) >>=
      fun items => sequence false first items n).run _ = _
    rw [bind_assoc, run_repeatGreed _ h, pure_bind]
    rfl

/-- A part is read as its expression. -/
theorem sequence_part [CharacterNames] (part : Part) (h : Settled rest) :
    (sequence false first items (part.tokens.length + n)).run
        (s.ahead (part.tokens ++ rest) position) =
      (sequence false first (part.regex :: items) n).run
        (s.ahead rest (position + part.written.length)) := by
  rw [Nat.add_comm]
  cases part with
  | plain c hc => exact sequence_plain hc.2 h.1
  | escaped c hc => exact sequence_escape hc h.1
  | dot => exact sequence_item (by simp [Part.regex]) h.1
  | dotStar =>
    exact (sequence_item (by simp) (by simp)).trans (sequence_repeat (by simp) h)
  | dotPlus =>
    exact (sequence_item (by simp) (by simp)).trans (sequence_repeat (by simp) h)

theorem settled_parts (parts : List Part) (h : Settled rest) :
    Settled (parts.flatMap Part.tokens ++ rest) := by
  cases parts with
  | nil => exact h
  | cons part parts =>
    cases part with
    | plain c hc =>
      have hquestion : c ≠ '?' := ne_of_not_mem_metacharacters hc.2 (by decide)
      have hplus : c ≠ '+' := ne_of_not_mem_metacharacters hc.2 (by decide)
      exact ⟨by simp [Part.tokens], by simpa [Part.tokens] using hquestion,
        by simpa [Part.tokens] using hplus⟩
    | _ => exact ⟨by simp [Part.tokens], by simp [Part.tokens], by simp [Part.tokens]⟩

/-- Parts are read as their expressions, one after the other. -/
theorem sequence_parts [CharacterNames] (parts : List Part) (h : Settled rest) : ∀ items position,
    (sequence false first items ((parts.flatMap Part.tokens).length + n)).run
        (s.ahead (parts.flatMap Part.tokens ++ rest) position) =
      (sequence false first ((parts.map Part.regex).reverse ++ items) n).run
        (s.ahead rest (position + (parts.flatMap Part.written).length)) := by
  induction parts with
  | nil =>
    intro items position
    rw [List.flatMap_nil, List.flatMap_nil, List.length_nil, Nat.zero_add]
    rfl
  | cons part parts ih =>
    intro items position
    rw [List.flatMap_cons, List.flatMap_cons, List.append_assoc, List.length_append,
      List.length_append, Nat.add_assoc, sequence_part part (settled_parts parts h), ih,
      List.map_cons, List.reverse_cons, List.append_assoc, Nat.add_assoc]
    rfl

/-- At the end of a pattern a sequence is complete. -/
theorem sequence_end [CharacterNames] : (sequence false first items n).run (s.ahead [] position) =
    .ok (items.reverse, s.ahead [] position) := by
  cases n with
  | zero => rw [sequence]; rfl
  | succ n => rw [sequence, run_next?]; rfl

end

/-! ## Whole patterns -/

namespace Form

/-- The tokens behind the parts of a pattern. -/
def lastTokens (form : Form) : List Token := if form.atEnd then [.plain '$'] else []

/-- The tokens of a pattern. -/
def tokens (form : Form) : List Token :=
  (if form.atStart then [.plain '^'] else []) ++ (form.parts.flatMap Part.tokens ++ form.lastTokens)

/-- The items behind those of the parts. -/
def lastItems (form : Form) : List Regex := if form.atEnd then [.anchor .lineEnd] else []

/-- The items of the expression that a pattern is read as. -/
def regexes (form : Form) : List Regex :=
  (if form.atStart then [.anchor .lineStart] else []) ++
    (form.parts.map Part.regex ++ form.lastItems)

end Form

theorem tokens_parts (parts : List Part) (rest : List Char) :
    tokens (parts.flatMap Part.written ++ rest) = parts.flatMap Part.tokens ++ tokens rest := by
  induction parts with
  | nil => rfl
  | cons part parts ih =>
    rw [List.flatMap_cons, List.append_assoc, Part.tokens_written, ih, List.flatMap_cons,
      List.append_assoc]

namespace Form

theorem tokens_written (form : Form) : Pattern.tokens form.written = form.tokens := by
  have hrest : Pattern.tokens (form.parts.flatMap Part.written ++
      if form.atEnd then ['$'] else []) = form.parts.flatMap Part.tokens ++ form.lastTokens := by
    rw [tokens_parts, lastTokens]
    cases form.atEnd with
    | true => exact congrArg _ (tokens_cons (by decide) [])
    | false => rfl
  unfold Form.written Form.tokens
  rw [List.append_assoc]
  cases form.atStart with
  | true => exact (tokens_cons (by decide) _).trans (congrArg _ hrest)
  | false => exact hrest

theorem settled_lastTokens (form : Form) : Settled form.lastTokens := by
  unfold lastTokens
  cases form.atEnd <;> simp [Settled]

theorem settled (form : Form) : Settled (form.parts.flatMap Part.tokens ++ form.lastTokens) :=
  settled_parts form.parts form.settled_lastTokens

section

variable (form : Form) (s : ReadState) (n : Nat)

theorem sequence_last [CharacterNames] (items : List Regex) (position : Nat) : ∃ position',
    (sequence false true items (form.lastTokens.length + n)).run
      (s.ahead form.lastTokens position) =
        .ok (items.reverse ++ form.lastItems, s.ahead [] position') := by
  unfold lastTokens lastItems
  cases form.atEnd with
  | true =>
    refine ⟨position + 1, ?_⟩
    rw [if_pos rfl, if_pos rfl, List.length_singleton, Nat.add_comm,
      sequence_item (r := .anchor .lineEnd) (by simp) (by simp), sequence_end, List.reverse_cons]
  | false => exact ⟨position, by simpa using sequence_end⟩

/-- The parts and what is behind them. -/
theorem sequence_rest [CharacterNames] (items : List Regex) (position : Nat) : ∃ position',
    (sequence false true items ((form.parts.flatMap Part.tokens ++ form.lastTokens).length + n)).run
      (s.ahead (form.parts.flatMap Part.tokens ++ form.lastTokens) position) =
        .ok (items.reverse ++ (form.parts.map Part.regex ++ form.lastItems),
          s.ahead [] position') := by
  obtain ⟨position', hlast⟩ := form.sequence_last s n ((form.parts.map Part.regex).reverse ++ items)
    (position + (form.parts.flatMap Part.written).length)
  refine ⟨position', ?_⟩
  rw [List.length_append, Nat.add_assoc, sequence_parts form.parts form.settled_lastTokens, hlast,
    List.reverse_append, List.reverse_reverse, List.append_assoc]

/-- Reading a pattern to its end gives its items. -/
theorem sequence_eq [CharacterNames] (position : Nat) : ∃ position',
    (sequence false true [] (form.tokens.length + n)).run (s.ahead form.tokens position) =
      .ok (form.regexes, s.ahead [] position') := by
  unfold Form.tokens Form.regexes
  cases form.atStart with
  | true =>
    obtain ⟨position', hrest⟩ := form.sequence_rest s n [.anchor .lineStart] (position + 1)
    refine ⟨position', ?_⟩
    rw [if_pos rfl, if_pos rfl, List.singleton_append, List.length_cons, Nat.add_right_comm,
      sequence_item (r := .anchor .lineStart) (by simp) form.settled.1]
    exact hrest
  | false => exact form.sequence_rest s n [] position

end

end Form

/-- The state of the reader before it has read anything, apart from the tokens. -/
def ReadState.initial : ReadState where
  rest := []
  position := 0
  flags := {}
  groups := []
  names := []
  lookbehind := none
  conditions := []

/-- The state of the reader before it has read anything, apart from the tokens, where flags are
    given. -/
def ReadState.under (flags : FlagSet) : ReadState := { ReadState.initial with flags }

theorem Form.start_eq (form : Form) (flags : FlagSet) :
    start form.written flags = .ok ((ReadState.under flags).ahead form.tokens 0) := by
  unfold start
  rw [form.tokens_written, if_neg]
  · rfl
  · unfold Form.tokens
    cases form.atStart with
    | true => simp
    | false => exact form.settled.1

theorem moreBranches_end [CharacterNames] (n : Nat) (s : ReadState) (position : Nat) :
    (moreBranches true false n).run (s.ahead [] position) = .ok ([], s.ahead [] position) := by
  cases n with
  | zero => rw [moreBranches]; rfl
  | succ n => rw [moreBranches, run_accept _ (by simp)]; rfl

/-- Flags under which a pattern is read as it is under none. -/
structure FlagSet.IsSettled (flags : FlagSet) : Prop where
  verbose : flags.verbose = false
  unicode : flags.unicode = false
  template : flags.template = false

/-- A pattern is read as its items, and the flags stay. -/
theorem Form.parse_eq [CharacterNames] (form : Form) {flags : FlagSet} (hf : flags.IsSettled) :
    parse form.written flags = .ok (Regex.ofItems form.regexes, flags) := by
  have hlength : form.tokens.length ≤ form.written.length := by
    rw [← form.tokens_written]
    exact length_tokens_le _
  obtain ⟨n, hn⟩ := Nat.exists_eq_add_of_le
    (show form.tokens.length ≤ 4 * form.written.length + 3 by omega)
  obtain ⟨position, hs⟩ := form.sequence_eq (.under flags) n 0
  have halternatives : (alternatives true false (4 * form.written.length + 4)).run
      ((ReadState.under flags).ahead form.tokens 0) =
        .ok (Regex.ofItems form.regexes, (ReadState.under flags).ahead [] position) := by
    rw [alternatives, hn, StateT.run_bind, hs]
    show StateT.run (do
      let branches ← moreBranches true false (form.tokens.length + n)
      return Regex.ofBranches (Regex.ofItems form.regexes :: branches))
        ((ReadState.under flags).ahead [] position) = _
    rw [StateT.run_bind, moreBranches_end]
    rfl
  have hwhole : (whole form.written.length).run ((ReadState.under flags).ahead form.tokens 0) =
      .ok (Regex.ofItems form.regexes, (ReadState.under flags).ahead [] position) := by
    rw [whole, run_get]
    show StateT.run (alternatives true flags.verbose _ >>= _) _ = _
    rw [hf.verbose, StateT.run_bind, halternatives]
    show StateT.run (if flags.ascii && flags.unicode then _ else _) _ = _
    rw [hf.unicode, Bool.and_false]
    rfl
  rw [parse, form.start_eq]
  show ((whole form.written.length).run _ >>= _) = _
  rw [hwhole]
  rfl

end Clearance.Pattern
