/-
  The grammar of the patterns that have a `LIKE` form.

  A pattern has a `LIKE` form exactly if it is written in parts between its anchors, and there is
  one way at most to do so: the part that a text begins with is read off its first two characters.
  Whether the last dollar sign is an anchor is decided from the right, by the backslashes before it,
  and the parts are read from the left; the two agree, since what is written in parts ends in an
  even number of backslashes.

  * `Part.first?_written`: the first part of a text can be read back; so the parts of a text are
    unique (`parts_eq_of_written`);
  * `likeBody?_parts`: the form of what is written in parts is made of their images;
  * `even_backslashes`, `Form.endsWithAnchor_written`: the anchor at the end is told by the
    backslashes before it;
  * `Form.eq_of_written`, `Form.likeOf?_eq`: whole patterns are written in one way, and have the
    form that is made of their images;
  * `likeOf?_grammar`: which patterns have a `LIKE` form, and which are refused for want of one.
-/
import Clearance.Filter.Compile
import Clearance.Proofs.Pattern.Parts
import Mathlib.Data.List.Induction

namespace Clearance.Pattern

/-! ## Parts of a text -/

/-- A text does not begin with the mark of a repetition. -/
def Unrepeated (cs : List Char) : Prop := cs.head? ≠ some '*' ∧ cs.head? ≠ some '+'

theorem ne_of_plain {c d : Char} (hc : metacharacters.contains c = false)
    (hd : d ∈ metacharacters) : c ≠ d := by
  rintro rfl
  rw [List.contains_eq_mem, decide_eq_false_iff_not] at hc
  exact hc hd

namespace Part

/-- The part that a text begins with, and what follows it. -/
def first? : List Char → Option (Part × List Char)
  | '.' :: '*' :: rest => some (dotStar, rest)
  | '.' :: '+' :: rest => some (dotPlus, rest)
  | '.' :: rest => some (dot, rest)
  | '\\' :: c :: rest =>
    if h : Text.isAlphanumeric c = false then some (escaped c h, rest) else none
  | c :: rest =>
    if h : c ≠ '\\' ∧ metacharacters.contains c = false then some (plain c h, rest) else none
  | [] => none

/-- **The first part of a text can be read back**, unless the mark of a repetition follows it. -/
theorem first?_written (part : Part) {rest : List Char} (h : Unrepeated rest) :
    first? (part.written ++ rest) = some (part, rest) := by
  cases part with
  | plain c hc =>
    have hdot : c ≠ '.' := ne_of_plain hc.2 (by decide)
    show first? (c :: rest) = _
    rw [first?, dif_pos hc]
    · exact fun rest hc _ => hdot hc
    · exact fun rest hc _ => hdot hc
    · exact hdot
    · exact fun d rest hd _ => hc.1 hd
  | escaped c hc => exact dif_pos hc
  | dot =>
    show first? ('.' :: rest) = _
    rw [first?]
    · exact fun rest' hr => h.1 (by rw [hr]; rfl)
    · exact fun rest' hr => h.2 (by rw [hr]; rfl)
  | dotStar | dotPlus => rfl

/-- No part begins with the sign for the start or with the mark of a repetition. -/
theorem head?_written_ne (part : Part) (rest : List Char) {d : Char} (hd : d ∈ ['^', '*', '+']) :
    (part.written ++ rest).head? ≠ some d := by
  simp only [List.mem_cons, List.not_mem_nil, or_false] at hd
  cases part with
  | plain c hc =>
    have hmeta : d ∈ metacharacters := by rcases hd with rfl | rfl | rfl <;> decide
    simpa [written] using ne_of_plain hc.2 hmeta
  | escaped | dot | dotStar | dotPlus => rcases hd with rfl | rfl | rfl <;> simp [written]

end Part

theorem head?_parts_ne (parts : List Part) {rest : List Char} {d : Char} (hd : d ∈ ['^', '*', '+'])
    (h : rest.head? ≠ some d) : (parts.flatMap Part.written ++ rest).head? ≠ some d := by
  cases parts with
  | nil => exact h
  | cons part parts =>
    rw [List.flatMap_cons, List.append_assoc]
    exact part.head?_written_ne _ hd

theorem unrepeated_parts (parts : List Part) : Unrepeated (parts.flatMap Part.written) := by
  have h : ∀ d ∈ ['^', '*', '+'], (parts.flatMap Part.written ++ []).head? ≠ some d :=
    fun d hd => head?_parts_ne parts hd nofun
  rw [List.append_nil] at h
  exact ⟨h '*' (by decide), h '+' (by decide)⟩

/-- **The parts of a text are unique.** -/
theorem parts_eq_of_written {parts : List Part} : ∀ {parts' : List Part},
    parts.flatMap Part.written = parts'.flatMap Part.written → parts = parts' := by
  have hne : ∀ (part : Part) rest, part.written ++ rest ≠ [] := by
    intro part rest h
    cases part <;> cases h
  induction parts with
  | nil =>
    intro parts' h
    cases parts' with
    | nil => rfl
    | cons part' parts' => exact absurd h.symm (hne part' _)
  | cons part parts ih =>
    intro parts' h
    cases parts' with
    | nil => exact absurd h (hne part _)
    | cons part' parts' =>
      have hread := part.first?_written (unrepeated_parts parts)
      rw [← List.flatMap_cons, h, List.flatMap_cons,
        part'.first?_written (unrepeated_parts parts')] at hread
      obtain ⟨rfl, hrest⟩ := Prod.mk.inj (Option.some.inj hread)
      rw [ih hrest.symm]

/-! ## The form of a body -/

/-- A part in front puts its image in front. -/
theorem likeBody?_written (part : Part) {rest : List Char} (h : Unrepeated rest) :
    likeBody? (part.written ++ rest) = (likeBody? rest).map (part.image ++ ·) := by
  cases part with
  | plain c hc =>
    have hdot : c ≠ '.' := ne_of_plain hc.2 (by decide)
    show likeBody? (c :: rest) = _
    rw [likeBody?, if_neg (by rw [hc.2]; exact Bool.false_ne_true)]
    · rfl
    · exact fun hd _ => hc.1 hd
    · exact fun d rest hd _ => hc.1 hd
    · exact fun rest hd _ => hdot hd
    · exact fun rest hd _ => hdot hd
    · exact hdot
  | escaped c hc =>
    show likeBody? ('\\' :: c :: rest) = _
    rw [likeBody?, if_neg (by rw [hc]; exact Bool.false_ne_true)]
    rfl
  | dot =>
    show likeBody? ('.' :: rest) = _
    rw [likeBody?]
    · rfl
    · exact fun rest' hr => h.1 (by rw [hr]; rfl)
    · exact fun rest' hr => h.2 (by rw [hr]; rfl)
  | dotStar | dotPlus => rfl

theorem likeBody?_parts (parts : List Part) :
    likeBody? (parts.flatMap Part.written) = some (parts.flatMap Part.image) := by
  induction parts with
  | nil => rfl
  | cons part parts ih =>
    rw [List.flatMap_cons, likeBody?_written part (unrepeated_parts parts), ih]
    rfl

/-! ## The anchor at the end -/

/-- How many backslashes a text ends in. -/
def backslashes (cs : List Char) : Nat := (cs.reverse.takeWhile (· == '\\')).length

theorem backslashes_concat (cs : List Char) (c : Char) :
    backslashes (cs ++ [c]) = if c = '\\' then backslashes cs + 1 else 0 := by
  unfold backslashes
  rw [List.reverse_append, List.reverse_singleton, List.singleton_append, List.takeWhile_cons]
  by_cases h : c = '\\' <;> simp [h]

theorem backslashes_replicate {front : List Char} (h : front.getLast? ≠ some '\\') (n : Nat) :
    backslashes (front ++ List.replicate n '\\') = n := by
  induction n with
  | zero =>
    rcases List.eq_nil_or_concat front with rfl | ⟨rest, c, rfl⟩
    · rfl
    · rw [List.concat_eq_append, List.getLast?_concat] at h
      rw [List.replicate_zero, List.append_nil, List.concat_eq_append, backslashes_concat,
        if_neg fun hc => h (congrArg some hc)]
  | succ n ih =>
    rw [List.replicate_succ', ← List.append_assoc, backslashes_concat, if_pos rfl, ih]

theorem endsWithAnchor_concat (cs : List Char) (c : Char) :
    endsWithAnchor (cs ++ [c]) = (c == '$' && backslashes cs % 2 == 0) := by
  unfold endsWithAnchor
  rw [List.reverse_append, List.reverse_singleton, List.singleton_append]
  by_cases h : c = '$'
  · subst h; rfl
  · rw [beq_false_of_ne h]
    split
    · rename_i hc
      exact absurd (List.cons.inj hc).1 h
    · rfl

/-- **What is written in parts ends in an even number of backslashes**, if what stands before it
    does. -/
theorem even_backslashes {front : List Char} (h : backslashes front % 2 = 0) (parts : List Part) :
    backslashes (front ++ parts.flatMap Part.written) % 2 = 0 := by
  induction parts using List.reverseRecOn with
  | nil => simpa using h
  | append_singleton parts part ih =>
    rw [List.flatMap_append, List.flatMap_singleton, ← List.append_assoc]
    generalize front ++ parts.flatMap Part.written = cs at ih
    cases part with
    | plain c hc => rw [Part.written, backslashes_concat, if_neg hc.1]
    | escaped c hc =>
      show backslashes (cs ++ ['\\', c]) % 2 = 0
      rw [List.append_cons, backslashes_concat, backslashes_concat, if_pos rfl]
      split <;> omega
    | dot => rw [Part.written, backslashes_concat, if_neg (by decide)]
    | dotStar | dotPlus =>
      rw [Part.written, List.append_cons, backslashes_concat, if_neg (by decide)]

/-- The dollar sign at the end of a part is no anchor. -/
theorem endsWithAnchor_parts {front : List Char} (h : backslashes front % 2 = 0)
    (hfront : endsWithAnchor front = false) (parts : List Part) :
    endsWithAnchor (front ++ parts.flatMap Part.written) = false := by
  rcases List.eq_nil_or_concat parts with rfl | ⟨parts, part, rfl⟩
  · simpa using hfront
  · have heven := even_backslashes h parts
    rw [List.concat_eq_append, List.flatMap_append, List.flatMap_singleton, ← List.append_assoc]
    generalize front ++ parts.flatMap Part.written = cs at heven
    cases part with
    | plain c hc =>
      have hdollar : c ≠ '$' := ne_of_plain hc.2 (by decide)
      rw [Part.written, endsWithAnchor_concat, beq_false_of_ne hdollar, Bool.false_and]
    | escaped c hc =>
      show endsWithAnchor (cs ++ ['\\', c]) = false
      -- the backslash of the part itself makes the number odd
      have hodd : ((backslashes cs + 1) % 2 == 0) = false := beq_false_of_ne (by omega)
      rw [List.append_cons, endsWithAnchor_concat, backslashes_concat, if_pos rfl, hodd,
        Bool.and_false]
    | dot => exact endsWithAnchor_concat cs '.'
    | dotStar =>
      rw [Part.written, List.append_cons]
      exact endsWithAnchor_concat _ '*'
    | dotPlus =>
      rw [Part.written, List.append_cons]
      exact endsWithAnchor_concat _ '+'

/-! ## Whole patterns -/

namespace Form

theorem head?_written (form : Form) : (form.written.head? == some '^') = form.atStart := by
  unfold written
  rw [List.append_assoc]
  cases form.atStart with
  | true => rfl
  | false =>
    refine beq_false_of_ne (head?_parts_ne form.parts (by decide) ?_)
    cases form.atEnd <;> simp

/-- **The anchor at the end** is the dollar sign before which the backslashes are even. -/
theorem endsWithAnchor_written (form : Form) : endsWithAnchor form.written = form.atEnd := by
  unfold written
  generalize hfront : (if form.atStart then ['^'] else []) = front
  have heven : backslashes front % 2 = 0 := by subst hfront; cases form.atStart <;> rfl
  have hnone : endsWithAnchor front = false := by subst hfront; cases form.atStart <;> rfl
  cases form.atEnd with
  | true =>
    rw [if_pos rfl, endsWithAnchor_concat, even_backslashes heven form.parts]
    rfl
  | false =>
    rw [if_neg Bool.false_ne_true, List.append_nil]
    exact endsWithAnchor_parts heven hnone form.parts

/-- What is left of a pattern without its anchors is written in its parts. -/
theorem body_written (form : Form) :
    (let body := if form.written.head? == some '^' then form.written.drop 1 else form.written
      if endsWithAnchor form.written then body.dropLast else body) =
      form.parts.flatMap Part.written := by
  rw [form.head?_written, form.endsWithAnchor_written]
  unfold written
  cases form.atStart <;> cases form.atEnd <;> simp

/-- A pattern that is written in parts has the form that is made of their images. -/
theorem likeOf?_eq (form : Form) {pattern : String} (h : pattern.toList = form.written) :
    likeOf? pattern = some (String.ofList form.image) := by
  have hbody := form.body_written
  unfold likeOf?
  dsimp only at hbody ⊢
  rw [h, hbody, likeBody?_parts, form.head?_written, form.endsWithAnchor_written]
  rfl

/-- **A pattern is written in one way at most.** -/
theorem eq_of_written {form form' : Form} (h : form.written = form'.written) : form = form' := by
  have hstart : form.atStart = form'.atStart := by rw [← form.head?_written, h, form'.head?_written]
  have hend : form.atEnd = form'.atEnd := by
    rw [← form.endsWithAnchor_written, h, form'.endsWithAnchor_written]
  have hparts : form.parts = form'.parts := by
    refine parts_eq_of_written ?_
    rw [← form.body_written, h, form'.body_written]
  cases form
  cases form'
  simp_all

/-- The dollar sign at the end of a pattern is an anchor iff an even number of backslashes stands
    before it. -/
theorem atEnd_iff (form : Form) {front : List Char} {n : Nat}
    (h : form.written = front ++ List.replicate n '\\' ++ ['$'])
    (hfront : front.getLast? ≠ some '\\') :
    form.atEnd = true ↔ n % 2 = 0 := by
  rw [← form.endsWithAnchor_written, h, endsWithAnchor_concat, backslashes_replicate hfront]
  simp

end Form

/-- A pattern has a `LIKE` form iff it is written in parts between its anchors. -/
theorem isSome_likeOf?_iff {pattern : String} : (likeOf? pattern).isSome = true ↔
    ∃ form : Form, pattern.toList = form.written := by
  rw [Option.isSome_iff_exists]
  constructor
  · rintro ⟨like, h⟩
    obtain ⟨form, hwritten, -⟩ := likeOf?_eq_some h
    exact ⟨form, hwritten⟩
  · rintro ⟨form, h⟩
    exact ⟨_, form.likeOf?_eq h⟩

/-- Where patterns have to be compiled to `LIKE`, those are refused that have no form. -/
theorem patternClause_eq_error {c : Sql.Column} {pattern : String} {flags : List PatternFlag}
    (h : ∀ flag ∈ flags, flag = .ignoreCase) {err : Error} :
    patternClause .like c pattern flags = .error err ↔
      err = .unsupportedPattern pattern (flagText flags) ∧ likeOf? pattern = none := by
  have hform : likeForm? .like pattern flags = likeOf? pattern := by
    have hall : flags.all (· == .ignoreCase) = true :=
      List.all_eq_true.2 fun flag hf => beq_iff_eq.2 (h flag hf)
    rw [likeForm?, hall]
    rfl
  rw [patternClause, hform]
  cases likeOf? pattern with
  | some like => simp
  | none =>
    rw [if_pos (by rfl), Except.error.injEq]
    exact ⟨fun h => ⟨h.symm, rfl⟩, fun h => h.1.symm⟩

/-- **The grammar of the patterns that have a `LIKE` form.**  A pattern has one iff it is written in
    parts between anchors that may be missing.  It is written so in one way only, its form is made of
    the images of the parts, with a percent sign at each end that has no anchor, and a dollar sign at
    its end is an anchor iff the backslashes before it are even.  Where patterns have to be compiled
    to `LIKE`, and letter case is the only flag, those that are not written so are refused, and
    nothing else is. -/
theorem likeOf?_grammar (pattern : String) :
    ((likeOf? pattern).isSome = true ↔ ∃ form : Form, pattern.toList = form.written) ∧
    (∀ form : Form, pattern.toList = form.written →
      (∀ form' : Form, pattern.toList = form'.written → form' = form) ∧
      likeOf? pattern = some (String.ofList form.image) ∧
      ∀ front n, pattern.toList = front ++ List.replicate n '\\' ++ ['$'] →
        front.getLast? ≠ some '\\' → (form.atEnd = true ↔ n % 2 = 0)) ∧
    ∀ (c : Sql.Column) (flags : List PatternFlag), (∀ flag ∈ flags, flag = .ignoreCase) →
      ∀ err, patternClause .like c pattern flags = .error err ↔
        err = .unsupportedPattern pattern (flagText flags) ∧
          ¬ ∃ form : Form, pattern.toList = form.written := by
  refine ⟨isSome_likeOf?_iff, fun form h => ⟨fun form' h' => ?_, form.likeOf?_eq h, ?_⟩, ?_⟩
  · exact Form.eq_of_written (h'.symm.trans h)
  · exact fun front n hp hfront => form.atEnd_iff (h.symm.trans hp) hfront
  · intro c flags hflags err
    rw [patternClause_eq_error hflags, ← isSome_likeOf?_iff, Option.not_isSome_iff_eq_none]

/-- Behind two backslashes a dollar sign is an anchor, behind one it stands for itself; a class of
    characters has no form. -/
theorem likeOf?_grammar_of_backslashes :
    let anchored : Form := ⟨true, [.plain 'a' (by decide), .escaped '\\' (by decide)], true⟩
    let literal : Form := ⟨true, [.plain 'a' (by decide), .escaped '$' (by decide)], false⟩
    let column : Sql.Column := ⟨"title", some "note", none⟩
    (likeOf? "^a\\\\$" = some (String.ofList anchored.image) ∧
      (anchored.atEnd = true ↔ 2 % 2 = 0)) ∧
    (likeOf? "^a\\$" = some (String.ofList literal.image) ∧
      (literal.atEnd = true ↔ 1 % 2 = 0)) ∧
    (¬ ∃ form : Form, "[ab]".toList = form.written) ∧
    patternClause .like column "[ab]" [.ignoreCase] =
      .error (.unsupportedPattern "[ab]" (flagText [.ignoreCase])) := by
  intro anchored literal column
  have hanchored : "^a\\\\$".toList = anchored.written := by decide
  have hliteral : "^a\\$".toList = literal.written := by decide
  obtain ⟨-, hanchoredForm, hanchoredEnd⟩ := (likeOf?_grammar "^a\\\\$").2.1 anchored hanchored
  obtain ⟨-, hliteralForm, hliteralEnd⟩ := (likeOf?_grammar "^a\\$").2.1 literal hliteral
  obtain ⟨hsome, -, hrefused⟩ := likeOf?_grammar "[ab]"
  have hnone : ¬ ∃ form : Form, "[ab]".toList = form.written := by
    rw [← hsome]
    decide
  exact ⟨⟨hanchoredForm, hanchoredEnd "^a".toList 2 (by decide) (by decide)⟩,
    ⟨hliteralForm, hliteralEnd "^a".toList 1 (by decide) (by decide)⟩, hnone,
    (hrefused column [.ignoreCase] (by decide) _).2 ⟨rfl, hnone⟩⟩

end Clearance.Pattern
