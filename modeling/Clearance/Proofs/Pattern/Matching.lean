/-
  Patterns that have a `LIKE` form match where their form does.

  * `Regex.run_ofItems`: the items of a sequence are matched one after the other;
  * `itemsMatch`: whether a text has the items of a `LIKE` pattern, for a test of which characters
    stand for which;
  * `Rest.Decides`: what is to be matched behind a place finds a match exactly if the text from
    there on has given items of a `LIKE` pattern.  Each part of a pattern puts its items in front
    of what the rest decides (`Part.decides`), a repeated dot by an induction over the rounds
    (`isSome_greedyRounds`);
  * `searchFrom_any`, `searchFrom_start`: a search looks for the items anywhere, or at the start
    only;
  * `Form.compile_eq`, `Form.search_eq_itemsMatch`: such a pattern can be read, and in a text of one
    line it is found, in either mode of letter case, exactly where the text has its items;
  * `likeOf?_exact`: under no flags, this is where the text is like its form.
-/
import Clearance.Proofs.Pattern.Affix
import Clearance.Proofs.Pattern.Reading

namespace Clearance.Pattern

/-! ## Sequences -/

namespace Regex

theorem run_ofItems (m : Mode) (rs : List Regex) (k : Rest) :
    (ofItems rs).run m k = rs.foldr (fun r k => r.run m k) k := by
  fun_induction ofItems rs with
  | case1 => exact funext fun p => by rw [run]; rfl
  | case2 r => rfl
  | case3 r rest _ ih =>
    refine funext fun p => ?_
    rw [run, ih]
    rfl

theorem leadingSet?_ofItems {m : Mode} {rs : List Regex} (h : ∀ r ∈ rs, r.leadingSet? m = none) :
    (ofItems rs).leadingSet? m = none := by
  cases rs with
  | nil => rfl
  | cons r rest =>
    have hr : r.leadingSet? m = none := h r List.mem_cons_self
    cases rest with
    | nil => exact hr
    | cons => exact hr

theorem check_ofItems {template : Bool} {rs : List Regex}
    (h : ∀ r ∈ rs, r.check template = .ok ()) : (ofItems rs).check template = .ok () := by
  fun_induction ofItems rs with
  | case1 => rfl
  | case2 r => exact h r List.mem_cons_self
  | case3 r rest _ ih =>
    rw [check, h r List.mem_cons_self, ih fun r hr => h r (List.mem_cons_of_mem _ hr)]
    rfl

end Regex

/-! ## Items -/

/-- Whether a text has the items of a `LIKE` pattern, where a test says which characters stand for
    those of the pattern. -/
def itemsMatch (same : Char → Char → Bool) : List LikeItem → List Char → Bool
  | [], cs => cs.isEmpty
  | .char d :: items, c :: cs => same d c && itemsMatch same items cs
  | .one :: items, _ :: cs => itemsMatch same items cs
  | .many :: items, cs => Text.anySuffix (itemsMatch same items) cs
  | _ :: _, [] => false

theorem itemsMatch_many (same : Char → Char → Bool) (cs : List Char) :
    itemsMatch same [.many] cs = true := by
  rw [itemsMatch, Text.anySuffix_iff]
  exact ⟨cs, [], by simp, rfl⟩

/-- Any text is the empty one, or a character and again any text. -/
theorem itemsMatch_many_cons (same : Char → Char → Bool) (items : List LikeItem)
    (cs : List Char) : itemsMatch same (.many :: items) cs =
      (itemsMatch same (.one :: .many :: items) cs || itemsMatch same items cs) := by
  cases cs with
  | nil => rfl
  | cons c cs => exact Bool.or_comm _ _

/-- `LIKE` is for characters that stand for themselves. -/
theorem itemsMatch_beq (items : List LikeItem) : ∀ cs,
    itemsMatch (fun d c => c == d) items cs = likeItemsMatch items cs := by
  induction items with
  | nil => exact fun _ => rfl
  | cons item items ih =>
    intro cs
    cases item with
    | char d =>
      cases cs with
      | nil => rfl
      | cons c cs => exact congrArg _ (ih cs)
    | one =>
      cases cs with
      | nil => rfl
      | cons c cs => exact ih cs
    | many => exact congrArg (Text.anySuffix · cs) (funext ih)

/-- Whether a character stands for one of a pattern in a mode. -/
def Mode.same (m : Mode) (d c : Char) : Bool := m.sameChar d.toNat c

theorem Mode.same_exact : Mode.same {} = fun d c => c == d :=
  funext₂ fun d c => Bool.eq_iff_iff.2 (by simp [Mode.same, Mode.sameChar, Char.toNat_inj])

/-! ## Characters -/

theorem Place.of_step? {p q : Place} {c : Char} (h : p.step? = some (c, q)) :
    p.after = c :: q.after ∧ q.position = p.position + 1 := by
  obtain ⟨before, after, captures⟩ := p
  cases after with
  | nil => cases h
  | cons d rest =>
    cases h
    exact ⟨rfl, rfl⟩

theorem Place.newlineFree_of_step? {p q : Place} {c : Char} (hp : '\n' ∉ p.after)
    (hq : p.step? = some (c, q)) : '\n' ∉ q.after := by
  rw [(of_step? hq).1] at hp
  exact fun hm => hp (List.mem_cons_of_mem c hm)

/-- What is to be matched behind a place finds a match exactly if the text from there on, as long
    as it has no line feed, has some items. -/
def Rest.Decides (m : Mode) (k : Rest) (items : List LikeItem) : Prop :=
  ∀ p : Place, '\n' ∉ p.after → (k p).isSome = itemsMatch m.same items p.after

section

variable {m : Mode} {k : Rest} {items : List LikeItem} {p : Place}

/-- One character that an item stands for, and then the rest, where the rest decides what is
    behind the next place. -/
theorem isSome_oneChar {test : Char → Bool} {item : LikeItem} (hp : '\n' ∉ p.after)
    (hnil : itemsMatch m.same (item :: items) [] = false)
    (hcons : ∀ c cs, c ≠ '\n' →
      itemsMatch m.same (item :: items) (c :: cs) = (test c && itemsMatch m.same items cs))
    (hk : ∀ c q, p.step? = some (c, q) → (k q).isSome = itemsMatch m.same items q.after) :
    (oneChar test k p).isSome = itemsMatch m.same (item :: items) p.after := by
  obtain ⟨before, after, captures⟩ := p
  cases after with
  | nil => exact hnil.symm
  | cons c cs =>
    have hc : c ≠ '\n' := fun e => hp (e ▸ List.mem_cons_self)
    rw [hcons c cs hc, ← hk c ⟨c :: before, cs, captures⟩ rfl]
    show (if test c then _ else _ : Option Place).isSome = _
    cases test c <;> rfl

theorem isSome_any (hp : '\n' ∉ p.after)
    (hk : ∀ c q, p.step? = some (c, q) → (k q).isSome = itemsMatch m.same items q.after) :
    (Regex.run m .any k p).isSome = itemsMatch m.same (.one :: items) p.after := by
  refine isSome_oneChar hp rfl (fun c cs hc => ?_) hk
  rw [itemsMatch, bne_iff_ne.2 hc, Bool.or_true]
  rfl

theorem isSome_char (c : Char) (hp : '\n' ∉ p.after)
    (hk : ∀ d q, p.step? = some (d, q) → (k q).isSome = itemsMatch m.same items q.after) :
    (Regex.run m (.char c.toNat) k p).isSome = itemsMatch m.same (.char c :: items) p.after :=
  isSome_oneChar hp rfl (fun _ _ _ => rfl) hk

/-! ## Repetitions -/

/-- Rounds of a repeated dot, with fuel for all characters that are left: they take as many as
    are still missing, and then any more.  The last round began before the place, so that it does
    not keep another one from being tried. -/
theorem isSome_greedyRounds (hk : k.Decides m items) (least : Nat) :
    ∀ (fuel count : Nat) (last : Option Nat) {p : Place}, '\n' ∉ p.after →
      least - count + p.after.length < fuel → (∀ n ∈ last, n < p.position) →
      (greedyRounds (fun k => Regex.run m .any k) least none k fuel count last p).isSome =
        itemsMatch m.same (List.replicate (least - count) .one ++ .many :: items) p.after := by
  intro fuel
  induction fuel with
  | zero => intro count last p hp hfuel hlast; omega
  | succ fuel ih =>
    intro count last p hp hfuel hlast
    -- a round takes a character and leaves the others to the rounds behind the next place
    have hround : ∀ last' : Option Nat, (∀ n ∈ last', n ≤ p.position) →
        (Regex.run m .any (greedyRounds (fun k => Regex.run m .any k) least none k fuel
          (count + 1) last') p).isSome = itemsMatch m.same
            (.one :: (List.replicate (least - (count + 1)) .one ++ .many :: items)) p.after := by
      intro last' hlast'
      refine isSome_any hp fun c q hq => ?_
      obtain ⟨hafter, hposition⟩ := Place.of_step? hq
      refine ih (count + 1) last' (Place.newlineFree_of_step? hp hq) ?_ fun n hn => ?_
      · rw [hafter, List.length_cons] at hfuel
        omega
      · rw [hposition]
        exact Nat.lt_succ_of_le (hlast' n hn)
    rw [greedyRounds]
    by_cases hcount : count < least
    · have hone : least - count = least - (count + 1) + 1 := by omega
      rw [if_pos hcount, hone, List.replicate_succ]
      exact hround last fun n hn => Nat.le_of_lt (hlast n hn)
    · have hzero : least - count = 0 := by omega
      have hzero' : least - (count + 1) = 0 := by omega
      have hmay : mayRepeat none count last p = true := by
        refine bne_iff_ne.2 fun e => ?_
        exact Nat.lt_irrefl _ (hlast p.position e)
      have hmore := hround (some p.position) (by rintro n ⟨⟩; exact Nat.le_refl _)
      rw [hzero', List.replicate_zero, List.nil_append] at hmore
      rw [if_neg hcount, if_pos hmay, hzero, List.replicate_zero, List.nil_append,
        itemsMatch_many_cons, ← hmore, ← hk p hp]
      cases Regex.run m .any _ p <;> rfl

end

/-! ## Parts -/

section

variable {m : Mode}

theorem Part.decides (part : Part) {k : Rest} {items : List LikeItem} (hk : k.Decides m items) :
    Rest.Decides m (part.regex.run m k) (part.items ++ items) := by
  intro p hp
  have hstep : ∀ c q, p.step? = some (c, q) → (k q).isSome = itemsMatch m.same items q.after :=
    fun c q hq => hk q (Place.newlineFree_of_step? hp hq)
  cases part with
  | plain c | escaped c => exact isSome_char c hp hstep
  | dot => exact isSome_any hp hstep
  | dotStar => exact isSome_greedyRounds hk 0 _ 0 none hp (by omega) (by simp)
  | dotPlus => exact isSome_greedyRounds hk 1 _ 0 none hp (by omega) (by simp)

theorem decides_parts (parts : List Part) {k : Rest} {items : List LikeItem}
    (hk : k.Decides m items) :
    Rest.Decides m ((parts.map Part.regex).foldr (fun r k => r.run m k) k)
      (parts.flatMap Part.items ++ items) := by
  induction parts with
  | nil => exact hk
  | cons part parts ih =>
    rw [List.flatMap_cons, List.append_assoc]
    exact part.decides ih

/-! ## Searches -/

namespace Regex

variable {r : Regex} {items : List LikeItem}

/-- A search finds the items anywhere. -/
theorem searchFrom_any (hr : Rest.Decides m (r.run m some) items) :
    ∀ {before after : List Char}, '\n' ∉ after →
      r.searchFrom m (fun _ => true) before after = itemsMatch m.same (.many :: items) after := by
  intro before after
  induction after generalizing before with
  | nil => exact hr ⟨before, [], []⟩
  | cons c rest ih =>
    intro h
    rw [searchFrom, ih fun hm => h (List.mem_cons_of_mem c hm), Bool.true_and, matchesAt,
      hr ⟨before, c :: rest, []⟩ h]
    rfl

/-- A search for what has to stand at the start of the text finds the items there only. -/
theorem searchFrom_start (hm : m.multiline = false) {k : Rest} (hk : k.Decides m items)
    (hr : r.run m some = Regex.run m (.anchor .lineStart) k) {cs : List Char} (h : '\n' ∉ cs) :
    r.searchFrom m (fun _ => true) [] cs = itemsMatch m.same items cs := by
  have hat : ∀ before after, r.matchesAt m before after =
      (before.isEmpty && (k ⟨before, after, []⟩).isSome) := by
    intro before after
    rw [matchesAt, hr, run, Place.holds, hm, Bool.false_and, Bool.or_false]
    cases before <;> rfl
  have hlater : ∀ rest c before, r.searchFrom m (fun _ => true) (c :: before) rest = false := by
    intro rest
    induction rest with
    | nil => exact fun c before => hat (c :: before) []
    | cons d rest ih =>
      intro c before
      rw [searchFrom, hat, ih]
      rfl
  cases cs with
  | nil => exact (hat [] []).trans (hk _ h)
  | cons c rest =>
    rw [searchFrom, hat, hlater, ← hk ⟨[], c :: rest, []⟩ h]
    simp

end Regex

end

/-! ## Whole patterns -/

namespace Form

theorem of_mem_regexes {form : Form} {r : Regex} (h : r ∈ form.regexes) :
    (∃ a, r = .anchor a) ∨ ∃ part : Part, r = part.regex := by
  have hanchor : ∀ {here : Bool} {a : Anchor}, (r ∈ if here then [Regex.anchor a] else []) →
      ∃ a, r = .anchor a := by
    intro here a h
    cases here with
    | true => exact ⟨a, List.mem_singleton.1 h⟩
    | false => cases h
  unfold regexes lastItems at h
  rw [List.mem_append, List.mem_append, List.mem_map] at h
  rcases h with h | ⟨part, -, rfl⟩ | h
  · exact .inl (hanchor h)
  · exact .inr ⟨part, rfl⟩
  · exact .inl (hanchor h)

/-- What is behind the start of a pattern decides the items behind the start of its form. -/
theorem decides_rest (form : Form) {m : Mode} (hm : m.multiline = false) :
    Rest.Decides m
      ((form.parts.map Part.regex ++ form.lastItems).foldr (fun r k => r.run m k) some)
      (form.parts.flatMap Part.items ++ if form.atEnd then [] else [.many]) := by
  rw [List.foldr_append]
  refine decides_parts form.parts fun p hp => ?_
  unfold lastItems
  cases form.atEnd with
  | true =>
    -- without a line feed, a line ends only where the text does
    have hend : p.holds m .lineEnd = p.after.isEmpty := by
      have hne : p.after ≠ ['\n'] := fun e => hp (by rw [e]; exact List.mem_cons_self)
      rw [Place.holds, beq_eq_false_iff_ne.2 hne, hm]
      simp
    show (if p.holds m .lineEnd then some p else none).isSome = _
    rw [hend, if_pos rfl]
    cases p.after <;> rfl
  | false => exact (itemsMatch_many m.same p.after).symm

/-- A search for a pattern finds what its `LIKE` form stands for. -/
theorem search_eq_itemsMatch (form : Form) {m : Mode} (hm : m.multiline = false) {text : String}
    (h : '\n' ∉ text.toList) : Program.search ⟨Regex.ofItems form.regexes, m⟩ text =
      itemsMatch m.same form.items text.toList := by
  have hlead : (Regex.ofItems form.regexes).leadingSet? m = none := by
    refine Regex.leadingSet?_ofItems fun r hr => ?_
    obtain ⟨a, rfl⟩ | ⟨part, rfl⟩ := of_mem_regexes hr
    · rfl
    · cases part <;> rfl
  have hrun := Regex.run_ofItems m form.regexes some
  have hrest := form.decides_rest hm
  rw [Program.search, hlead]
  show Regex.searchFrom _ _ (fun _ => true) [] _ = _
  unfold Form.items
  cases hs : form.atStart with
  | true => exact Regex.searchFrom_start hm hrest (by rw [hrun, regexes, hs]; rfl) h
  | false => exact Regex.searchFrom_any (by rw [hrun, regexes, hs]; exact hrest) h

/-- A pattern that has parts can be read under flags that do not change how it is read. -/
theorem compile_eq [CharacterNames] (form : Form) {pattern : String}
    (h : pattern.toList = form.written) {flags : FlagSet} (hf : flags.IsSettled) :
    compile pattern flags = .ok ⟨Regex.ofItems form.regexes, flags.mode⟩ := by
  have hcheck : (Regex.ofItems form.regexes).check flags.template = .ok () := by
    rw [hf.template]
    refine Regex.check_ofItems fun r hr => ?_
    obtain ⟨a, rfl⟩ | ⟨part, rfl⟩ := of_mem_regexes hr
    · rfl
    · cases part <;> rfl
  rw [compile, h, form.parse_eq hf]
  show (do (Regex.ofItems form.regexes).check flags.template; return _ :
    Except PatternError Program) = _
  rw [hcheck]
  rfl

/-- A pattern that has parts can be read. -/
theorem compileWith_eq [CharacterNames] (form : Form) {pattern : String}
    (h : pattern.toList = form.written) :
    compileWith pattern [] = .ok ⟨Regex.ofItems form.regexes, {}⟩ := by
  have hsettled : (FlagSet.ofFlags []).IsSettled := ⟨rfl, rfl, rfl⟩
  exact form.compile_eq h hsettled

/-- A search for a pattern, under no flags, finds what is like its form. -/
theorem search_eq (form : Form) {text : String} (h : '\n' ∉ text.toList) :
    Program.search ⟨Regex.ofItems form.regexes, {}⟩ text =
      likeItemsMatch form.items text.toList := by
  rw [form.search_eq_itemsMatch rfl h, Mode.same_exact, itemsMatch_beq]

end Form

/-- **The `LIKE` form of a pattern is exact**: a pattern that has one can be read, and in a text
    without a line feed it is found, no flags given, exactly if the text is like the form. -/
theorem likeOf?_exact [CharacterNames] {pattern like : String} (h : likeOf? pattern = some like) :
    (∃ program, compileWith pattern [] = .ok program) ∧ ∀ text : String, '\n' ∉ text.toList →
      finds pattern [] text = .ok (likeMatches '\\' like.toList text.toList) := by
  obtain ⟨form, hwritten, himage⟩ := likeOf?_eq_some h
  have hcompile := form.compileWith_eq hwritten
  refine ⟨⟨_, hcompile⟩, fun text ht => ?_⟩
  rw [finds, hcompile]
  show Except.ok (Program.search _ text) = _
  rw [form.search_eq ht, likeMatches, himage, form.likeItems?_image]

section

attribute [local instance] CharacterNames.empty

/-- A repeated dot, the signs that are special on the other side only, and an escaped backslash
    before the anchor at the end. -/
theorem likeOf?_exact_of_escapes :
    likeOf? "^a_.+\\.%\\\\$" = some "a\\__%.\\%\\\\" ∧
      finds "^a_.+\\.%\\\\$" [] "a_bc.%\\" = .ok true ∧
      finds "^a_.+\\.%\\\\$" [] "a_.%\\" = .ok false := by
  have h : likeOf? "^a_.+\\.%\\\\$" = some "a\\__%.\\%\\\\" := by decide +kernel
  obtain ⟨-, hfinds⟩ := likeOf?_exact h
  refine ⟨h, ?_, ?_⟩
  · exact (hfinds "a_bc.%\\" (by decide)).trans (congrArg Except.ok (by decide +kernel))
  · exact (hfinds "a_.%\\" (by decide)).trans (congrArg Except.ok (by decide +kernel))

end

end Clearance.Pattern
