/-
  `LIKE` forms in lower case.

  Where case is ignored, a database has the text and the `LIKE` form in lower case, but for the
  letters of ASCII only; and some characters are one to it that are no letters at all.

  * `LikeItem.shortest`: the shortest texts that have some items, with a choice of the characters;
    a match of such a text puts each of them to the test (`same_of_itemsMatch_shortest`);
  * `isLike_lowered`: what is like a form in lower case has its items up to ASCII case and those
    characters;
  * `Form.foldsAlike_iff`: a search that ignores case finds in all texts of one line what is like
    the form in lower case iff the characters of the form fold in ASCII and are told apart from all
    others, unless nothing is found.
-/
import Clearance.Proofs.Pattern.Affix
import Clearance.Proofs.Pattern.LetterCase

namespace Clearance.Pattern

open Sql

/-! ## Items -/

/-- Whether a text is what an item stands for. -/
def LikeItem.holds (same : Char → Char → Bool) : LikeItem → List Char → Bool
  | .char d, [c] => same d c
  | .one, [_] => true
  | .many, _ => true
  | _, _ => false

/-- The shortest text that an item stands for, with a choice of the characters. -/
def LikeItem.shortest (choose : Char → Char) : LikeItem → List Char
  | .char d => [choose d]
  | .one => ['a']
  | .many => []

section

variable {same same' : Char → Char → Bool} {choose : Char → Char} {item : LikeItem}
  {items : List LikeItem} {cs : List Char}

theorem LikeItem.holds_char {d : Char} :
    (LikeItem.char d).holds same cs = true ↔ ∃ c, cs = [c] ∧ same d c = true := by
  rcases cs with _ | ⟨c, _ | ⟨c', cs⟩⟩ <;> simp [holds]

theorem LikeItem.holds_one : LikeItem.one.holds same cs = true ↔ ∃ c, cs = [c] := by
  rcases cs with _ | ⟨c, _ | ⟨c', cs⟩⟩ <;> simp [holds]

theorem LikeItem.holds_mono (h : ∀ d, item = .char d → ∀ c, same d c = true → same' d c = true)
    (hi : item.holds same cs = true) : item.holds same' cs = true := by
  cases item with
  | char d =>
    obtain ⟨c, rfl, hc⟩ := holds_char.1 hi
    exact h d rfl c hc
  | one => exact holds_one.2 (holds_one.1 hi)
  | many => rfl

theorem LikeItem.holds_shortest (h : ∀ d, item = .char d → same d (choose d) = true) :
    item.holds same (item.shortest choose) = true := by
  cases item with
  | char d => exact h d rfl
  | one | many => rfl

theorem LikeItem.length_shortest_le (h : item.holds same cs = true) :
    (item.shortest choose).length ≤ cs.length := by
  cases item with
  | char d =>
    obtain ⟨c, rfl, -⟩ := holds_char.1 h
    exact Nat.le_refl 1
  | one =>
    obtain ⟨c, rfl⟩ := holds_one.1 h
    exact Nat.le_refl 1
  | many => exact Nat.zero_le _

/-- A text has some items if it begins with what the first one stands for, and the rest has the
    others. -/
theorem itemsMatch_cons_iff : itemsMatch same (item :: items) cs = true ↔
    ∃ before after, cs = before ++ after ∧ item.holds same before = true ∧
      itemsMatch same items after = true := by
  constructor
  · intro h
    cases item with
    | char d =>
      cases cs with
      | nil => cases h
      | cons c cs =>
        rw [itemsMatch, Bool.and_eq_true] at h
        exact ⟨[c], cs, rfl, h⟩
    | one =>
      cases cs with
      | nil => cases h
      | cons c cs => exact ⟨[c], cs, rfl, rfl, h⟩
    | many =>
      rw [itemsMatch, Text.anySuffix_iff] at h
      obtain ⟨before, after, hcs, ha⟩ := h
      exact ⟨before, after, hcs, rfl, ha⟩
  · rintro ⟨before, after, rfl, hb, ha⟩
    cases item with
    | char d =>
      obtain ⟨c, rfl, hc⟩ := LikeItem.holds_char.1 hb
      rw [List.singleton_append, itemsMatch, hc, ha]
      rfl
    | one =>
      obtain ⟨c, rfl⟩ := LikeItem.holds_one.1 hb
      exact ha
    | many =>
      rw [itemsMatch, Text.anySuffix_iff]
      exact ⟨before, after, rfl, ha⟩

/-- A looser test of the characters is passed by the same texts, and by others. -/
theorem itemsMatch_mono (h : ∀ d, .char d ∈ items → ∀ c, same d c = true → same' d c = true) :
    ∀ {cs}, itemsMatch same items cs = true → itemsMatch same' items cs = true := by
  induction items with
  | nil => exact fun hm => hm
  | cons item items ih =>
    intro cs hm
    obtain ⟨before, after, hcs, hb, ha⟩ := itemsMatch_cons_iff.1 hm
    refine itemsMatch_cons_iff.2 ⟨before, after, hcs, LikeItem.holds_mono ?_ hb,
      ih (fun d hd => h d (List.mem_cons_of_mem _ hd)) ha⟩
    rintro d rfl
    exact h d List.mem_cons_self

/-- Each character of the items stands for one of the text. -/
theorem exists_of_itemsMatch {d : Char} (hd : .char d ∈ items) :
    ∀ {cs}, itemsMatch same items cs = true → ∃ c ∈ cs, same d c = true := by
  induction items with
  | nil => cases hd
  | cons item items ih =>
    intro cs hm
    obtain ⟨before, after, rfl, hb, ha⟩ := itemsMatch_cons_iff.1 hm
    rcases List.mem_cons.1 hd with rfl | hd
    · obtain ⟨c, rfl, hc⟩ := LikeItem.holds_char.1 hb
      exact ⟨c, by simp, hc⟩
    · obtain ⟨c, hc, hs⟩ := ih hd ha
      exact ⟨c, List.mem_append_right _ hc, hs⟩

theorem itemsMatch_shortest (h : ∀ d, .char d ∈ items → same d (choose d) = true) :
    itemsMatch same items (items.flatMap (LikeItem.shortest choose)) = true := by
  induction items with
  | nil => rfl
  | cons item items ih =>
    refine itemsMatch_cons_iff.2 ⟨_, _, List.flatMap_cons, LikeItem.holds_shortest ?_,
      ih fun d hd => h d (List.mem_cons_of_mem _ hd)⟩
    rintro d rfl
    exact h d List.mem_cons_self

theorem length_shortest_le : ∀ {cs}, itemsMatch same items cs = true →
    (items.flatMap (LikeItem.shortest choose)).length ≤ cs.length := by
  induction items with
  | nil => exact fun _ => Nat.zero_le _
  | cons item items ih =>
    intro cs hm
    obtain ⟨before, after, rfl, hb, ha⟩ := itemsMatch_cons_iff.1 hm
    rw [List.flatMap_cons, List.length_append, List.length_append]
    exact Nat.add_le_add (LikeItem.length_shortest_le hb) (ih ha)

/-- **A shortest text leaves no room**: a match puts each of its characters to the test. -/
theorem same_of_itemsMatch_shortest
    (hm : itemsMatch same items (items.flatMap (LikeItem.shortest choose)) = true) :
    ∀ d, .char d ∈ items → same d (choose d) = true := by
  induction items with
  | nil => exact fun d hd => nomatch hd
  | cons item items ih =>
    obtain ⟨before, after, hcs, hb, ha⟩ := itemsMatch_cons_iff.1 hm
    rw [List.flatMap_cons] at hcs
    -- both pieces are at least as long as what they are pieces of
    have hlength := congrArg List.length hcs
    rw [List.length_append, List.length_append] at hlength
    have hbefore : (item.shortest choose).length ≤ before.length :=
      LikeItem.length_shortest_le hb
    have hafter : (items.flatMap (LikeItem.shortest choose)).length ≤ after.length :=
      length_shortest_le ha
    obtain ⟨rfl, rfl⟩ := List.append_inj hcs (by omega)
    intro d hd
    rcases List.mem_cons.1 hd with rfl | hd
    · exact hb
    · exact ih ha d hd

end

/-! ## Forms in lower case -/

/-- An item with other characters. -/
def LikeItem.map (f : Char → Char) : LikeItem → LikeItem
  | .char d => .char (f d)
  | .one => .one
  | .many => .many

theorem anySuffix_map (test : List Char → Bool) (f : Char → Char) (cs : List Char) :
    Text.anySuffix test (cs.map f) = Text.anySuffix (fun after => test (after.map f)) cs := by
  induction cs with
  | nil => rfl
  | cons c cs ih =>
    rw [List.map_cons, Text.anySuffix, ih]
    rfl

theorem itemsMatch_map (same : Char → Char → Bool) (f : Char → Char) (items : List LikeItem) :
    ∀ cs, itemsMatch same (items.map (LikeItem.map f)) (cs.map f) =
      itemsMatch (fun d c => same (f d) (f c)) items cs := by
  induction items with
  | nil => intro cs; cases cs <;> rfl
  | cons item items ih =>
    intro cs
    cases item with
    | char d =>
      cases cs with
      | nil => rfl
      | cons c cs => exact congrArg _ (ih cs)
    | one =>
      cases cs with
      | nil => rfl
      | cons c cs => exact ih cs
    | many => exact (anySuffix_map _ f cs).trans (congrArg (Text.anySuffix · cs) (funext ih))

/-- A form with other characters stands for the same with these, if no character becomes a special
    one or ceases to be one. -/
theorem likeItems?_map {f : Char → Char}
    (hspecial : ∀ d ∈ ['\\', '%', '_'], ∀ c : Char, f c = d ↔ c = d) (cs : List Char) :
    likeItems? '\\' (cs.map f) = (likeItems? '\\' cs).map (List.map (LikeItem.map f)) := by
  have hself : ∀ d ∈ ['\\', '%', '_'], f d = d := fun d hd => (hspecial d hd d).2 rfl
  fun_induction likeItems? '\\' cs with
  | case1 => rfl
  | case2 =>
    rw [List.map_cons, List.map_nil, hself _ List.mem_cons_self]
    rfl
  | case3 d rest ih =>
    rw [List.map_cons, List.map_cons, hself _ List.mem_cons_self, likeItems?_escape, ih,
      Option.map_map, Option.map_map]
    rfl
  | case4 rest h ih =>
    rw [List.map_cons, hself _ (by simp), likeItems?_many _ h, ih, Option.map_map, Option.map_map]
    rfl
  | case5 rest h _ ih =>
    rw [List.map_cons, hself _ (by simp), likeItems?_one _ h, ih, Option.map_map, Option.map_map]
    rfl
  | case6 d rest hescape hmany hone ih =>
    rw [List.map_cons, likeItems?_char _ (mt (hspecial _ (by simp) d).1 hescape)
      (mt (hspecial _ (by simp) d).1 hmany) (mt (hspecial _ (by simp) d).1 hone), ih,
      Option.map_map, Option.map_map]
    rfl

theorem beforeNull_lowered (s : String) :
    Datum.beforeNull (Datum.lowered s) = (Datum.beforeNull s).map Char.toLower := by
  have hnull : ((· != '\x00') ∘ Char.toLower) = (· != '\x00') := by
    funext c
    have h : c.toLower = '\x00' ↔ c = '\x00' := Text.toLower_eq_iff_eq (by decide) (by decide)
    exact Bool.eq_iff_iff.2 (by simp [h])
  rw [Datum.beforeNull, Datum.lowered, String.toList_ofList, List.takeWhile_map, hnull,
    Datum.beforeNull]

/-- A character as `LIKE` reads it in lower case. -/
def likeLower (c : Char) : Char := Datum.likeChar c.toLower

/-- Whether characters are the same to `LIKE` in lower case. -/
def sameLowered (d c : Char) : Bool := likeLower c == likeLower d

/-- What is neither a letter of ASCII nor taken for another character is read as itself only. -/
theorem likeLower_eq_iff_eq {c d : Char} (h : ¬ (65 ≤ d.toNat ∧ d.toNat ≤ 90))
    (h' : ¬ (97 ≤ d.toNat ∧ d.toNat ≤ 122)) (hd : d ∉ Datum.blurred) :
    likeLower c = d ↔ c = d :=
  (Datum.likeChar_eq_iff_eq hd).trans (Text.toLower_eq_iff_eq h h')

theorem toLower_mem_blurred {c : Char} : c.toLower ∈ Datum.blurred ↔ c ∈ Datum.blurred := by
  have hself : ∀ d ∈ Datum.blurred, c.toLower = d ↔ c = d := fun d hd => by
    rcases Datum.mem_blurred.1 hd with rfl | rfl | rfl <;>
      exact Text.toLower_eq_iff_eq (by decide) (by decide)
  constructor
  · intro h
    rwa [← (hself _ h).1 rfl] at h
  · intro h
    rwa [(hself _ h).2 rfl]

theorem sameLowered_iff {d c : Char} : sameLowered d c = true ↔
    c.toLower = d.toLower ∨ c ∈ Datum.blurred ∧ d ∈ Datum.blurred := by
  rw [sameLowered, beq_iff_eq, likeLower, likeLower, Datum.likeChar_eq_likeChar,
    toLower_mem_blurred, toLower_mem_blurred]

/-- What `LIKE` does not tell apart in lower case, Unicode does not, but for the characters that it
    takes for one another. -/
theorem same_of_sameLowered {d c : Char} (hd : d ∉ Datum.blurred) (h : sameLowered d c = true) :
    Mode.anyCase.same d c = true :=
  Mode.same_of_toLower ((sameLowered_iff.1 h).resolve_right fun h => hd h.2)

/-- What comes before the letters is told apart from all else. -/
theorem eq_of_sameLowered {d c : Char} (hc : c.toNat < 65) (h : sameLowered d c = true) :
    c = d := by
  have hread : ∀ e, likeLower e = c ↔ e = c := fun e =>
    likeLower_eq_iff_eq (by omega) (by omega) (Datum.notMem_blurred_of_ascii (by omega))
  exact ((hread d).1 ((beq_iff_eq.1 h).symm.trans ((hread c).2 rfl))).symm

/-- **What is like a form in lower case** has its items to `LIKE` in lower case, both up to their
    first null characters. -/
theorem isLike_lowered {like : String} {items : List LikeItem}
    (h : likeItems? '\\' (Datum.beforeNull like) = some items) (s : String) :
    Datum.isLike '\\' (some (Datum.lowered like)) (some (Datum.lowered s)) =
      some (itemsMatch sameLowered items (Datum.beforeNull s)) := by
  have hread : ∀ s, Datum.likeRead (Datum.lowered s) = (Datum.beforeNull s).map likeLower := by
    intro s
    rw [Datum.likeRead, beforeNull_lowered, List.map_map]
    rfl
  have hspecial : ∀ d ∈ ['\\', '%', '_'], ∀ c, likeLower c = d ↔ c = d := fun d hd c => by
    simp only [List.mem_cons, List.not_mem_nil, or_false] at hd
    rcases hd with rfl | rfl | rfl <;>
      exact likeLower_eq_iff_eq (by decide) (by decide) (Datum.notMem_blurred_of_ascii (by decide))
  show some (likeMatches '\\' (Datum.likeRead _) (Datum.likeRead _)) = _
  rw [hread, hread, likeMatches, likeItems?_map hspecial, h]
  dsimp only [Option.map_some]
  rw [← itemsMatch_beq, itemsMatch_map]
  rfl

/-! ## Characters of forms -/

theorem mem_of_likeItems? {cs : List Char} {items : List LikeItem}
    (h : likeItems? '\\' cs = some items) {d : Char} (hd : .char d ∈ items) : d ∈ cs := by
  fun_induction likeItems? '\\' cs generalizing items with
  | case1 => cases h; cases hd
  | case2 => cases h
  | case3 e rest ih | case6 e rest _ _ _ ih =>
    obtain ⟨items', h', rfl⟩ := Option.map_eq_some_iff.1 h
    rcases List.mem_cons.1 hd with hd | hd
    · cases hd
      simp
    · simp [ih h' hd]
  | case4 rest _ ih | case5 rest _ _ ih =>
    obtain ⟨items', h', rfl⟩ := Option.map_eq_some_iff.1 h
    exact List.mem_cons_of_mem _ (ih h' (by simpa using hd))

/-- A character of a form stands for itself, unless it is special. -/
theorem char_mem_of_likeItems? {cs : List Char} {items : List LikeItem}
    (h : likeItems? '\\' cs = some items) {d : Char} (hd : d ∈ cs)
    (hs : d ∉ ['\\', '%', '_']) : .char d ∈ items := by
  fun_induction likeItems? '\\' cs generalizing items with
  | case1 => cases hd
  | case2 => cases h
  | case3 e rest ih =>
    obtain ⟨items', h', rfl⟩ := Option.map_eq_some_iff.1 h
    simp only [List.mem_cons] at hd
    rcases hd with rfl | rfl | hd
    · simp at hs
    · exact List.mem_cons_self
    · exact List.mem_cons_of_mem _ (ih h' hd)
  | case4 rest _ ih | case5 rest _ _ ih =>
    obtain ⟨items', h', rfl⟩ := Option.map_eq_some_iff.1 h
    rcases List.mem_cons.1 hd with rfl | hd
    · simp at hs
    · exact List.mem_cons_of_mem _ (ih h' hd)
  | case6 e rest _ _ _ ih =>
    obtain ⟨items', h', rfl⟩ := Option.map_eq_some_iff.1 h
    rcases List.mem_cons.1 hd with rfl | hd
    · exact List.mem_cons_self
    · exact List.mem_cons_of_mem _ (ih h' hd)

/-- An image can be cut at a null character: no escape character stands in front of one. -/
theorem Part.likeItems?_cut (part : Part) {rest : List Char} (h : ∃ items,
    likeItems? '\\' (rest.takeWhile (· != '\x00')) = some items) : ∃ items,
      likeItems? '\\' ((part.image ++ rest).takeWhile (· != '\x00')) = some items := by
  have hwhole : '\x00' ∉ part.image → ∃ items,
      likeItems? '\\' ((part.image ++ rest).takeWhile (· != '\x00')) = some items := by
    intro hn
    rw [List.takeWhile_append_of_pos (by rintro c hc; simpa using ne_of_mem_of_not_mem hc hn),
      part.likeItems?_image]
    obtain ⟨items, h⟩ := h
    exact ⟨_, congrArg _ h⟩
  have hliteral : ∀ c, part.image = likeLiteral c → ∃ items,
      likeItems? '\\' ((part.image ++ rest).takeWhile (· != '\x00')) = some items := by
    intro c hc
    by_cases hn : c = '\x00'
    · rw [hc, hn]
      exact ⟨[], rfl⟩
    · refine hwhole ?_
      rw [hc, likeLiteral]
      split <;> simp [Ne.symm hn]
  cases part with
  | plain c | escaped c => exact hliteral c rfl
  | dot | dotStar | dotPlus => exact hwhole (by decide)

theorem Form.likeItems?_cut (form : Form) :
    ∃ items, likeItems? '\\' (form.image.takeWhile (· != '\x00')) = some items := by
  have hlast : ∃ items, likeItems? '\\'
      ((if form.atEnd then [] else ['%']).takeWhile (· != '\x00')) = some items := by
    cases form.atEnd with
    | true => exact ⟨[], rfl⟩
    | false => exact ⟨[.many], rfl⟩
  have hparts : ∀ parts : List Part, ∃ items, likeItems? '\\' ((parts.flatMap Part.image ++
      if form.atEnd then [] else ['%']).takeWhile (· != '\x00')) = some items := by
    intro parts
    induction parts with
    | nil => exact hlast
    | cons part parts ih =>
      rw [List.flatMap_cons, List.append_assoc]
      exact part.likeItems?_cut ih
  unfold Form.image
  rw [List.append_assoc]
  cases form.atStart with
  | true => exact hparts form.parts
  | false => exact Part.dotStar.likeItems?_cut (hparts form.parts)

/-! ## Texts of one line -/

/-- A text without line feeds and null characters. -/
def IsLine (cs : List Char) : Prop := '\n' ∉ cs ∧ '\x00' ∉ cs

/-- On texts of one line, ASCII makes of some items what Unicode makes of others. -/
def AgreeOnLines (cut items : List LikeItem) : Prop :=
  ∀ cs, IsLine cs → itemsMatch sameLowered cut cs = itemsMatch Mode.anyCase.same items cs

theorem mem_shortest {items : List LikeItem} {choose : Char → Char} {c : Char}
    (h : c ∈ items.flatMap (LikeItem.shortest choose)) :
    c = 'a' ∨ ∃ d, .char d ∈ items ∧ c = choose d := by
  obtain ⟨item, hi, hc⟩ := List.mem_flatMap.1 h
  cases item with
  | char d => exact .inr ⟨d, hi, List.mem_singleton.1 hc⟩
  | one => exact .inl (List.mem_singleton.1 hc)
  | many => cases hc

theorem isLine_shortest {items : List LikeItem} {choose : Char → Char}
    (h : ∀ d, .char d ∈ items → choose d ≠ '\n' ∧ choose d ≠ '\x00') :
    IsLine (items.flatMap (LikeItem.shortest choose)) := by
  constructor <;> intro hm
  · rcases mem_shortest hm with hc | ⟨d, hd, hc⟩
    · cases hc
    · exact (h d hd).1 hc.symm
  · rcases mem_shortest hm with hc | ⟨d, hd, hc⟩
    · cases hc
    · exact (h d hd).2 hc.symm

section

variable {cut items : List LikeItem}

/-- Nothing of one line has a line feed among its items. -/
theorem AgreeOnLines.of_newline (hc : .char '\n' ∈ cut) (hi : .char '\n' ∈ items) :
    AgreeOnLines cut items := by
  have hno : ∀ {same : Char → Char → Bool} {l : List LikeItem} {cs : List Char},
      (∀ c, same '\n' c = true → c = '\n') → .char '\n' ∈ l → IsLine cs →
      itemsMatch same l cs = false := by
    intro same l cs hs hm hline
    by_contra hne
    obtain ⟨c, hc, hsame⟩ := exists_of_itemsMatch hm (Bool.not_eq_false _ ▸ hne)
    exact hline.1 (hs c hsame ▸ hc)
  have hlowered : ∀ c, sameLowered '\n' c = true → c = '\n' := fun c h =>
    (likeLower_eq_iff_eq (by decide) (by decide) (by decide)).1 (beq_iff_eq.1 h)
  intro cs hline
  rw [hno hlowered hc hline, hno (fun c => eq_of_same (.inl (by decide))) hi hline]

theorem AgreeOnLines.of_folds (h : ∀ d, .char d ∈ items → FoldsInAscii d ∧ d ∉ Datum.blurred) :
    AgreeOnLines items items := fun _ _ => Bool.eq_iff_iff.2
  ⟨itemsMatch_mono fun d hd _ hc => same_of_sameLowered (h d hd).2 hc,
    itemsMatch_mono fun d hd c hc => sameLowered_iff.2 (.inl ((h d hd).1 c hc))⟩

/-- The shortest text that has the first items must have the others, and so no null character is
    among these. -/
theorem AgreeOnLines.nulFree (h : AgreeOnLines cut items)
    (hc : ∀ d, .char d ∈ cut → d ≠ '\n' ∧ d ≠ '\x00') : .char '\x00' ∉ items := by
  intro hn
  have hline : IsLine (cut.flatMap (LikeItem.shortest id)) := isLine_shortest hc
  have hcut : itemsMatch sameLowered cut (cut.flatMap (LikeItem.shortest id)) = true :=
    itemsMatch_shortest fun d _ => beq_self_eq_true _
  rw [h _ hline] at hcut
  obtain ⟨c, hm, hs⟩ := exists_of_itemsMatch hn hcut
  exact hline.2 (eq_of_same (.inl (by decide)) hs ▸ hm)

/-- The shortest text with another character in the place of one of the items puts this character
    to the second test, if it has passed the first. -/
theorem same_of_lines {same same' : Char → Char → Bool}
    (h : ∀ cs, IsLine cs → itemsMatch same items cs = true → itemsMatch same' items cs = true)
    (hself : ∀ d, same d d = true)
    (hcontrol : ∀ d control : Char, control.toNat < 65 → same d control = true → control = d)
    (hi : ∀ d, .char d ∈ items → d ≠ '\n' ∧ d ≠ '\x00') :
    ∀ d, .char d ∈ items → ∀ c, same d c = true → same' d c = true := by
  intro d hd c hc
  let choose := Function.update id d c
  have hchoose : choose d = c := Function.update_self d c id
  have hsame : ∀ e, same e (choose e) = true := by
    intro e
    rcases eq_or_ne e d with rfl | he
    · rw [hchoose]
      exact hc
    · rw [show choose e = e from Function.update_of_ne he c id]
      exact hself e
  have hplain : ∀ e, .char e ∈ items → choose e ≠ '\n' ∧ choose e ≠ '\x00' := by
    intro e he
    constructor <;> intro hch <;> have hs := hsame e <;> rw [hch] at hs
    · exact (hi e he).1 (hcontrol e _ (by decide) hs).symm
    · exact (hi e he).2 (hcontrol e _ (by decide) hs).symm
  have hm := h _ (isLine_shortest hplain) (itemsMatch_shortest fun e _ => hsame e)
  exact hchoose ▸ same_of_itemsMatch_shortest hm d hd

/-- Where both make the same of the items, their characters fold in ASCII and are told apart from
    all others. -/
theorem AgreeOnLines.folds (h : AgreeOnLines items items)
    (hi : ∀ d, .char d ∈ items → d ≠ '\n' ∧ d ≠ '\x00') :
    ∀ d, .char d ∈ items → FoldsInAscii d ∧ d ∉ Datum.blurred := by
  intro d hd
  have hlowered : ∀ c, sameLowered d c = true → Mode.anyCase.same d c = true :=
    same_of_lines (fun cs hline hm => (h cs hline).symm.trans hm)
      (fun _ => beq_self_eq_true (likeLower _)) (fun _ _ => eq_of_sameLowered) hi d hd
  have hsame : ∀ c, Mode.anyCase.same d c = true → sameLowered d c = true :=
    same_of_lines (fun cs hline hm => (h cs hline).trans hm) (fun _ => Mode.same_of_toLower rfl)
      (fun _ _ hsmall => eq_of_same (.inr hsmall)) hi d hd
  have hb : d ∉ Datum.blurred := by
    intro hb
    have hc : ∀ c ∈ Datum.blurred, Mode.anyCase.same d c = true := fun c hc =>
      hlowered c (sameLowered_iff.2 (.inr ⟨hc, hb⟩))
    -- case tells all of these characters apart
    obtain ⟨c, hm, hf⟩ : ∃ c ∈ Datum.blurred, Mode.anyCase.same d c = false := by
      rcases Datum.mem_blurred.1 hb with rfl | rfl | rfl
      · exact ⟨'\ufffe', Datum.mem_blurred.2 (.inr (.inl rfl)), by decide +kernel⟩
      · exact ⟨'\uffff', Datum.mem_blurred.2 (.inr (.inr rfl)), by decide +kernel⟩
      · exact ⟨'\ufffd', Datum.mem_blurred.2 (.inl rfl), by decide +kernel⟩
    rw [hc c hm] at hf
    cases hf
  exact ⟨fun c hc => (sameLowered_iff.1 (hsame c hc)).resolve_right fun h => hb h.2, hb⟩

end

/-! ## Whole forms -/

/-- A form of which ASCII and Unicode make the same: all its characters fold in ASCII, none is
    taken for another one, and none is null, at which a database stops to read; or no text of one
    line is like what is read of it. -/
def FoldsAlike (like : String) : Prop :=
  '\n' ∈ Datum.beforeNull like ∨
    Text.NulFree like ∧ ∀ d ∈ like.toList, FoldsInAscii d ∧ d ∉ Datum.blurred

section

variable {form : Form} {like : String} (hl : like.toList = form.image)

include hl

theorem Form.likeItems?_like : likeItems? '\\' like.toList = some form.items := by
  rw [hl, form.likeItems?_image]

/-- What is like a form in lower case is found by a search that ignores case, if the characters of
    the form are told apart. -/
theorem Form.itemsMatch_of_isLike (hn : Text.NulFree like)
    (hd : ∀ d ∈ like.toList, d ∉ Datum.blurred) {s : String} (hs : Text.NulFree s)
    (h : Datum.isLike '\\' (some (Datum.lowered like)) (some (Datum.lowered s)) = some true) :
    itemsMatch Mode.anyCase.same form.items s.toList = true := by
  have hitems := likeItems?_like hl
  have hread : likeItems? '\\' (Datum.beforeNull like) = some form.items := by
    rw [Datum.beforeNull_eq hn, hitems]
  rw [isLike_lowered hread, Datum.beforeNull_eq hs, Option.some.injEq] at h
  exact itemsMatch_mono
    (fun d hm _ hc => same_of_sameLowered (hd d (mem_of_likeItems? hitems hm)) hc) h

/-- The items of what is read of a form agree with all of its items iff ASCII and Unicode make the
    same of it. -/
theorem Form.agreeOnLines_iff {cut : List LikeItem}
    (hcut : likeItems? '\\' (Datum.beforeNull like) = some cut) :
    AgreeOnLines cut form.items ↔ FoldsAlike like := by
  have hitems := likeItems?_like hl
  have hread : ∀ {d}, d ∈ Datum.beforeNull like → d ∈ like.toList ∧ d ≠ '\x00' := fun hd =>
    ⟨(List.takeWhile_prefix _).subset hd, by simpa using List.mem_takeWhile_imp hd⟩
  have hall : Text.NulFree like → cut = form.items := by
    intro hn
    rw [Datum.beforeNull_eq hn, hitems] at hcut
    exact (Option.some.inj hcut).symm
  constructor
  · intro h
    by_cases hline : '\n' ∈ Datum.beforeNull like
    · exact .inl hline
    have hplain : ∀ d, .char d ∈ cut → d ≠ '\n' ∧ d ≠ '\x00' := by
      intro d hd
      have hm := mem_of_likeItems? hcut hd
      exact ⟨ne_of_mem_of_not_mem hm hline, (hread hm).2⟩
    have hn : Text.NulFree like := fun hm =>
      h.nulFree hplain (char_mem_of_likeItems? hitems hm (by decide))
    obtain rfl := hall hn
    refine .inr ⟨hn, fun d hd => ?_⟩
    by_cases hs : d ∈ ['\\', '%', '_']
    · simp only [List.mem_cons, List.not_mem_nil, or_false] at hs
      rcases hs with rfl | rfl | rfl <;>
        exact ⟨(foldsInAscii_iff (by decide)).2 (by decide), by decide⟩
    · exact h.folds hplain d (char_mem_of_likeItems? hitems hd hs)
  · rintro (hline | ⟨hn, hfolds⟩)
    · exact .of_newline (char_mem_of_likeItems? hcut hline (by decide))
        (char_mem_of_likeItems? hitems (hread hline).1 (by decide))
    · rw [hall hn]
      exact .of_folds fun d hd => hfolds d (mem_of_likeItems? hitems hd)

/-- **When a search that ignores case agrees with the form in lower case** on all texts of one
    line. -/
theorem Form.foldsAlike_iff : (∀ s : String, IsLine s.toList →
    Datum.isLike '\\' (some (Datum.lowered like)) (some (Datum.lowered s)) =
      some (itemsMatch Mode.anyCase.same form.items s.toList)) ↔ FoldsAlike like := by
  obtain ⟨cut, hcut⟩ := form.likeItems?_cut
  rw [← hl] at hcut
  rw [← agreeOnLines_iff hl hcut]
  constructor
  · intro h cs hline
    have hs := h (String.ofList cs) (by rwa [String.toList_ofList])
    rw [isLike_lowered hcut, Datum.beforeNull_eq
      (by rw [Text.NulFree, String.toList_ofList]; exact hline.2), String.toList_ofList] at hs
    exact Option.some.inj hs
  · intro h s hline
    rw [isLike_lowered hcut, Datum.beforeNull_eq hline.2, h _ hline]

end

end Clearance.Pattern
