/-
  `LIKE` patterns around a text.

  * `likeItems?_escapeLike`: an escaped text stands for its own characters;
  * `Datum.blurred`: the characters that `LIKE` takes for one another, and `Text.ToldApart`: none of
    them keeps two texts from being compared;
  * `isLike_affixPattern`: the pattern that a text is put into for a test decides this test,
    unless the null character, at which a database stops to read, or such characters are involved.
-/
import Mathlib.Data.List.TakeWhile
import Clearance.Decision.Evaluate
import Clearance.Proofs.Lists
import Clearance.Sql.Database

namespace Clearance

open Pattern Sql

/-- A text without null characters. -/
def Text.NulFree (s : String) : Prop := '\x00' ∉ s.toList

namespace Pattern

/-! ## Escaped texts -/

/-- The escaped form of a character. -/
def escaped (c : Char) : List Char := if c = '/' || c = '%' || c = '_' then ['/', c] else [c]

theorem likeItems?_escaped (c : Char) (rest : List Char) :
    likeItems? '/' (escaped c ++ rest) = (likeItems? '/' rest).map (.char c :: ·) := by
  unfold escaped
  split
  · exact likeItems?_escape rest c
  · rename_i h
    simp only [Bool.or_eq_true, decide_eq_true_eq, not_or] at h
    exact likeItems?_char rest h.1.1 h.1.2 h.2

/-- **An escaped text stands for its characters**, whatever they are. -/
theorem likeItems?_escapeLike (cs rest : List Char) :
    likeItems? '/' (cs.flatMap escaped ++ rest) =
      (likeItems? '/' rest).map (cs.map LikeItem.char ++ ·) := by
  induction cs with
  | nil => simp
  | cons c cs ih =>
    rw [List.flatMap_cons, List.append_assoc, likeItems?_escaped, ih, Option.map_map]
    rfl

theorem toList_escapeLike (s : String) : (escapeLike s).toList = s.toList.flatMap escaped :=
  String.toList_ofList

/-! ## Items -/

theorem likeItemsMatch_many (cs : List Char) : likeItemsMatch [.many] cs = true := by
  rw [likeItemsMatch, Text.anySuffix_iff]
  exact ⟨cs, [], by simp, rfl⟩

/-- The characters of a text match this text only. -/
theorem likeItemsMatch_chars (cs : List Char) : ∀ text,
    likeItemsMatch (cs.map .char) text = decide (cs = text) := by
  induction cs with
  | nil => intro text; cases text <;> rfl
  | cons c cs ih =>
    intro text
    cases text with
    | nil => rfl
    | cons t text =>
      rw [List.map_cons, likeItemsMatch, ih]
      by_cases h : t = c
      · subst h; simp
      · have h' : ¬ c = t := fun e => h e.symm
        simp [h, h']

/-- The characters of a text with anything behind them match what begins with the text. -/
theorem likeItemsMatch_chars_many (cs : List Char) : ∀ text,
    likeItemsMatch (cs.map .char ++ [.many]) text = Text.startsWith cs text := by
  induction cs with
  | nil => exact fun text => likeItemsMatch_many text
  | cons c cs ih =>
    intro text
    cases text with
    | nil => rfl
    | cons t text =>
      rw [List.map_cons, List.cons_append, likeItemsMatch, ih, Text.startsWith, Text.startsWith,
        List.isPrefixOf_cons_cons]
      congr 1
      by_cases h : t = c
      · subst h; simp
      · have h' : ¬ c = t := fun e => h e.symm
        simp [h, h']

/-- The characters of a text with anything in front of them match what ends with the text. -/
theorem likeItemsMatch_many_chars (cs text : List Char) :
    likeItemsMatch (.many :: cs.map .char) text = Text.endsWith cs text := by
  have h : likeItemsMatch (.many :: cs.map .char) text = true ↔ Text.endsWith cs text = true := by
    rw [likeItemsMatch, Text.anySuffix_iff, Text.endsWith, List.isSuffixOf_iff_suffix]
    simp only [likeItemsMatch_chars, decide_eq_true_eq]
    constructor
    · rintro ⟨before, after, rfl, rfl⟩; exact ⟨before, rfl⟩
    · rintro ⟨before, rfl⟩; exact ⟨before, cs, rfl, rfl⟩
  exact Bool.eq_iff_iff.2 h

/-- With anything on both sides they match what contains the text. -/
theorem likeItemsMatch_many_chars_many (cs text : List Char) :
    likeItemsMatch (.many :: (cs.map .char ++ [.many])) text = Text.contains cs text := by
  rw [likeItemsMatch, Text.contains]
  congr 1
  exact funext (likeItemsMatch_chars_many cs)

end Pattern

/-! ## Patterns -/

theorem likeMatches_affixPattern (test : TextTest) (text s : String) :
    likeMatches '/' (affixPattern test text).toList s.toList = test.holds text s := by
  have hi : ∀ rest, likeItems? '/' ((escapeLike text).toList ++ rest) =
      (likeItems? '/' rest).map (text.toList.map LikeItem.char ++ ·) := by
    intro rest
    rw [toList_escapeLike, likeItems?_escapeLike]
  unfold likeMatches affixPattern
  cases test with
  | startsWith =>
    have h := hi ['%']
    rw [show likeItems? '/' ['%'] = some [.many] from rfl, Option.map_some] at h
    rw [String.toList_append, show "%".toList = ['%'] from rfl, h]
    exact likeItemsMatch_chars_many _ _
  | endsWith =>
    have h := hi []
    rw [show likeItems? '/' [] = some [] from rfl, Option.map_some, List.append_nil,
      List.append_nil] at h
    rw [String.toList_append, show "%".toList = ['%'] from rfl, List.singleton_append,
      likeItems?_many _ (by decide), h]
    exact likeItemsMatch_many_chars _ _
  | contains =>
    have h := hi ['%']
    rw [show likeItems? '/' ['%'] = some [.many] from rfl, Option.map_some] at h
    rw [String.toList_append, String.toList_append, show "%".toList = ['%'] from rfl,
      List.singleton_append, List.cons_append,
      likeItems?_many _ (by decide), h]
    exact likeItemsMatch_many_chars_many _ _

/-! ## Characters that are taken for one another -/

namespace Sql.Datum

/-- The characters that `LIKE` takes for one another. -/
def blurred : List Char := ['\ufffd', '\ufffe', '\uffff']

theorem mem_blurred {c : Char} : c ∈ blurred ↔ c = '\ufffd' ∨ c = '\ufffe' ∨ c = '\uffff' := by
  simp [blurred]

theorem likeChar_of_mem {c : Char} (h : c ∈ blurred) : likeChar c = replacement := by
  rcases mem_blurred.1 h with rfl | rfl | rfl <;> rfl

theorem likeChar_of_notMem {c : Char} (h : c ∉ blurred) : likeChar c = c := by
  rw [mem_blurred, not_or, not_or] at h
  simp [likeChar, h.2]

theorem notMem_blurred_of_ascii {c : Char} (h : c.toNat < 128) : c ∉ blurred := fun hc => by
  rcases mem_blurred.1 hc with rfl | rfl | rfl <;> exact absurd h (by decide)

theorem likeChar_eq_iff_eq {c d : Char} (h : d ∉ blurred) : likeChar c = d ↔ c = d := by
  by_cases hc : c ∈ blurred
  · rw [likeChar_of_mem hc]
    constructor
    · rintro rfl
      exact absurd (by decide) h
    · rintro rfl
      exact absurd hc h
  · rw [likeChar_of_notMem hc]

/-- **Which characters `LIKE` tells apart**: all but these. -/
theorem likeChar_eq_likeChar {c d : Char} :
    likeChar c = likeChar d ↔ c = d ∨ c ∈ blurred ∧ d ∈ blurred := by
  by_cases hd : d ∈ blurred
  · by_cases hc : c ∈ blurred
    · simp [likeChar_of_mem hc, likeChar_of_mem hd, hc, hd]
    · rw [eq_comm, likeChar_of_notMem hc, likeChar_eq_iff_eq hc, eq_comm]
      simp [hc]
  · rw [likeChar_of_notMem hd, likeChar_eq_iff_eq hd]
    simp [hd]

theorem beforeNull_eq {s : String} (h : Text.NulFree s) : beforeNull s = s.toList := by
  refine List.takeWhile_eq_self_iff.2 fun c hc => ?_
  simp only [bne_iff_ne]
  rintro rfl
  exact h hc

theorem likeRead_eq {s : String} (h : Text.NulFree s) :
    likeRead s = s.toList.map likeChar := congrArg (List.map likeChar) (beforeNull_eq h)

end Sql.Datum

/-- `LIKE` takes no character of a text for another one that is in a second text. -/
def Text.ToldApart (text s : String) : Prop :=
  ∀ c ∈ text.toList, ∀ d ∈ s.toList, Datum.likeChar c = Datum.likeChar d → c = d

/-- A test looks for a text in a place of its own. -/
theorem TextTest.holds_iff {test : TextTest} {text s : String} :
    test.holds text s = true ↔ ∃ before after, s.toList = before ++ text.toList ++ after ∧
      (test = .startsWith → before = []) ∧ (test = .endsWith → after = []) := by
  cases test with
  | startsWith =>
    simp only [holds, Text.startsWith, List.isPrefixOf_iff_prefix]
    constructor
    · rintro ⟨after, h⟩
      exact ⟨[], after, h.symm, fun _ => rfl, by simp⟩
    · rintro ⟨before, after, h, hb, -⟩
      rw [hb trivial] at h
      exact ⟨after, h.symm⟩
  | endsWith =>
    simp only [holds, Text.endsWith, List.isSuffixOf_iff_suffix]
    constructor
    · rintro ⟨before, h⟩
      exact ⟨before, [], by rw [List.append_nil, h], by simp, fun _ => rfl⟩
    · rintro ⟨before, after, h, -, ha⟩
      rw [ha trivial, List.append_nil] at h
      exact ⟨before, h.symm⟩
  | contains =>
    simp only [holds, Text.contains_iff]
    constructor
    · rintro ⟨before, after, h⟩
      exact ⟨before, after, h.symm, by simp, by simp⟩
    · rintro ⟨before, after, h, -, -⟩
      exact ⟨before, after, h.symm⟩

/-- Texts with other characters pass the same tests, if none of one comes to be one of the other. -/
theorem TextTest.holds_map (test : TextTest) {f : Char → Char} {text s : String}
    (h : ∀ c ∈ text.toList, ∀ d ∈ s.toList, f c = f d → c = d) :
    test.holds (String.ofList (text.toList.map f)) (String.ofList (s.toList.map f)) =
      test.holds text s := by
  refine Bool.eq_iff_iff.2 ?_
  rw [holds_iff, holds_iff, String.toList_ofList, String.toList_ofList]
  constructor
  · rintro ⟨before, after, himage, hb, ha⟩
    obtain ⟨first, last, hs, hfirst, rfl⟩ := List.map_eq_append_iff.1 himage
    obtain ⟨first, middle, rfl, rfl, hmiddle⟩ := List.map_eq_append_iff.1 hfirst
    have htext : text.toList = middle := eq_of_map_eq hmiddle.symm fun c hc d hd =>
      h c hc d (by rw [hs]; simp [hd])
    rw [← htext] at hs
    exact ⟨first, last, hs, fun ht => List.map_eq_nil_iff.1 (hb ht),
      fun ht => List.map_eq_nil_iff.1 (ha ht)⟩
  · rintro ⟨before, after, hs, hb, ha⟩
    refine ⟨before.map f, after.map f, by rw [hs, List.map_append, List.map_append],
      fun ht => by rw [hb ht]; rfl, fun ht => by rw [ha ht]; rfl⟩

/-! ## Reading a pattern -/

theorem nulFree_affixPattern {text : String} (test : TextTest) (h : Text.NulFree text) :
    Text.NulFree (affixPattern test text) := by
  have hp : '\x00' ∉ (escapeLike text).toList := by
    rw [toList_escapeLike, List.mem_flatMap]
    rintro ⟨c, hc, hm⟩
    unfold escaped at hm
    split at hm <;> simp only [List.mem_cons, List.not_mem_nil, or_false] at hm
    · rcases hm with hm | hm
      · cases hm
      · exact h (hm ▸ hc)
    · exact h (hm ▸ hc)
  cases test <;>
    simpa [Text.NulFree, affixPattern, String.toList_append] using hp

theorem likeRead_affixPattern (test : TextTest) {text : String} (h : Text.NulFree text) :
    Datum.likeRead (affixPattern test text) =
      (affixPattern test (String.ofList (text.toList.map Datum.likeChar))).toList := by
  have hescaped : ∀ c, (escaped c).map Datum.likeChar = escaped (Datum.likeChar c) := by
    intro c
    have hplain : ∀ d : Char, d.toNat < 128 → (Datum.likeChar c = d ↔ c = d) := fun d hd =>
      Datum.likeChar_eq_iff_eq (Datum.notMem_blurred_of_ascii hd)
    simp only [escaped, hplain '/' (by decide), hplain '%' (by decide), hplain '_' (by decide)]
    split <;> rfl
  have hp : (escapeLike text).toList.map Datum.likeChar =
      (escapeLike (String.ofList (text.toList.map Datum.likeChar))).toList := by
    rw [toList_escapeLike, toList_escapeLike, String.toList_ofList, List.map_flatMap,
      List.flatMap_map]
    exact congrArg (List.flatMap · _) (funext hescaped)
  rw [Datum.likeRead_eq (nulFree_affixPattern test h)]
  cases test <;> simp only [affixPattern, String.toList_append, List.map_append, hp] <;> rfl

/-- **The pattern around a text decides the test against the text**, where `LIKE` tells their
    characters apart. -/
theorem isLike_affixPattern (test : TextTest) {text s : String} (ht : Text.NulFree text)
    (hs : Text.NulFree s) (ha : Text.ToldApart text s) :
    Datum.isLike '/' (some (affixPattern test text)) (some s) = some (test.holds text s) := by
  show some (likeMatches '/' (Datum.likeRead (affixPattern test text)) (Datum.likeRead s)) = _
  rw [likeRead_affixPattern test ht, Datum.likeRead_eq hs, ← TextTest.holds_map test ha,
    ← likeMatches_affixPattern, String.toList_ofList]

end Clearance
