/-
  The patterns that have a `LIKE` form, part by part.

  * `Part` is a part of such a pattern; `Part.written` is its text, `Part.image` what it becomes
    and `Part.items` what that stands for in a `LIKE` pattern;
  * `Form` is such a pattern as a whole, with the anchors that it may have;
  * `likeOf?_eq_some`: a pattern that has a `LIKE` form is written in such parts, and its form is
    made of their images;
  * `likeItems?_image`: the `LIKE` form stands for the items of the parts.
-/
import Clearance.Pattern.Like

namespace Clearance.Pattern

/-! ## Parts -/

/-- A part of a pattern that has a `LIKE` form. -/
inductive Part where
  /-- A character that has no other meaning. -/
  | plain (c : Char) (h : c ≠ '\\' ∧ metacharacters.contains c = false)
  /-- A character behind a backslash. -/
  | escaped (c : Char) (h : Text.isAlphanumeric c = false)
  | dot
  | dotStar
  | dotPlus

namespace Part

/-- The text of a part. -/
def written : Part → List Char
  | plain c _ => [c]
  | escaped c _ => ['\\', c]
  | dot => ['.']
  | dotStar => ['.', '*']
  | dotPlus => ['.', '+']

/-- What a part becomes in a `LIKE` pattern. -/
def image : Part → List Char
  | plain c _ | escaped c _ => likeLiteral c
  | dot => ['_']
  | dotStar => ['%']
  | dotPlus => ['_', '%']

/-- What the image of a part stands for. -/
def items : Part → List LikeItem
  | plain c _ | escaped c _ => [.char c]
  | dot => [.one]
  | dotStar => [.many]
  | dotPlus => [.one, .many]

end Part

/-- A body is written in parts, and a `LIKE` pattern is made of their images. -/
def HasParts (body like : List Char) : Prop :=
  ∃ parts : List Part, body = parts.flatMap Part.written ∧ like = parts.flatMap Part.image

/-- One more part in front, where the rest has parts. -/
theorem HasParts.cons (part : Part) {rest : List Char} {like : List Char}
    (ih : ∀ {like}, likeBody? rest = some like → HasParts rest like)
    (h : (likeBody? rest).map (part.image ++ ·) = some like) :
    HasParts (part.written ++ rest) like := by
  obtain ⟨like', hr, rfl⟩ := Option.map_eq_some_iff.1 h
  obtain ⟨parts, rfl, rfl⟩ := ih hr
  exact ⟨part :: parts, rfl, rfl⟩

/-- A body that has a `LIKE` form consists of parts. -/
theorem hasParts_of_likeBody? (body : List Char) : ∀ {like}, likeBody? body = some like →
    HasParts body like := by
  fun_induction likeBody? body with
  | case1 =>
    rintro like ⟨⟩
    exact ⟨[], rfl, rfl⟩
  | case2 => rintro like ⟨⟩
  | case3 c rest h => rintro like ⟨⟩
  | case4 c rest h ih => exact HasParts.cons (.escaped c (by simpa using h)) ih
  | case5 rest ih => exact HasParts.cons .dotStar ih
  | case6 rest ih => exact HasParts.cons .dotPlus ih
  | case7 rest _ _ ih => exact HasParts.cons .dot ih
  | case8 c rest => rintro like ⟨⟩
  | case9 c rest hnil hcons _ _ _ hmeta ih =>
    have hc : c ≠ '\\' := by
      rintro rfl
      cases rest with
      | nil => exact hnil rfl rfl
      | cons d rest => exact hcons d rest rfl rfl
    intro like hl
    exact HasParts.cons (.plain c ⟨hc, by simpa using hmeta⟩) ih hl

/-! ## Whole patterns -/

/-- A pattern that has a `LIKE` form: parts between anchors that may be missing. -/
structure Form where
  atStart : Bool
  parts : List Part
  atEnd : Bool

namespace Form

/-- The text of the pattern. -/
def written (form : Form) : List Char :=
  (if form.atStart then ['^'] else []) ++ form.parts.flatMap Part.written ++
    if form.atEnd then ['$'] else []

/-- The `LIKE` form of the pattern. -/
def image (form : Form) : List Char :=
  (if form.atStart then [] else ['%']) ++ form.parts.flatMap Part.image ++
    if form.atEnd then [] else ['%']

/-- What the `LIKE` form stands for. -/
def items (form : Form) : List LikeItem :=
  (if form.atStart then [] else [.many]) ++ (form.parts.flatMap Part.items ++
    if form.atEnd then [] else [.many])

end Form

theorem getLast?_of_endsWithAnchor {cs : List Char} (h : endsWithAnchor cs = true) :
    cs.getLast? = some '$' := by
  unfold endsWithAnchor at h
  split at h
  · rename_i rest hr
    rw [List.getLast?_eq_head?_reverse, hr]
    rfl
  · cases h

/-- A pattern consists of its anchors and of what is left without them. -/
theorem eq_anchored (cs : List Char) :
    let body := if cs.head? == some '^' then cs.drop 1 else cs
    cs = (if cs.head? == some '^' then ['^'] else []) ++
      (if endsWithAnchor cs then body.dropLast else body) ++
        if endsWithAnchor cs then ['$'] else [] := by
  intro body
  have hstart : cs = (if cs.head? == some '^' then ['^'] else []) ++ body := by
    by_cases hs : cs.head? = some '^'
    · obtain ⟨rest, rfl⟩ := List.head?_eq_some_iff.1 hs
      simp [body]
    · simp [body, hs]
  cases he : endsWithAnchor cs with
  | false => simpa using hstart
  | true =>
    have hlast : body.getLast? = some '$' := by
      have hl := getLast?_of_endsWithAnchor he
      by_cases hs : cs.head? = some '^'
      · obtain ⟨rest, rfl⟩ := List.head?_eq_some_iff.1 hs
        -- the dollar sign cannot be the circumflex
        cases rest with
        | nil => cases hl
        | cons c rest => simpa [body] using hl
      · simpa [body, hs] using hl
    have hbody : body.dropLast ++ ['$'] = body := by
      obtain ⟨init, hi⟩ := List.getLast?_eq_some_iff.1 hlast
      rw [hi, List.dropLast_concat]
    rw [if_pos rfl, if_pos rfl, List.append_assoc, hbody]
    exact hstart

/-- A pattern that has a `LIKE` form is written in parts between its anchors. -/
theorem likeOf?_eq_some {pattern like : String} (h : likeOf? pattern = some like) :
    ∃ form : Form, pattern.toList = form.written ∧ like.toList = form.image := by
  obtain ⟨like', hb, rfl⟩ := Option.map_eq_some_iff.1 h
  obtain ⟨parts, hw, rfl⟩ := hasParts_of_likeBody? _ hb
  refine ⟨⟨_, parts, _⟩, (eq_anchored pattern.toList).trans ?_, String.toList_ofList⟩
  rw [hw]
  rfl

/-! ## What the images stand for -/

theorem likeItems?_likeLiteral (c : Char) (rest : List Char) :
    likeItems? '\\' (likeLiteral c ++ rest) = (likeItems? '\\' rest).map (.char c :: ·) := by
  unfold likeLiteral
  split
  · exact likeItems?_escape rest c
  · rename_i h
    simp only [Bool.or_eq_true, decide_eq_true_eq, not_or] at h
    exact likeItems?_char rest h.2 h.1.1 h.1.2

theorem Part.likeItems?_image (part : Part) (rest : List Char) :
    likeItems? '\\' (part.image ++ rest) = (likeItems? '\\' rest).map (part.items ++ ·) := by
  cases part with
  | plain c | escaped c => exact likeItems?_likeLiteral c rest
  | dot => exact likeItems?_one rest (by decide)
  | dotStar => exact likeItems?_many rest (by decide)
  | dotPlus =>
    show likeItems? '\\' ('_' :: '%' :: rest) = _
    rw [likeItems?_one _ (by decide), likeItems?_many _ (by decide), Option.map_map]
    rfl

theorem likeItems?_parts (parts : List Part) (rest : List Char) :
    likeItems? '\\' (parts.flatMap Part.image ++ rest) =
      (likeItems? '\\' rest).map (parts.flatMap Part.items ++ ·) := by
  induction parts with
  | nil => simp
  | cons part parts ih =>
    rw [List.flatMap_cons, List.append_assoc, Part.likeItems?_image, ih, Option.map_map,
      List.flatMap_cons]
    simp [Function.comp_def]

/-- The `LIKE` form of a pattern stands for what its parts stand for. -/
theorem Form.likeItems?_image (form : Form) : likeItems? '\\' form.image = some form.items := by
  have hrest : likeItems? '\\'
      (form.parts.flatMap Part.image ++ if form.atEnd then [] else ['%']) =
        some (form.parts.flatMap Part.items ++ if form.atEnd then [] else [.many]) := by
    rw [likeItems?_parts]
    cases form.atEnd <;> rfl
  unfold Form.image Form.items
  rw [List.append_assoc]
  cases form.atStart with
  | true => exact hrest
  | false =>
    rw [if_neg Bool.false_ne_true, if_neg Bool.false_ne_true, List.singleton_append,
      likeItems?_many _ (by decide), hrest]
    rfl

end Clearance.Pattern
