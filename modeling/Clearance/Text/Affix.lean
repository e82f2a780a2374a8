/-
  The beginnings, ends and parts of a text.

  * `startsWith`, `endsWith` and `contains` look for one text in another; the empty text is
    found in every text;
  * `anySuffix` looks for an end that passes a test.
-/

namespace Clearance.Text

/-- Whether some end of a text passes a test, the text itself first. -/
def anySuffix (test : List Char → Bool) : List Char → Bool
  | [] => test []
  | c :: rest => test (c :: rest) || anySuffix test rest

/-- Whether a text begins with another. -/
def startsWith (part text : List Char) : Bool := part.isPrefixOf text

/-- Whether a text ends with another. -/
def endsWith (part text : List Char) : Bool := part.isSuffixOf text

/-- Whether a text contains another. -/
def contains (part text : List Char) : Bool := anySuffix (startsWith part) text

theorem anySuffix_iff {test : List Char → Bool} {cs : List Char} :
    anySuffix test cs = true ↔ ∃ before after, cs = before ++ after ∧ test after = true := by
  induction cs with
  | nil =>
    constructor
    · exact fun h => ⟨[], [], rfl, h⟩
    · rintro ⟨before, after, e, h⟩
      rw [List.nil_eq_append_iff] at e
      rwa [e.2] at h
  | cons c rest ih =>
    rw [anySuffix, Bool.or_eq_true, ih]
    constructor
    · rintro (h | ⟨before, after, e, h⟩)
      · exact ⟨[], c :: rest, rfl, h⟩
      · exact ⟨c :: before, after, by simp [e], h⟩
    · rintro ⟨before, after, e, h⟩
      cases before with
      | nil => exact .inl (by rw [e]; exact h)
      | cons d before =>
        simp only [List.cons_append, List.cons.injEq] at e
        exact .inr ⟨before, after, e.2, h⟩

theorem contains_iff {part text : List Char} : contains part text = true ↔ part <:+: text := by
  rw [contains, anySuffix_iff]
  constructor
  · rintro ⟨before, after, rfl, h⟩
    obtain ⟨rest, rfl⟩ := List.isPrefixOf_iff_prefix.1 h
    exact ⟨before, rest, by simp⟩
  · rintro ⟨before, after, rfl⟩
    exact ⟨before, part ++ after, by simp, List.isPrefixOf_iff_prefix.2 ⟨after, rfl⟩⟩

end Clearance.Text
