/-
  Lower case by Unicode and by ASCII.

  Where case is ignored, a search tells apart what has no common lower case in Unicode; a database
  knows the letters of ASCII only.

  * `Text.lower_of_ascii`, `Text.of_lower_lt`: how the two lower cases differ about ASCII;
  * `Mode.same_of_toLower`: what ASCII does not tell apart, Unicode does not;
  * `FoldsInAscii` is a character for which the converse holds, too, as it does for those of ASCII
    except the letters I, K and S (`foldsInAscii_iff`);
  * `eq_of_same`: what comes before the letters of ASCII is told apart from all else.
-/
import Clearance.Proofs.Pattern.Matching

namespace Clearance

open Pattern

/-! ## Lower case -/

namespace Text

theorem asciiLower_eq (n : Nat) : asciiLower n = if 65 ≤ n ∧ n ≤ 90 then n + 32 else n := by
  simp [asciiLower]

/-- On ASCII, Unicode has the lower case of ASCII. -/
theorem lower_of_ascii {n : Nat} (h : n < 128) : lower n = asciiLower n := by
  have hlater : ∀ r ∈ caseRuns.tail, 192 ≤ r.first := by decide +kernel
  have htail : caseRuns.tail.find? (fun r => r.covers n) = none := by
    refine List.find?_eq_none.2 fun r hr => ?_
    have := hlater r hr
    simp only [CaseRun.covers, Bool.and_eq_true, decide_eq_true_eq]
    omega
  have hfirst : (CaseRun.mk 65 90 1 97).covers n = decide (65 ≤ n ∧ n ≤ 90) := by
    simp [CaseRun.covers, Nat.mod_one]
  have hfind : caseRuns.find? (fun r => r.covers n) =
      if 65 ≤ n ∧ n ≤ 90 then some ⟨65, 90, 1, 97⟩ else none := by
    rw [show caseRuns = ⟨65, 90, 1, 97⟩ :: caseRuns.tail from rfl, List.find?_cons, hfirst, htail]
    by_cases hn : 65 ≤ n ∧ n ≤ 90 <;> simp [hn]
  rw [lower, hfind, asciiLower_eq]
  by_cases hn : 65 ≤ n ∧ n ≤ 90
  · rw [if_pos hn, if_pos hn]
    show n - 65 + 97 = n + 32
    omega
  · rw [if_neg hn, if_neg hn]

/-- A letter whose lower case is in ASCII is there itself, the dotted I and the sign for kelvin
    apart. -/
theorem of_lower_lt {n : Nat} (h : lower n < 128) : n < 128 ∨ n = 0x130 ∨ n = 0x212a := by
  have hruns : ∀ r ∈ caseRuns, r.image < 128 → r.last < 128 ∨
      r.first = 0x130 ∧ r.last = 0x130 ∨ r.first = 0x212a ∧ r.last = 0x212a := by decide +kernel
  unfold lower at h
  split at h
  · rename_i r hr
    have hcovers := List.find?_some hr
    simp only [CaseRun.covers, Bool.and_eq_true, decide_eq_true_eq] at hcovers
    have := hruns r (List.mem_of_find?_eq_some hr) (by omega)
    omega
  · exact .inl h

theorem lower_asciiLower (n : Nat) : lower (asciiLower n) = lower n := by
  rw [asciiLower_eq]
  split
  · rename_i hn
    rw [lower_of_ascii (n := n) (by omega), lower_of_ascii (by omega), asciiLower_eq,
      asciiLower_eq, if_pos hn, if_neg (by omega)]
  · rfl

theorem toNat_toLower (c : Char) : c.toLower.toNat = asciiLower c.toNat := by
  have hupper : (c.val ≥ 'A'.val ∧ c.val ≤ 'Z'.val) ↔ 65 ≤ c.toNat ∧ c.toNat ≤ 90 := by
    simp only [ge_iff_le, UInt32.le_iff_toNat_le]
    rfl
  rw [asciiLower_eq]
  unfold Char.toLower
  split
  · rename_i h
    rw [if_pos (hupper.1 h)]
    show (c.val + ('a'.val - 'A'.val)).toNat = c.toNat + 32
    rw [UInt32.toNat_add]
    show (c.toNat + 32) % _ = _
    have := hupper.1 h
    omega
  · rename_i h
    rw [if_neg (mt hupper.2 h)]

theorem toLower_eq_iff {c d : Char} :
    c.toLower = d.toLower ↔ asciiLower c.toNat = asciiLower d.toNat := by
  rw [← toNat_toLower, ← toNat_toLower, Char.toNat_inj]

/-- What is no letter of ASCII is the lower case of itself only. -/
theorem toLower_eq_iff_eq {c d : Char} (h : ¬ (65 ≤ d.toNat ∧ d.toNat ≤ 90))
    (h' : ¬ (97 ≤ d.toNat ∧ d.toNat ≤ 122)) : c.toLower = d ↔ c = d := by
  rw [← Char.toNat_inj, ← Char.toNat_inj, toNat_toLower, asciiLower_eq]
  split <;> omega

end Text

namespace Pattern

/-! ## Letters -/

/-- The mode in which case is ignored. -/
def Mode.anyCase : Mode := { ignoreCase := true }

theorem Mode.same_anyCase {d c : Char} : Mode.anyCase.same d c = true ↔
    Text.lower c.toNat = Text.lower d.toNat ∨
      Text.lower c.toNat ∈ Text.alternates (Text.lower d.toNat) := by
  show (Text.lower d.toNat :: Text.alternates (Text.lower d.toNat)).contains _ = true ↔ _
  rw [List.contains_iff_mem, List.mem_cons]
  rfl

/-- What ASCII does not tell apart, Unicode does not. -/
theorem Mode.same_of_toLower {d c : Char} (h : c.toLower = d.toLower) :
    Mode.anyCase.same d c = true := by
  refine same_anyCase.2 (.inl ?_)
  rw [← Text.lower_asciiLower, Text.toLower_eq_iff.1 h, Text.lower_asciiLower]

/-- What Unicode does not tell apart from a character, ASCII does not. -/
def FoldsInAscii (d : Char) : Prop :=
  ∀ c, Mode.anyCase.same d c = true → c.toLower = d.toLower

theorem FoldsInAscii.not_of {d : Char} (c : Char) (h : Mode.anyCase.same d c = true)
    (hne : c.toLower ≠ d.toLower) : ¬ FoldsInAscii d := fun hd => hne (hd c h)

/-- **The characters of ASCII** fold in ASCII, except the letters I, K and S: Unicode does not tell
    them apart from the dotted I, the sign for kelvin and the long s. -/
theorem foldsInAscii_iff {d : Char} (hd : d.toNat < 128) :
    FoldsInAscii d ↔ d.toLower ∉ ['i', 'k', 's'] := by
  have hlower : Text.lower d.toNat = d.toLower.toNat := by
    rw [Text.lower_of_ascii hd, Text.toNat_toLower]
  constructor
  · intro h hm
    simp only [List.mem_cons, List.not_mem_nil, or_false] at hm
    rcases hm with hi | hk | hs
    · refine FoldsInAscii.not_of '\u0130' (Mode.same_anyCase.2 (.inl ?_)) (by rw [hi]; decide) h
      rw [hlower, hi]
      decide +kernel
    · refine FoldsInAscii.not_of '\u212a' (Mode.same_anyCase.2 (.inl ?_)) (by rw [hk]; decide) h
      rw [hlower, hk]
      decide +kernel
    · refine FoldsInAscii.not_of '\u017f' (Mode.same_anyCase.2 (.inr ?_)) (by rw [hs]; decide) h
      rw [hlower, hs]
      decide +kernel
  · intro hm c hc
    have halternates : ∀ n < 128, n ≠ 105 → n ≠ 115 → Text.alternates n = [] := by decide +kernel
    have hne : ∀ e ∈ ['i', 'k', 's'], d.toLower.toNat ≠ e.toNat := fun e he h =>
      hm (Char.toNat_inj.1 h ▸ he)
    have hsmall : d.toLower.toNat < 128 := by
      rw [Text.toNat_toLower, Text.asciiLower_eq]
      split <;> omega
    rw [Mode.same_anyCase, hlower,
      halternates _ hsmall (hne 'i' (by decide)) (hne 's' (by decide))] at hc
    have hc : Text.lower c.toNat = d.toLower.toNat := by simpa using hc
    rcases Text.of_lower_lt (hc ▸ hsmall) with h | h | h
    · rw [← Char.toNat_inj, ← hc, Text.lower_of_ascii h, Text.toNat_toLower]
    · rw [h] at hc
      exact absurd hc.symm (hne 'i' (by decide))
    · rw [h] at hc
      exact absurd hc.symm (hne 'k' (by decide))

theorem eq_of_same_left {d c : Char} (hd : d.toNat < 65) (h : Mode.anyCase.same d c = true) :
    c = d := by
  have hself : d.toLower.toNat = d.toNat := by
    rw [Text.toNat_toLower, Text.asciiLower_eq, if_neg (by omega)]
  have hletters : ∀ e ∈ ['i', 'k', 's'], 65 ≤ e.toNat := by
    intro e he
    simp only [List.mem_cons, List.not_mem_nil, or_false] at he
    rcases he with rfl | rfl | rfl <;> decide
  have hfolds : FoldsInAscii d := by
    refine (foldsInAscii_iff (by omega)).2 fun hm => ?_
    have := hletters _ hm
    omega
  rw [← Text.toLower_eq_iff_eq (by omega) (by omega), hfolds c h, ← Char.toNat_inj, hself]

theorem eq_of_same_right {d c : Char} (hc : c.toNat < 65) (h : Mode.anyCase.same d c = true) :
    c = d := by
  have halternates : ∀ e ∈ Text.sharedCapitals, ∀ n ∈ e.2, 65 ≤ n := by decide +kernel
  have hsigns : Text.lower 0x130 = 105 ∧ Text.lower 0x212a = 107 := by decide +kernel
  rw [Mode.same_anyCase, Text.lower_of_ascii (n := c.toNat) (by omega), Text.asciiLower_eq,
    if_neg (by omega)] at h
  rcases h with h | h
  · rcases Text.of_lower_lt (n := d.toNat) (by omega) with hd | hd | hd
    · rw [Text.lower_of_ascii hd, Text.asciiLower_eq] at h
      refine Char.toNat_inj.1 ?_
      split at h <;> omega
    · rw [hd] at h
      omega
    · rw [hd] at h
      omega
  · rw [Text.alternates] at h
    cases hl : Text.sharedCapitals.lookup (Text.lower d.toNat) with
    | none => rw [hl] at h; cases h
    | some l =>
      rw [hl] at h
      obtain ⟨before, after, he, -⟩ := List.lookup_eq_some_iff.1 hl
      have := halternates (Text.lower d.toNat, l) (by rw [he]; simp) _ h
      omega

/-- **What comes before the letters of ASCII** is told apart from all else. -/
theorem eq_of_same {d c : Char} (hsmall : d.toNat < 65 ∨ c.toNat < 65)
    (h : Mode.anyCase.same d c = true) : c = d := by
  rcases hsmall with hd | hc
  · exact eq_of_same_left hd h
  · exact eq_of_same_right hc h

end Pattern

end Clearance
