import Mathlib
import MigrationScript.Keyword
import MigrationScript.Text.UpperCase

/-!
# Case

Names are compared by their upper case, and keywords by their ASCII lower case. Words that differ
only in the case of ASCII letters are the same to both (`Text.upper_of_sameIgnoringCase`,
`Keyword.folded_of_sameIgnoringCase`).

The upper case of a text may be longer than the text. But it is empty only if the text is, and it
has a point exactly if the text has one (`Text.dot_mem_upper`).
-/

namespace MigrationScript

namespace Text

/-! ## Capitals -/

theorem upper_cons (c : Char) (t : Text) : upper (c :: t) = upperChar c ++ upper t := rfl

theorem upper_append (s t : Text) : upper (s ++ t) = upper s ++ upper t := List.flatMap_append

theorem expansions_capitals : ∀ e ∈ UpperCase.expansions, e.2 ≠ [] ∧ ∀ n ∈ e.2, n ≠ '.'.toNat := by
  decide +kernel

theorem runs_capitals : ∀ r ∈ UpperCase.runs, '.'.toNat < r.target := by
  decide +kernel

theorem eq_of_ofNat_dot {n : Nat} (h : Char.ofNat n = '.') : n = '.'.toNat := by
  have hcode := congrArg Char.toNat h
  rw [Char.toNat_ofNat] at hcode
  split at hcode
  · exact hcode
  · exact absurd hcode (by decide)

/-- Only a point has a capital with a point in it. -/
theorem dot_mem_upperChar {c : Char} : '.' ∈ upperChar c ↔ c = '.' := by
  constructor
  · intro h
    unfold upperChar at h
    split at h
    · rename_i e hfind
      obtain ⟨n, hn, hdot⟩ := List.mem_map.mp h
      exact absurd (eq_of_ofNat_dot hdot)
        ((expansions_capitals e (List.mem_of_find?_eq_some hfind)).2 n hn)
    split at h
    · rename_i r hfind
      have hcode := eq_of_ofNat_dot (List.mem_singleton.mp h).symm
      have htarget := runs_capitals r (List.mem_of_find?_eq_some hfind)
      omega
    · exact (List.mem_singleton.mp h).symm
  · rintro rfl
    decide

theorem dot_mem_upper {t : Text} : '.' ∈ upper t ↔ '.' ∈ t := by
  induction t with
  | nil => exact Iff.rfl
  | cons c rest ih =>
      rw [upper_cons, List.mem_append, dot_mem_upperChar, ih, List.mem_cons, eq_comm]

theorem upperChar_ne_nil (c : Char) : upperChar c ≠ [] := by
  unfold upperChar
  split
  · rename_i e hfind
    exact mt List.map_eq_nil_iff.mp (expansions_capitals e (List.mem_of_find?_eq_some hfind)).1
  split
  · exact List.cons_ne_nil _ _
  · exact List.cons_ne_nil _ _

theorem upper_eq_nil {t : Text} : upper t = [] ↔ t = [] := by
  cases t with
  | nil => exact iff_of_true rfl rfl
  | cons c rest =>
      rw [upper_cons, List.append_eq_nil_iff]
      exact iff_of_false (fun h => upperChar_ne_nil c h.1) (List.cons_ne_nil _ _)

theorem isEmpty_of_upper {s t : Text} (h : upper s = upper t) : s.isEmpty = t.isEmpty := by
  rw [Bool.eq_iff_iff, List.isEmpty_iff, List.isEmpty_iff, ← upper_eq_nil, h, upper_eq_nil]

/-! ## ASCII letters -/

theorem upperChar_small :
    ∀ i : Fin 26, upperChar (Char.ofNat (97 + i)) = upperChar (Char.ofNat (97 + i)).toUpper := by
  decide

/-- The capital of an ASCII letter is its full capital. -/
theorem upperChar_toUpper (c : Char) : upperChar c.toUpper = upperChar c := by
  by_cases hlower : c.isLower = true
  · have hcode : 97 ≤ c.toNat ∧ c.toNat ≤ 122 := by
      simpa [Char.isLower, UInt32.le_iff_toNat_le] using hlower
    have hchar : c = Char.ofNat (97 + (⟨c.toNat - 97, by omega⟩ : Fin 26)) := by
      rw [show 97 + (c.toNat - 97) = c.toNat by omega, Char.ofNat_toNat]
    rw [hchar]
    exact (upperChar_small _).symm
  · rw [Char.toUpper_eq_of_not_isLower hlower]

theorem upper_asciiUpper (t : Text) : upper (asciiUpper t) = upper t := by
  induction t with
  | nil => rfl
  | cons c rest ih =>
      change upperChar c.toUpper ++ upper (asciiUpper rest) = _
      rw [upperChar_toUpper, ih, upper_cons]

/-- Texts that differ at most in the case of ASCII letters have the same upper case. -/
theorem upper_of_sameIgnoringCase {s t : Text} (h : sameIgnoringCase s t = true) :
    upper s = upper t := by
  have hsame : asciiUpper s = asciiUpper t := beq_iff_eq.mp h
  rw [← upper_asciiUpper, hsame, upper_asciiUpper]

end Text

/-! ## Keywords -/

namespace Keyword

theorem fold_toUpper (c : Char) : fold c.toUpper = fold c := by
  by_cases hlower : c.isLower = true
  · have hkelvin : c ≠ '\u212A' := by
      rintro rfl
      exact absurd hlower (by decide)
    have hcapital : c.toUpper ≠ '\u212A' := by
      have hupper := Char.isUpper_toUpper_eq_isAlpha c
      rw [Char.isAlpha, hlower, Bool.or_true] at hupper
      intro heq
      rw [heq] at hupper
      exact absurd hupper (by decide)
    rw [fold, fold, if_neg hkelvin, if_neg hcapital, Char.toLower_toUpper_eq_toLower]
  · rw [Char.toUpper_eq_of_not_isLower hlower]

theorem folded_asciiUpper (word : Text) : folded (Text.asciiUpper word) = folded word := by
  rw [folded, folded, Text.asciiUpper, List.map_map]
  exact List.map_congr_left fun c _ => fold_toUpper c

/-- Words that differ at most in the case of ASCII letters are the same to the keyword list. -/
theorem folded_of_sameIgnoringCase {v w : Text} (h : Text.sameIgnoringCase v w = true) :
    folded v = folded w := by
  have hsame : Text.asciiUpper v = Text.asciiUpper w := beq_iff_eq.mp h
  rw [← folded_asciiUpper, hsame, folded_asciiUpper]

theorem lookup_of_folded {v w : Text} (h : folded v = folded w) (entries : List Entry) :
    lookup entries v = lookup entries w := by
  rw [lookup, lookup, h]

theorem classify_of_folded {v w : Text} (h : folded v = folded w) : classify v = classify w := by
  rw [classify, classify, directive?, directive?, sql?, sql?, lookup_of_folded h,
    lookup_of_folded h]

end Keyword

end MigrationScript
