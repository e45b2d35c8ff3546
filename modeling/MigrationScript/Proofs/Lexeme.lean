import Mathlib
import MigrationScript.Lexeme

/-!
# The words of a line

The words of a line do not depend on where the line stands. A character of no class belongs to none
of them (`words_dropped`) and parts those before it from those after it (`words_append`). What is a
longest run of one class is one of them (`words_run`), and each word is such a run (`mem_words`).
-/

namespace MigrationScript

namespace LexemeClass

theorem not_isWord_of_isOperator {c : Char} (h : isOperator c = true) : isWord c = false := by
  unfold isOperator at h
  simp only [Bool.or_eq_true, decide_eq_true_eq] at h
  rcases h with ((rfl | rfl) | rfl) | rfl <;> decide

theorem not_isWord_of_isBracket {c : Char} (h : isBracket c = true) :
    isWord c = false ∧ isOperator c = false := by
  unfold isBracket at h
  simp only [Bool.or_eq_true, decide_eq_true_eq] at h
  rcases h with ((rfl | rfl) | rfl) | rfl <;> decide

/-- The class of a character is the one that holds it. -/
theorem of?_eq_some_iff {c : Char} {kind : LexemeClass} :
    of? c = some kind ↔ kind.holds c = true := by
  unfold of?
  constructor
  · intro h
    split at h
    · cases h
      assumption
    split at h
    · cases h
      assumption
    split at h
    · cases h
      assumption
    · cases h
  · intro h
    cases kind with
    | word => exact if_pos h
    | operator =>
        change isOperator c = true at h
        have hword := not_isWord_of_isOperator h
        rw [if_neg (by simp [hword]), if_pos h]
    | bracket =>
        change isBracket c = true at h
        obtain ⟨hword, hoperator⟩ := not_isWord_of_isBracket h
        rw [if_neg (by simp [hword]), if_neg (by simp [hoperator]), if_pos h]

/-- Letters and digits are no white space. -/
theorem not_isBlank_of_isAlphanum {c : Char} (h : c.isAlphanum = true) :
    Text.isBlank c = false := by
  have hcode : 48 ≤ c.toNat ∧ c.toNat ≤ 57 ∨ 65 ≤ c.toNat ∧ c.toNat ≤ 90
      ∨ 97 ≤ c.toNat ∧ c.toNat ≤ 122 := by
    have hranges : ((65 ≤ c.toNat ∧ c.toNat ≤ 90) ∨ 97 ≤ c.toNat ∧ c.toNat ≤ 122)
        ∨ 48 ≤ c.toNat ∧ c.toNat ≤ 57 := by
      simpa [Char.isAlphanum, Char.isAlpha, Char.isUpper, Char.isLower, Char.isDigit,
        UInt32.le_iff_toNat_le] using h
    omega
  simp only [Text.isBlank, CharRanges.contains, Text.blanks, List.any_cons, List.any_nil,
    Bool.or_false, Bool.or_eq_false_iff, Bool.and_eq_false_iff, decide_eq_false_iff_not]
  omega

theorem not_isBlank_of_holds {c : Char} {kind : LexemeClass} (h : kind.holds c = true) :
    Text.isBlank c = false := by
  cases kind with
  | word =>
      have h : isWord c = true := h
      simp only [isWord, Bool.or_eq_true, decide_eq_true_eq] at h
      rcases h with ((h | rfl) | rfl) | rfl
      · exact not_isBlank_of_isAlphanum h
      all_goals decide
  | operator =>
      have h : isOperator c = true := h
      simp only [isOperator, Bool.or_eq_true, decide_eq_true_eq] at h
      rcases h with ((rfl | rfl) | rfl) | rfl <;> decide
  | bracket =>
      have h : isBracket c = true := h
      simp only [isBracket, Bool.or_eq_true, decide_eq_true_eq] at h
      rcases h with ((rfl | rfl) | rfl) | rfl <;> decide

/-- White space has no class. -/
theorem of?_blank {c : Char} (h : Text.isBlank c = true) : of? c = none := by
  cases hclass : of? c with
  | none => rfl
  | some kind =>
      rw [not_isBlank_of_holds (of?_eq_some_iff.mp hclass)] at h
      cases h

end LexemeClass

namespace Lexeme

open LexemeClass

/-- Where a text stands changes the places of its lexemes, and not their texts. -/
theorem scan_texts (a b : Nat) (t : Text) :
    (scan a t).map Lexeme.text = (scan b t).map Lexeme.text := by
  fun_induction scan a t generalizing b with
  | case1 => simp [scan]
  | case2 a c rest hclass ih =>
      rw [scan, hclass]
      exact ih _
  | case3 a c rest kind hclass run ih =>
      rw [scan, hclass]
      exact congrArg (List.cons run) (ih _)

theorem words_nil : words [] = [] := by
  simp [words, ofLine, scan]

/-- A character of no class is in no word. -/
theorem words_dropped {c : Char} (h : of? c = none) (rest : Text) :
    words (c :: rest) = words rest := by
  unfold words ofLine
  rw [scan, h]
  exact scan_texts _ _ rest

theorem words_cons {c : Char} {kind : LexemeClass} (h : of? c = some kind) (rest : Text) :
    words (c :: rest)
      = (c :: rest.takeWhile kind.holds) :: words (rest.dropWhile kind.holds) := by
  unfold words ofLine
  rw [scan, h]
  exact congrArg (List.cons _) (scan_texts _ _ _)

/-- A longest run of one class is a word. -/
theorem words_run {kind : LexemeClass} {run rest : Text} (hne : run ≠ [])
    (hrun : ∀ c ∈ run, kind.holds c = true) (hrest : ∀ c ∈ rest.head?, kind.holds c = false) :
    words (run ++ rest) = run :: words rest := by
  obtain ⟨c, run, rfl⟩ := List.exists_cons_of_ne_nil hne
  have hclass : of? c = some kind := of?_eq_some_iff.mpr (hrun c List.mem_cons_self)
  have hmore : ∀ c ∈ run, kind.holds c = true := fun c hc => hrun c (List.mem_cons_of_mem _ hc)
  have htake : rest.takeWhile kind.holds = [] ∧ rest.dropWhile kind.holds = rest := by
    cases rest with
    | nil => exact ⟨rfl, rfl⟩
    | cons d rest =>
        have hd := hrest d rfl
        simp [hd]
  rw [List.cons_append, words_cons hclass, List.takeWhile_append_of_pos hmore,
    List.dropWhile_append_of_pos hmore, htake.1, htake.2, List.append_nil]

/-- A text of one class is one word. -/
theorem words_of_class {kind : LexemeClass} {t : Text} (hne : t ≠ [])
    (h : ∀ c ∈ t, kind.holds c = true) : words t = [t] := by
  have hrun : words (t ++ []) = t :: words [] := words_run hne h (by simp)
  rwa [List.append_nil, words_nil] at hrun

/-- A space ends a word. -/
theorem words_spaced {kind : LexemeClass} {run : Text} (hne : run ≠ [])
    (hrun : ∀ c ∈ run, kind.holds c = true) (rest : Text) :
    words (run ++ ' ' :: rest) = run :: words rest := by
  have hspace : of? ' ' = none := by decide
  have hend : ∀ c ∈ (' ' :: rest).head?, kind.holds c = false := by
    rintro c ⟨⟩
    cases kind <;> decide
  rw [words_run hne hrun hend, words_dropped hspace]

/-- A character of no class parts the words before it from those after it. -/
theorem words_append {c : Char} (h : of? c = none) (a b : Text) :
    words (a ++ c :: b) = words a ++ words b := by
  -- the induction takes off one word at a time
  induction hlength : a.length using Nat.strongRecOn generalizing a with
  | ind n ih =>
    cases a with
    | nil =>
        rw [words_nil]
        exact words_dropped h b
    | cons d rest =>
        cases hclass : of? d with
        | none =>
            rw [List.cons_append, words_dropped hclass, words_dropped hclass]
            exact ih rest.length (by simp [← hlength]) rest rfl
        | some kind =>
            have hnot : kind.holds c = false := by
              refine Bool.eq_false_iff.mpr fun hholds => ?_
              rw [of?_eq_some_iff.mpr hholds] at h
              cases h
            have htake : (rest ++ c :: b).takeWhile kind.holds = rest.takeWhile kind.holds := by
              rw [List.takeWhile_append]
              split
              · rename_i hall
                rw [List.takeWhile_cons_of_neg (by simp [hnot]), List.append_nil,
                  (List.takeWhile_prefix _).eq_of_length hall]
              · rfl
            have hdrop : (rest ++ c :: b).dropWhile kind.holds
                = rest.dropWhile kind.holds ++ c :: b := by
              rw [List.dropWhile_append]
              split
              · rename_i hempty
                rw [List.dropWhile_cons_of_neg (by simp [hnot]), List.isEmpty_iff.mp hempty]
                rfl
              · rfl
            have hshorter : (rest.dropWhile kind.holds).length < n := by
              have := (List.dropWhile_suffix (l := rest) kind.holds).length_le
              simp only [List.length_cons] at hlength
              omega
            rw [List.cons_append, words_cons hclass, words_cons hclass, htake, hdrop,
              ih _ hshorter _ rfl]
            rfl

theorem words_of_none {t : Text} (h : ∀ c ∈ t, of? c = none) : words t = [] := by
  induction t with
  | nil => exact words_nil
  | cons c rest ih =>
      rw [words_dropped (h c List.mem_cons_self)]
      exact ih fun d hd => h d (List.mem_cons_of_mem _ hd)

/-- Characters of no class before a text add no word. -/
theorem words_none_append {junk : Text} (h : ∀ c ∈ junk, of? c = none) (t : Text) :
    words (junk ++ t) = words t := by
  induction junk with
  | nil => rfl
  | cons c rest ih =>
      rw [List.cons_append, words_dropped (h c List.mem_cons_self)]
      exact ih fun d hd => h d (List.mem_cons_of_mem _ hd)

/-- Characters of no class add no word. -/
theorem words_append_none {junk : Text} (h : ∀ c ∈ junk, of? c = none) (t : Text) :
    words (t ++ junk) = words t := by
  cases junk with
  | nil => rw [List.append_nil]
  | cons c rest =>
      rw [words_append (h c List.mem_cons_self),
        words_of_none fun d hd => h d (List.mem_cons_of_mem _ hd), List.append_nil]

/-- A text that starts with a word has that word, and the words behind it and its white space. -/
theorem words_leading {c : Char} (h : isWord c = true) (rest : Text) :
    words (c :: rest) = leadingWord (c :: rest) :: words (dropLeadingWord (c :: rest)) := by
  have hclass : of? c = some .word := of?_eq_some_iff.mpr h
  have hspace : ∀ d ∈ (rest.dropWhile isWord).takeWhile isSpace, of? d = none := by
    intro d hd
    have hd : isSpace d = true := List.all_eq_true.mp List.all_takeWhile d hd
    simp only [isSpace, Bool.or_eq_true, decide_eq_true_eq] at hd
    rcases hd with ((rfl | rfl) | rfl) | rfl <;> decide
  have hbehind : words (rest.dropWhile isWord)
      = words ((rest.dropWhile isWord).dropWhile isSpace) := by
    conv_lhs => rw [← List.takeWhile_append_dropWhile (p := isSpace) (l := rest.dropWhile isWord)]
    exact words_none_append hspace _
  rw [words_cons hclass, leadingWord, dropLeadingWord, List.takeWhile_cons_of_pos h,
    List.dropWhile_cons_of_pos h, ← hbehind]
  rfl

/-- Every word is of one class. -/
theorem mem_words {t w : Text} (h : w ∈ words t) :
    w ≠ [] ∧ ∃ kind : LexemeClass, ∀ c ∈ w, kind.holds c = true := by
  unfold words ofLine at h
  generalize 0 = a at h
  fun_induction scan a t with
  | case1 => cases h
  | case2 a c rest hclass ih => exact ih h
  | case3 a c rest kind hclass run ih =>
      rcases List.mem_cons.mp h with rfl | h
      · refine ⟨List.cons_ne_nil _ _, kind, ?_⟩
        intro d hd
        rcases List.mem_cons.mp hd with rfl | hd
        · exact of?_eq_some_iff.mp hclass
        · exact List.all_eq_true.mp List.all_takeWhile d hd
      · exact ih h

end Lexeme

end MigrationScript
