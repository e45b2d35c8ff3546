import Mathlib.Data.List.DropRight
import MigrationScript.Text

/-!
# Texts and their bytes

Trimming and cutting take a text apart and add nothing to it.

A file holds bytes. What a write leaves when it breaks off is a beginning of the bytes of a text,
and only where it happens to end between two characters is it a text again. It is then a beginning
of the text that was written (`prefix_of_utf8_prefix`).
-/

namespace MigrationScript.Text

/-! ## Trimming and cutting -/

theorem trimEnd_prefix_self (t : Text) : trimEnd t <+: t := by
  have h : t.reverse.dropWhile isBlank <:+ t.reverse := List.dropWhile_suffix isBlank
  have hrev := List.reverse_prefix.mpr h
  rwa [List.reverse_reverse] at hrev

/-- What trimming takes off the end is white space. -/
theorem trimEnd_append (t : Text) :
    ∃ space, (∀ c ∈ space, isBlank c = true) ∧ trimEnd t ++ space = t :=
  ⟨t.rtakeWhile isBlank, fun _ => List.mem_rtakeWhile_imp, List.rdropWhile_append_rtakeWhile⟩

/-- A text that is trimmed at its end does not end with white space. -/
theorem getLast_trimEnd {t : Text} {c : Char} (h : c ∈ (trimEnd t).getLast?) :
    isBlank c = false := by
  obtain ⟨hne, rfl⟩ := List.mem_getLast?_eq_getLast h
  exact Bool.not_eq_true _ ▸ List.rdropWhile_last_not isBlank t hne

/-- Nothing is trimmed off before the last character that is no white space. -/
theorem trimEnd_append_left {s : Text} (hlast : ∀ c ∈ s.getLast?, isBlank c = false) (t : Text) :
    trimEnd (s ++ t) = s ++ trimEnd t := by
  have hkept : s.reverse.dropWhile isBlank = s.reverse := by
    cases hs : s.reverse with
    | nil => rfl
    | cons c rest =>
        have hc : isBlank c = false := hlast c (by simp [← List.head?_reverse, hs])
        exact List.dropWhile_cons_of_neg (by simp [hc])
  rw [trimEnd, trimEnd, List.reverse_append, List.dropWhile_append, hkept]
  split
  · rename_i hempty
    rw [List.isEmpty_iff.mp hempty]
    simp
  · simp

theorem trim_sublist (t : Text) : (trim t).Sublist t :=
  (trimEnd_prefix_self (trimStart t)).sublist.trans (List.dropWhile_sublist isBlank)

/-- A trimmed text does not start with white space. -/
theorem head_trim {t rest : Text} {c : Char} (h : trim t = c :: rest) : isBlank c = false := by
  obtain ⟨after, hafter⟩ := trimEnd_prefix_self (trimStart t)
  have hcut := List.head?_dropWhile_not isBlank t
  rw [show t.dropWhile isBlank = trim t ++ after from hafter.symm, h] at hcut
  simpa using hcut

/-- White space after another character does not take that character with it. -/
theorem trimEnd_cons {c : Char} (hc : isBlank c = false) (t : Text) : trimEnd (c :: t) ≠ [] := by
  rw [trimEnd, List.reverse_cons, List.dropWhile_append]
  split
  · simp [hc]
  · simp

/-- Only white space is trimmed off the end, so what a text starts with is kept. -/
theorem head?_trim (t : Text) : (trim t).head? = (trimStart t).head? := by
  cases hstart : trimStart t with
  | nil =>
      rw [trim, hstart]
      rfl
  | cons c rest =>
      have hc : isBlank c = false := by
        have hcut := List.head?_dropWhile_not isBlank t
        rw [show t.dropWhile isBlank = c :: rest from hstart] at hcut
        simpa using hcut
      obtain ⟨d, kept, hkept⟩ := List.exists_cons_of_ne_nil (trimEnd_cons hc rest)
      have hprefix := trimEnd_prefix_self (c :: rest)
      rw [hkept] at hprefix
      rw [trim, hstart, hkept, (List.cons_prefix_cons.mp hprefix).1]
      rfl

/-- A text that neither starts nor ends with white space is trimmed already. -/
theorem trim_of_tight {t : Text} (hfirst : ∀ c ∈ t.head?, isBlank c = false)
    (hlast : ∀ c ∈ t.getLast?, isBlank c = false) : trim t = t := by
  have hstart : trimStart t = t := by
    cases t with
    | nil => rfl
    | cons c rest =>
        have hc : isBlank c = false := hfirst c rfl
        exact List.dropWhile_cons_of_neg (by simp [hc])
  have hend := trimEnd_append_left hlast []
  rw [List.append_nil] at hend
  rw [trim, hstart, hend]
  exact List.append_nil t

/-- More white space at the end is trimmed off with the rest. -/
theorem trimEnd_append_blank {space : Text} (hspace : ∀ c ∈ space, isBlank c = true) (t : Text) :
    trimEnd (t ++ space) = trimEnd t := by
  rw [trimEnd, trimEnd, List.reverse_append, List.dropWhile_append_of_pos]
  intro c hc
  exact hspace c (List.mem_reverse.mp hc)

theorem trimStart_append_blank {space : Text} (hspace : ∀ c ∈ space, isBlank c = true)
    (t : Text) : trimStart (space ++ t) = trimStart t := List.dropWhile_append_of_pos hspace

/-- More white space around a text is trimmed off with the rest. -/
theorem trim_around {before after : Text} (hbefore : ∀ c ∈ before, isBlank c = true)
    (hafter : ∀ c ∈ after, isBlank c = true) (t : Text) :
    trim (before ++ t ++ after) = trim t := by
  rw [trim, trim, List.append_assoc, trimStart_append_blank hbefore, trimStart,
    List.dropWhile_append]
  split
  · -- there is nothing but white space
    rename_i hempty
    have hnone : trimEnd (after.dropWhile isBlank) = [] := by
      rw [List.dropWhile_eq_nil_iff.mpr hafter]
      rfl
    rw [hnone, trimStart, List.isEmpty_iff.mp hempty]
    rfl
  · exact trimEnd_append_blank hafter _

/-- Trimming takes nothing off a text in the middle, nor off what stands before it. -/
theorem trim_before {core after : Text} (hne : core ≠ [])
    (hfirst : ∀ c ∈ core.head?, isBlank c = false) (hlast : ∀ c ∈ core.getLast?, isBlank c = false)
    (hafter : ∀ c ∈ after, isBlank c = true) (before : Text) :
    trim (before ++ core ++ after) = trimStart before ++ core := by
  have hstart : trimStart (before ++ core ++ after) = trimStart before ++ core ++ after := by
    obtain ⟨c, rest, rfl⟩ := List.exists_cons_of_ne_nil hne
    have hc : isBlank c = false := hfirst c rfl
    rw [trimStart, trimStart, List.append_assoc, List.dropWhile_append]
    split
    · rename_i hempty
      rw [List.isEmpty_iff.mp hempty, List.cons_append, List.dropWhile_cons_of_neg (by simp [hc])]
      rfl
    · rw [List.append_assoc]
  have hend : ∀ c ∈ (trimStart before ++ core).getLast?, isBlank c = false := by
    intro c hc
    rw [List.getLast?_append_of_ne_nil _ hne] at hc
    exact hlast c hc
  rw [trim, hstart, trimEnd_append_blank hafter]
  have hkept := trimEnd_append_left hend []
  rw [List.append_nil] at hkept
  exact hkept.trans (List.append_nil _)

/-- What trimming takes off is white space at both ends. -/
theorem trim_append (t : Text) :
    ∃ before after, (∀ c ∈ before, isBlank c = true) ∧ (∀ c ∈ after, isBlank c = true)
      ∧ before ++ trim t ++ after = t := by
  obtain ⟨after, hafter, hjoin⟩ := trimEnd_append (trimStart t)
  refine ⟨t.takeWhile isBlank, after, fun _ => List.mem_takeWhile_imp, hafter, ?_⟩
  rw [trim, List.append_assoc, hjoin]
  exact List.takeWhile_append_dropWhile

theorem splitOnce?_append {p : Char → Bool} {front : Text} (hfront : ∀ c ∈ front, p c = false)
    {c : Char} (hc : p c = true) (rest : Text) :
    splitOnce? p (front ++ c :: rest) = some (front, rest) := by
  have hfront : ∀ c ∈ front, (!p c) = true := by
    intro c hmem
    rw [hfront c hmem]
    rfl
  rw [splitOnce?, List.dropWhile_append_of_pos hfront, List.takeWhile_append_of_pos hfront]
  simp [hc]

theorem splitOnce?_eq_some {p : Char → Bool} {t front rest : Text}
    (h : splitOnce? p t = some (front, rest)) : ∃ c, p c = true ∧ front ++ c :: rest = t := by
  unfold splitOnce? at h
  cases hdrop : t.dropWhile fun c => !p c with
  | nil =>
      rw [hdrop] at h
      cases h
  | cons c after =>
      rw [hdrop] at h
      cases h
      refine ⟨c, ?_, ?_⟩
      · have hhead := List.head?_dropWhile_not (fun c => !p c) t
        rw [hdrop] at hhead
        simpa using hhead
      · rw [← hdrop]
        exact List.takeWhile_append_dropWhile

theorem dropSuffix?_of_some {ending t rest : Text} (h : dropSuffix? ending t = some rest) :
    t = rest ++ ending := by
  unfold dropSuffix? at h
  split at h
  · rename_i hsuffix
    obtain ⟨front, hfront⟩ := List.isSuffixOf_iff_suffix.mp hsuffix
    rw [← hfront] at h ⊢
    simpa using h
  · cases h

theorem dropSuffix?_append (rest ending : Text) :
    dropSuffix? ending (rest ++ ending) = some rest := by
  have hsuffix : ending.isSuffixOf (rest ++ ending) = true :=
    List.isSuffixOf_iff_suffix.mpr (List.suffix_append rest ending)
  rw [dropSuffix?, if_pos hsuffix, List.length_append, Nat.add_sub_cancel, List.take_left]

theorem dropSuffix?_of_not {ending t : Text} (h : ¬ ending <:+ t) : dropSuffix? ending t = none :=
  if_neg (mt List.isSuffixOf_iff_suffix.mp h)

/-! ## Joining -/

theorem join_cons {parts : List Text} (h : parts ≠ []) (separator : Char) (first : Text) :
    join [separator] (first :: parts) = first ++ separator :: join [separator] parts := by
  rw [join, List.intercalate_cons_of_ne_nil h, List.append_assoc]
  rfl

/-! ## Bytes -/

theorem utf8_cons (c : Char) (t : Text) : utf8 (c :: t) = String.utf8EncodeChar c ++ utf8 t := rfl

/-- A character can be told from its bytes, whatever comes after them. -/
theorem utf8EncodeChar_append_inj {c d : Char} {a b : List UInt8}
    (h : String.utf8EncodeChar c ++ a = String.utf8EncodeChar d ++ b) : c = d := by
  have hc := @ByteArray.utf8DecodeChar?_utf8EncodeChar_append a.toByteArray c
  have hd := @ByteArray.utf8DecodeChar?_utf8EncodeChar_append b.toByteArray d
  rw [← List.toByteArray_append, h, List.toByteArray_append] at hc
  exact Option.some.inj (hc.symm.trans hd)

/-- **No text has bytes that begin those of another text by chance.** -/
theorem prefix_of_utf8_prefix {s t : Text} (h : utf8 s <+: utf8 t) : s <+: t := by
  induction s generalizing t with
  | nil => exact List.nil_prefix
  | cons c s ih =>
      obtain ⟨rest, hrest⟩ := h
      cases t with
      | nil =>
          rw [utf8_cons] at hrest
          simp [utf8, String.utf8EncodeChar_ne_nil] at hrest
      | cons d t =>
          rw [utf8_cons, utf8_cons, List.append_assoc] at hrest
          obtain rfl := utf8EncodeChar_append_inj hrest
          have htail := List.append_cancel_left hrest
          exact List.cons_prefix_cons.mpr ⟨rfl, ih ⟨rest, htail⟩⟩

end MigrationScript.Text
