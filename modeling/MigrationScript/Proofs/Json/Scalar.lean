import MigrationScript.Json.Record

/-!
# Reading written values

What is written can be read back, and nothing else can be read from a part of it. For a value that
stands alone in a record this means two things, and both are needed for files that a crash may cut
short:

* the written value is read as that value, whatever follows (`kind_read_written`);
* from a beginning of it nothing is read, or all of the beginning is (`kind_read_torn`). A proper
  beginning is read only of a number: `30` is one of `305`.
-/

namespace MigrationScript.Json

/-- A text that ends before another one does. -/
def Beginning (cut whole : Text) : Prop := cut <+: whole ∧ cut ≠ whole

theorem not_beginning_nil {cut : Text} : ¬ Beginning cut [] := by
  rintro ⟨h, hne⟩
  exact hne (List.prefix_nil.mp h)

/-- A beginning of two texts in a row ends inside the first, or inside the second. -/
theorem Beginning.append {cut a b : Text} (h : Beginning cut (a ++ b)) :
    Beginning cut a ∨ ∃ cut', cut = a ++ cut' ∧ Beginning cut' b := by
  obtain ⟨h, hne⟩ := h
  by_cases ha : a <+: cut
  · obtain ⟨cut', rfl⟩ := ha
    refine .inr ⟨cut', rfl, (List.prefix_append_right_inj a).mp h, ?_⟩
    rintro rfl
    exact hne rfl
  · rcases List.prefix_or_prefix_of_prefix h (List.prefix_append a b) with hc | hc
    · exact .inl ⟨hc, fun he => ha (he ▸ List.prefix_refl _)⟩
    · exact absurd hc ha

theorem Beginning.cons {cut a : Text} {c : Char} (h : Beginning cut (c :: a)) :
    cut = [] ∨ ∃ cut', cut = c :: cut' ∧ Beginning cut' a := by
  obtain ⟨h, hne⟩ := h
  cases cut with
  | nil => exact .inl rfl
  | cons d cut' =>
      obtain ⟨rfl, hcut⟩ := List.cons_prefix_cons.mp h
      exact .inr ⟨cut', rfl, hcut, fun he => hne (he ▸ rfl)⟩

/-- A beginning of two texts with a character between ends before the character or after it. -/
theorem prefix_append_cons {cut a b : Text} {c : Char} (h : cut <+: a ++ c :: b) :
    cut <+: a ∨ ∃ cut', cut = a ++ c :: cut' ∧ cut' <+: b := by
  induction a generalizing cut with
  | nil =>
      cases cut with
      | nil => exact .inl (List.prefix_refl _)
      | cons d cut' =>
          obtain ⟨rfl, hb⟩ := List.cons_prefix_cons.mp h
          exact .inr ⟨cut', rfl, hb⟩
  | cons d a ih =>
      cases cut with
      | nil => exact .inl List.nil_prefix
      | cons e cut' =>
          obtain ⟨rfl, hcut⟩ := List.cons_prefix_cons.mp h
          rcases ih hcut with ha | ⟨cut'', rfl, hb⟩
          · exact .inl (List.cons_prefix_cons.mpr ⟨rfl, ha⟩)
          · exact .inr ⟨cut'', rfl, hb⟩

theorem Beginning.append_cons {cut a b : Text} {c : Char} (h : Beginning cut (a ++ c :: b)) :
    cut <+: a ∨ ∃ cut', cut = a ++ c :: cut' ∧ Beginning cut' b := by
  rcases prefix_append_cons h.1 with ha | ⟨cut', rfl, hb⟩
  · exact .inl ha
  · exact .inr ⟨cut', rfl, hb, fun he => h.2 (he ▸ rfl)⟩

theorem Beginning.length_lt {cut a : Text} (h : Beginning cut a) : cut.length < a.length := by
  rcases Nat.lt_or_ge cut.length a.length with hlt | hge
  · exact hlt
  · exact absurd (h.1.eq_of_length_le hge) h.2

/-! ## Strings -/

theorem unit_hex : ∀ n < 0x20,
    unit? '0' '0' (Nat.digitChar (n / 16)) (Nat.digitChar (n % 16)) = some n := by decide

/-- The three forms in which a character is written: itself, a short escape, or its number. -/
theorem escapedChar_cases (c : Char) :
    (escapedChar c = [c] ∧ c ≠ '"' ∧ c ≠ '\\' ∧ ¬ c.toNat < 0x20)
      ∨ (∃ x, escapedChar c = ['\\', x] ∧ x ≠ 'u' ∧ shortEscape? x = some c)
      ∨ ∃ a b, escapedChar c = ['\\', 'u', '0', '0', a, b] ∧ unit? '0' '0' a b = some c.toNat
          ∧ c.toNat < 0x20 := by
  unfold escapedChar
  split
  · exact .inr (.inl ⟨'"', rfl, by decide, rfl⟩)
  · exact .inr (.inl ⟨'\\', rfl, by decide, rfl⟩)
  · exact .inr (.inl ⟨'b', rfl, by decide, rfl⟩)
  · exact .inr (.inl ⟨'f', rfl, by decide, rfl⟩)
  · exact .inr (.inl ⟨'n', rfl, by decide, rfl⟩)
  · exact .inr (.inl ⟨'r', rfl, by decide, rfl⟩)
  · exact .inr (.inl ⟨'t', rfl, by decide, rfl⟩)
  · rename_i hquote hback _ _ _ _ _
    split
    · rename_i hlow
      exact .inr (.inr ⟨_, _, rfl, unit_hex _ hlow, hlow⟩)
    · rename_i hlow
      exact .inl ⟨rfl, hquote, hback, hlow⟩

theorem stringBody_escapedChar (c : Char) (rest : Text) :
    stringBody (escapedChar c ++ rest) = (stringBody rest).map fun r => (c :: r.1, r.2) := by
  rcases escapedChar_cases c with ⟨he, hquote, hback, hlow⟩ | ⟨x, he, hu, hx⟩ | ⟨a, b, he, hn, hlow⟩
  · rw [he, List.singleton_append]
    rw [stringBody]
    · simp [hlow]
    · exact hquote
    · exact hback
  · have hesc : escape (x :: rest) = .ok (c, rest) := by simp [escape, hx]
    rw [he, List.cons_append, List.singleton_append, stringBody]
    split
    · rename_i h; rw [hesc] at h; simp at h
    · rename_i h; rw [hesc] at h; simp at h; simp [h]
  · have hesc : escape ('u' :: '0' :: '0' :: a :: b :: rest) = .ok (c, rest) := by
      have h1 : isLowHalf c.toNat = false := by simp [isLowHalf]; omega
      have h2 : isHighHalf c.toNat = false := by simp [isHighHalf]; omega
      simp [escape, unit, hn, h1, h2, Char.ofNat_toNat]
    rw [he]
    simp only [List.cons_append, List.nil_append]
    rw [stringBody]
    split
    · rename_i h; rw [hesc] at h; simp at h
    · rename_i h; rw [hesc] at h; simp at h; simp [h]

/-- A written string is read as that string. -/
theorem stringBody_written (t rest : Text) :
    stringBody (t.flatMap escapedChar ++ '"' :: rest) = .ok (t, rest) := by
  induction t with
  | nil => simp [stringBody]
  | cons c t ih =>
      rw [List.flatMap_cons, List.append_assoc, stringBody_escapedChar, ih]
      rfl

theorem unit_short {t : Text} (h : t.length < 4) : ∃ fault, unit t = .error fault := by
  match t, h with
  | [], _ | [_], _ | [_, _], _ | [_, _, _], _ => exact ⟨_, rfl⟩
  | _ :: _ :: _ :: _ :: _, h => simp only [List.length_cons] at h; omega

/-- From a character that breaks off nothing is read. -/
theorem stringBody_torn_char {cut : Text} {c : Char} (h : Beginning cut (escapedChar c)) :
    ∃ fault, stringBody cut = .error fault := by
  have hnil : stringBody [] = .error .ended := by rw [stringBody]
  have hback : stringBody ['\\'] = .error .ended := by simp [stringBody, escape]
  rcases escapedChar_cases c with ⟨he, -⟩ | ⟨x, he, -⟩ | ⟨a, b, he, -⟩ <;> rw [he] at h
  · rcases h.cons with rfl | ⟨cut', -, h'⟩
    · exact ⟨_, hnil⟩
    · exact absurd h' not_beginning_nil
  · rcases h.cons with rfl | ⟨cut', rfl, h'⟩
    · exact ⟨_, hnil⟩
    · rcases h'.cons with rfl | ⟨cut', -, h''⟩
      · exact ⟨_, hback⟩
      · exact absurd h'' not_beginning_nil
  · rcases h.cons with rfl | ⟨cut', rfl, h'⟩
    · exact ⟨_, hnil⟩
    · rcases h'.cons with rfl | ⟨digits, rfl, h''⟩
      · exact ⟨_, hback⟩
      · obtain ⟨fault, hunit⟩ := unit_short h''.length_lt
        have hescape : escape ('u' :: digits) = .error fault := by simp [escape, hunit]
        refine ⟨fault, ?_⟩
        rw [stringBody]
        split
        · rename_i hf
          rw [hescape] at hf
          cases hf
          rfl
        · rename_i hf
          rw [hescape] at hf
          simp at hf

/-- From a string that breaks off nothing is read. -/
theorem stringBody_torn {cut t : Text} (h : Beginning cut (t.flatMap escapedChar ++ ['"'])) :
    ∃ fault, stringBody cut = .error fault := by
  induction t generalizing cut with
  | nil =>
      rcases h.cons with rfl | ⟨cut', -, h'⟩
      · exact ⟨.ended, by simp [stringBody]⟩
      · exact absurd h' not_beginning_nil
  | cons c t ih =>
      rw [List.flatMap_cons, List.append_assoc] at h
      rcases h.append with hc | ⟨cut', rfl, h'⟩
      · exact stringBody_torn_char hc
      · obtain ⟨fault, hf⟩ := ih h'
        exact ⟨fault, by rw [stringBody_escapedChar, hf]; rfl⟩

/-! ## Numbers -/

theorem isDigit_toDigits (n : Nat) : ∀ c ∈ Nat.toDigits 10 n, c.isDigit = true := by
  intro c hc
  exact Nat.isDigit_of_mem_toDigits (by decide) (by decide) hc

/-- A number other than zero is written without a zero at its start. -/
theorem head?_toDigits_ne (n : Nat) (hn : 0 < n) : (Nat.toDigits 10 n).head? ≠ some '0' := by
  induction n using Nat.strongRecOn with
  | ind n ih =>
      by_cases hlow : n < 10
      · rw [Nat.toDigits_of_lt_base hlow]
        have : ∀ k < 10, 0 < k → [Nat.digitChar k].head? ≠ some '0' := by decide
        exact this n hlow hn
      · rw [Nat.toDigits_of_base_le (by decide) (by omega),
          List.head?_append]
        have hhigh := ih (n / 10) (by omega) (by omega)
        cases hd : Nat.toDigits 10 (n / 10) with
        | nil => exact absurd hd Nat.toDigits_ne_nil
        | cons c rest => rwa [hd] at hhigh

/-- What stands after a value in a written record. -/
def Closing (c : Char) : Prop := c = ',' ∨ c = '\n'

theorem digits_written (n : Nat) {c : Char} (hc : Closing c) (rest : Text) :
    digits .ended (Nat.toDigits 10 n ++ c :: rest) = .ok (Nat.toDigits 10 n, c :: rest) := by
  have hclose : c.isDigit = false := by rcases hc with rfl | rfl <;> rfl
  unfold digits
  rw [List.takeWhile_append_of_pos (isDigit_toDigits n),
    List.dropWhile_append_of_pos (isDigit_toDigits n)]
  simp [hclose, Nat.toDigits_ne_nil]

theorem unsigned_written (n : Nat) {c : Char} (hc : Closing c) (rest : Text) :
    unsigned .ended (Nat.toDigits 10 n ++ c :: rest) = .ok (some n, c :: rest) := by
  have hzero : ((Nat.toDigits 10 n).head? = some '0' && 1 < (Nat.toDigits 10 n).length)
      = false := by
    rcases Nat.eq_zero_or_pos n with rfl | hn
    · decide
    · simp [head?_toDigits_ne n hn]
  have hfraction : fraction .ended (c :: rest) = .ok (false, c :: rest) := by
    rcases hc with rfl | rfl <;> rfl
  have hexponent : exponent .ended (c :: rest) = .ok (false, c :: rest) := by
    rcases hc with rfl | rfl <;> rfl
  simp only [unsigned, digits_written n hc, hfraction, hexponent, hzero, bind, Except.bind]
  simp [Nat.ofDigitChars_ten_toDigits]
  rfl

/-- From a number that breaks off nothing is left. -/
theorem unsigned_torn {n : Nat} {cut : Text} (h : cut <+: Nat.toDigits 10 n)
    {value : Option Nat} {rest : Text} (hr : unsigned .ended cut = .ok (value, rest)) :
    rest = [] := by
  have hdigit : ∀ c ∈ cut, c.isDigit = true := fun c hc => isDigit_toDigits n c (h.subset hc)
  have hrun : (cut ++ []).takeWhile Char.isDigit = cut ++ [].takeWhile Char.isDigit :=
    List.takeWhile_append_of_pos hdigit
  have hall : (cut ++ []).dropWhile Char.isDigit = [].dropWhile Char.isDigit :=
    List.dropWhile_append_of_pos hdigit
  simp only [List.append_nil, List.takeWhile_nil, List.dropWhile_nil] at hrun hall
  by_cases hcut : cut = []
  · subst hcut
    simp [unsigned, digits, bind, Except.bind] at hr
  · have hdigits : digits .ended cut = .ok (cut, []) := by simp [digits, hrun, hall, hcut]
    simp only [unsigned, hdigits, fraction, exponent, bind, Except.bind] at hr
    split at hr
    · simp at hr
    · simp [pure, Except.pure] at hr
      exact hr.2

/-! ## Values -/

theorem expect_written (word rest : Text) : expect word (word ++ rest) = .ok rest := by
  induction word with
  | nil => rfl
  | cons w word ih => simpa [expect] using ih

theorem expect_torn {cut word : Text} (h : Beginning cut word) :
    expect word cut = .error .ended := by
  induction word generalizing cut with
  | nil => exact absurd h not_beginning_nil
  | cons w word ih =>
      rcases h.cons with rfl | ⟨cut', rfl, h'⟩
      · rfl
      · simpa [expect] using ih h'

/-- The values of the kinds that are no lists, as a record holds them. -/
inductive Kind.Holds : Kind → Value → Prop where
  | natural (n : UInt32) : Kind.natural.Holds (.number n.toNat)
  | boolean (b : Bool) : Kind.boolean.Holds (.bool b)
  | string (t : Text) : Kind.string.Holds (.string t)
  | absent : Kind.nullableString.Holds .null
  | present (t : Text) : Kind.nullableString.Holds (.string t)

theorem dropSpace_of_not {c : Char} (h : isSpace c = false) (rest : Text) :
    dropSpace (c :: rest) = c :: rest := by
  simp [dropSpace, h]

theorem dropSpace_space (t : Text) : dropSpace (' ' :: t) = dropSpace t := by
  simp [dropSpace, isSpace]

/-- Readers skip the space between the colon and the value. -/
theorem read_space {kind : Kind} {value : Value} (h : kind.Holds value) (t : Text) :
    kind.reader.read (' ' :: t) = kind.reader.read t := by
  cases h <;>
    simp only [Kind.reader, Reader.map, natural, boolean, string, nullable, dropSpace_space]

/-- The first character of a number is a digit. -/
theorem toDigits_cons (n : Nat) :
    ∃ c rest, Nat.toDigits 10 n = c :: rest ∧ c.isDigit = true := by
  cases hd : Nat.toDigits 10 n with
  | nil => exact absurd hd Nat.toDigits_ne_nil
  | cons c rest => exact ⟨c, rest, rfl, isDigit_toDigits n c (hd ▸ List.mem_cons_self)⟩

theorem not_space_of_isDigit {c : Char} (h : c.isDigit = true) :
    isSpace c = false ∧ c ≠ '-' := by
  refine ⟨?_, ?_⟩
  · simp only [isSpace, Bool.or_eq_false_iff, decide_eq_false_iff_not]
    refine ⟨⟨⟨?_, ?_⟩, ?_⟩, ?_⟩ <;> (rintro rfl; simp at h)
  · rintro rfl
    simp at h

theorem natural_read {c : Char} (h : c.isDigit = true) (rest : Text) :
    natural.read (c :: rest) = word32 (unsigned .ended (c :: rest)) := by
  obtain ⟨hspace, hminus⟩ := not_space_of_isDigit h
  simp only [natural, dropSpace_of_not hspace]
  rw [if_pos (by simp [h]), number]
  exact fun t ht => hminus (List.cons.inj ht).1

theorem boolean_written (b : Bool) (level : Nat) (rest : Text) :
    boolean.read ((Value.bool b).writtenAt level ++ rest) = .ok (b, rest) := by
  cases b with
  | true =>
      change boolean.read ('t' :: ("rue".toList ++ rest)) = _
      simp only [boolean, dropSpace_of_not (c := 't') rfl, wordValue, expect_written, Except.map]
  | false =>
      change boolean.read ('f' :: ("alse".toList ++ rest)) = _
      simp only [boolean, dropSpace_of_not (c := 'f') rfl, wordValue, expect_written, Except.map]

theorem boolean_torn {b : Bool} {level : Nat} {cut : Text}
    (h : Beginning cut ((Value.bool b).writtenAt level)) :
    ∃ fault, boolean.read cut = .error fault := by
  refine ⟨.ended, ?_⟩
  cases b with
  | true =>
      change Beginning cut ('t' :: "rue".toList) at h
      rcases h.cons with rfl | ⟨cut', rfl, h'⟩
      · rfl
      · simp only [boolean, dropSpace_of_not (c := 't') rfl, wordValue, expect_torn h', Except.map]
  | false =>
      change Beginning cut ('f' :: "alse".toList) at h
      rcases h.cons with rfl | ⟨cut', rfl, h'⟩
      · rfl
      · simp only [boolean, dropSpace_of_not (c := 'f') rfl, wordValue, expect_torn h', Except.map]

theorem string_written (t rest : Text) :
    string.read (writtenString t ++ rest) = .ok (t, rest) := by
  rw [writtenString, List.cons_append, List.cons_append, List.append_assoc]
  simp only [string, dropSpace_of_not (c := '"') rfl]
  exact stringBody_written t rest

theorem string_torn {t cut : Text} (h : Beginning cut (writtenString t)) :
    ∃ fault, string.read cut = .error fault := by
  rcases h.cons with rfl | ⟨cut', rfl, h'⟩
  · exact ⟨_, rfl⟩
  · simp only [string, dropSpace_of_not (c := '"') rfl]
    exact stringBody_torn h'

theorem natural_written (n : UInt32) {c : Char} (hc : Closing c) (rest : Text) :
    natural.read (Nat.toDigits 10 n.toNat ++ c :: rest) = .ok (n, c :: rest) := by
  obtain ⟨d, digits, hd, hdigit⟩ := toDigits_cons n.toNat
  have hread := unsigned_written n.toNat hc rest
  rw [hd, List.cons_append] at hread ⊢
  rw [natural_read hdigit, hread]
  simp [word32, n.toNat_lt]

theorem natural_torn {n : Nat} {found : UInt32} {cut rest : Text}
    (h : cut <+: Nat.toDigits 10 n) (hread : natural.read cut = .ok (found, rest)) :
    rest = [] := by
  cases cut with
  | nil => simp [natural, dropSpace] at hread
  | cons d cut' =>
      rw [natural_read (isDigit_toDigits n d (h.subset List.mem_cons_self))] at hread
      unfold word32 at hread
      split at hread
      · rename_i hn
        split at hread
        · obtain ⟨-, rfl⟩ := Prod.mk.inj (Except.ok.inj hread)
          exact unsigned_torn h hn
        · simp at hread
      · simp at hread
      · simp at hread

theorem null_written (level : Nat) (rest : Text) :
    (nullable string).read (Value.null.writtenAt level ++ rest) = .ok (none, rest) := by
  change (nullable string).read ('n' :: ("ull".toList ++ rest)) = _
  simp only [nullable, dropSpace_of_not (c := 'n') rfl, wordValue, expect_written, Except.map]

theorem null_torn {level : Nat} {cut : Text} (h : Beginning cut (Value.null.writtenAt level)) :
    ∃ fault, (nullable string).read cut = .error fault := by
  change Beginning cut ('n' :: "ull".toList) at h
  rcases h.cons with rfl | ⟨cut', rfl, h'⟩
  · exact ⟨_, rfl⟩
  · refine ⟨.ended, ?_⟩
    simp only [nullable, dropSpace_of_not (c := 'n') rfl, wordValue, expect_torn h', Except.map]

/-- A text that starts like a string is no `null`. -/
theorem nullable_quote (rest : Text) :
    (nullable string).read ('"' :: rest)
      = (string.read ('"' :: rest)).map fun r => (some r.1, r.2) := by
  simp only [nullable, dropSpace_of_not (c := '"') rfl]
  rfl

theorem present_written (t rest : Text) :
    (nullable string).read (writtenString t ++ rest) = .ok (some t, rest) := by
  have ht := string_written t rest
  rw [writtenString, List.cons_append, List.cons_append] at ht ⊢
  rw [nullable_quote, ht]
  rfl

theorem present_torn {t cut : Text} (h : Beginning cut (writtenString t)) :
    ∃ fault, (nullable string).read cut = .error fault := by
  obtain ⟨fault, hf⟩ := string_torn h
  rcases h.cons with rfl | ⟨cut', rfl, -⟩
  · exact ⟨_, rfl⟩
  · exact ⟨fault, by rw [nullable_quote, hf]; rfl⟩

/-- **A written value is read as that value, whatever comes after it.** -/
theorem kind_read_written {kind : Kind} {value : Value} (h : kind.Holds value) (level : Nat)
    {c : Char} (hc : Closing c) (rest : Text) :
    kind.reader.read (value.writtenAt level ++ c :: rest) = .ok (value, c :: rest) := by
  cases h with
  | natural n =>
      simp only [Kind.reader, Reader.map, Value.writtenAt, natural_written n hc, Except.map]
  | boolean b => simp only [Kind.reader, Reader.map, boolean_written, Except.map]
  | string t => simp only [Kind.reader, Reader.map, Value.writtenAt, string_written, Except.map]
  | absent =>
      simp only [Kind.reader, Reader.map, null_written, Except.map]
      rfl
  | present t =>
      simp only [Kind.reader, Reader.map, Value.writtenAt, present_written, Except.map]
      rfl

theorem map_read {α β : Type} {f : α → β} {reader : Reader α} {t rest : Text} {b : β}
    (h : (reader.map f).read t = .ok (b, rest)) : ∃ a, reader.read t = .ok (a, rest) := by
  change (reader.read t).map (fun r => (f r.1, r.2)) = _ at h
  cases hr : reader.read t with
  | error fault =>
      rw [hr] at h
      cases h
  | ok r =>
      rw [hr] at h
      cases h
      exact ⟨r.1, rfl⟩

/-- A value that cannot be read if it breaks off is read to the end of the text, or not at all. -/
theorem read_to_end {α : Type} {reader : Reader α} {whole : Text} {a : α}
    (hwhole : reader.read whole = .ok (a, []))
    (htorn : ∀ cut, Beginning cut whole → ∃ fault, reader.read cut = .error fault)
    {cut : Text} (hcut : cut <+: whole) {b : α} {rest : Text}
    (hread : reader.read cut = .ok (b, rest)) : rest = [] := by
  by_cases hsame : cut = whole
  · rw [hsame, hwhole] at hread
    cases hread
    rfl
  · obtain ⟨fault, hf⟩ := htorn cut ⟨hcut, hsame⟩
    rw [hf] at hread
    cases hread

/-- **From a value that breaks off, or ends the text, nothing is left.** -/
theorem kind_read_torn {kind : Kind} {value found : Value} (h : kind.Holds value) {level : Nat}
    {cut rest : Text} (hcut : cut <+: value.writtenAt level)
    (hread : kind.reader.read cut = .ok (found, rest)) : rest = [] := by
  unfold Kind.reader at hread
  cases h with
  | natural n =>
      obtain ⟨m, hm⟩ := map_read hread
      rw [Value.writtenAt] at hcut
      exact natural_torn hcut hm
  | boolean b =>
      obtain ⟨c, hc⟩ := map_read hread
      have hwhole := boolean_written b level []
      rw [List.append_nil] at hwhole
      exact read_to_end hwhole (fun _ => boolean_torn) hcut hc
  | string t =>
      obtain ⟨s, hs⟩ := map_read hread
      have hwhole := string_written t []
      rw [List.append_nil] at hwhole
      rw [Value.writtenAt] at hcut
      exact read_to_end hwhole (fun _ => string_torn) hcut hs
  | absent =>
      obtain ⟨s, hs⟩ := map_read hread
      have hwhole := null_written level []
      rw [List.append_nil] at hwhole
      exact read_to_end hwhole (fun _ => null_torn) hcut hs
  | present t =>
      obtain ⟨s, hs⟩ := map_read hread
      have hwhole := present_written t []
      rw [List.append_nil] at hwhole
      rw [Value.writtenAt] at hcut
      exact read_to_end hwhole (fun _ => present_torn) hcut hs

end MigrationScript.Json
