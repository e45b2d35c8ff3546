import Mathlib
import MigrationScript.Proofs.Lexeme
import MigrationScript.Proofs.Run.Check
import MigrationScript.Proofs.Text

/-!
# Version literals

A version can be read, written, packed into one number and unpacked again. This module says what is
read, and that none of these loses anything.

A literal is taken apart here as it is spelled: white space, digits, a point, digits, white space
(`Literal`). What can be read is a literal, and nothing else (`parse?_eq_some`); the rest follows
from the bounds that its digits give. Packing keeps the order of versions under these bounds
(`encode_lt_encode`), and every number is the number of some version (`encode_decode`), though not
of one that a literal stands for.
-/

namespace MigrationScript.Version

/-! ## Literals as they are spelled -/

/-- A run of decimal digits: at least one, and at most so many. -/
structure Digits (most : Nat) where
  text : Text
  decimal : ∀ c ∈ text, c.isDigit = true
  nonempty : 1 ≤ text.length
  short : text.length ≤ most

/-- A version literal, with the white space around it. -/
structure Literal where
  before : Text
  major : Digits 7
  minor : Digits 2
  after : Text
  blank_before : ∀ c ∈ before, Text.isBlank c = true
  blank_after : ∀ c ∈ after, Text.isBlank c = true

variable {most : Nat}

/-- The number that digits are written for. -/
def Digits.value (d : Digits most) : Nat := Nat.ofDigitChars 10 d.text 0

namespace Literal

/-- A literal without the white space around it. -/
def core (l : Literal) : Text := l.major.text ++ '.' :: l.minor.text

/-- A literal as it is written. -/
def text (l : Literal) : Text := l.before ++ l.core ++ l.after

/-- The version that a literal is written for. -/
def StandsFor (l : Literal) (v : Version) : Prop :=
  v.major.toNat = l.major.value ∧ v.minor.toNat = l.minor.value

end Literal

/-! ## Reading -/

theorem Digits.value_lt (d : Digits most) : d.value < 10 ^ most :=
  Nat.lt_of_lt_of_le (ofDigitChars_lt d.decimal) (Nat.pow_le_pow_right (by decide) d.short)

theorem Digits.toNat_value (hmost : most ≤ 9) (d : Digits most) :
    (UInt32.ofNat d.value).toNat = d.value := by
  have hlt := d.value_lt
  have hpow : 10 ^ most ≤ 10 ^ 9 := Nat.pow_le_pow_right (by decide) hmost
  refine UInt32.toNat_ofNat_of_lt' ?_
  simp only [UInt32.size]
  omega

/-- What is read as a number is a run of digits that is not too long. -/
theorem number?_eq_some (hmost : most ≤ 9) {t : Text} {n : UInt32} :
    number? most t = some n ↔ ∃ d : Digits most, d.text = t ∧ n.toNat = d.value := by
  unfold number?
  constructor
  · intro h
    split at h
    · rename_i hform
      simp only [Bool.and_eq_true, List.all_eq_true, decide_eq_true_eq] at hform
      obtain ⟨⟨hdecimal, hone⟩, hshort⟩ := hform
      obtain rfl := Option.some.inj h
      exact ⟨⟨t, hdecimal, hone, hshort⟩, rfl, Digits.toNat_value hmost ⟨t, hdecimal, hone, hshort⟩⟩
    · cases h
  · rintro ⟨d, rfl, hn⟩
    have hform : (d.text.all Char.isDigit && 1 ≤ d.text.length && d.text.length ≤ most) = true := by
      simp only [Bool.and_eq_true, List.all_eq_true, decide_eq_true_eq]
      exact ⟨⟨d.decimal, d.nonempty⟩, d.short⟩
    rw [if_pos hform, ← UInt32.ofNat_toNat (x := n), hn]
    rfl

theorem isBlank_of_isDigit {c : Char} (h : c.isDigit = true) : Text.isBlank c = false :=
  LexemeClass.not_isBlank_of_isAlphanum (by simp [Char.isAlphanum, h])

theorem point_not_mem_digits (d : Digits most) : ∀ c ∈ d.text, decide (c = '.') = false := by
  intro c hc
  refine decide_eq_false ?_
  rintro rfl
  exact absurd (d.decimal '.' hc) (by decide)

theorem Digits.ne_nil (d : Digits most) : d.text ≠ [] :=
  List.ne_nil_of_length_pos d.nonempty

/-- Nothing of the literal itself is white space. -/
theorem trim_text (l : Literal) : Text.trim l.text = l.core := by
  have hfirst : ∀ c ∈ l.core.head?, Text.isBlank c = false := by
    intro c hc
    rw [Literal.core, List.head?_append_of_ne_nil _ l.major.ne_nil] at hc
    exact isBlank_of_isDigit (l.major.decimal c (List.mem_of_head? hc))
  have hlast : ∀ c ∈ l.core.getLast?, Text.isBlank c = false := by
    intro c hc
    have hdigit : c ∈ l.minor.text.getLast? := by
      obtain ⟨d, rest, hminor⟩ := List.exists_cons_of_ne_nil l.minor.ne_nil
      rw [Literal.core, hminor, List.getLast?_append, List.getLast?_cons_cons] at hc
      rw [hminor]
      simpa using hc
    exact isBlank_of_isDigit (l.minor.decimal c (List.mem_of_getLast? hdigit))
  rw [Literal.text, Text.trim_around l.blank_before l.blank_after, Text.trim_of_tight hfirst hlast]

/-- **What can be read as a version is a literal, and it is read as the version that the literal is
written for.** -/
theorem parse?_eq_some {t : Text} {v : Version} :
    parse? t = some v ↔ ∃ l : Literal, l.text = t ∧ l.StandsFor v := by
  constructor
  · intro h
    unfold parse? at h
    cases hsplit : Text.splitOnce? (· = '.') (Text.trim t) with
    | none => simp [hsplit] at h
    | some parts =>
        -- the first point divides what is left between the white space
        obtain ⟨majorDigits, minorDigits⟩ := parts
        obtain ⟨c, hpoint, hcore⟩ := Text.splitOnce?_eq_some hsplit
        obtain rfl : c = '.' := of_decide_eq_true hpoint
        cases hmajor : number? 7 majorDigits with
        | none => simp [hsplit, hmajor] at h
        | some major =>
            cases hminor : number? 2 minorDigits with
            | none => simp [hsplit, hmajor, hminor] at h
            | some minor =>
                obtain rfl : (⟨major, minor⟩ : Version) = v := by
                  simpa [hsplit, hmajor, hminor] using h
                obtain ⟨d, rfl, hd⟩ := (number?_eq_some (by decide)).mp hmajor
                obtain ⟨e, rfl, he⟩ := (number?_eq_some (by decide)).mp hminor
                obtain ⟨before, after, hbefore, hafter, hjoin⟩ := Text.trim_append t
                refine ⟨⟨before, d, e, after, hbefore, hafter⟩, ?_, hd, he⟩
                rw [Literal.text, Literal.core, hcore, hjoin]
  · rintro ⟨l, rfl, hmajor, hminor⟩
    have hsplit : Text.splitOnce? (· = '.') (Text.trim l.text)
        = some (l.major.text, l.minor.text) := by
      rw [trim_text, Literal.core]
      exact Text.splitOnce?_append (point_not_mem_digits l.major) rfl l.minor.text
    have hmajor : number? 7 l.major.text = some v.major :=
      (number?_eq_some (by decide)).mpr ⟨l.major, rfl, hmajor⟩
    have hminor : number? 2 l.minor.text = some v.minor :=
      (number?_eq_some (by decide)).mpr ⟨l.minor, rfl, hminor⟩
    simp [parse?, hsplit, hmajor, hminor]

/-! ## Writing -/

/-- The digits of a number below a power of ten. -/
def Digits.ofNat (n : Nat) (hpos : 0 < most) (h : n < 10 ^ most) : Digits most where
  text := Nat.toDigits 10 n
  decimal _ hc := Nat.isDigit_of_mem_toDigits (by decide) (by decide) hc
  nonempty := List.length_pos_of_ne_nil Nat.toDigits_ne_nil
  short := Nat.toDigits_length 10 n most hpos h

/-- What is written for a version within the bounds is read as that version. -/
theorem parse?_text {v : Version} (h : v.Bounded) : parse? v.text = some v := by
  refine parse?_eq_some.mpr ⟨⟨[], .ofNat v.major.toNat (by decide) h.1,
    .ofNat v.minor.toNat (by decide) h.2, [], by simp, by simp⟩, ?_, ?_, ?_⟩
  · exact List.append_nil _
  · exact Nat.ofDigitChars_ten_toDigits.symm
  · exact Nat.ofDigitChars_ten_toDigits.symm

/-! ## Packing -/

theorem decode_encode {v : Version} (h : v.Bounded) : decode v.encode = v := by
  have hencode := encode_toNat h
  have hminor := h.2
  have hfirst : (decode v.encode).major = v.major := by
    rw [← UInt32.toNat_inj, decode_major, hencode]
    omega
  have hsecond : (decode v.encode).minor = v.minor := by
    rw [← UInt32.toNat_inj, decode_minor, hencode]
    omega
  exact congrArg₂ Version.mk hfirst hsecond

/-- **Versions within the bounds are in the order of their numbers.** -/
theorem encode_lt_encode {u v : Version} (hu : u.Bounded) (hv : v.Bounded) :
    u.encode < v.encode ↔ u < v := by
  have hminor := hu.2
  have hminor' := hv.2
  change _ ↔ u.major < v.major ∨ u.major = v.major ∧ u.minor < v.minor
  rw [UInt32.lt_iff_toNat_lt, encode_toNat hu, encode_toNat hv, UInt32.lt_iff_toNat_lt,
    UInt32.lt_iff_toNat_lt, ← UInt32.toNat_inj]
  omega

theorem encode_decode (encoded : UInt32) : (decode encoded).encode = encoded := by
  have hlt := encoded.toNat_lt
  rw [← UInt32.toNat_inj, encode]
  simp only [UInt32.toNat_add, UInt32.toNat_mul, UInt32.reduceToNat, decode_major, decode_minor]
  omega

/-- Packing a version takes one product and one sum, and neither is cut off at 32 bits. -/
structure Packs (v : Version) : Prop where
  hundreds : (v.major * 100).toNat = v.major.toNat * 100
  sum : v.encode.toNat = v.major.toNat * 100 + v.minor.toNat

theorem packs_of_bounded {v : Version} (h : v.Bounded) : v.Packs := by
  have hexact := exact_of_bounded h 0
  exact ⟨hexact.hundreds, hexact.encode⟩

theorem packs_decode (encoded : UInt32) : (decode encoded).Packs := by
  have hlt := encoded.toNat_lt
  constructor
  · simp only [UInt32.toNat_mul, UInt32.reduceToNat, decode_major]
    omega
  · rw [encode_decode, decode_major, decode_minor]
    omega

/-! ## The codec -/

/-- What becomes of a version that has been read when it is packed or written. -/
structure Preserved (v : Version) : Prop where
  packs : v.Packs
  unpacked : decode v.encode = v
  reread : ∀ operator, (⟨operator, v.text⟩ : Comparison).version = .ok v

theorem preserved_of_bounded {v : Version} (h : v.Bounded) : v.Preserved where
  packs := packs_of_bounded h
  unpacked := decode_encode h
  reread _ := Comparison.version_of_parse (parse?_text h)

end MigrationScript.Version

namespace MigrationScript.Comparison

open Version

variable {asked : Comparison} {v : Version}

theorem parse?_of_version (h : asked.version = .ok v) : parse? asked.value = some v := by
  unfold version at h
  cases hparse : parse? asked.value with
  | none =>
      rw [hparse] at h
      cases h
  | some u =>
      rw [hparse] at h
      obtain rfl : u = v := Except.ok.inj h
      rfl

theorem version_eq_ok : asked.version = .ok v ↔ parse? asked.value = some v :=
  ⟨parse?_of_version, version_of_parse⟩

/--
**Versions are read, written, packed and unpacked without loss.**

A text is read as a version exactly if it is a literal, and as the version that the literal is
written for; any other text is refused with a failure that names it. A version that was read can be
packed and unpacked, written and read again, and two of them are in the order of their numbers, so
different versions have different numbers. Every number can be unpacked and packed again. None of
this is cut off at 32 bits.
-/
theorem version_codec (asked other : Comparison) (encoded : UInt32) :
    (∀ v, asked.version = .ok v ↔ ∃ l : Literal, l.text = asked.value ∧ l.StandsFor v) ∧
      ((¬ ∃ l : Literal, l.text = asked.value) →
        asked.version = .error (.badVersionLiteral asked.value)) ∧
      (∀ v, asked.version = .ok v → v.Preserved) ∧
      (∀ u v, asked.version = .ok u → other.version = .ok v →
        (u < v ↔ u.encode < v.encode) ∧ (u.encode = v.encode → u = v)) ∧
      (decode encoded).encode = encoded ∧ (decode encoded).Packs := by
  refine ⟨fun v => version_eq_ok.trans parse?_eq_some, ?_, ?_, ?_, encode_decode encoded,
    packs_decode encoded⟩
  · intro hnone
    refine version_of_bad (Option.eq_none_iff_forall_ne_some.mpr ?_)
    intro v hparse
    obtain ⟨l, htext, -⟩ := parse?_eq_some.mp hparse
    exact hnone ⟨l, htext⟩
  · intro v hread
    exact preserved_of_bounded (parse?_bounded (parse?_of_version hread))
  · intro u v hu hv
    have hu := parse?_bounded (parse?_of_version hu)
    have hv := parse?_bounded (parse?_of_version hv)
    refine ⟨(encode_lt_encode hu hv).symm, ?_⟩
    intro hsame
    rw [← decode_encode hu, hsame, decode_encode hv]

/-- Two literals, one with zeros before its digits and one as great as can be. -/
theorem version_codec_extremes :
    (⟨.plain, " 03.05\t".toList⟩ : Comparison).version = .ok ⟨3, 5⟩ ∧
      (⟨.equal, "9999999.99".toList⟩ : Comparison).version = .ok ⟨9999999, 99⟩ ∧
      (⟨3, 5⟩ : Version).Preserved ∧ (⟨3, 5⟩ : Version) < ⟨9999999, 99⟩ ∧
      (decode 4294967295).encode = 4294967295 := by
  have hlow : (⟨.plain, " 03.05\t".toList⟩ : Comparison).version = .ok ⟨3, 5⟩ := by decide
  have hhigh : (⟨.equal, "9999999.99".toList⟩ : Comparison).version = .ok ⟨9999999, 99⟩ := by
    decide
  obtain ⟨-, -, hpreserved, horder, hpacked, -⟩ :=
    version_codec ⟨.plain, " 03.05\t".toList⟩ ⟨.equal, "9999999.99".toList⟩ 4294967295
  refine ⟨hlow, hhigh, hpreserved _ hlow, (horder _ _ hlow hhigh).1.mpr ?_, hpacked⟩
  decide

example : (⟨.plain, "٣.6".toList⟩ : Comparison).version
    = .error (.badVersionLiteral "٣.6".toList) := by decide

end MigrationScript.Comparison
