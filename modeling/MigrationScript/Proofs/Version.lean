import Mathlib.Algebra.Group.Nat.Defs
import Mathlib.Logic.Basic
import MigrationScript.Version

/-!
# Arithmetic of schema versions

A version is two 32-bit numbers and is kept as one. That the one never overflows rests on how a
literal is written, with at most seven digits before the point and two after it. Under that bound
encoding is plain arithmetic (`encode_toNat`), and a version follows another exactly if its number
does, by one or to the next multiple of a hundred (`follows_iff`). That is what the gates of a
script come to, whatever number the database gives as its version (`gates_of_bounded`).
-/

namespace MigrationScript.Version

/-- The bounds that a literal keeps: seven digits before the point, and two after it. -/
def Bounded (v : Version) : Prop := v.major.toNat < 10 ^ 7 ∧ v.minor.toNat < 100

/-! ## Literals -/

theorem ofDigitChars_lt {digits : Text} (h : ∀ c ∈ digits, c.isDigit = true) :
    Nat.ofDigitChars 10 digits 0 < 10 ^ digits.length := by
  induction digits with
  | nil => simp
  | cons c rest ih =>
      have hrest := ih fun d hd => h d (List.mem_cons_of_mem _ hd)
      have hc : c.toNat - '0'.toNat ≤ 9 := by
        have hdigit := h c (List.mem_cons_self ..)
        simp only [Char.isDigit, Bool.and_eq_true, decide_eq_true_eq, UInt32.le_iff_toNat_le]
          at hdigit
        have h57 : c.toNat ≤ 57 := hdigit.2
        change c.toNat - 48 ≤ 9
        omega
      rw [Nat.ofDigitChars_cons, Nat.ofDigitChars_eq_ofDigitChars_zero, Nat.mul_zero, Nat.zero_add,
        List.length_cons, Nat.pow_succ]
      have := Nat.mul_le_mul_left (10 ^ rest.length) hc
      omega

theorem number?_lt {most : Nat} {digits : Text} {n : UInt32} (hmost : most ≤ 9)
    (h : number? most digits = some n) : n.toNat < 10 ^ most := by
  unfold number? at h
  split at h
  · rename_i hform
    simp only [Bool.and_eq_true, List.all_eq_true, decide_eq_true_eq] at hform
    obtain rfl := Option.some.inj h
    have hlt := ofDigitChars_lt hform.1.1
    have hpow : 10 ^ digits.length ≤ 10 ^ most := Nat.pow_le_pow_right (by decide) hform.2
    have hmax : 10 ^ most ≤ 10 ^ 9 := Nat.pow_le_pow_right (by decide) hmost
    rw [UInt32.toNat_ofNat_of_lt' (by simp only [UInt32.size]; omega)]
    omega
  · simp at h

/-- **A literal stands for a version within the bounds.** -/
theorem parse?_bounded {literal : Text} {v : Version} (h : parse? literal = some v) :
    v.Bounded := by
  unfold parse? at h
  cases hsplit : Text.splitOnce? (· = '.') (Text.trim literal) with
  | none => simp [hsplit] at h
  | some parts =>
      obtain ⟨majorDigits, minorDigits⟩ := parts
      cases hmajor : number? 7 majorDigits with
      | none => simp [hsplit, hmajor] at h
      | some major =>
          cases hminor : number? 2 minorDigits with
          | none => simp [hsplit, hmajor, hminor] at h
          | some minor =>
              obtain rfl : (⟨major, minor⟩ : Version) = v := by
                simpa [hsplit, hmajor, hminor] using h
              exact ⟨number?_lt (by decide) hmajor, number?_lt (by decide) hminor⟩

/-! ## Numbers -/

theorem encode_toNat {v : Version} (h : v.Bounded) :
    v.encode.toNat = v.major.toNat * 100 + v.minor.toNat := by
  obtain ⟨hmajor, hminor⟩ := h
  simp only [encode, UInt32.toNat_add, UInt32.toNat_mul, UInt32.reduceToNat]
  omega

theorem decode_major (encoded : UInt32) : (decode encoded).major.toNat = encoded.toNat / 100 := rfl

theorem decode_minor (encoded : UInt32) : (decode encoded).minor.toNat = encoded.toNat % 100 := rfl

/-- **A version follows the next number below its own, or any number in the hundred before it.** -/
theorem follows_iff {v : Version} (h : v.Bounded) (current : UInt32) :
    v.follows current = true ↔
      v.encode.toNat = current.toNat + 1
        ∨ v.encode.toNat = (current.toNat / 100 + 1) * 100 := by
  have hmajor := decode_major current
  have hminor := decode_minor current
  have hcurrent := current.toNat_lt
  simp only [follows, Bool.or_eq_true, Bool.and_eq_true, beq_iff_eq, ← UInt32.toNat_inj,
    UInt32.toNat_add, UInt32.reduceToNat, hmajor, hminor, encode_toNat h]
  obtain ⟨hb1, hb2⟩ := h
  omega

/-- A version that follows another one is greater. -/
theorem lt_encode_of_follows {v : Version} (h : v.Bounded) {current : UInt32}
    (hf : v.follows current = true) : current < v.encode := by
  rw [UInt32.lt_iff_toNat_lt]
  rcases (follows_iff h current).mp hf with hn | hn <;> omega

/-! ## Gates -/

/-- The products and sums of a gate, none of which is cut off at 32 bits. -/
structure Exact (v : Version) (current : UInt32) : Prop where
  hundreds : (v.major * 100).toNat = v.major.toNat * 100
  encode : v.encode.toNat = v.major.toNat * 100 + v.minor.toNat
  nextMinor : ((decode current).minor + 1).toNat = current.toNat % 100 + 1
  nextMajor : ((decode current).major + 1).toNat = current.toNat / 100 + 1

/-- The current version may be any number, also one that no literal stands for. -/
theorem exact_of_bounded {v : Version} (h : v.Bounded) (current : UInt32) : v.Exact current := by
  have hcurrent := current.toNat_lt
  have hmajor := h.1
  refine ⟨?_, encode_toNat h, ?_, ?_⟩
  · simp only [UInt32.toNat_mul, UInt32.reduceToNat]
    omega
  · simp only [UInt32.toNat_add, decode_minor, UInt32.reduceToNat]
    omega
  · simp only [UInt32.toNat_add, decode_major, UInt32.reduceToNat]
    omega

/-- What the gates of a version let through, by its number. -/
structure Gates (v : Version) (current : UInt32) : Prop where
  /-- `>` lets the next minor version through, and the next major one. -/
  greater : v.gate .greater current = some true ↔
    v.encode.toNat = current.toNat + 1 ∨ v.encode.toNat = (current.toNat / 100 + 1) * 100
  /-- A version that `>` lets through is a rise. -/
  rises : v.gate .greater current = some true → current < v.encode
  /-- `=` lets the current version through. -/
  equal : v.gate .equal current = some true ↔ v.encode = current
  /-- `>=` lets through what one of these does. None is let through by both. -/
  greaterEqual : v.gate .greaterEqual current = some true ↔
    Xor (v.gate .equal current = some true) (v.gate .greater current = some true)
  /-- No other operator is a gate. -/
  others : ∀ operator, v.gate operator current = none ↔
    operator ≠ .equal ∧ operator ≠ .greater ∧ operator ≠ .greaterEqual

theorem gates_of_bounded {v : Version} (h : v.Bounded) (current : UInt32) : v.Gates current := by
  have hgreater : v.gate .greater current = some true ↔ v.follows current = true := by
    simp [gate]
  have hequal : v.gate .equal current = some true ↔ v.encode = current := by
    rw [gate, Option.some_inj, beq_iff_eq]
    exact eq_comm
  have hrises : v.gate .greater current = some true → current < v.encode := fun hgate =>
    lt_encode_of_follows h (hgreater.mp hgate)
  refine ⟨hgreater.trans (follows_iff h current), hrises, hequal, ?_, ?_⟩
  · -- the two ways through exclude each other, since one is a rise and the other is none
    have hone : ¬ (v.gate .equal current = some true ∧ v.gate .greater current = some true) := by
      rintro ⟨hsame, hrise⟩
      rw [hequal.mp hsame] at hrises
      exact UInt32.lt_irrefl _ (hrises hrise)
    have heither : v.gate .greaterEqual current = some true ↔
        v.gate .equal current = some true ∨ v.gate .greater current = some true := by
      simp [gate]
    rw [heither, xor_iff_or_and_not_and, and_iff_left hone]
  · intro operator
    cases operator <;> simp [gate]

end MigrationScript.Version
