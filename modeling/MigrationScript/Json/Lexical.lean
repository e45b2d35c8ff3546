import MigrationScript.Text

/-!
# The words of JSON

JSON is made of strings, numbers and a few words. Each function here takes one of them from the
front of a text and leaves the rest, which is shorter; that is proved beside each.

A text fails at the first thing that is not as it should be: it may have come to its end, it may be
no JSON, or it may be JSON of another kind than the one wanted.
-/

namespace MigrationScript.Json

/-- Why a text cannot be read. -/
inductive Fault where
  /-- The text ends inside the value. -/
  | ended
  /-- The text is no JSON. -/
  | malformed
  /-- The text is JSON, but not of the kind that is wanted. -/
  | mismatched
  deriving DecidableEq, Repr

/-- White space of JSON. -/
def isSpace (c : Char) : Bool := c = ' ' || c = '\n' || c = '\t' || c = '\r'

/-- The text without the white space at its start. -/
def dropSpace (t : Text) : Text := t.dropWhile isSpace

theorem length_dropSpace_le (t : Text) : (dropSpace t).length ≤ t.length :=
  (List.dropWhile_suffix isSpace).length_le

theorem length_of_dropSpace {t rest : Text} {c : Char} (h : dropSpace t = c :: rest) :
    rest.length < t.length := by
  have := length_dropSpace_le t
  rw [h, List.length_cons] at this
  omega

/-- Takes a given word from the front of a text. -/
def expect : Text → Text → Except Fault Text
  | [], t => .ok t
  | _ :: _, [] => .error .ended
  | w :: word, c :: t => if w = c then expect word t else .error .malformed

theorem length_of_expect {word t rest : Text} (h : expect word t = .ok rest) :
    rest.length ≤ t.length := by
  induction word generalizing t with
  | nil => simp_all [expect]
  | cons w word ih =>
    cases t with
    | nil => simp [expect] at h
    | cons c t =>
      simp only [expect] at h
      split at h
      · have := ih h
        simp only [List.length_cons]
        omega
      · simp at h

/-! ## Strings -/

/-- The value of a hexadecimal digit. -/
def hexValue? (c : Char) : Option Nat :=
  if c.isDigit then some (c.toNat - '0'.toNat)
  else if 'a' ≤ c && c ≤ 'f' then some (c.toNat - 'a'.toNat + 10)
  else if 'A' ≤ c && c ≤ 'F' then some (c.toNat - 'A'.toNat + 10)
  else none

/-- The number that four hexadecimal digits stand for. -/
def unit? (a b c d : Char) : Option Nat := do
  return (← hexValue? a) * 4096 + (← hexValue? b) * 256 + (← hexValue? c) * 16 + (← hexValue? d)

/-- Whether a number is the first half of a pair that stands for one character. -/
def isHighHalf (n : Nat) : Bool := 0xD800 ≤ n && n ≤ 0xDBFF

/-- Whether a number is the second half of such a pair. -/
def isLowHalf (n : Nat) : Bool := 0xDC00 ≤ n && n ≤ 0xDFFF

/-- The character that a pair of halves stands for. -/
def paired (high low : Nat) : Char :=
  Char.ofNat (0x10000 + (high - 0xD800) * 0x400 + (low - 0xDC00))

/-- Four hexadecimal digits, as the number they stand for. Where something else stands, the text has
ended if it has fewer than four bytes left. -/
def unit : Text → Except Fault (Nat × Text)
  | a :: b :: c :: d :: rest =>
    match unit? a b c d with
    | some n => .ok (n, rest)
    | none => .error .malformed
  | t => .error (if Text.utf8Length t < 4 then .ended else .malformed)

theorem length_of_unit {t rest : Text} {n : Nat} (h : unit t = .ok (n, rest)) :
    rest.length < t.length := by
  unfold unit at h
  split at h
  · split at h
    · simp only [Except.ok.injEq, Prod.mk.injEq] at h
      simp only [← h.2, List.length_cons]
      omega
    · simp at h
  · simp at h

/-- The character that an escape of one character stands for. -/
def shortEscape? : Char → Option Char
  | '"' => some '"'
  | '\\' => some '\\'
  | '/' => some '/'
  | 'b' => some '\x08'
  | 'f' => some '\x0c'
  | 'n' => some '\n'
  | 'r' => some '\r'
  | 't' => some '\t'
  | _ => none

/-- The second half of a pair, after the first. -/
def lowHalf (high : Nat) : Text → Except Fault (Char × Text)
  | [] => .error .ended
  | ['\\'] => .error .ended
  | '\\' :: 'u' :: t =>
    match unit t with
    | .ok (low, rest) => if isLowHalf low then .ok (paired high low, rest) else .error .malformed
    | .error fault => .error fault
  | _ => .error .malformed

theorem length_of_lowHalf {high : Nat} {t rest : Text} {c : Char}
    (h : lowHalf high t = .ok (c, rest)) : rest.length < t.length := by
  unfold lowHalf at h
  split at h
  · simp at h
  · simp at h
  · split at h
    · rename_i hu
      split at h
      · simp only [Except.ok.injEq, Prod.mk.injEq] at h
        have := length_of_unit hu
        simp only [← h.2, List.length_cons]
        omega
      · simp at h
    · simp at h
  · simp at h

/-- Reads an escape after its backslash. It has to stand for a character. -/
def escape : Text → Except Fault (Char × Text)
  | [] => .error .ended
  | 'u' :: t =>
    match unit t with
    | .ok (n, rest) =>
      if isLowHalf n then .error .malformed
      else if isHighHalf n then lowHalf n rest
      else .ok (Char.ofNat n, rest)
    | .error fault => .error fault
  | c :: rest =>
    match shortEscape? c with
    | some c => .ok (c, rest)
    | none => .error .malformed

theorem length_of_escape {t rest : Text} {c : Char} (h : escape t = .ok (c, rest)) :
    rest.length < t.length := by
  unfold escape at h
  split at h
  · simp at h
  · split at h
    · rename_i hu
      have hn := length_of_unit hu
      split at h
      · simp at h
      · split at h
        · have := length_of_lowHalf h
          simp only [List.length_cons]
          omega
        · simp only [Except.ok.injEq, Prod.mk.injEq] at h
          simp only [← h.2, List.length_cons]
          omega
    · simp at h
  · split at h
    · simp only [Except.ok.injEq, Prod.mk.injEq] at h
      simp [← h.2]
    · simp at h

/-- Reads a string after its opening quote. -/
def stringBody : Text → Except Fault (Text × Text)
  | [] => .error .ended
  | '"' :: rest => .ok ([], rest)
  | '\\' :: t =>
    match _h : escape t with
    | .error fault => .error fault
    | .ok (c, rest) => (stringBody rest).map fun r => (c :: r.1, r.2)
  | c :: rest =>
    if c.toNat < 0x20 then .error .malformed
    else (stringBody rest).map fun r => (c :: r.1, r.2)
termination_by t => t.length
decreasing_by
  · have := length_of_escape _h
    simp only [List.length_cons]
    omega
  · simp

theorem length_of_stringBody {t s rest : Text} (h : stringBody t = .ok (s, rest)) :
    rest.length < t.length := by
  fun_induction stringBody t generalizing s rest with
  | case1 => simp at h
  | case2 => simp_all
  | case3 => simp at h
  | case4 t c after he ih =>
    cases hb : stringBody after with
    | error fault => simp [hb, Except.map] at h
    | ok r =>
      simp only [hb, Except.map, Except.ok.injEq, Prod.mk.injEq] at h
      have := ih hb
      have := length_of_escape he
      simp only [List.length_cons, ← h.2]
      omega
  | case5 => simp at h
  | case6 c after _ _ _ ih =>
    cases hb : stringBody after with
    | error fault => simp [hb, Except.map] at h
    | ok r =>
      simp only [hb, Except.map, Except.ok.injEq, Prod.mk.injEq] at h
      have := ih hb
      simp only [List.length_cons, ← h.2]
      omega

/-- Skips an escape after its backslash. -/
def skipEscape : Text → Except Fault Text
  | [] => .error .ended
  | 'u' :: t => (unit t).map Prod.snd
  | c :: rest => if (shortEscape? c).isSome then .ok rest else .error .malformed

theorem length_of_skipEscape {t rest : Text} (h : skipEscape t = .ok rest) :
    rest.length < t.length := by
  unfold skipEscape at h
  split at h
  · simp at h
  · rename_i t
    cases hu : unit t with
    | error fault => simp [hu, Except.map] at h
    | ok r =>
      simp only [hu, Except.map, Except.ok.injEq] at h
      have := length_of_unit hu
      simp only [← h, List.length_cons]
      omega
  · split at h
    · simp only [Except.ok.injEq] at h
      simp [← h]
    · simp at h

/-- Skips a string after its opening quote. -/
def skipStringBody : Text → Except Fault Text
  | [] => .error .ended
  | '"' :: rest => .ok rest
  | '\\' :: t =>
    match _h : skipEscape t with
    | .error fault => .error fault
    | .ok rest => skipStringBody rest
  | c :: rest => if c.toNat < 0x20 then .error .malformed else skipStringBody rest
termination_by t => t.length
decreasing_by
  · have := length_of_skipEscape _h
    simp only [List.length_cons]
    omega
  · simp

theorem length_of_skipStringBody {t rest : Text} (h : skipStringBody t = .ok rest) :
    rest.length < t.length := by
  fun_induction skipStringBody t with
  | case1 => simp at h
  | case2 => simp_all
  | case3 => simp at h
  | case4 t after he ih =>
    have := ih h
    have := length_of_skipEscape he
    simp only [List.length_cons]
    omega
  | case5 => simp at h
  | case6 c after _ _ _ ih =>
    have := ih h
    simp only [List.length_cons]
    omega

/-! ## Numbers -/

/-- A run of decimal digits at the front of a text, and the rest. Where there is none, the fault is
`cut` if the text has ended there. -/
def digits (cut : Fault) (t : Text) : Except Fault (Text × Text) :=
  let run := t.takeWhile Char.isDigit
  if run.isEmpty then .error (if t.isEmpty then cut else .malformed)
  else .ok (run, t.dropWhile Char.isDigit)

theorem length_of_digits {cut : Fault} {t run rest : Text} (h : digits cut t = .ok (run, rest)) :
    rest.length < t.length := by
  have hsplit :
      (t.takeWhile Char.isDigit).length + (t.dropWhile Char.isDigit).length = t.length := by
    rw [← List.length_append, List.takeWhile_append_dropWhile]
  simp only [digits] at h
  by_cases hempty : (t.takeWhile Char.isDigit).isEmpty
  · rw [if_pos hempty] at h
    simp at h
  · rw [if_neg hempty] at h
    simp only [Except.ok.injEq, Prod.mk.injEq] at h
    have : (t.takeWhile Char.isDigit).length ≠ 0 := by simpa using hempty
    rw [← h.2]
    omega

/-- Takes the fraction of a number, if there is one, and says whether there was. -/
def fraction (cut : Fault) : Text → Except Fault (Bool × Text)
  | '.' :: t => (digits cut t).map fun r => (true, r.2)
  | t => .ok (false, t)

theorem length_of_fraction {cut : Fault} {t rest : Text} {b : Bool}
    (h : fraction cut t = .ok (b, rest)) : rest.length ≤ t.length := by
  unfold fraction at h
  split at h
  · rename_i t
    cases hd : digits cut t with
    | error fault => simp [hd, Except.map] at h
    | ok r =>
      simp only [hd, Except.map, Except.ok.injEq, Prod.mk.injEq] at h
      have := length_of_digits hd
      simp only [← h.2, List.length_cons]
      omega
  · simp_all

/-- Takes the sign of an exponent, if there is one. -/
def dropSign : Text → Text
  | '+' :: t => t
  | '-' :: t => t
  | t => t

theorem length_dropSign_le (t : Text) : (dropSign t).length ≤ t.length := by
  unfold dropSign
  split <;> simp

/-- Takes the exponent of a number, if there is one, and says whether there was. -/
def exponent (cut : Fault) : Text → Except Fault (Bool × Text)
  | [] => .ok (false, [])
  | c :: t =>
    if c = 'e' || c = 'E' then (digits cut (dropSign t)).map fun r => (true, r.2)
    else .ok (false, c :: t)

theorem length_of_exponent {cut : Fault} {t rest : Text} {b : Bool}
    (h : exponent cut t = .ok (b, rest)) : rest.length ≤ t.length := by
  unfold exponent at h
  split at h
  · simp_all
  · rename_i c t
    split at h
    · cases hd : digits cut (dropSign t) with
      | error fault => simp [hd, Except.map] at h
      | ok r =>
        simp only [hd, Except.map, Except.ok.injEq, Prod.mk.injEq] at h
        have := length_of_digits hd
        have := length_dropSign_le t
        simp only [← h.2, List.length_cons]
        omega
    · simp_all

/-- Takes a number without a sign. Gives its value if it is written without fraction and exponent.
A number that ends with the text before it is complete is a fault of kind `cut`. -/
def unsigned (cut : Fault) (t : Text) : Except Fault (Option Nat × Text) := do
  let (run, t) ← digits cut t
  if run.head? = some '0' && 1 < run.length then .error .malformed
  else
    let (hasFraction, t) ← fraction cut t
    let (hasExponent, t) ← exponent cut t
    return (if hasFraction || hasExponent then none else some (Nat.ofDigitChars 10 run 0), t)

/-- Takes a number with or without a minus sign. A number with a sign has no natural value. -/
def number (cut : Fault) : Text → Except Fault (Option Nat × Text)
  | '-' :: t => (unsigned cut t).map fun r => (none, r.2)
  | t => unsigned cut t

theorem length_of_unsigned {cut : Fault} {t rest : Text} {n : Option Nat}
    (h : unsigned cut t = .ok (n, rest)) : rest.length < t.length := by
  unfold unsigned at h
  cases hd : digits cut t with
  | error fault => simp [hd, bind, Except.bind] at h
  | ok r =>
    obtain ⟨run, t₁⟩ := r
    have h₁ := length_of_digits hd
    simp only [hd, bind, Except.bind] at h
    split at h
    · simp at h
    · cases hf : fraction cut t₁ with
      | error fault => simp [hf] at h
      | ok r =>
        obtain ⟨hasFraction, t₂⟩ := r
        have h₂ := length_of_fraction hf
        simp only [hf] at h
        cases he : exponent cut t₂ with
        | error fault => simp [he] at h
        | ok r =>
          obtain ⟨hasExponent, t₃⟩ := r
          have h₃ := length_of_exponent he
          simp only [he, pure, Except.pure, Except.ok.injEq, Prod.mk.injEq] at h
          rw [← h.2]
          omega

theorem length_of_number {cut : Fault} {t rest : Text} {n : Option Nat}
    (h : number cut t = .ok (n, rest)) : rest.length < t.length := by
  unfold number at h
  split at h
  · rename_i t
    cases hu : unsigned cut t with
    | error fault => simp [hu, Except.map] at h
    | ok r =>
      simp only [hu, Except.map, Except.ok.injEq, Prod.mk.injEq] at h
      have := length_of_unsigned hu
      simp only [← h.2, List.length_cons]
      omega
  · exact length_of_unsigned h

end MigrationScript.Json
