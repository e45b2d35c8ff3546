import MigrationScript.Json.Lexical

/-!
# Reading JSON

A reader takes a value from the front of a text. It knows what kind of value it wants, and the first
thing that is not as it should be decides how it fails.

What is left is shorter than what was there. Every reader carries the proof of that, so arrays and
objects of any length can be read.

Values that nobody asked for are skipped. They have to be JSON too, but their strings may hold any
escape, and a number that breaks off counts as no JSON rather than as the end of the text.
-/

namespace MigrationScript.Json

/-- A way to take a value from the front of a text. -/
structure Reader (α : Type) where
  read : Text → Except Fault (α × Text)
  shrinks : ∀ {t : Text} {a : α} {rest : Text}, read t = .ok (a, rest) → rest.length < t.length

/-! ## Values of the wrong kind -/

/-- The word that starts with a letter, if there is one. -/
def word? : Char → Option Text
  | 'n' => some "null".toList
  | 't' => some "true".toList
  | 'f' => some "false".toList
  | _ => none

/-- The fault of a value that is of another kind than the one wanted: its own, if it has one. -/
def faultOf {α : Type} : Except Fault α → Fault
  | .ok _ => .mismatched
  | .error fault => fault

/-- The fault of a text that starts with something else than what is wanted. Arrays and objects are
not looked into. -/
def mismatch : Text → Fault
  | [] => .ended
  | c :: t =>
    if c = '"' then faultOf (stringBody t)
    else if c = '-' || c.isDigit then faultOf (number .ended (c :: t))
    else if c = '[' || c = '\x7b' then .mismatched
    else
      match word? c with
      | some word => faultOf (expect word (c :: t))
      | none => .malformed

/-! ## Simple values -/

/-- Reads a string. -/
def string : Reader Text where
  read t :=
    match dropSpace t with
    | '"' :: rest => stringBody rest
    | t => .error (mismatch t)
  shrinks {t s rest} h := by
    split at h
    · rename_i heq
      have := length_of_dropSpace heq
      have := length_of_stringBody h
      omega
    · simp at h

/-- Takes a word from the front of a text and gives the value it stands for. -/
def wordValue {α : Type} (word : Text) (a : α) (t : Text) : Except Fault (α × Text) :=
  (expect word t).map fun rest => (a, rest)

theorem length_of_wordValue {α : Type} {word t rest : Text} {a b : α}
    (h : wordValue word a t = .ok (b, rest)) : rest.length ≤ t.length := by
  unfold wordValue at h
  cases he : expect word t with
  | error fault => simp [he, Except.map] at h
  | ok after =>
    simp only [he, Except.map, Except.ok.injEq, Prod.mk.injEq] at h
    have := length_of_expect he
    rw [← h.2]
    omega

/-- Reads `true` or `false`. -/
def boolean : Reader Bool where
  read t :=
    match dropSpace t with
    | 't' :: rest => wordValue "rue".toList true rest
    | 'f' :: rest => wordValue "alse".toList false rest
    | t => .error (mismatch t)
  shrinks {t b rest} h := by
    split at h
    · rename_i heq
      have := length_of_dropSpace heq
      have := length_of_wordValue h
      omega
    · rename_i heq
      have := length_of_dropSpace heq
      have := length_of_wordValue h
      omega
    · simp at h

/-- A number as a natural number below `2 ^ 32`, if it is one. -/
def word32 : Except Fault (Option Nat × Text) → Except Fault (UInt32 × Text)
  | .ok (some n, rest) => if n < UInt32.size then .ok (UInt32.ofNat n, rest) else .error .mismatched
  | .ok (none, _) => .error .mismatched
  | .error fault => .error fault

/-- Reads a natural number below `2 ^ 32`, written without fraction and exponent. -/
def natural : Reader UInt32 where
  read t :=
    match dropSpace t with
    | [] => .error .ended
    | c :: rest =>
      if c = '-' || c.isDigit then word32 (number .ended (c :: rest))
      else .error (mismatch (c :: rest))
  shrinks {t n rest} h := by
    split at h
    · simp at h
    · rename_i c after heq
      have hle := length_dropSpace_le t
      rw [heq] at hle
      split at h
      · cases hn : number .ended (c :: after) with
        | error fault => simp [hn, word32] at h
        | ok r =>
          obtain ⟨value, left⟩ := r
          have hlt := length_of_number hn
          rw [hn] at h
          cases value with
          | none => simp [word32] at h
          | some m =>
            simp only [word32] at h
            split at h
            · simp only [Except.ok.injEq, Prod.mk.injEq] at h
              rw [← h.2]
              omega
            · simp at h
      · simp at h

/-- Reads `null` or a value. -/
def nullable {α : Type} (reader : Reader α) : Reader (Option α) where
  read t :=
    match dropSpace t with
    | 'n' :: rest => wordValue "ull".toList none rest
    | _ => (reader.read t).map fun r => (some r.1, r.2)
  shrinks {t a rest} h := by
    split at h
    · rename_i heq
      have := length_of_dropSpace heq
      have := length_of_wordValue h
      omega
    · cases hr : reader.read t with
      | error fault => simp [hr, Except.map] at h
      | ok r =>
        simp only [hr, Except.map, Except.ok.injEq, Prod.mk.injEq] at h
        have := reader.shrinks hr
        rw [← h.2]
        omega

/-! ## Arrays -/

/-- Reads the items of an array and its closing bracket, standing before an item. -/
def items {α : Type} (reader : Reader α) (t : Text) : Except Fault (List α × Text) :=
  match _h : reader.read t with
  | .error fault => .error fault
  | .ok (item, left) =>
    match _h' : dropSpace left with
    | [] => .error .ended
    | c :: rest =>
      if c = ']' then .ok ([item], rest)
      else if c = ',' then (items reader rest).map fun r => (item :: r.1, r.2)
      else .error .malformed
termination_by t.length
decreasing_by
  have := reader.shrinks _h
  have := length_of_dropSpace _h'
  omega

theorem length_of_items {α : Type} {reader : Reader α} {t rest : Text} {as : List α}
    (h : items reader t = .ok (as, rest)) : rest.length < t.length := by
  fun_induction items reader t generalizing as rest with
  | case1 => simp at h
  | case2 => simp at h
  | case3 t item left hread after hspace =>
    have := reader.shrinks hread
    have := length_of_dropSpace hspace
    simp only [Except.ok.injEq, Prod.mk.injEq] at h
    rw [← h.2]
    omega
  | case4 t item left hread after hspace _ ih =>
    have := reader.shrinks hread
    have := length_of_dropSpace hspace
    cases hi : items reader after with
    | error fault => simp [hi, Except.map] at h
    | ok r =>
      simp only [hi, Except.map, Except.ok.injEq, Prod.mk.injEq] at h
      have := ih hi
      rw [← h.2]
      omega
  | case5 => simp at h

/-- Reads an array. -/
def array {α : Type} (reader : Reader α) : Reader (List α) where
  read t :=
    match dropSpace t with
    | '[' :: rest =>
      match dropSpace rest with
      | ']' :: rest => .ok ([], rest)
      | _ => items reader rest
    | t => .error (mismatch t)
  shrinks {t as rest} h := by
    split at h
    · rename_i heq
      have := length_of_dropSpace heq
      split at h
      · rename_i heq'
        have := length_of_dropSpace heq'
        simp only [Except.ok.injEq, Prod.mk.injEq] at h
        rw [← h.2]
        omega
      · have := length_of_items h
        omega
    · simp at h

/-! ## Skipping -/

/-- A structure that is being skipped. -/
inductive Frame where
  | array
  | object
  deriving DecidableEq, Repr

/-- The character that closes a structure. -/
def Frame.close : Frame → Char
  | array => ']'
  | object => '\x7d'

/-- What is to be skipped next: a value, the name of a member, or what follows a value. -/
inductive Place where
  | value
  | name
  | after
  deriving DecidableEq, Repr

/-- What stands first inside a structure that is not empty. -/
def Frame.first : Frame → Place
  | array => .value
  | object => .name

/-- The structure that a character opens, if it opens one. -/
def Frame.opened? (c : Char) : Option Frame :=
  if c = '[' then some array else if c = '\x7b' then some object else none

/-- Skips a value that is no structure. -/
def skipScalar : Text → Except Fault Text
  | [] => .error .ended
  | c :: t =>
    if c = '"' then skipStringBody t
    else if c = '-' || c.isDigit then (number .malformed (c :: t)).map Prod.snd
    else
      match word? c with
      | some word => (expect word.tail t)
      | none => .error .malformed

theorem length_of_skipScalar {t rest : Text} (h : skipScalar t = .ok rest) :
    rest.length < t.length := by
  cases t with
  | nil => simp [skipScalar] at h
  | cons c t =>
    simp only [skipScalar] at h
    split at h
    · have := length_of_skipStringBody h
      simp only [List.length_cons]
      omega
    · split at h
      · cases hn : number .malformed (c :: t) with
        | error fault => simp [hn, Except.map] at h
        | ok r =>
          simp only [hn, Except.map, Except.ok.injEq] at h
          have := length_of_number hn
          rw [← h]
          omega
      · split at h
        · have := length_of_expect h
          simp only [List.length_cons]
          omega
        · simp at h

/-- Skips the name of a member and the colon after it. -/
def skipName (t : Text) : Except Fault Text :=
  match dropSpace t with
  | [] => .error .ended
  | '"' :: rest =>
    match skipStringBody rest with
    | .error fault => .error fault
    | .ok left =>
      match dropSpace left with
      | [] => .error .ended
      | ':' :: rest => .ok rest
      | _ => .error .malformed
  | _ => .error .malformed

theorem length_of_skipName {t rest : Text} (h : skipName t = .ok rest) :
    rest.length < t.length := by
  unfold skipName at h
  split at h
  · simp at h
  · rename_i hname
    have := length_of_dropSpace hname
    split at h
    · simp at h
    · rename_i hbody
      have := length_of_skipStringBody hbody
      split at h
      · simp at h
      · rename_i hcolon
        have := length_of_dropSpace hcolon
        simp only [Except.ok.injEq] at h
        rw [← h]
        omega
      · simp at h
  · simp at h

/-- Skips to the end of the outermost open structure, or of one value if no structure is open. -/
def skipFrom (place : Place) (frames : List Frame) (t : Text) : Except Fault Text :=
  match place with
  | .value =>
    match _h : dropSpace t with
    | [] => .error .ended
    | c :: rest =>
      match Frame.opened? c with
      | some frame =>
        match _h' : dropSpace rest with
        | [] => .error .ended
        | c :: inner =>
          if c = frame.close then skipFrom .after frames inner
          else skipFrom frame.first (frame :: frames) rest
      | none =>
        match _h' : skipScalar (c :: rest) with
        | .error fault => .error fault
        | .ok rest => skipFrom .after frames rest
  | .name =>
    match _h : skipName t with
    | .error fault => .error fault
    | .ok rest => skipFrom .value frames rest
  | .after =>
    match frames with
    | [] => .ok t
    | frame :: outer =>
      match _h : dropSpace t with
      | [] => .error .ended
      | c :: rest =>
        if c = frame.close then skipFrom .after outer rest
        else if c = ',' then skipFrom frame.first (frame :: outer) rest
        else .error .malformed
termination_by t.length
decreasing_by
  · have := length_of_dropSpace _h
    have := length_of_dropSpace _h'
    omega
  · exact length_of_dropSpace _h
  · have := length_of_skipScalar _h'
    have := length_dropSpace_le t
    rw [_h] at this
    omega
  · exact length_of_skipName _h
  · exact length_of_dropSpace _h
  · exact length_of_dropSpace _h

theorem length_of_skipFrom {place : Place} {frames : List Frame} {t rest : Text}
    (h : skipFrom place frames t = .ok rest) :
    rest.length + (if place = .after then 0 else 1) ≤ t.length := by
  fun_induction skipFrom place frames t with
  | case1 => simp at h
  | case2 => simp at h
  | case3 _ _ _ _ hopen _ _ _ hclose ih =>
    have := ih h
    have := length_of_dropSpace hopen
    have := length_of_dropSpace hclose
    simp only [reduceCtorEq, if_false]
    omega
  | case4 _ _ _ _ hopen frame _ _ _ _ _ ih =>
    have := ih h
    have := length_of_dropSpace hopen
    simp only [reduceCtorEq, if_false]
    omega
  | case5 => simp at h
  | case6 _ t _ _ hopen _ _ hscalar ih =>
    have := ih h
    have := length_of_skipScalar hscalar
    have := length_dropSpace_le t
    rw [hopen] at this
    simp only [reduceCtorEq, if_false]
    omega
  | case7 => simp at h
  | case8 _ _ _ hname ih =>
    have := ih h
    have := length_of_skipName hname
    simp only [reduceCtorEq, if_false]
    omega
  | case9 => simp_all
  | case10 => simp at h
  | case11 _ _ _ _ hspace ih =>
    have := ih h
    have := length_of_dropSpace hspace
    simp only [if_true]
    omega
  | case12 _ _ _ _ hspace _ ih =>
    have := ih h
    have := length_of_dropSpace hspace
    simp only [if_true]
    omega
  | case13 => simp at h

/-- Skips a value. -/
def skipped : Reader Unit where
  read t := (skipFrom .value [] t).map fun rest => ((), rest)
  shrinks {t u rest} h := by
    cases hs : skipFrom .value [] t with
    | error fault => simp [hs, Except.map] at h
    | ok left =>
      simp only [hs, Except.map, Except.ok.injEq, Prod.mk.injEq] at h
      have := length_of_skipFrom hs
      simp only [reduceCtorEq, if_false] at this
      rw [← h.2]
      omega

end MigrationScript.Json
