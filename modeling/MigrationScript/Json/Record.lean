import MigrationScript.Json.Reader
import MigrationScript.Json.Value

/-!
# Records in JSON

A record has members of known names and kinds. It is read from an object, whose members may come in
any order, or from an array, which holds the values in the order of the shape and may stop early.
Members of other names are skipped; a known member that comes twice is a fault. Which members may be
missing is for the reader of the record to say.
-/

namespace MigrationScript.Json

/-- The kind of value that a member of a record has. -/
inductive Kind where
  | natural
  | boolean
  | string
  | nullableString
  | strings
  deriving DecidableEq, Repr

/-- The names and kinds of the members of a record, in order. -/
abbrev Shape := List (Text × Kind)

/-- Members by name, in the order in which they were found. -/
abbrev Members := List (Text × Value)

/-- Reads a value and turns it into another. -/
def Reader.map {α β : Type} (f : α → β) (reader : Reader α) : Reader β where
  read t := (reader.read t).map fun r => (f r.1, r.2)
  shrinks {t b rest} h := by
    cases hr : reader.read t with
    | error fault => simp [hr, Except.map] at h
    | ok r =>
      simp only [hr, Except.map, Except.ok.injEq, Prod.mk.injEq] at h
      have := reader.shrinks hr
      rw [← h.2]
      omega

/-- Reads a value of a kind. -/
def Kind.reader : Kind → Reader Value
  | natural => Json.natural.map fun n => .number n.toNat
  | boolean => Json.boolean.map .bool
  | string => Json.string.map .string
  | nullableString => (nullable Json.string).map fun t => t.elim .null .string
  | strings => (array Json.string).map fun ts => .array (ts.map .string)

/-! ## Objects -/

/-- Takes the colon between a name and its value. -/
def colon (t : Text) : Except Fault Text :=
  match dropSpace t with
  | [] => .error .ended
  | ':' :: rest => .ok rest
  | _ => .error .malformed

theorem length_of_colon {t rest : Text} (h : colon t = .ok rest) : rest.length < t.length := by
  unfold colon at h
  split at h
  · simp at h
  · rename_i heq
    have := length_of_dropSpace heq
    simp only [Except.ok.injEq] at h
    rw [← h]
    omega
  · simp at h

/-- Reads the value of a member with a name, and gives the members found so far with it. -/
def namedValue (shape : Shape) (found : Members) (name : Text) : Reader Members :=
  match shape.lookup name with
  | some kind => kind.reader.map fun value => found ++ [(name, value)]
  | none => skipped.map fun _ => found

/-- Reads a member after the opening quote of its name. -/
def memberBody (shape : Shape) (found : Members) (t : Text) : Except Fault (Members × Text) :=
  match stringBody t with
  | .error fault => .error fault
  | .ok (name, rest) =>
    if (found.lookup name).isSome then .error .mismatched
    else
      match colon rest with
      | .error fault => .error fault
      | .ok rest => (namedValue shape found name).read rest

theorem length_of_memberBody {shape : Shape} {found all : Members} {t rest : Text}
    (h : memberBody shape found t = .ok (all, rest)) : rest.length < t.length := by
  unfold memberBody at h
  split at h
  · simp at h
  · rename_i hname
    have := length_of_stringBody hname
    split at h
    · simp at h
    · split at h
      · simp at h
      · rename_i hcolon
        have := length_of_colon hcolon
        have := (namedValue shape found _).shrinks h
        omega

/-- Reads the members of an object and its closing brace, standing before a member. -/
def members (shape : Shape) (found : Members) (t : Text) : Except Fault (Members × Text) :=
  match _h : dropSpace t with
  | [] => .error .ended
  | '"' :: body =>
    match _h' : memberBody shape found body with
    | .error fault => .error fault
    | .ok (found, left) =>
      match _h'' : dropSpace left with
      | [] => .error .ended
      | c :: rest =>
        if c = '\x7d' then .ok (found, rest)
        else if c = ',' then members shape found rest
        else .error .malformed
  | _ => .error .malformed
termination_by t.length
decreasing_by
  have := length_of_dropSpace _h
  have := length_of_memberBody _h'
  have := length_of_dropSpace _h''
  omega

/-! ## Arrays -/

/-- Reads the values of an array and its closing bracket, standing after a value. An array may not
have more values than the shape has members. -/
def valuesAfter : Shape → Members → Text → Except Fault (Members × Text)
  | shape, found, t =>
    match dropSpace t with
    | [] => .error .ended
    | c :: rest =>
      if c = ']' then .ok (found, rest)
      else if c = ',' then
        match shape with
        | [] => .error .malformed
        | (name, kind) :: shape =>
          match kind.reader.read rest with
          | .error fault => .error fault
          | .ok (value, rest) => valuesAfter shape (found ++ [(name, value)]) rest
      else .error .malformed

/-- Reads the values of an array and its closing bracket, standing after the opening one. -/
def values (shape : Shape) (t : Text) : Except Fault (Members × Text) :=
  match dropSpace t, shape with
  | [], _ => .error .ended
  | ']' :: rest, _ => .ok ([], rest)
  | _, [] => .error .malformed
  | t, (name, kind) :: shape =>
    match kind.reader.read t with
    | .error fault => .error fault
    | .ok (value, rest) => valuesAfter shape [(name, value)] rest

/-! ## Documents -/

/-- Reads the members of a record from the front of a text. -/
def record (shape : Shape) (t : Text) : Except Fault (Members × Text) :=
  match dropSpace t with
  | '\x7b' :: rest =>
    match dropSpace rest with
    | '\x7d' :: rest => .ok ([], rest)
    | _ => members shape [] rest
  | '[' :: rest => values shape rest
  | t => .error (mismatch t)

/-- The members of a record that makes up a whole text. -/
def document (shape : Shape) (t : Text) : Except Fault Members := do
  let (found, rest) ← record shape t
  if (dropSpace rest).isEmpty then return found else .error .malformed

/-! ## The members of a record -/

namespace Members

/-- The natural number of a member. -/
def number? (m : Members) (name : String) : Option Nat :=
  match m.lookup name.toList with
  | some (.number n) => some n
  | _ => none

/-- The truth value of a member. -/
def bool? (m : Members) (name : String) : Option Bool :=
  match m.lookup name.toList with
  | some (.bool b) => some b
  | _ => none

/-- The text of a member. -/
def text? (m : Members) (name : String) : Option Text :=
  match m.lookup name.toList with
  | some (.string t) => some t
  | _ => none

/-- The texts of a member. -/
def texts? (m : Members) (name : String) : Option (List Text) :=
  match m.lookup name.toList with
  | some (.array items) => items.mapM fun item =>
    match item with
    | .string t => some t
    | _ => none
  | _ => none

end Members

end MigrationScript.Json
