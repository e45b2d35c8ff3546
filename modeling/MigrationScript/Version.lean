import MigrationScript.Text
import MigrationScript.Symbol

/-!
# Schema versions

A version is written `major.minor` in a script and kept in the database as one 32-bit number,
`major * 100 + minor`. Since a literal has at most seven and two digits, its number always fits.

Versions move in lock step: the only versions that follow `3.5` are `3.6` and `4.0`.
-/

namespace MigrationScript

/-- A schema version. -/
structure Version where
  major : UInt32
  minor : UInt32
  deriving DecidableEq, Repr

namespace Version

/-- The number of a run of one to `most` decimal digits. -/
def number? (most : Nat) (digits : Text) : Option UInt32 :=
  if digits.all Char.isDigit && 1 ≤ digits.length && digits.length ≤ most then
    some (UInt32.ofNat (Nat.ofDigitChars 10 digits 0))
  else none

/-- Reads a version literal: one to seven digits, a point and one or two digits, with white space
around it and none inside. -/
def parse? (literal : Text) : Option Version := do
  let (majorDigits, minorDigits) ← Text.splitOnce? (· = '.') (Text.trim literal)
  let major ← number? 7 majorDigits
  let minor ← number? 2 minorDigits
  return ⟨major, minor⟩

/-- The number that stands for a version in the database. -/
def encode (v : Version) : UInt32 := v.major * 100 + v.minor

/-- The version that a number stands for. -/
def decode (encoded : UInt32) : Version := ⟨encoded / 100, encoded % 100⟩

/-- A version as it is written. -/
def text (v : Version) : Text :=
  Nat.toDigits 10 v.major.toNat ++ '.' :: Nat.toDigits 10 v.minor.toNat

/-- Whether a version is exactly one step after the current one: the next minor of its major, or
minor 0 of the next major. -/
def follows (v : Version) (current : UInt32) : Bool :=
  let now := decode current
  (now.major == v.major && now.minor + 1 == v.minor) ||
    (now.major + 1 == v.major && v.minor == 0)

/-- Whether a `$dbu_version` line with this operator and version lets a script pass. Only `=`, `>`
and `>=` are gates. -/
def gate (v : Version) (operator : Symbol) (current : UInt32) : Option Bool :=
  match operator with
  | .equal => some (current == v.encode)
  | .greater => some (v.follows current)
  | .greaterEqual => some (current == v.encode || v.follows current)
  | _ => none

/-- Versions are ordered by major, then by minor. -/
instance : LT Version where
  lt v w := v.major < w.major ∨ (v.major = w.major ∧ v.minor < w.minor)

instance (v w : Version) : Decidable (v < w) :=
  inferInstanceAs (Decidable (v.major < w.major ∨ (v.major = w.major ∧ v.minor < w.minor)))

/-- Versions in ascending order. -/
def sorted (versions : List Version) : List Version := versions.mergeSort fun v w => !(w < v)

end Version

/-- What a database records about its schema, and what a run may show of it. -/
structure VersionInfo where
  /-- The number of the schema version. -/
  version : UInt32 := 0
  /-- The application that the database belongs to. -/
  app : Text := "none".toList
  change : Text := []
  shown : Bool := false
  hidden : Bool := true
  deriving DecidableEq, Repr

namespace VersionInfo

/-- A database of an application at a version, with nothing else said about it. -/
def new (version : UInt32) (app : Text) : VersionInfo := { version, app }

/-- The schema version. -/
def current (info : VersionInfo) : Version := .decode info.version

end VersionInfo

end MigrationScript
