/-!
# Texts

Scripts, names and values are texts, and a text is the list of its characters: what is said
about a text is then said by recursion on it. This module holds the few operations that every
later module shares: white space and trimming, cutting, and the size of a text in bytes.

White space is the Unicode property of that name. It is one set throughout, except inside a
directive line, where `Lexeme` has a smaller one of its own.
-/

namespace MigrationScript

/-- A text is the list of its characters. -/
abbrev Text := List Char

/-- A set of characters, as ranges of code points with both ends included. -/
abbrev CharRanges := List (Nat × Nat)

/-- Whether a character lies in one of the ranges. -/
def CharRanges.contains (ranges : CharRanges) (c : Char) : Bool :=
  ranges.any fun range => range.1 ≤ c.toNat && c.toNat ≤ range.2

namespace Text

/-! ## White space -/

/-- The characters with the property White_Space. -/
def blanks : CharRanges :=
  [(0x9, 0xD), (0x20, 0x20), (0x85, 0x85), (0xA0, 0xA0), (0x1680, 0x1680), (0x2000, 0x200A),
   (0x2028, 0x2029), (0x202F, 0x202F), (0x205F, 0x205F), (0x3000, 0x3000)]

/-- Whether a character is white space. -/
def isBlank (c : Char) : Bool := blanks.contains c

/-- The text without the white space at its start. -/
def trimStart (t : Text) : Text := t.dropWhile isBlank

/-- The text without the white space at its end. -/
def trimEnd (t : Text) : Text := (t.reverse.dropWhile isBlank).reverse

/-- The text without the white space around it. -/
def trim (t : Text) : Text := trimEnd (trimStart t)

/-- The longest runs of characters that are not white space, in order. -/
def blankSeparated (t : Text) : List Text :=
  (t.splitOnP isBlank).filter fun run => !run.isEmpty

/-! ## Cutting -/

/-- What stands before the first character with a property, and what stands after it. -/
def splitOnce? (p : Char → Bool) (t : Text) : Option (Text × Text) :=
  match t.dropWhile fun c => !p c with
  | [] => none
  | _ :: after => some (t.takeWhile fun c => !p c, after)

/-- The text without an ending, if it has that ending. -/
def dropSuffix? (ending t : Text) : Option Text :=
  if ending.isSuffixOf t then some (t.take (t.length - ending.length)) else none

/-- Texts in one, with a separator between each two. -/
def join (separator : Text) (parts : List Text) : Text := separator.intercalate parts

/-! ## Case of ASCII letters -/

/-- Every ASCII small letter as its capital. -/
def asciiUpper (t : Text) : Text := t.map Char.toUpper

/-- Whether two texts differ at most in the case of ASCII letters. -/
def sameIgnoringCase (s t : Text) : Bool := asciiUpper s == asciiUpper t

/-! ## Bytes -/

/-- The number of bytes of a text in UTF-8. -/
def utf8Length (t : Text) : Nat := t.foldr (fun c n => c.utf8Size + n) 0

/-- The bytes of a text in UTF-8. -/
def utf8 (t : Text) : List UInt8 := t.flatMap String.utf8EncodeChar

end Text

end MigrationScript
