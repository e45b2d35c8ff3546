import MigrationScript.Text

/-!
# The lexemes of a line

A directive line is cut into lexemes: longest runs of word characters, of operator characters, or of
brackets. White space and every character of no class stand between lexemes and belong to none.

The classes hold ASCII characters only, so a letter outside ASCII ends a word. A word may contain
`.` and `$`, which makes `table.column` and `$directive` one word each.
-/

namespace MigrationScript

/-- The class of a lexeme, shared by all its characters. -/
inductive LexemeClass where
  | word
  | operator
  | bracket
  deriving DecidableEq, Repr

namespace LexemeClass

/-- White space inside a line: only these four characters. -/
def isSpace (c : Char) : Bool := c = ' ' || c = '\t' || c = '\n' || c = '\r'

/-- Whether a character belongs to words. -/
def isWord (c : Char) : Bool := c.isAlphanum || c = '_' || c = '.' || c = '$'

/-- Whether a character belongs to operators. -/
def isOperator (c : Char) : Bool := c = '!' || c = '>' || c = '<' || c = '='

/-- Whether a character is a bracket. -/
def isBracket (c : Char) : Bool := c = '(' || c = ')' || c = '[' || c = ']'

/-- Whether a character is of a class. -/
def holds : LexemeClass → Char → Bool
  | word => isWord
  | operator => isOperator
  | bracket => isBracket

/-- The class of a character, if it has one. No character has two. -/
def of? (c : Char) : Option LexemeClass :=
  if isWord c then some word
  else if isOperator c then some operator
  else if isBracket c then some bracket
  else none

end LexemeClass

/-- A longest run of characters of one class, with the byte offset at which it starts. -/
structure Lexeme where
  start : Nat
  text : Text
  kind : LexemeClass
  deriving DecidableEq, Repr

namespace Lexeme

/-- The byte offset just past a lexeme. -/
def stop (l : Lexeme) : Nat := l.start + Text.utf8Length l.text

private theorem length_dropWhile_le (p : Char → Bool) (t : Text) :
    (t.dropWhile p).length ≤ t.length :=
  (List.dropWhile_suffix p).length_le

/-- The lexemes of a text that stands at a byte offset. -/
def scan (offset : Nat) : Text → List Lexeme
  | [] => []
  | c :: rest =>
    match LexemeClass.of? c with
    | none => scan (offset + c.utf8Size) rest
    | some kind =>
      let run := c :: rest.takeWhile kind.holds
      ⟨offset, run, kind⟩ :: scan (offset + Text.utf8Length run) (rest.dropWhile kind.holds)
termination_by t => t.length
decreasing_by
  · simp
  · have := length_dropWhile_le kind.holds rest
    simp only [List.length_cons]
    omega

/-- The lexemes of a line, from left to right. -/
def ofLine (line : Text) : List Lexeme := scan 0 line

/-- The texts of the lexemes of a line. -/
def words (line : Text) : List Text := (ofLine line).map Lexeme.text

/-- The word at the very start of a line, empty if the line starts with another character. -/
def leadingWord (line : Text) : Text := line.takeWhile LexemeClass.isWord

/-- A line without the word at its very start and the white space after that word. -/
def dropLeadingWord (line : Text) : Text :=
  (line.dropWhile LexemeClass.isWord).dropWhile LexemeClass.isSpace

end Lexeme

end MigrationScript
