import MigrationScript.Lexeme
import MigrationScript.Statement

/-!
# What one source line says

A source line can be read without knowing the lines around it: it is blank, it is a lone terminator,
it opens or closes a block, or it holds command text. Only what becomes of the line depends on what
is open, and that is the subject of `Script.Grouping`.

A line is trimmed first. A `&&` at its end is the terminator of a statement and not part of the
text, nor is the white space before it; of several terminators only the last is taken off.
-/

namespace MigrationScript

/-- A directive word with its arguments. -/
structure Directive where
  symbol : Symbol
  /-- The directive word in lower case. -/
  key : Text
  fields : List Field
  deriving DecidableEq, Repr

namespace Directive

/-- The directive that a line starting with `$` stands for, or the word that is none. -/
def ofLine (text : Text) : Except Text Directive :=
  let head := Lexeme.leadingWord text
  match Keyword.directive? head with
  | none => .error head
  | some symbol =>
    .ok ⟨symbol, Keyword.folded head, ((Lexeme.words text).drop 1).map Field.ofWord⟩

end Directive

namespace Script

/-- One source line, by what it says. -/
inductive Line where
  /-- White space only, or a comment. -/
  | blank
  /-- Nothing but a terminator. -/
  | terminator
  /-- A directive that opens a block. -/
  | opener (directive : Directive)
  /-- A directive that closes a block. -/
  | closer
  /-- Any other directive. `ended` says that the statement ends with this line. -/
  | directive (directive : Directive) (text : Text) (ended : Bool)
  /-- A line without a directive. -/
  | command (text : Text) (ended : Bool)
  deriving DecidableEq, Repr

namespace Line

/-- The sign that ends a statement. -/
def terminatorSign : Text := "&&".toList

/-- A trimmed line without the terminator at its end, and whether it had one. -/
def splitTerminator (text : Text) : Text × Bool :=
  match Text.dropSuffix? terminatorSign text with
  | some rest => (Text.trimEnd rest, true)
  | none => (text, false)

/-- A directive line: the text of a one-line guard is the command after the directive word, any
other directive is its own text. -/
def ofDirective (d : Directive) (text : Text) (ended : Bool) : Line :=
  if d.symbol.closesBlock then closer
  else if d.symbol.opensBlock then opener d
  else
    directive d
      (if d.symbol.guardsOneLine then Lexeme.dropLeadingWord text else text)
      (ended || d.symbol.isSingleLine)

/-- Reads a source line. It fails on a `$` word that is no directive, with that word. -/
def ofText (raw : Text) : Except Text Line :=
  let trimmed := Text.trim raw
  if trimmed.isEmpty || trimmed.head? = some '#' then .ok blank
  else
    let (text, ended) := splitTerminator trimmed
    if text.isEmpty then .ok terminator
    else if text.head? = some '$' then do
      return ofDirective (← Directive.ofLine text) text ended
    else .ok (command text ended)

end Line

end Script

end MigrationScript
