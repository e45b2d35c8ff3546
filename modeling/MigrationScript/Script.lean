import MigrationScript.Script.Grouping
import MigrationScript.Text.Quoted

/-!
# Scripts

A script is a source file read as a list of statements. Reading fails in two ways: on a `$` word
that is no directive, and on a block that is still open at the end. The first is found line by line,
so the first such line is reported, whatever is open there; the second is found last.
-/

namespace MigrationScript

/-- A source file read as statements. -/
structure Script where
  path : Text
  statements : List Statement
  deriving DecidableEq, Repr

namespace Script

/-- Why a source is no script. Lines count from 1. -/
inductive ParseError where
  /-- A line starts with a `$` word that is no directive. -/
  | unknownDirective (line : Nat) (word : Text)
  /-- The source ends inside a block, which a directive on this line opened. -/
  | unterminatedBlock (line : Nat) (key : Text)
  deriving DecidableEq, Repr

/-- The line a parse error points to. -/
def ParseError.line : ParseError → Nat
  | unknownDirective line _ => line
  | unterminatedBlock line _ => line

/-- A parse error in words, with the place in the named file. -/
def ParseError.message (path : Text) (e : ParseError) : String :=
  let what :=
    match e with
    | unknownDirective _ word => "bad token " ++ Text.quoted word
    | unterminatedBlock _ key => String.ofList key ++ " block is never closed"
  what ++ "\n  --> " ++ String.ofList path ++ ":" ++ toString e.line

/-- Reads a numbered source line. -/
def readLine (raw : Nat × Text) : Except ParseError (Nat × Line) :=
  match Line.ofText raw.2 with
  | .ok line => .ok (raw.1, line)
  | .error word => .error (.unknownDirective raw.1 word)

/-- Completes what is open after the last line. Only a block may not be left open. -/
def finish : Step → Except ParseError (List Statement)
  | (statements, none) => .ok statements
  | (statements, some d) =>
    if d.isBlock then .error (.unterminatedBlock d.line d.head.key)
    else .ok (statements ++ [d.statement])

/-- The lines of a source with their numbers. A carriage return before a line feed is white space at
the end of the line. -/
def numberedLines (source : Text) : List (Nat × Text) :=
  ((source.splitOn '\n').zipIdx 1).map Prod.swap

/-- The statements of a source. -/
def parse (source : Text) : Except ParseError (List Statement) := do
  let lines ← (numberedLines source).mapM readLine
  finish (group lines none)

end Script

end MigrationScript
