import Mathlib
import MigrationScript.Proofs.Source.Grouping

/-!
# No line of a source is lost

The lines of the statements of a script, one after another, are the content lines of its source,
each once and in its place. What a content line is, and what is stored of it, is read off the line
alone.
-/

namespace MigrationScript

namespace Source

/-- Whether a line is stored: it is no remark, no lone terminator, no opener and no closer. -/
def isContent (raw : Text) : Bool := kind raw = .directive || kind raw = .command

/-- The content lines of a source as they are stored, from top to bottom. -/
def contents (source : Text) : List Text := ((source.splitOn '\n').filter isContent).map stored

theorem text_placedAt (number : Nat) (raw : Text) (scope : Scope) :
    (placedAt number raw scope).map Placed.text = ([raw].filter isContent).map stored := by
  unfold placedAt isContent
  cases hkind : kind raw <;> simp [hkind]

/-- Where the lines stand makes no difference to which of them are stored. -/
theorem text_along (raws : List (Nat × Text)) (scope : Scope) :
    (along placedAt raws scope).map Placed.text
      = ((raws.map Prod.snd).filter isContent).map stored := by
  induction raws generalizing scope with
  | nil => rfl
  | cons raw rest ih =>
      obtain ⟨number, raw⟩ := raw
      rw [along, List.map_append, text_placedAt, ih, ← List.map_append, ← List.filter_append]
      rfl

theorem texts_numberedLines (source : Text) :
    (Script.numberedLines source).map Prod.snd = source.splitOn '\n' := by
  rw [Script.numberedLines, List.map_map]
  exact List.zipIdx_map_fst 1 _

theorem text_layout (source : Text) : (layout source).map Placed.text = contents source := by
  rw [layout, text_along, texts_numberedLines, contents]

end Source

open Source

namespace Statement

theorem text_placed (s : Statement) : s.placed.map Placed.text = s.lines := by
  rw [placed, List.map_map]
  exact List.map_id _

end Statement

namespace Script

variable {source : Text} {statements : List Statement}

theorem text_of_parse (h : parse source = .ok statements) :
    statements.flatMap Statement.lines = (layout source).map Placed.text := by
  rw [layout_of_parse h, List.map_flatMap]
  simp only [Statement.text_placed]

/--
**No line is lost, doubled, moved or changed.**

The lines of the statements, from the first to the last, are the content lines of the source. Lines
are stored trimmed, without one terminator at their end, and of a one-line guard without its word.
-/
theorem lines_of_parse (h : parse source = .ok statements) :
    statements.flatMap Statement.lines = contents source := by
  rw [text_of_parse h, text_layout]

/-- Openers in a block, a terminator on its own and a second terminator, and a statement that is
left open. -/
def mixed : Text :=
  "# a remark\n$if exist table a\n  $ie drop b && \n$ecv\n select 1 && &&\n&&\n$fi\n$exit\nselect 2".toList

/-- The statements of that source. The nested opener and the lone terminator are no lines of the
block. -/
def mixedStatements : List Statement :=
  [{ symbol := .ifBlock, key := "$if".toList
     fields := [⟨"exist".toList, .exist⟩, ⟨"table".toList, .table⟩, ⟨"a".toList, .plain⟩]
     slots := [["drop b".toList], ["select 1 &&".toList]], line := 2 },
   { symbol := .exit, key := "$exit".toList, fields := []
     slots := [["$exit".toList, "select 2".toList]], line := 8 }]

theorem lines_of_parse_mixed :
    parse mixed = .ok mixedStatements ∧
      mixedStatements.flatMap Statement.lines = contents mixed ∧
      contents mixed
        = ["drop b".toList, "select 1 &&".toList, "$exit".toList, "select 2".toList] := by
  have hparse : parse mixed = .ok mixedStatements := by cbv
  exact ⟨hparse, lines_of_parse hparse, by decide⟩

end Script

end MigrationScript
