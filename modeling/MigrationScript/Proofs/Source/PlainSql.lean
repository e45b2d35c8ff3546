import Mathlib
import MigrationScript.Proofs.Source.Acceptance
import MigrationScript.Proofs.Source.Conservation

/-!
# Sources of plain SQL

A source without a directive line is always a script. Its lines fall into pieces: a terminator ends
a piece, on its line or alone, and what is left at the end is the last. Each piece that has a line
is a statement of one slot (`parse_of_directiveFree`).
-/

namespace MigrationScript

namespace Source

/-- No line of the source starts with `$`. -/
def DirectiveFree (source : Text) : Prop :=
  ∀ raw ∈ source.splitOn '\n', (Text.trim raw).head? ≠ some '$'

/-- What a numbered line adds: its text, if it has one, and the end of a piece if there is a
terminator. -/
def marks (raw : Nat × Text) : List (Option (Nat × Text)) :=
  match kind raw.2 with
  | .remark => []
  | .terminator => [none]
  | _ => some (raw.1, body raw.2) :: if isEnded raw.2 then [none] else []

/-- A list cut at its marks. There may be nothing between two of them. -/
def cut {α : Type} (marked : List (Option α)) : List (List α) :=
  (marked.splitOnP Option.isNone).map List.reduceOption

/-- Lines of a source that belong together, with their numbers. -/
abbrev Piece := List (Nat × Text)

namespace Piece

/-- The slot that the lines make. -/
def slot (piece : Piece) : Slot := piece.map Prod.snd

/-- The number of the first line. -/
def line (piece : Piece) : Nat := (piece.map Prod.fst).headD 0

/-- The statement that a piece is. -/
def statement (piece : Piece) : Statement :=
  { Statement.plainSql piece.line with slots := [piece.slot] }

end Piece

/-- The pieces of a source. -/
def pieces (source : Text) : List Piece :=
  (cut ((Script.numberedLines source).flatMap marks)).filter fun piece => !piece.isEmpty

/-! ## Cutting -/

theorem cut_none {α : Type} (marked : List (Option α)) :
    cut (none :: marked) = [] :: cut marked := by
  rw [cut, List.splitOnP_cons_eq_if_modifyHead, Option.isNone_none, if_pos rfl]
  rfl

theorem cut_some {α : Type} (a : α) (marked : List (Option α)) :
    cut (some a :: marked) = (cut marked).modifyHead (a :: ·) := by
  rw [cut, List.splitOnP_cons_eq_if_modifyHead, Option.isNone_some,
    if_neg Bool.false_ne_true, cut]
  cases hcut : marked.splitOnP Option.isNone with
  | nil => exact absurd hcut (List.splitOnP_ne_nil _ _)
  | cons first rest => rfl

/-! ## Lines -/

variable {raw : Text}

theorem head_body (h : (Text.trim raw).head? ≠ some '$') : (body raw).head? ≠ some '$' := by
  obtain ⟨rest, hrest⟩ := body_prefix_trim raw
  cases hbody : body raw with
  | nil => simp
  | cons c text =>
      rw [hbody] at hrest
      rwa [← hrest] at h

/-- A line that does not start with `$` is a remark, a terminator or a command. -/
theorem kind_cases (h : (Text.trim raw).head? ≠ some '$') :
    kind raw = .remark ∨ kind raw = .terminator ∨ kind raw = .command := by
  unfold kind
  split
  · exact .inl rfl
  split
  · exact .inr (.inl rfl)
  · rw [if_pos (head_body h)]
    exact .inr (.inr rfl)

/-- What a line that does not start with `$` reads as. -/
def plainLine (raw : Text) : Script.Line :=
  match kind raw with
  | .remark => .blank
  | .terminator => .terminator
  | _ => .command (body raw) (isEnded raw)

theorem ofText_plainLine (h : (Text.trim raw).head? ≠ some '$') :
    Script.Line.ofText raw = .ok (plainLine raw) := by
  obtain ⟨line, hline, -⟩ := ofText_plain (.inr (head_body h))
  rw [hline, plainLine]
  have hcases := kind_cases h
  cases ofText_reads hline with
  | remark hkind => rw [hkind]
  | terminator hkind => rw [hkind]
  | command hkind =>
      rw [hkind, stored_of_command hkind]
  | closer hkind => simp [hkind] at hcases
  | guardOpener d hkind _ _ => simp [hkind] at hcases
  | dataOpener d hkind _ => simp [hkind] at hcases
  | directive d hkind _ _ _ _ _ => simp [hkind] at hcases

theorem mapM_plainLine {raws : List (Nat × Text)}
    (h : ∀ raw ∈ raws, (Text.trim raw.2).head? ≠ some '$') :
    raws.mapM Script.readLine = .ok (raws.map fun raw => (raw.1, plainLine raw.2)) := by
  induction raws with
  | nil => rfl
  | cons raw rest ih =>
      have hfirst : Script.readLine raw = .ok (raw.1, plainLine raw.2) := by
        rw [Script.readLine, ofText_plainLine (h raw List.mem_cons_self)]
      rw [List.mapM_cons, hfirst, ih fun raw hraw => h raw (List.mem_cons_of_mem _ hraw)]
      rfl

/-! ## Grouping -/

/-- A piece that has been begun, as the grouping keeps it. -/
def begun (piece : Piece) : Option Script.Draft :=
  if piece.isEmpty then none
  else some { Script.Draft.plainSql piece.line with current := piece.slot }

/-- The statements of pieces. A piece without a line is none. -/
def plainStatements (pieces : List Piece) : List Statement :=
  (pieces.filter fun piece => !piece.isEmpty).map Piece.statement

theorem plainStatements_append (earlier later : List Piece) :
    plainStatements (earlier ++ later) = plainStatements earlier ++ plainStatements later := by
  rw [plainStatements, List.filter_append, List.map_append]
  rfl

theorem closeAny_begun (piece : Piece) :
    Script.closeAny (begun piece) = plainStatements [piece] := by
  cases piece with
  | nil => rfl
  | cons first rest => rfl

/-- A line goes to the piece that has been begun. -/
theorem step_command (number : Nat) (text : Text) (ended : Bool) (piece : Piece) :
    Script.step number (.command text ended) (begun piece) =
      if ended then ([Piece.statement (piece ++ [(number, text)])], none)
      else ([], begun (piece ++ [(number, text)])) := by
  cases piece with
  | nil => cases ended <;> rfl
  | cons first rest =>
      have hlines : ((first :: rest) ++ [(number, text)]).map Prod.snd
          = (first :: rest).map Prod.snd ++ [text] := List.map_append
      unfold Piece.statement begun Piece.slot
      rw [hlines]
      cases ended <;> rfl

theorem step_terminator (number : Nat) (piece : Piece) :
    Script.step number .terminator (begun piece) = (Script.closeAny (begun piece), none) := by
  cases piece with
  | nil => rfl
  | cons first rest => rfl

/-- What the first line completes stands before what the rest gives. -/
theorem finish_group_cons (number : Nat) (line : Script.Line) (rest : List (Nat × Script.Line))
    (draft : Option Script.Draft) :
    Script.finish (Script.group ((number, line) :: rest) draft)
      = ((Script.step number line draft).1 ++ ·)
        <$> Script.finish (Script.group rest (Script.step number line draft).2) :=
  Script.finish_append (Script.step number line draft).1 _

theorem modifyHead_nil_append {α : Type} (lists : List (List α)) :
    lists.modifyHead ([] ++ ·) = lists := by
  cases lists with
  | nil => rfl
  | cons first rest => rfl

/-- What a line does to the piece that has been begun: it may complete it, and it may begin another.
That is how its marks cut the lines. -/
theorem step_plainLine (number : Nat) (h : (Text.trim raw).head? ≠ some '$')
    (piece : Piece) :
    ∃ completed next,
      Script.step number (plainLine raw) (begun piece) = (plainStatements completed, begun next) ∧
        ∀ marked, (cut (marks (number, raw) ++ marked)).modifyHead (piece ++ ·)
          = completed ++ (cut marked).modifyHead (next ++ ·) := by
  unfold plainLine marks
  rcases kind_cases h with hkind | hkind | hkind
  · -- a remark says nothing
    rw [hkind]
    exact ⟨[], piece, rfl, fun _ => rfl⟩
  · -- a terminator completes what has been begun
    rw [hkind]
    refine ⟨[piece], [], ?_, ?_⟩
    · dsimp only
      rw [step_terminator, closeAny_begun]
      rfl
    · intro marked
      rw [List.singleton_append, cut_none, List.modifyHead_cons, modifyHead_nil_append,
        List.append_nil]
      rfl
  · -- a line joins the piece, and completes it if there is a terminator on it
    rw [hkind]
    dsimp only
    rw [step_command]
    cases isEnded raw with
    | true =>
        refine ⟨[piece ++ [(number, body raw)]], [], ?_, ?_⟩
        · rw [if_pos rfl, ← closeAny_begun]
          cases piece <;> rfl
        · intro marked
          rw [if_pos rfl, List.cons_append, List.singleton_append, cut_some, cut_none,
            List.modifyHead_cons, List.modifyHead_cons, modifyHead_nil_append]
          rfl
    | false =>
        refine ⟨[], piece ++ [(number, body raw)], rfl, ?_⟩
        intro marked
        rw [if_neg Bool.false_ne_true, List.cons_append, List.nil_append, cut_some,
          List.modifyHead_modifyHead]
        congr 1
        funext first
        simp

/-- The piece that has been begun goes on with the first piece of the lines that follow. -/
theorem finish_group {raws : List (Nat × Text)}
    (h : ∀ raw ∈ raws, (Text.trim raw.2).head? ≠ some '$') (piece : Piece) :
    Script.finish (Script.group (raws.map fun raw => (raw.1, plainLine raw.2)) (begun piece))
      = .ok (plainStatements ((cut (raws.flatMap marks)).modifyHead (piece ++ ·))) := by
  induction raws generalizing piece with
  | nil =>
      -- what has been begun is the last piece
      change Script.finish ([], begun piece) = .ok (plainStatements [piece ++ []])
      rw [List.append_nil, ← closeAny_begun]
      cases piece with
      | nil => rfl
      | cons first more => rfl
  | cons raw rest ih =>
      obtain ⟨completed, next, hstep, hcut⟩ :=
        step_plainLine raw.1 (h raw List.mem_cons_self) piece
      rw [List.map_cons, finish_group_cons, hstep, List.flatMap_cons, hcut,
        plainStatements_append, ih fun raw hraw => h raw (List.mem_cons_of_mem _ hraw)]
      rfl

/-- **A source without a directive line is a script, and its statements are its pieces.** -/
theorem parse_of_directiveFree {source : Text} (h : DirectiveFree source) :
    Script.parse source = .ok ((pieces source).map Piece.statement) := by
  have hlines : ∀ raw ∈ Script.numberedLines source, (Text.trim raw.2).head? ≠ some '$' := by
    intro raw hraw
    refine h raw.2 ?_
    rw [← texts_numberedLines]
    exact List.mem_map_of_mem hraw
  have hfinish := finish_group hlines []
  rw [modifyHead_nil_append] at hfinish
  rw [Script.parse, mapM_plainLine hlines]
  exact hfinish

/-- A command says something, and does not start with `$`. -/
theorem body_of_command (hkind : kind raw = .command) :
    body raw ≠ [] ∧ (body raw).head? ≠ some '$' := by
  unfold kind at hkind
  split at hkind
  · cases hkind
  rename_i hremark
  split at hkind
  · cases hkind
  rename_i hlone
  have hfilled : Text.trim raw ≠ [] := by
    intro hnil
    rw [hnil] at hremark
    exact hremark rfl
  refine ⟨mt (body_eq_nil hfilled).mp hlone, ?_⟩
  intro hdollar
  rw [if_neg (not_not_intro hdollar)] at hkind
  -- every kind that is left is one of a directive line
  split at hkind
  · cases hkind
  split at hkind
  · cases hkind
  split at hkind
  · cases hkind
  · cases hkind

/-- The lines of the pieces are those of the source. -/
theorem lines_pieces {source : Text} (h : DirectiveFree source) {piece : Piece}
    (hpiece : piece ∈ pieces source) {line : Text} (hline : line ∈ piece.slot) :
    line ≠ [] ∧ line.head? ≠ some '$' := by
  have htexts := Script.text_of_parse (parse_of_directiveFree h)
  rw [text_layout] at htexts
  -- what the pieces hold is what the source holds, and its content lines are commands
  have hstored : line ∈ contents source := by
    rw [← htexts]
    refine List.mem_flatMap.mpr ⟨_, List.mem_map_of_mem hpiece, ?_⟩
    exact List.mem_flatten.mpr ⟨_, List.mem_singleton_self _, hline⟩
  obtain ⟨raw, hraw, rfl⟩ := List.mem_map.mp hstored
  obtain ⟨hmem, hcontent⟩ := List.mem_filter.mp hraw
  have hkind : kind raw = .command := by
    rcases kind_cases (h raw hmem) with hkind | hkind | hkind
    · simp [isContent, hkind] at hcontent
    · simp [isContent, hkind] at hcontent
    · exact hkind
  rw [stored_of_command hkind]
  exact body_of_command hkind

end Source

end MigrationScript
