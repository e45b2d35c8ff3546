import Mathlib
import MigrationScript.Proofs.Source.PlainSql

/-!
# Lines divided where a statement ends

Lines fall into passages: each ends with the first line that ends something, and the last may have
no such line. Cutting what the lines say at their marks gives the same pieces, but for those that
hold nothing (`cut_marksOf`).

A source without a directive line is divided so by its terminators, and its statements are its
passages, in order, each as one slot. A passage of nothing but a terminator is no statement.
-/

namespace MigrationScript

namespace Source

variable {α β : Type}

/-- A list divided after each element that ends something. -/
def passages (ends : α → Bool) (lines : List α) : List (List α) :=
  lines.splitBy fun line _ => !ends line

/-- What an element adds to a list with marks: its item, if it has one, and a mark if it ends
something. -/
def marksOf (item : α → Option β) (ends : α → Bool) (line : α) : List (Option β) :=
  (item line).toList.map some ++ if ends line then [none] else []

/-! ## Passages and pieces -/

section Cutting

variable {item : α → Option β} {ends : α → Bool} {run : List α}

theorem isChain_run (hrun : ∀ line ∈ run, ends line = false) :
    run.IsChain fun line _ => (!ends line) = true := by
  induction run with
  | nil => exact .nil
  | cons line rest ih =>
      have hline := hrun line List.mem_cons_self
      refine List.isChain_cons.mpr ⟨fun _ _ => by simp [hline], ih fun line hmem => ?_⟩
      exact hrun line (List.mem_cons_of_mem _ hmem)

/-- Lines that end nothing are one passage. -/
theorem passages_run (hne : run ≠ []) (hrun : ∀ line ∈ run, ends line = false) :
    passages ends run = [run] :=
  List.splitBy_of_isChain hne (isChain_run hrun)

/-- The first line that ends something ends the first passage. -/
theorem passages_append {last : α} (hrun : ∀ line ∈ run, ends line = false)
    (hlast : ends last = true) (rest : List α) :
    passages ends (run ++ last :: rest) = (run ++ [last]) :: passages ends rest := by
  have hchain : (run ++ [last]).IsChain fun line _ => (!ends line) = true := by
    refine List.isChain_append.mpr ⟨isChain_run hrun, .singleton _, ?_⟩
    intro line hline _ _
    simp [hrun line (List.mem_of_getLast? hline)]
  have hends : ∀ line ∈ (run ++ [last]).getLast?, ∀ next ∈ rest.head?, (!ends line) = false := by
    intro line hline _ _
    obtain rfl : last = line := by simpa using hline
    simp [hlast]
  unfold passages
  rw [List.append_cons, List.splitBy_append hends, List.splitBy_of_isChain (by simp) hchain]
  rfl

/-- In a passage only the last line ends something. -/
theorem eq_singleton_of_mem_passages {lines rest : List α} {line : α}
    (h : line :: rest ∈ passages ends lines) (hends : ends line = true) : rest = [] := by
  have hchain := List.isChain_of_mem_splitBy h
  cases rest with
  | nil => rfl
  | cons next rest =>
      have hgoes := (List.isChain_cons_cons.mp hchain).1
      simp [hends] at hgoes

theorem cut_items (items : List β) (marked : List (Option β)) :
    cut (items.map some ++ marked) = (cut marked).modifyHead (items ++ ·) := by
  induction items with
  | nil => exact (modifyHead_nil_append _).symm
  | cons first rest ih =>
      rw [List.map_cons, List.cons_append, cut_some, ih, List.modifyHead_modifyHead]
      rfl

theorem marksOf_run (hrun : ∀ line ∈ run, ends line = false) :
    run.flatMap (marksOf item ends) = (run.filterMap item).map some := by
  induction run with
  | nil => rfl
  | cons line rest ih =>
      have hline : marksOf item ends line = (item line).toList.map some := by
        rw [marksOf, hrun line List.mem_cons_self]
        exact List.append_nil _
      rw [List.flatMap_cons, hline, ih fun line hmem => hrun line (List.mem_cons_of_mem _ hmem),
        ← List.map_append, List.filterMap_cons]
      cases item line <;> rfl

/-- **The pieces between marks are the passages**, but for those that hold nothing. -/
theorem cut_marksOf (item : α → Option β) (ends : α → Bool) (lines : List α) :
    (cut (lines.flatMap (marksOf item ends))).filter (fun piece => !piece.isEmpty)
      = ((passages ends lines).map (List.filterMap item)).filter fun piece => !piece.isEmpty := by
  -- the induction takes off one passage at a time
  induction hlength : lines.length using Nat.strongRecOn generalizing lines with
  | ind n ih =>
    cases hfind : lines.find? ends with
    | none =>
        have hrun : ∀ line ∈ lines, ends line = false := by simpa using hfind
        have hpieces : cut ((lines.filterMap item).map some) = [lines.filterMap item] := by
          have hitems := cut_items (lines.filterMap item) []
          rw [List.append_nil] at hitems
          rw [hitems]
          exact congrArg (fun piece => [piece]) (List.append_nil _)
        rw [marksOf_run hrun, hpieces]
        cases lines with
        | nil => rfl
        | cons first rest => rw [passages_run (List.cons_ne_nil _ _) hrun, List.map_singleton]
    | some last =>
        obtain ⟨hlast, run, rest, rfl, hrun⟩ := List.find?_eq_some_iff_append.mp hfind
        have hrun : ∀ line ∈ run, ends line = false := by simpa using hrun
        have hmarks : (run ++ last :: rest).flatMap (marksOf item ends)
            = ((run ++ [last]).filterMap item).map some
              ++ none :: rest.flatMap (marksOf item ends) := by
          rw [List.flatMap_append, List.flatMap_cons, marksOf_run hrun, marksOf, hlast,
            List.filterMap_append, List.map_append]
          cases hitem : item last <;> simp [hitem]
        have hrest := ih rest.length (by simp [← hlength]; omega) rest rfl
        rw [hmarks, cut_items, cut_none, passages_append hrun hlast, List.modifyHead_cons,
          List.append_nil, List.map_cons, List.filter_cons, List.filter_cons, hrest]

end Cutting

/-! ## Passages of plain SQL -/

/-- Lines of a source that say something, up to one with a terminator. -/
abbrev Passage := List (Nat × Text)

namespace Passage

/-- The lines without a lone terminator, as they are stored. -/
def content (passage : Passage) : Piece :=
  (passage.filter fun raw => kind raw.2 ≠ .terminator).map fun raw => (raw.1, body raw.2)

/-- The number of the first line. -/
def line (passage : Passage) : Nat := (passage.map Prod.fst).headD 0

/-- The statement of plain SQL that the passage is, if there is more to it than a terminator. -/
def statement? (passage : Passage) : Option Statement :=
  if passage.content.isEmpty then none
  else some
    { symbol := .sql, key := "sql".toList, fields := [], slots := [passage.content.map Prod.snd]
      line := passage.line }

end Passage

/-- The passages of a source. Blank lines and comments belong to none. -/
def plainPassages (source : Text) : List Passage :=
  passages (fun raw => isEnded raw.2)
    ((Script.numberedLines source).filter fun raw => kind raw.2 ≠ .remark)

/-- A line as a piece keeps it. A lone terminator is none. -/
def itemOf (raw : Nat × Text) : Option (Nat × Text) :=
  if kind raw.2 = .terminator then none else some (raw.1, body raw.2)

theorem isEnded_terminator {raw : Text} (hkind : kind raw = .terminator) : isEnded raw = true := by
  have hlone : Text.trim raw = "&&".toList := by
    unfold kind at hkind
    split at hkind
    · cases hkind
    split at hkind
    · assumption
    · repeat' split at hkind
      all_goals cases hkind
  rw [isEnded, hlone]
  rfl

theorem marks_eq {raw : Nat × Text} (hkind : kind raw.2 ≠ .remark) :
    marks raw = marksOf itemOf (fun raw => isEnded raw.2) raw := by
  unfold marks marksOf itemOf
  by_cases hlone : kind raw.2 = .terminator
  · simp [hlone, isEnded_terminator hlone]
  · rw [if_neg hlone]
    split
    · exact absurd ‹_› hkind
    · exact absurd ‹_› hlone
    · rfl

/-- Remarks mark nothing. -/
theorem flatMap_marks (raws : List (Nat × Text)) :
    raws.flatMap marks = (raws.filter fun raw => kind raw.2 ≠ .remark).flatMap
      (marksOf itemOf fun raw => isEnded raw.2) := by
  induction raws with
  | nil => rfl
  | cons raw rest ih =>
      by_cases hkind : kind raw.2 = .remark
      · have hnone : marks raw = [] := by rw [marks, hkind]
        rw [List.flatMap_cons, hnone, List.filter_cons_of_neg (by simp [hkind]), ih]
        rfl
      · rw [List.flatMap_cons, marks_eq hkind, List.filter_cons_of_pos (by simp [hkind]), ih,
          List.flatMap_cons]

theorem filterMap_itemOf (passage : Passage) : passage.filterMap itemOf = passage.content := by
  induction passage with
  | nil => rfl
  | cons raw rest ih =>
      rw [List.filterMap_cons, itemOf, ih, Passage.content, Passage.content, List.filter_cons]
      by_cases hlone : kind raw.2 = .terminator <;> simp [hlone]

/-- A passage and its content begin with the same line, unless there is no content. -/
theorem statement?_eq {source : Text} {passage : Passage} (h : passage ∈ plainPassages source) :
    passage.statement? =
      if passage.content.isEmpty then none else some (Piece.statement passage.content) := by
  unfold Passage.statement?
  cases hempty : passage.content.isEmpty with
  | true => rfl
  | false =>
      obtain ⟨first, rest, rfl⟩ := List.exists_cons_of_ne_nil (List.ne_nil_of_mem_splitBy h)
      by_cases hlone : kind first.2 = .terminator
      · -- a lone terminator that comes first is the whole passage
        obtain rfl := eq_singleton_of_mem_passages h (isEnded_terminator hlone)
        simp [Passage.content, hlone] at hempty
      · have hline : Piece.line (Passage.content (first :: rest)) = first.1 := by
          rw [Passage.content, List.filter_cons_of_pos (by simp [hlone])]
          rfl
        unfold Piece.statement
        rw [hline]
        rfl

theorem pieces_eq (source : Text) :
    pieces source = ((plainPassages source).map Passage.content).filter (!·.isEmpty) := by
  have hcontent : List.filterMap itemOf = Passage.content := funext filterMap_itemOf
  rw [pieces, flatMap_marks, cut_marksOf, hcontent]
  rfl

/--
**A source without a directive line is a script, and its statements are its passages.**

They come in the order of the source, one for each passage with more to it than a terminator. A
statement holds the lines of its passage in one slot and has the number of the first of them. The
lines are trimmed, and one terminator at the end is taken off, with the white space before it.
-/
theorem parse_plainPassages {source : Text} (h : DirectiveFree source) :
    Script.parse source = .ok ((plainPassages source).filterMap Passage.statement?) ∧
      ∀ raw ∈ source.splitOn '\n', Cropped raw := by
  have hstatements : (pieces source).map Piece.statement
      = (plainPassages source).filterMap Passage.statement? := by
    rw [pieces_eq, List.filter_map, List.map_map, ← List.filterMap_eq_map, List.filterMap_filter]
    refine List.filterMap_congr fun passage hpassage => ?_
    rw [statement?_eq hpassage]
    cases hempty : passage.content.isEmpty <;> simp [hempty]
  refine ⟨?_, fun raw _ => cropped raw⟩
  rw [parse_of_directiveFree h, hstatements]

/-- Two terminators on a line, one alone, remarks between the lines, and none at the end. -/
def plainSource : Text :=
  "select 1 && &&\r\n &&\r\n# note &&\r\n\r\ninsert into a\r\n  values (1)  &&\n&&\nselect 2".toList

/-- The commands of that source, with the numbers of their first lines. -/
def plainSourceStatements : List Statement :=
  [⟨.sql, "sql".toList, [], [["select 1 &&".toList]], 1⟩,
    ⟨.sql, "sql".toList, [], [["insert into a".toList, "values (1)".toList]], 5⟩,
    ⟨.sql, "sql".toList, [], [["select 2".toList]], 8⟩]

theorem parse_plainPassages_mixed :
    DirectiveFree plainSource ∧ Script.parse plainSource = .ok plainSourceStatements := by
  have hfree : DirectiveFree plainSource := by unfold DirectiveFree; decide +kernel
  have hpassages : (plainPassages plainSource).filterMap Passage.statement?
      = plainSourceStatements := by decide +kernel
  refine ⟨hfree, ?_⟩
  rw [(parse_plainPassages hfree).1, hpassages]

end Source

end MigrationScript
