import Mathlib
import MigrationScript.Proofs.Source.Renumbering

/-!
# One source after another

A closer completes whatever is open, so nothing that stands before it has a bearing on the lines
after it. Two sources with a closer between them are read as the first and then the second, whatever
the first one leaves open.

Only the line numbers of the second source change. A source that stands further down is read as it
would be at the top, with all its line numbers moved (`parseLines_moved`).
-/

namespace MigrationScript

/-- The statement as it stands `n` lines further down. -/
def Statement.moved (n : Nat) (s : Statement) : Statement := { s with line := s.line + n }

namespace Script

/-- A numbered line, `n` lines further down. -/
def shift {α : Type} (n : Nat) (numbered : Nat × α) : Nat × α := (numbered.1 + n, numbered.2)

/-- The error as it stands `n` lines further down. -/
def ParseError.moved (n : Nat) : ParseError → ParseError
  | unknownDirective line word => unknownDirective (line + n) word
  | unterminatedBlock line key => unterminatedBlock (line + n) key

/-- What is answered `n` lines further down. -/
def movedAnswer {α : Type} (n : Nat) (f : α → α) : Except ParseError α → Except ParseError α
  | .ok a => .ok (f a)
  | .error e => .error (e.moved n)

/-- The statements of numbered lines. -/
def parseLines (raws : List (Nat × Text)) : Except ParseError (List Statement) := do
  finish (group (← raws.mapM readLine) none)

/-! ## Moving lines down -/

theorem kept_shift (n : Nat) (raws : List (Nat × Text)) :
    Kept Eq (· + n) raws (raws.map (shift n)) := by
  induction raws with
  | nil => exact .done
  | cons raw rest ih => exact .line raw.1 rfl ih

/-- **Lines that stand further down are read as they are at the top, with their numbers moved.** -/
theorem parseLines_moved (n : Nat) (raws : List (Nat × Text)) :
    parseLines (raws.map (shift n))
      = movedAnswer n (List.map (Statement.moved n)) (parseLines raws) := by
  have hkept : parseLines (raws.map (shift n)) = renumberedAnswer (· + n) (parseLines raws) :=
    parseFrom_kept (fun raw raw' hsame => by rw [hsame]) (kept_shift n raws) none
  rw [hkept]
  cases parseLines raws with
  | ok statements => rfl
  | error e => cases e <;> rfl

/-! ## A closer between lines -/

variable {earlier : List (Nat × Text)} {closer : Nat × Text}

/-- Lines are read up to the first that cannot be read. -/
theorem parseLines_append_of_error {e : ParseError} (h : earlier.mapM readLine = .error e)
    (later : List (Nat × Text)) : parseLines (earlier ++ later) = .error e := by
  rw [parseLines, List.mapM_append, h]
  rfl

/-- At the end only an open block is refused. -/
theorem finish_ne_unknown (st : Step) (number : Nat) (word : Text) :
    finish st ≠ .error (.unknownDirective number word) := by
  obtain ⟨statements, draft⟩ := st
  intro h
  cases draft with
  | none => cases h
  | some d =>
      rw [finish] at h
      split at h
      · cases h
      · cases h

/-- An unknown word is found before anything else is. -/
theorem mapM_readLine_of_unknown {raws : List (Nat × Text)} {number : Nat} {word : Text}
    (h : parseLines raws = .error (.unknownDirective number word)) :
    raws.mapM readLine = .error (.unknownDirective number word) := by
  unfold parseLines at h
  cases hread : raws.mapM readLine with
  | error e =>
      rw [hread] at h
      cases h
      rfl
  | ok lines =>
      rw [hread] at h
      exact absurd h (finish_ne_unknown _ _ _)

/-- A closer completes what is open, and the lines after it are read as if they stood alone. -/
theorem parseLines_append_closer {statements : List Statement}
    (h : parseLines earlier = .ok statements) (hcloser : Line.ofText closer.2 = .ok .closer)
    (later : List (Nat × Text)) :
    parseLines (earlier ++ closer :: later) = (statements ++ ·) <$> parseLines later := by
  unfold parseLines at h ⊢
  rw [List.mapM_append, List.mapM_cons, readLine, hcloser]
  cases hearlier : earlier.mapM readLine with
  | error e =>
      rw [hearlier] at h
      cases h
  | ok before =>
      rw [hearlier] at h
      have hstatements : statements = (group before none).statements := finish_statements h
      cases later.mapM readLine with
      | error e => rfl
      | ok after =>
          have hgroup : group (before ++ (closer.1, Line.closer) :: after) none
              = (statements ++ (group after none).1, (group after none).2) := by
            rw [group_append, hstatements]
            exact Prod.ext (List.append_assoc _ _ _).symm rfl
          exact (congrArg finish hgroup).trans (finish_append statements _)

/-! ## Sources -/

theorem length_splitOn (a : Char) (source : Text) :
    (source.splitOn a).length = source.count a + 1 := by
  induction source with
  | nil => rfl
  | cons c rest ih =>
      rw [List.splitOn_cons_eq_if_modifyHead, List.count_cons]
      by_cases hcut : c == a
      · rw [if_pos hcut, if_pos hcut, List.length_cons, ih]
      · rw [if_neg hcut, if_neg hcut, List.length_modifyHead, ih, Nat.add_zero]

/-- The closer that stands between two sources, on a line of its own. -/
def betweenSources : Text := "\n$fi\n".toList

/-- The lines of a source after another, with a closer in between. -/
theorem numberedLines_append (first second : Text) :
    numberedLines (first ++ betweenSources ++ second)
      = numberedLines first ++ (first.count '\n' + 2, "$fi".toList)
          :: (numberedLines second).map (shift (first.count '\n' + 2)) := by
  have hsplit : (first ++ betweenSources ++ second).splitOn '\n'
      = first.splitOn '\n' ++ "$fi".toList :: second.splitOn '\n' := by
    have hassoc : first ++ betweenSources ++ second
        = first ++ '\n' :: ("$fi".toList ++ '\n' :: second) := List.append_assoc _ _ _
    rw [hassoc, List.splitOn_append_cons_self, List.splitOn_append_cons_self]
    rfl
  have hlast : 1 + (first.splitOn '\n').length = first.count '\n' + 2 := by
    rw [length_splitOn]
    omega
  rw [numberedLines, hsplit, List.zipIdx_append, hlast, List.zipIdx_cons, List.map_append,
    List.map_cons, ← List.map_snd_add_zipIdx_eq_zipIdx, numberedLines, numberedLines, List.map_map,
    List.map_map]
  rfl

/--
**A source after a closer is read as if it stood alone.**

What the first source leaves open is completed, and the second gives the statements or the error
that it gives alone, further down. A first source that is refused for an unknown word is refused in
any case.
-/
theorem parse_append (first second : Text) :
    (∀ earlier, parse first = .ok earlier →
      parse (first ++ betweenSources ++ second) =
        match parse second with
        | .ok later => .ok (earlier ++ later.map (Statement.moved (first.count '\n' + 2)))
        | .error e => .error (e.moved (first.count '\n' + 2)))
    ∧ (∀ number word, parse first = .error (.unknownDirective number word) →
      parse (first ++ betweenSources ++ second) = .error (.unknownDirective number word)) := by
  have hcloser : Line.ofText "$fi".toList = .ok .closer := rfl
  have hjoined : parse (first ++ betweenSources ++ second)
      = parseLines (numberedLines first ++ (first.count '\n' + 2, "$fi".toList)
          :: (numberedLines second).map (shift (first.count '\n' + 2))) := by
    rw [← numberedLines_append]
    rfl
  rw [hjoined]
  constructor
  · intro earlier h
    have hfirst : parseLines (numberedLines first) = .ok earlier := h
    rw [parseLines_append_closer hfirst hcloser, parseLines_moved]
    change (earlier ++ ·) <$> movedAnswer _ _ (parse second) = _
    cases parse second <;> rfl
  · intro number word h
    exact parseLines_append_of_error (mapM_readLine_of_unknown h) _

/-- A source with two statements and no terminator. -/
def unended : Text := "select 1\r\n$exit\nbye".toList

/-- The statements of that source. The directive completes the first, and the end the second. -/
def unendedStatements : List Statement :=
  [⟨.sql, "sql".toList, [], [["select 1".toList]], 1⟩,
    ⟨.exit, "$exit".toList, [], [["$exit".toList, "bye".toList]], 2⟩]

theorem parse_append_unended :
    parse unended = .ok unendedStatements
    ∧ parse (unended ++ betweenSources ++ "select 2".toList)
      = .ok (unendedStatements ++ [⟨.sql, "sql".toList, [], [["select 2".toList]], 5⟩])
    ∧ parse (unended ++ betweenSources ++ "$if".toList) = .error (.unterminatedBlock 5 "$if".toList)
    ∧ parse "$if\n$What".toList = .error (.unknownDirective 2 "$What".toList)
    ∧ parse ("$if\n$What".toList ++ betweenSources ++ unended)
      = .error (.unknownDirective 2 "$What".toList) := by
  have hfirst : parse unended = .ok unendedStatements := by cbv
  have hsql : parse "select 2".toList
      = .ok [⟨.sql, "sql".toList, [], [["select 2".toList]], 1⟩] := by cbv
  have hopen : parse "$if".toList = .error (.unterminatedBlock 1 "$if".toList) := by cbv
  have hunknown : parse "$if\n$What".toList = .error (.unknownDirective 2 "$What".toList) := by cbv
  refine ⟨hfirst, ?_, ?_, hunknown, ?_⟩
  · rw [(parse_append unended "select 2".toList).1 _ hfirst, hsql]
    rfl
  · rw [(parse_append unended "$if".toList).1 _ hfirst, hopen]
    rfl
  · exact (parse_append "$if\n$What".toList unended).2 2 _ hunknown

end Script

end MigrationScript
