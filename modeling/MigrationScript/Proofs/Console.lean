import MigrationScript.Console

/-!
# What the console sends

Without a limit on what can be written, a command that stands for SQL is printed as a whole and
counted once, and nothing else happens.
-/

namespace MigrationScript.Console

/-- From one state of the console to another, statements have been sent and nothing else has been
done. -/
structure Sent (before : Console) (statements : List Text) (after : Console) : Prop where
  written : after.sink.written
    = before.sink.written ++ statements.flatMap fun t => Text.utf8 (t ++ ";\n".toList)
  executed : after.executed = before.executed + statements.length
  assigned : after.variables = before.variables
  unlimited : after.sink.room = none

variable {before c after : Console} {earlier later : List Text}

theorem sent_nil (h : c.sink.room = none) : Sent c [] c :=
  ⟨(List.append_nil _).symm, rfl, rfl, h⟩

theorem sent_append (hearlier : Sent before earlier c) (hlater : Sent c later after) :
    Sent before (earlier ++ later) after where
  written := by
    rw [hlater.written, hearlier.written, List.flatMap_append, List.append_assoc]
  executed := by
    rw [hlater.executed, hearlier.executed, List.length_append, Nat.add_assoc]
  assigned := hlater.assigned.trans hearlier.assigned
  unlimited := hlater.unlimited

/-- A line is printed as a whole. -/
theorem print_unlimited (h : c.sink.room = none) (line : Text) :
    ∃ sink, c.print line = (.ok (), { c with sink }) ∧ sink.room = none ∧
      sink.written = c.sink.written ++ Text.utf8 (line ++ ['\n']) := by
  obtain ⟨hfits, hwritten, hroom⟩ := Sink.written_write_unlimited h (Text.utf8 (line ++ ['\n']))
  refine ⟨_, Prod.ext ?_ rfl, hroom, hwritten⟩
  change (if (c.sink.write _).1 then _ else _) = _
  rw [hfits]
  rfl

/-- A statement is sent as a whole. -/
theorem send_unlimited (h : c.sink.room = none) (statement : Text) :
    ∃ c', c.send statement = (.ok (), c') ∧ Sent c [statement] c' := by
  obtain ⟨sink, hprint, hroom, hwritten⟩ :=
    print_unlimited (c := { c with executed := c.executed + 1 }) h (statement ++ [';'])
  refine ⟨_, hprint, ?_, rfl, rfl, hroom⟩
  rw [List.flatMap_singleton]
  rwa [List.append_assoc] at hwritten

/-- A command that stands for SQL is sent, and the run goes on. -/
theorem execute_send {symbol : Symbol} {command statement : Text} (h : c.sink.room = none)
    (haction : action symbol command = .send statement) :
    ∃ c', c.execute symbol command = (.ok .proceed, c') ∧ Sent c [statement] c' := by
  obtain ⟨c', hsend, hsent⟩ := send_unlimited h statement
  refine ⟨c', ?_, hsent⟩
  rw [execute, haction]
  dsimp only
  rw [hsend]
  rfl

/-- A command that ends the run ends it. -/
theorem execute_stop {symbol : Symbol} {command line : Text} (h : c.sink.room = none)
    (haction : action symbol command = .stop line) :
    ∃ c', c.execute symbol command = (.ok .stop, c') := by
  obtain ⟨sink, hprint, -, -⟩ := print_unlimited h line
  refine ⟨{ c with sink }, ?_⟩
  rw [execute, haction]
  dsimp only
  rw [hprint]
  rfl

end MigrationScript.Console
