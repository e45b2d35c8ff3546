import MigrationScript.Keyword

/-!
# Statements

A script is a list of statements. A statement is a directive, or a plain piece of SQL, together with
the command text it governs. The text is kept in slots: each slot is one command and holds one or
more source lines.
-/

namespace MigrationScript

/-- An argument word of a directive, with the symbol it stands for. -/
structure Field where
  text : Text
  symbol : Symbol
  deriving DecidableEq, Repr

/-- The lines of one command. -/
abbrev Slot := List Text

/-- A directive or a piece of plain SQL, with the commands it governs. -/
structure Statement where
  symbol : Symbol
  /-- The directive word in lower case, `sql` for plain SQL. -/
  key : Text
  fields : List Field
  slots : List Slot
  /-- The number of the source line that opened the statement, counted from 1. -/
  line : Nat
  deriving DecidableEq, Repr

/-- A word as a field. -/
def Field.ofWord (word : Text) : Field := ⟨word, Keyword.classify word⟩

/-- The command text of a slot: its lines, one below the other. -/
def Slot.command (slot : Slot) : Text := Text.join ['\n'] slot

namespace Statement

/-- A statement of plain SQL without any text yet. -/
def plainSql (line : Nat) : Statement := ⟨.sql, "sql".toList, [], [], line⟩

/-- Adds a line to slot number `i`. A slot is made by its first line, and only right after the last
one: a line for a slot further on is not kept. -/
def add (s : Statement) (i : Nat) (line : Text) : Statement :=
  let slots := if s.slots.length = i then s.slots ++ [[]] else s.slots
  { s with slots := slots.modify i (· ++ [line]) }

private theorem modify_last (done : List Slot) (slot : Slot) (f : Slot → Slot) :
    (done ++ [slot]).modify done.length f = done ++ [f slot] := by
  induction done with
  | nil => rfl
  | cons first done ih => simp [List.modify_succ_cons, ih]

/-- A line for the slot after the last one makes that slot. -/
theorem slots_add_new (s : Statement) (line : Text) :
    (s.add s.slots.length line).slots = s.slots ++ [[line]] := by
  simp [add, modify_last]

/-- A line for the last slot goes to its end. -/
theorem slots_add_last {s : Statement} {done : List Slot} {slot : Slot}
    (h : s.slots = done ++ [slot]) (line : Text) :
    (s.add done.length line).slots = done ++ [slot ++ [line]] := by
  simp [add, h, modify_last]

/-- The command text of slot number `i`, empty if there is no such slot. -/
def command (s : Statement) (i : Nat) : Text := (s.slots[i]?.map Slot.command).getD []

/-- Every line of every slot, in order. -/
def lines (s : Statement) : List Text := s.slots.flatten

end Statement

end MigrationScript
