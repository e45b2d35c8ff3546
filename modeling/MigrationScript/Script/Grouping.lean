import MigrationScript.Script.Line

/-!
# Grouping lines into statements

Lines are grouped from top to bottom. At most one statement is open at a time, the draft: its
finished slots, and the lines of the slot in progress. A step takes the draft and a line, and gives
the statements that the line completes and the new draft.

* Inside a block (`$if`, `$ecv_start`) every directive line but a closer is text of the block, and a
  nested opener is dropped.
* Outside a block a directive line first completes whatever is open.
* A terminator finishes the slot in progress, and so does a directive that takes a single line. That
  completes the statement, except for a block, `$exit` and `$drop`, which stay open.
-/

namespace MigrationScript.Script

/-- The statement being put together. -/
structure Draft where
  head : Directive
  /-- The source line that opened the statement. -/
  line : Nat
  finished : List Slot
  /-- The lines of the slot in progress, none if no slot is in progress. -/
  current : Slot
  deriving DecidableEq, Repr

namespace Draft

/-- A statement without any text yet. -/
def new (head : Directive) (line : Nat) : Draft := ⟨head, line, [], []⟩

/-- Plain SQL without any text yet. -/
def plainSql (line : Nat) : Draft := new ⟨.sql, "sql".toList, []⟩ line

/-- The slots so far, the one in progress included. -/
def slots (d : Draft) : List Slot :=
  d.finished ++ if d.current.isEmpty then [] else [d.current]

/-- The draft as a statement. -/
def statement (d : Draft) : Statement := ⟨d.head.symbol, d.head.key, d.head.fields, d.slots, d.line⟩

/-- Whether only a closer ends the statement. -/
def isBlock (d : Draft) : Bool := d.head.symbol.opensBlock

/-- Whether the end of a slot completes the statement. -/
def endsAtTerminator (d : Draft) : Bool :=
  d.head.symbol = .sql || d.head.symbol.guardsOneLine || d.head.symbol.isSingleLine

/-- Adds a line to the slot in progress. -/
def push (d : Draft) (text : Text) : Draft := { d with current := d.current ++ [text] }

/-- A line for the draft goes to the slot after the finished ones. -/
theorem statement_push (d : Draft) (text : Text) :
    (d.push text).statement = d.statement.add d.finished.length text := by
  have hslots : (d.push text).slots = (d.statement.add d.finished.length text).slots := by
    -- the line starts a slot, or goes on with the one in progress
    cases hc : d.current with
    | nil =>
      have hs : d.statement.slots = d.finished := by simp [statement, slots, hc]
      have := Statement.slots_add_new d.statement text
      rw [hs] at this
      rw [this]
      simp [slots, push, hc]
    | cons first rest =>
      have hs : d.statement.slots = d.finished ++ [first :: rest] := by simp [statement, slots, hc]
      rw [Statement.slots_add_last hs]
      simp [slots, push, hc]
  simp only [statement, hslots]
  rfl

/-- Finishes the slot in progress, if there is one. -/
def endSlot (d : Draft) : Draft := { d with finished := d.slots, current := [] }

/-- Adds a line, and finishes the slot if the line ends its statement. -/
def pushLine (d : Draft) (text : Text) (ended : Bool) : Draft :=
  if ended then (d.push text).endSlot else d.push text

end Draft

/-- The statements that a step completes, and the draft that stays open. -/
abbrev Step := List Statement × Option Draft

/-- Completes the draft if a condition holds, and keeps it open otherwise. -/
def closeIf (complete : Bool) (d : Draft) : Step :=
  if complete then ([d.statement], none) else ([], some d)

/-- Adds a line to the draft, and completes it if the line ends its statement. -/
def pushAndClose (d : Draft) (text : Text) (ended : Bool) : Step :=
  closeIf (ended && d.endsAtTerminator) (d.pushLine text ended)

/-- Completes whatever is open. -/
def closeAny (draft : Option Draft) : List Statement := draft.toList.map Draft.statement

/-- What a line makes of the draft. -/
def step (number : Nat) (line : Line) (draft : Option Draft) : Step :=
  match line with
  | .blank => ([], draft)
  | .terminator =>
    match draft with
    | none => ([], none)
    | some d => closeIf d.endsAtTerminator d.endSlot
  | .closer => (closeAny draft, none)
  | .opener head =>
    match draft.filter Draft.isBlock with
    | some block => ([], some block)
    | none => (closeAny draft, some (.new head number))
  | .directive head text ended =>
    match draft.filter Draft.isBlock with
    | some block => ([], some (block.pushLine text ended))
    | none =>
      let (completed, opened) := pushAndClose (.new head number) text ended
      (closeAny draft ++ completed, opened)
  | .command text ended => pushAndClose (draft.getD (.plainSql number)) text ended

/-- The statements of numbered lines, and the draft that is open after the last of them. -/
def group : List (Nat × Line) → Option Draft → Step
  | [], draft => ([], draft)
  | (number, line) :: rest, draft =>
    let (completed, draft) := step number line draft
    let (later, last) := group rest draft
    (completed ++ later, last)

end MigrationScript.Script
