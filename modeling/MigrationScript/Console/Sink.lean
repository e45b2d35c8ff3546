import MigrationScript.Text

/-!
# Sinks

A sink takes bytes in order, up to its capacity if it has one. A write that does not fit is cut at
the capacity, and fails; the bytes that fitted stay written.
-/

namespace MigrationScript

/-- What has been written, and how many bytes more can be. -/
structure Sink where
  /-- What each write left, the latest first. -/
  chunks : List (List UInt8) := []
  /-- The bytes that still fit, if there is a limit. -/
  room : Option Nat := none
  deriving DecidableEq, Repr

namespace Sink

/-- The bytes written so far. -/
def written (sink : Sink) : List UInt8 := sink.chunks.reverse.flatten

/-- What is said about a write that does not fit. -/
def fullMessage : String := "sink full"

/-- Writes bytes, and says whether all of them fitted. -/
def write (sink : Sink) (bytes : List UInt8) : Bool × Sink :=
  match sink.room with
  | none => (true, { sink with chunks := bytes :: sink.chunks })
  | some room =>
    (decide (bytes.length ≤ room),
      { chunks := bytes.take room :: sink.chunks, room := some (room - bytes.length) })

/-- Writes a text and a line break. -/
def writeLine (sink : Sink) (line : Text) : Bool × Sink := sink.write (Text.utf8 (line ++ ['\n']))

/-- Without a limit, a write adds its bytes and fits. -/
theorem written_write_unlimited {sink : Sink} (h : sink.room = none) (bytes : List UInt8) :
    (sink.write bytes).1 = true ∧ (sink.write bytes).2.written = sink.written ++ bytes ∧
      (sink.write bytes).2.room = none := by
  simp [write, h, written]

/-- With a limit, a write adds the bytes that fit, and fits if that is all of them. -/
theorem written_write_limited {sink : Sink} {room : Nat} (h : sink.room = some room)
    (bytes : List UInt8) :
    ((sink.write bytes).1 = true ↔ bytes.length ≤ room) ∧
      (sink.write bytes).2.written = sink.written ++ bytes.take room ∧
      (sink.write bytes).2.room = some (room - bytes.length) := by
  simp [write, h, written]

end Sink

end MigrationScript
