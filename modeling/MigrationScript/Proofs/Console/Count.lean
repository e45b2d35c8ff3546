import MigrationScript.Proofs.Console

/-!
# How many statements the console counts

The console counts a statement before it prints it. So its count is not that of the statements which
the sink took to their last byte: whenever the sink fails while SQL is printed, the count is one
further ahead, and stays so (`executed_counts`).

A sink may fail at any byte of any statement, and it may take bytes again after that. In one request
it fails at most once, because the console stops there. What a sink of any kind does in a request is
thus said by the number of bytes that it takes while it lasts, and what it does in a sequence of
requests by one such number for each (`Turn`).
-/

namespace MigrationScript.Console

/-! ## Requests and turns -/

/-- What the console can be asked to do. -/
inductive Request where
  | command (symbol : Symbol) (text : Text)
  | block (lines : List Text)

namespace Request

/-- The statements of SQL that a request stands for. A block with a fault stands for none. -/
def statements : Request → List Text
  | command symbol text =>
    match action symbol text with
    | .send statement => [statement]
    | _ => []
  | block lines => (Verbatim.inserts lines).toOption.getD []

/-- Carries out a request. -/
def carryOut : Request → Console → Except String Unit × Console
  | command symbol text, c => (execute symbol text c).map (Except.map fun _ => ()) id
  | block lines, c => executeVerbatim lines c

end Request

/-- A request, and how many bytes the sink takes while it is carried out, if there is a limit. -/
structure Turn where
  request : Request
  room : Option Nat

namespace Turn

/-- Carries out the request of a turn, on a sink that takes as much as the turn says. -/
def take (t : Turn) (c : Console) : Except String Unit × Console :=
  t.request.carryOut { c with sink := { c.sink with room := t.room } }

/-- The console after some turns. -/
def after : List Turn → Console → Console
  | [], c => c
  | t :: rest, c => after rest (t.take c).2

end Turn

/-! ## What the sink took -/

/-- A statement as it is printed. -/
def printed (statement : Text) : List UInt8 := Text.utf8 (statement ++ ";\n".toList)

/-- How many pieces, from the first on, stand whole at the start of some bytes. -/
def wholes : List (List UInt8) → List UInt8 → Nat
  | [], _ => 0
  | piece :: rest, bytes =>
    if piece <+: bytes then wholes rest (bytes.drop piece.length) + 1 else 0

/-- The bytes that the sink took from one state of the console to another. -/
def taken (before after : Console) : List UInt8 :=
  after.sink.written.drop before.sink.written.length

theorem wholes_next (piece : List UInt8) (rest : List (List UInt8)) (bytes : List UInt8) :
    wholes (piece :: rest) (piece ++ bytes) = wholes rest bytes + 1 := by
  rw [wholes, if_pos (List.prefix_append piece bytes), List.drop_left]

theorem wholes_broken {piece part : List UInt8} (h : part.length < piece.length)
    (rest : List (List UInt8)) : wholes (piece :: rest) part = 0 := by
  rw [wholes, if_neg]
  intro hwhole
  exact absurd hwhole.length_le (Nat.not_le_of_lt h)

theorem wholes_le_length (pieces : List (List UInt8)) (bytes : List UInt8) :
    wholes pieces bytes ≤ pieces.length := by
  induction pieces generalizing bytes with
  | nil => exact Nat.le_refl 0
  | cons piece rest ih =>
      rw [wholes, List.length_cons]
      split
      · exact Nat.succ_le_succ (ih _)
      · exact Nat.zero_le _

theorem taken_of_written {before after : Console} {bytes : List UInt8}
    (h : after.sink.written = before.sink.written ++ bytes) : taken before after = bytes := by
  rw [taken, h, List.drop_left]

namespace Turn

/-- The statements of a turn that the sink took whole, terminator and line break included. -/
def whole (t : Turn) (c : Console) : Nat :=
  wholes (t.request.statements.map printed) (taken c (t.take c).2)

/-- Whether the sink fails in SQL. It may fail in a request that stands for no SQL, too. -/
def breaks (t : Turn) (c : Console) : Bool :=
  !t.request.statements.isEmpty && !(t.take c).1.isOk

/-- The statements that the sink takes whole in some turns. -/
def wholeIn : List Turn → Console → Nat
  | [], _ => 0
  | t :: rest, c => t.whole c + wholeIn rest (t.take c).2

/-- How many times the sink fails in SQL in some turns. -/
def breaksIn : List Turn → Console → Nat
  | [], _ => 0
  | t :: rest, c => (t.breaks c).toNat + breaksIn rest (t.take c).2

end Turn

/-! ## One statement after another -/

/-- A line is printed whole, or the sink fails before the end of it. -/
theorem print_cases (c : Console) (line : Text) :
    (∃ sink, c.print line = (.ok (), { c with sink }) ∧
        sink.written = c.sink.written ++ Text.utf8 (line ++ ['\n'])) ∨
      ∃ sink part, c.print line = (.error Sink.fullMessage, { c with sink }) ∧
        sink.written = c.sink.written ++ part ∧
        part.length < (Text.utf8 (line ++ ['\n'])).length := by
  have hprint : c.print line
      = (if (c.sink.writeLine line).1 then .ok () else .error Sink.fullMessage,
          { c with sink := (c.sink.writeLine line).2 }) := rfl
  cases hroom : c.sink.room with
  | none =>
      obtain ⟨sink, hok, -, hwritten⟩ := print_unlimited hroom line
      exact .inl ⟨sink, hok, hwritten⟩
  | some room =>
      obtain ⟨hfits, hwritten, -⟩ :=
        Sink.written_write_limited hroom (Text.utf8 (line ++ ['\n']))
      rw [← Sink.writeLine] at hfits hwritten
      by_cases hlength : (Text.utf8 (line ++ ['\n'])).length ≤ room
      · rw [hfits.mpr hlength] at hprint
        rw [List.take_of_length_le hlength] at hwritten
        exact .inl ⟨_, hprint, hwritten⟩
      · rw [Bool.eq_false_iff.mpr (mt hfits.mp hlength)] at hprint
        refine .inr ⟨_, _, hprint, hwritten, ?_⟩
        rw [List.length_take]
        omega

/-- What the console writes and counts when it is to print statements. -/
structure Accounts (statements : List Text) (before : Console) (answer : Except String Unit)
    (after : Console) : Prop where
  /-- What had been written stays. -/
  kept : before.sink.written <+: after.sink.written
  /-- A statement is counted if it is printed whole, and also if it breaks off. -/
  executed : after.executed = before.executed
    + wholes (statements.map printed) (taken before after)
    + (!statements.isEmpty && !answer.isOk).toNat
  /-- All of them are whole if there is no error. -/
  complete : statements ≠ [] →
    (wholes (statements.map printed) (taken before after) = statements.length ↔ answer.isOk = true)

/-- A request that stands for no SQL counts nothing. -/
theorem accounts_none {before after : Console} {bytes : List UInt8} (answer : Except String Unit)
    (hwritten : after.sink.written = before.sink.written ++ bytes)
    (hexecuted : after.executed = before.executed) : Accounts [] before answer after where
  kept := hwritten ▸ List.prefix_append _ _
  executed := hexecuted
  complete := fun h => absurd rfl h

/-- A line that is no SQL. -/
theorem print_accounts (c : Console) (line : Text) :
    Accounts [] c (c.print line).1 (c.print line).2 := by
  rcases print_cases c line with ⟨sink, hprint, hwritten⟩ | ⟨sink, part, hprint, hwritten, -⟩
  · rw [hprint]
    exact accounts_none _ hwritten rfl
  · rw [hprint]
    exact accounts_none _ hwritten rfl

/-- A statement is counted, and is printed whole or breaks off. -/
theorem send_cases (c : Console) (statement : Text) :
    (∃ c', c.send statement = (.ok (), c') ∧ c'.executed = c.executed + 1 ∧
        c'.sink.written = c.sink.written ++ printed statement) ∨
      ∃ c' part, c.send statement = (.error Sink.fullMessage, c') ∧
        c'.executed = c.executed + 1 ∧ c'.sink.written = c.sink.written ++ part ∧
        part.length < (printed statement).length := by
  have hline : Text.utf8 (statement ++ [';'] ++ ['\n']) = printed statement := by
    rw [List.append_assoc]
    rfl
  rcases print_cases { c with executed := c.executed + 1 } (statement ++ [';'])
    with ⟨sink, hprint, hwritten⟩ | ⟨sink, part, hprint, hwritten, hpart⟩
  · exact .inl ⟨_, hprint, rfl, hline ▸ hwritten⟩
  · exact .inr ⟨_, part, hprint, rfl, hwritten, hline ▸ hpart⟩

/-- Of statements in a row those before the first that breaks off are printed whole. -/
theorem sendAll_accounts (statements : List Text) (c : Console) :
    Accounts statements c (sendAll statements c).1 (sendAll statements c).2 := by
  induction statements generalizing c with
  | nil => exact accounts_none (.ok ()) (List.append_nil _).symm rfl
  | cons statement rest ih =>
      rcases send_cases c statement
        with ⟨c', hsend, hexecuted, hwritten⟩ | ⟨c', part, hsend, hexecuted, hwritten, hpart⟩
      · -- this one is whole, and the sink is at the start of the next
        have hall : sendAll (statement :: rest) c = sendAll rest c' := by
          rw [sendAll, hsend]
        obtain ⟨⟨bytes, hbytes⟩, hcount, hcomplete⟩ := ih c'
        have hboth : (sendAll rest c').2.sink.written
            = c.sink.written ++ (printed statement ++ bytes) := by
          rw [← hbytes, hwritten, List.append_assoc]
        rw [taken_of_written hbytes.symm] at hcount hcomplete
        rw [hall]
        refine ⟨hboth ▸ List.prefix_append _ _, ?_, fun _ => ?_⟩
        · have hfailed : (!rest.isEmpty && !(sendAll rest c').1.isOk)
              = !(sendAll rest c').1.isOk := by
            cases rest with
            | nil => rfl
            | cons _ _ => rfl
          rw [taken_of_written hboth, List.map_cons, wholes_next, hcount, hexecuted, hfailed]
          simp only [List.isEmpty_cons, Bool.not_false, Bool.true_and]
          omega
        · rw [taken_of_written hboth, List.map_cons, wholes_next, List.length_cons,
            Nat.add_right_cancel_iff]
          cases rest with
          | nil => exact ⟨fun _ => rfl, fun _ => rfl⟩
          | cons _ _ => exact hcomplete (List.cons_ne_nil _ _)
      · -- this one breaks off, and the rest is not tried
        have hall : sendAll (statement :: rest) c = (.error Sink.fullMessage, c') := by
          rw [sendAll, hsend]
        rw [hall]
        refine ⟨hwritten ▸ List.prefix_append _ _, ?_, fun _ => ?_⟩
        · rw [List.map_cons, taken_of_written hwritten, wholes_broken hpart, hexecuted]
          rfl
        · rw [List.map_cons, taken_of_written hwritten, wholes_broken hpart]
          exact ⟨fun h => absurd h (Nat.succ_ne_zero _).symm, fun h => absurd h Bool.false_ne_true⟩

/-! ## Turns -/

theorem sendAll_singleton (statement : Text) (c : Console) :
    sendAll [statement] c = c.send statement := by
  rw [sendAll]
  rcases c.send statement with ⟨answer, c'⟩
  cases answer with
  | ok _ => rfl
  | error _ => rfl

/-- A request hands on what its one action answers. -/
theorem carryOut_answer (answer : Except String Unit) (flow : Flow) (c : Console) :
    (answer.map fun _ => flow, c).map (Except.map fun _ => ()) id = (answer, c) := by
  cases answer with
  | ok _ => rfl
  | error _ => rfl

theorem execute_accounts (symbol : Symbol) (text : Text) (c : Console) :
    Accounts (Request.command symbol text).statements c
      ((Request.command symbol text).carryOut c).1
      ((Request.command symbol text).carryOut c).2 := by
  cases haction : action symbol text with
  | stop line =>
      have hcarry : (Request.command symbol text).carryOut c = c.print line := by
        rw [Request.carryOut, execute, haction]
        exact carryOut_answer ..
      simp only [Request.statements, haction, hcarry]
      exact print_accounts c line
  | print line =>
      have hcarry : (Request.command symbol text).carryOut c = c.print line := by
        rw [Request.carryOut, execute, haction]
        exact carryOut_answer ..
      simp only [Request.statements, haction, hcarry]
      exact print_accounts c line
  | assign name value =>
      simp only [Request.statements, haction, Request.carryOut, execute]
      exact accounts_none (.ok ()) (List.append_nil _).symm rfl
  | send statement =>
      have hcarry : (Request.command symbol text).carryOut c = sendAll [statement] c := by
        rw [Request.carryOut, execute, haction, sendAll_singleton]
        exact carryOut_answer ..
      simp only [Request.statements, haction, hcarry]
      exact sendAll_accounts [statement] c

theorem executeVerbatim_accounts (lines : List Text) (c : Console) :
    Accounts (Request.block lines).statements c ((Request.block lines).carryOut c).1
      ((Request.block lines).carryOut c).2 := by
  cases hinserts : Verbatim.inserts lines with
  | ok statements =>
      simp only [Request.statements, Request.carryOut, executeVerbatim, hinserts]
      exact sendAll_accounts statements c
  | error fault =>
      simp only [Request.statements, Request.carryOut, executeVerbatim, hinserts]
      exact accounts_none _ (List.append_nil _).symm rfl

/-- **What a turn writes and counts**, whatever the sink does in it. -/
theorem Turn.accounts (t : Turn) (c : Console) :
    Accounts t.request.statements c (t.take c).1 (t.take c).2 := by
  -- how much the sink takes is no part of what it has taken
  have h : Accounts t.request.statements { c with sink := { c.sink with room := t.room } }
      (t.take c).1 (t.take c).2 := by
    unfold Turn.take
    cases t.request with
    | command symbol text => exact execute_accounts symbol text _
    | block lines => exact executeVerbatim_accounts lines _
  exact ⟨h.kept, h.executed, h.complete⟩

theorem Turn.executed_after (turns : List Turn) (c : Console) :
    (Turn.after turns c).executed
      = c.executed + Turn.wholeIn turns c + Turn.breaksIn turns c := by
  induction turns generalizing c with
  | nil => rfl
  | cons t rest ih =>
      have hstep : (t.take c).2.executed = c.executed + t.whole c + (t.breaks c).toNat :=
        (t.accounts c).executed
      rw [Turn.after, ih, hstep, Turn.wholeIn, Turn.breaksIn]
      omega

theorem Turn.breaksIn_eq_zero (turns : List Turn) (c : Console) :
    Turn.breaksIn turns c = 0 ↔ ∀ before t later, turns = before ++ t :: later →
      t.breaks (Turn.after before c) = false := by
  induction turns generalizing c with
  | nil => simp [Turn.breaksIn]
  | cons t rest ih =>
      rw [Turn.breaksIn, Nat.add_eq_zero_iff, ih, Bool.toNat_eq_zero]
      constructor
      · rintro ⟨hfirst, hrest⟩ before t' later hturns
        cases before with
        | nil =>
            obtain ⟨rfl, -⟩ := List.cons.inj hturns
            exact hfirst
        | cons _ before =>
            obtain ⟨rfl, hlater⟩ := List.cons.inj hturns
            exact hrest before t' later hlater
      · intro h
        exact ⟨h [] t rest rfl, fun before t' later hrest =>
          h (t :: before) t' later (congrArg (List.cons t) hrest)⟩

/-- **A request for one statement that fails is counted, and the statement is not there.** -/
theorem Turn.executed_of_error (t : Turn) (c : Console) {statement : Text}
    (hstatement : t.request.statements = [statement]) (herror : (t.take c).1.isOk = false) :
    (t.take c).2.executed = c.executed + 1 ∧ t.whole c = 0 := by
  obtain ⟨-, hexecuted, hcomplete⟩ := t.accounts c
  have hnone : t.whole c = 0 := by
    have hle := wholes_le_length (t.request.statements.map printed) (taken c (t.take c).2)
    have hne := mt (hcomplete (hstatement ▸ List.cons_ne_nil _ _)).mp
      (herror ▸ Bool.false_ne_true)
    rw [Turn.whole]
    rw [List.length_map] at hle
    rw [hstatement] at hle hne ⊢
    rw [List.length_singleton] at hle hne
    omega
  refine ⟨?_, hnone⟩
  rw [Turn.whole] at hnone
  rw [hexecuted, hnone, herror, hstatement]
  rfl

/--
**The console counts the statements that the sink took whole, and one more for each failure.**

This is so after any number of requests, on a sink that may fail at any byte of any of them. The
count is therefore that of the statements printed exactly if the sink never failed in SQL. One more
request, for one statement, adds one to the count if it fails, although the statement is not there.
-/
theorem executed_counts (turns : List Turn) (c : Console) :
    (Turn.after turns c).executed = c.executed + Turn.wholeIn turns c + Turn.breaksIn turns c
    ∧ ((Turn.after turns c).executed = c.executed + Turn.wholeIn turns c ↔
      ∀ before t later, turns = before ++ t :: later → t.breaks (Turn.after before c) = false)
    ∧ ∀ (t : Turn) (statement : Text), t.request.statements = [statement] →
      (t.take (Turn.after turns c)).1.isOk = false →
        (t.take (Turn.after turns c)).2.executed = (Turn.after turns c).executed + 1
        ∧ t.whole (Turn.after turns c) = 0 := by
  have hcount := Turn.executed_after turns c
  refine ⟨hcount, ?_, ?_⟩
  · rw [← Turn.breaksIn_eq_zero, hcount]
    omega
  · intro t statement hstatement herror
    exact t.executed_of_error _ hstatement herror

/-- A block of which the second row breaks off, and then a statement that breaks off. -/
theorem executed_counts_brokenRow :
    let turns : List Turn :=
      [⟨.command .plain "select 1".toList, none⟩,
        ⟨.block ["@T,A[int]".toList, "1".toList, "2".toList, "3".toList], some 40⟩,
        ⟨.command .echo "$echo 3".toList, some 0⟩]
    let t : Turn := ⟨.command .plain "select 2".toList, some 9⟩
    (Turn.after turns {}).executed = 3 ∧ Turn.wholeIn turns {} = 2 ∧ Turn.breaksIn turns {} = 1
    ∧ (t.take (Turn.after turns {})).2.executed = 4 ∧ t.whole (Turn.after turns {}) = 0 := by
  intro turns t
  obtain ⟨hcount, -, herror⟩ := executed_counts turns {}
  have hwhole : Turn.wholeIn turns {} = 2 := by decide +kernel
  have hbreaks : Turn.breaksIn turns {} = 1 := by decide +kernel
  have hexecuted : (Turn.after turns {}).executed = 3 := by
    rw [hcount, hwhole, hbreaks]
  obtain ⟨hnext, hnone⟩ := herror t "select 2".toList (by decide) (by decide +kernel)
  exact ⟨hexecuted, hwhole, hbreaks, by rw [hnext, hexecuted], hnone⟩

/-- A statement that breaks off at its fourth byte is counted, and none is there. -/
theorem not_executed_whole_broken :
    ¬ ∀ turns : List Turn, (Turn.after turns {}).executed = Turn.wholeIn turns {} := by
  intro h
  have hbroken := h [⟨.command .plain "select 1".toList, some 3⟩]
  revert hbroken
  decide

end MigrationScript.Console
