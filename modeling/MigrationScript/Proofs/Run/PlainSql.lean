import Mathlib
import MigrationScript.Proofs.Console
import MigrationScript.Proofs.Keyword
import MigrationScript.Proofs.Run.Splitting
import MigrationScript.Proofs.Source.PlainSql

/-!
# Plain SQL on the console

A slot is told apart from SQL by its first word, and that word is looked for behind whatever belongs
to no word. So a source without a directive line can still hold a command: a remark `-- $exit` ends
the run. A source whose pieces begin with no such word runs to its end, and each piece is sent as
it stands or as the statement that an `add field` stands for.
-/

namespace MigrationScript

namespace Slot

/-- The first word of a slot, which other characters may stand before. -/
def firstWord (slot : Slot) : Text := (Lexeme.words (slot.headD [])).headD []

/-- Whether a slot is handed over as a command that is no SQL. -/
def commands (slot : Slot) : Bool := Keyword.commandWords.contains (Keyword.folded slot.firstWord)

/-- The statement that a slot of SQL is sent as. -/
def sent (slot : Slot) : Text :=
  if slot.symbol = .add then (Console.addFieldStatement? slot.command).getD slot.command
  else slot.command

/-- **A slot is handed over as a command exactly if its first word is one of a command.** Other
slots are plain, or add a field. -/
theorem symbol_cases (slot : Slot) :
    slot.symbol.isCommand = slot.commands ∧
      (slot.commands = false → slot.symbol = .plain ∨ slot.symbol = .add) := by
  unfold Slot.symbol commands firstWord
  cases Lexeme.words (slot.headD []) with
  | nil => exact ⟨rfl, fun _ => .inl rfl⟩
  | cons head rest =>
      dsimp only [List.headD_cons]
      -- only a word that starts with `$` is looked up among the directives
      by_cases hdollar : head.head? = some '$'
      · rw [if_pos hdollar]
        cases hdirective : Keyword.directive? head with
        | none =>
            have hno : Keyword.commandWords.contains (Keyword.folded head) = false := by
              rw [Bool.eq_false_iff]
              intro hcommand
              obtain ⟨-, symbol, hsome⟩ := Keyword.directive_of_command hcommand
              rw [hdirective] at hsome
              cases hsome
            exact ⟨hno.symm, fun _ => .inl rfl⟩
        | some symbol =>
            rw [← Keyword.isCommand_directive hdirective]
            cases symbol <;> simp [Symbol.isCommand]
      · have hno : Keyword.commandWords.contains (Keyword.folded head) = false := by
          rw [Bool.eq_false_iff]
          exact fun hcommand => hdollar (Keyword.directive_of_command hcommand).1
        rw [if_neg hdollar, hno]
        split
        · exact ⟨rfl, fun _ => .inr rfl⟩
        · exact ⟨rfl, fun _ => .inl rfl⟩

/-- SQL is sent. -/
theorem action_sent {slot : Slot} (hplain : slot.command.head? ≠ some '$')
    (hsql : slot.commands = false) :
    Console.action slot.symbol slot.command = .send slot.sent := by
  unfold sent
  rcases slot.symbol_cases.2 hsql with hsymbol | hsymbol
  · rw [hsymbol, if_neg (by decide)]
    unfold Console.action
    dsimp only
    split
    · -- a `$` at the start would be taken off
      rename_i rest hcommand
      exact absurd (congrArg List.head? hcommand) hplain
    · rfl
  · rw [hsymbol, if_pos rfl]
    rfl

end Slot

namespace Source

/-- Whether a piece begins with the word of a command. -/
def Piece.commands (piece : Piece) : Bool := piece.slot.commands

theorem Piece.commands_cons (number : Nat) (line : Text) (rest : Piece) :
    Piece.commands ((number, line) :: rest)
      = Keyword.commandWords.contains (Keyword.folded ((Lexeme.words line).headD [])) := rfl

/-- The statement that a piece is sent as. -/
def Piece.sent (piece : Piece) : Text := piece.slot.sent

/-- A piece that begins with no such word is sent. -/
theorem Piece.action_sent {source : Text} (h : DirectiveFree source) {piece : Piece}
    (hpiece : piece ∈ pieces source) (hsql : piece.commands = false) :
    Console.action piece.slot.symbol piece.slot.command = .send piece.sent := by
  refine Slot.action_sent ?_ hsql
  have hlines : ∀ line ∈ piece.slot, line ≠ [] ∧ line.head? ≠ some '$' :=
    fun _ hline => lines_pieces h hpiece hline
  -- the command starts as its first line does, which is not empty
  unfold Slot.command Text.join
  cases hslot : piece.slot with
  | nil => simp
  | cons first rest =>
      obtain ⟨hfilled, hplain⟩ := hlines first (hslot ▸ List.mem_cons_self)
      cases first with
      | nil => exact absurd rfl hfilled
      | cons c text => cases rest <;> exact hplain

end Source

namespace Run

open Source

variable {σ τ : Type} {db : Database σ}

/-! ## Walks -/

/-- A walk that does not fail and leaves nothing to be saved is the whole run. -/
theorem execute_of_walk (store : VersionStore τ) {statements : List Statement} {e : Engine σ τ}
    {signal : Signal} {n : Nat} {d : σ} (hsignal : ∀ cause, signal ≠ .fail cause)
    (hwalk : walk db statements (.start e.info e.database)
      = (signal, { Session.start e.info e.database with count := n, database := d })) :
    Engine.execute db store statements e = (.ok n, { e with database := d }) := by
  rw [Engine.execute, Run.execute, hwalk]
  cases signal with
  | next => rfl
  | halt => rfl
  | fail cause => exact absurd rfl (hsignal cause)

/-! ## Pieces on the console -/

theorem step_piece (catalog : Catalog) (piece : Piece) (s : Session Console) :
    step (Console.database catalog) piece.statement s
      = executeCommands (Console.database catalog) Slot.symbol [piece.slot] s := rfl

theorem step_sent (catalog : Catalog) {piece : Piece} {statement : Text} {s : Session Console}
    (hroom : s.database.sink.room = none)
    (haction : Console.action piece.slot.symbol piece.slot.command = .send statement) :
    ∃ c, step (Console.database catalog) piece.statement s
        = (.next, { s with count := s.count + 1, database := c }) ∧
      Console.Sent s.database [statement] c := by
  obtain ⟨c, hexecute, hsent⟩ := Console.execute_send hroom haction
  refine ⟨c, ?_, hsent⟩
  have hslot : (Console.database catalog).execute piece.slot.symbol 0 piece.slot.command s.database
      = (.ok .proceed, c) := hexecute
  rw [step_piece, executeCommands, executeSlots, hslot]
  rfl

theorem step_stopped (catalog : Catalog) {piece : Piece} {line : Text} {s : Session Console}
    (hroom : s.database.sink.room = none)
    (haction : Console.action piece.slot.symbol piece.slot.command = .stop line) :
    ∃ c, step (Console.database catalog) piece.statement s = (.halt, { s with database := c }) := by
  obtain ⟨c, hexecute⟩ := Console.execute_stop hroom haction
  refine ⟨c, ?_⟩
  have hslot : (Console.database catalog).execute piece.slot.symbol 0 piece.slot.command s.database
      = (.ok .stop, c) := hexecute
  rw [step_piece, executeCommands, executeSlots, hslot]

/-- Pieces that are sent are sent one after another. -/
theorem walk_sent (catalog : Catalog) {pieces : List Piece}
    (haction : ∀ piece ∈ pieces,
      Console.action piece.slot.symbol piece.slot.command = .send piece.sent)
    {s : Session Console} (hroom : s.database.sink.room = none) :
    ∃ c, walk (Console.database catalog) (pieces.map Piece.statement) s
        = (.next, { s with count := s.count + pieces.length, database := c }) ∧
      Console.Sent s.database (pieces.map Piece.sent) c := by
  induction pieces generalizing s with
  | nil => exact ⟨s.database, rfl, Console.sent_nil hroom⟩
  | cons piece rest ih =>
      obtain ⟨c, hstep, hsent⟩ := step_sent catalog hroom (haction piece List.mem_cons_self)
      obtain ⟨c', hwalk, hrest⟩ := ih (s := { s with count := s.count + 1, database := c })
        (fun piece hpiece => haction piece (List.mem_cons_of_mem _ hpiece)) hsent.unlimited
      refine ⟨c', ?_, Console.sent_append hsent hrest⟩
      rw [List.map_cons, walk, hstep]
      dsimp only
      rw [hwalk, List.length_cons, Nat.add_assoc, Nat.add_comm 1]

/-! ## Scripts of plain SQL -/

/--
**Plain SQL is sent as it stands, piece by piece, to the end of the script.**

A source without a directive line is a script. It is carried out so if none of its pieces begins
with the word of a command, whatever stands before that word.
-/
theorem plainSql_sent {source : Text} (hfree : DirectiveFree source) :
    ∃ statements, Script.parse source = .ok statements ∧
      statements = (pieces source).map Piece.statement ∧
      (∀ piece ∈ pieces source, piece.slot.symbol.isCommand = piece.commands) ∧
      ((∀ piece ∈ pieces source, piece.commands = false) →
        ∀ (τ : Type) (catalog : Catalog) (store : VersionStore τ) (e : Engine Console τ),
          e.database.sink.room = none →
          ∃ c, Engine.execute (Console.database catalog) store statements e
              = (.ok statements.length, { e with database := c }) ∧
            Console.Sent e.database ((pieces source).map Piece.sent) c) := by
  refine ⟨_, parse_of_directiveFree hfree, rfl, fun piece _ => piece.slot.symbol_cases.1, ?_⟩
  intro hsql τ catalog store e hroom
  have haction : ∀ piece ∈ pieces source,
      Console.action piece.slot.symbol piece.slot.command = .send piece.sent :=
    fun piece hpiece => piece.action_sent hfree hpiece (hsql piece hpiece)
  obtain ⟨c, hwalk, hsent⟩ := walk_sent catalog haction (s := .start e.info e.database) hroom
  have hcount : (Session.start e.info e.database).count + (pieces source).length
      = ((pieces source).map Piece.statement).length := by
    rw [List.length_map]
    exact Nat.zero_add _
  rw [hcount] at hwalk
  exact ⟨c, execute_of_walk store (fun _ => Signal.noConfusion) hwalk, hsent⟩

/-- **What comes after a piece that begins with the word `$exit` is never sent.** -/
theorem plainSql_ended {source : Text} (hfree : DirectiveFree source) {before after : List Piece}
    {piece : Piece} (hpieces : pieces source = before ++ piece :: after)
    (hsql : ∀ piece ∈ before, piece.commands = false) (hexit : piece.slot.symbol = .exit)
    (catalog : Catalog) (store : VersionStore τ) (e : Engine Console τ)
    (hroom : e.database.sink.room = none) :
    ∃ c, Engine.execute (Console.database catalog) store ((pieces source).map Piece.statement) e
      = (.ok before.length, { e with database := c }) := by
  have haction : ∀ piece ∈ before,
      Console.action piece.slot.symbol piece.slot.command = .send piece.sent := by
    intro piece hpiece
    refine piece.action_sent hfree ?_ (hsql piece hpiece)
    rw [hpieces]
    exact List.mem_append_left _ hpiece
  -- the pieces before are sent, and the walk stops at the one after them
  obtain ⟨c, hwalk, hsent⟩ := walk_sent catalog haction (s := .start e.info e.database) hroom
  have hcount : (Session.start e.info e.database).count + before.length = before.length :=
    Nat.zero_add _
  rw [hcount] at hwalk
  have hstop : Console.action piece.slot.symbol piece.slot.command = .stop "-- exit".toList := by
    rw [hexit]
    rfl
  obtain ⟨c', hstep⟩ := step_stopped catalog
    (s := { Session.start e.info e.database with count := before.length, database := c })
    hsent.unlimited hstop
  have hended : walk (Console.database catalog) ((pieces source).map Piece.statement)
      (.start e.info e.database) = (.halt, { Session.start e.info e.database with
        count := before.length, database := c' }) := by
    rw [hpieces, List.map_append, walk_append_of_next hwalk, List.map_cons, walk]
    dsimp only [Session.start] at hstep ⊢
    rw [hstep]
  exact ⟨c', execute_of_walk store (fun _ => Signal.noConfusion) hended⟩

/-- A terminator on its own, a remark, a column to be added and a piece that is left open. -/
def plainScript : Text :=
  "# a remark\n&&\nadd field T.C integer &&\nselect 1\n  from $t".toList

theorem plainSql_sent_mixed :
    DirectiveFree plainScript ∧
      pieces plainScript
        = [[(3, "add field T.C integer".toList)], [(4, "select 1".toList), (5, "from $t".toList)]] ∧
      ∃ statements, Script.parse plainScript = .ok statements ∧
        ∃ c, Engine.execute (Console.database {}) (⟨fun _ => pure (.ok ())⟩ : VersionStore Unit)
            statements ⟨{}, {}, ()⟩ = (.ok statements.length, ⟨{}, c, ()⟩) ∧
          Console.Sent {} ["alter table T add C integer".toList, "select 1\nfrom $t".toList] c := by
  have hfree : DirectiveFree plainScript := by unfold DirectiveFree; decide
  have hpieces : pieces plainScript = [[(3, "add field T.C integer".toList)],
      [(4, "select 1".toList), (5, "from $t".toList)]] := by cbv
  have hadd : Lexeme.words "add field T.C integer".toList
      = ["add".toList, "field".toList, "T.C".toList, "integer".toList] := by cbv
  have hselect : Lexeme.words "select 1".toList = ["select".toList, "1".toList] := by cbv
  refine ⟨hfree, hpieces, ?_⟩
  obtain ⟨statements, hparse, -, -, hsent⟩ := plainSql_sent hfree
  refine ⟨statements, hparse, ?_⟩
  have hsql : ∀ piece ∈ pieces plainScript, piece.commands = false := by
    rw [hpieces, List.forall_mem_cons, List.forall_mem_singleton]
    constructor
    · rw [Piece.commands_cons, hadd]
      decide
    · rw [Piece.commands_cons, hselect]
      decide
  obtain ⟨c, hrun, hprinted⟩ := hsent hsql Unit {} ⟨fun _ => pure (.ok ())⟩ ⟨{}, {}, ()⟩ rfl
  refine ⟨c, hrun, ?_⟩
  have htexts : (pieces plainScript).map Piece.sent
      = ["alter table T add C integer".toList, "select 1\nfrom $t".toList] := by
    rw [hpieces]
    change [Slot.sent ["add field T.C integer".toList],
      Slot.sent ["select 1".toList, "from $t".toList]] = _
    unfold Slot.sent Slot.symbol
    rw [List.headD_cons, List.headD_cons, hadd, hselect]
    decide
  rwa [htexts] at hprinted

/-- The script runs to its end, whatever the console and the catalog. -/
def RunsToEnd (source : Text) : Prop :=
  ∀ statements, Script.parse source = .ok statements →
    ∀ (τ : Type) (catalog : Catalog) (store : VersionStore τ) (e : Engine Console τ),
      e.database.sink.room = none →
      (Engine.execute (Console.database catalog) store statements e).1 = .ok statements.length

/-- Plain SQL with a remark on a line of its own, whose first word spells a command. -/
def exitInRemark : Text := "select 1&&\n-- $exit&&\nselect 2&&".toList

/-- A remark of the SQL ends the run if its first word is that of a command. -/
theorem not_runsToEnd_remark : DirectiveFree exitInRemark ∧ ¬ RunsToEnd exitInRemark := by
  have hfree : DirectiveFree exitInRemark := by unfold DirectiveFree; decide
  refine ⟨hfree, ?_⟩
  intro hruns
  have hpieces : pieces exitInRemark
      = [[(1, "select 1".toList)]] ++ [(2, "-- $exit".toList)] :: [[(3, "select 2".toList)]] := by
    cbv
  have hselect : Lexeme.words "select 1".toList = ["select".toList, "1".toList] := by cbv
  have hremark : Lexeme.words "-- $exit".toList = ["$exit".toList] := by cbv
  have hsql : ∀ piece ∈ [[(1, "select 1".toList)]], Piece.commands piece = false := by
    rw [List.forall_mem_singleton, Piece.commands_cons, hselect]
    decide
  have hexit : Slot.symbol (Piece.slot [(2, "-- $exit".toList)]) = .exit := by
    change Slot.symbol ["-- $exit".toList] = .exit
    rw [Slot.symbol, List.headD_cons, hremark]
    decide
  have hended := plainSql_ended hfree hpieces hsql hexit {}
    (⟨fun _ => pure (.ok ())⟩ : VersionStore Unit) ⟨{}, {}, ()⟩ rfl
  have hrun := hruns _ (parse_of_directiveFree hfree) Unit {} ⟨fun _ => pure (.ok ())⟩
    ⟨{}, {}, ()⟩ rfl
  obtain ⟨c, hexecute⟩ := hended
  rw [hexecute, hpieces] at hrun
  cases hrun

end Run

end MigrationScript
