import MigrationScript.Proofs.Run.Check
import MigrationScript.Proofs.Run.Trail

/-!
# How a statement conducts itself

What a statement wants of the database is said apart from the walk, by its guard and its slots
(`Statement.wanted`), and so is what the database answers when it is asked for calls in a row
(`Database.reply`). A statement makes the calls that it wants, up to the first that fails or stops
the run, or it makes none because a check of its own fails (`step_conduct`).
-/

namespace MigrationScript

open Source

variable {σ : Type}

/-! ## Calls in a row -/

namespace Database

/-- What a call is answered, as far as the run is concerned. A question never stops it. -/
def reply (db : Database σ) (d : σ) : Call → Except String Flow × σ
  | .asked kind name _ => (.ok .proceed, (db.has kind name d).2)
  | .executed symbol slot command => db.execute symbol slot command d
  | .verbatim lines => (db.executeVerbatim lines d).map (Except.map fun _ => .proceed) id

/-- The state that calls in a row leave. -/
def after (db : Database σ) : List Call → σ → σ
  | [], d => d
  | call :: rest, d => db.after rest (db.reply d call).2

/-- The run may go on after each of some calls in a row. -/
def Accepts (db : Database σ) : List Call → σ → Prop
  | [], _ => True
  | call :: rest, d => (db.reply d call).1 = .ok .proceed ∧ db.Accepts rest (db.reply d call).2

theorem after_append (db : Database σ) (a b : List Call) (d : σ) :
    db.after (a ++ b) d = db.after b (db.after a d) := by
  induction a generalizing d with
  | nil => rfl
  | cons call rest ih => exact ih _

theorem accepts_append {db : Database σ} {a b : List Call} {d : σ} :
    db.Accepts (a ++ b) d ↔ db.Accepts a d ∧ db.Accepts b (db.after a d) := by
  induction a generalizing d with
  | nil => simp [Accepts, after]
  | cons call rest ih => simp [Accepts, after, ih, and_assoc]

theorem accepts_of_begun {db : Database σ} {a b : List Call} {d : σ} (h : db.Accepts b d)
    (hbegun : a <+: b) : db.Accepts a d := by
  obtain ⟨rest, rfl⟩ := hbegun
  exact (accepts_append.mp h).1

end Database

/-- A watched database after further calls. -/
def Watched.extended (db : Database σ) (d : Watched σ) (made : List Call) : Watched σ :=
  ⟨db.after made d.state, d.calls ++ made⟩

theorem Watched.extended_nil (db : Database σ) (d : Watched σ) : d.extended db [] = d := by
  simp [extended, Database.after]

theorem Watched.extended_append (db : Database σ) (d : Watched σ) (made later : List Call) :
    d.extended db (made ++ later) = (d.extended db made).extended db later := by
  simp [extended, Database.after_append]

namespace Run

/-- Calls that are made in a row, up to the first that fails or stops the run. -/
inductive Attempt (db : Database σ) (d : σ) (wanted : List Call) : List Call → Signal → Prop where
  /-- The run goes on after each of them. -/
  | whole (h : db.Accepts wanted d) : Attempt db d wanted wanted .next
  /-- The last call stops the run. -/
  | stopped (before : List Call) (last : Call) (hbegun : before ++ [last] <+: wanted)
      (hbefore : db.Accepts before d)
      (hlast : (db.reply (db.after before d) last).1 = .ok .stop) :
      Attempt db d wanted (before ++ [last]) .halt
  /-- The last call fails. -/
  | failed (before : List Call) (last : Call) {message : String}
      (hbegun : before ++ [last] <+: wanted) (hbefore : db.Accepts before d)
      (hlast : (db.reply (db.after before d) last).1 = .error message) :
      Attempt db d wanted (before ++ [last]) (.fail (.executor message))

variable {db : Database σ}

theorem attempt_nil (db : Database σ) (d : σ) : Attempt db d [] [] .next := .whole trivial

/-- A call after which the run goes on, and then others. -/
theorem attempt_cons {d : σ} {call : Call} {wanted made : List Call} {signal : Signal}
    (hcall : (db.reply d call).1 = .ok .proceed)
    (h : Attempt db (db.reply d call).2 wanted made signal) :
    Attempt db d (call :: wanted) (call :: made) signal := by
  cases h with
  | whole h => exact .whole ⟨hcall, h⟩
  | stopped before last hbegun hbefore hlast =>
      exact .stopped (call :: before) last (List.cons_prefix_cons.mpr ⟨rfl, hbegun⟩)
        ⟨hcall, hbefore⟩ hlast
  | failed before last hbegun hbefore hlast =>
      exact .failed (call :: before) last (List.cons_prefix_cons.mpr ⟨rfl, hbegun⟩)
        ⟨hcall, hbefore⟩ hlast

/-- A call that stops the run, and is the last one. -/
theorem attempt_stopped {d : σ} {call : Call} {rest : List Call}
    (h : (db.reply d call).1 = .ok .stop) : Attempt db d (call :: rest) [call] .halt :=
  .stopped [] call (List.prefix_append [call] rest) trivial h

/-- A call that fails, and is the last one. -/
theorem attempt_failed {d : σ} {call : Call} {rest : List Call} {message : String}
    (h : (db.reply d call).1 = .error message) :
    Attempt db d (call :: rest) [call] (.fail (.executor message)) :=
  .failed [] call (List.prefix_append [call] rest) trivial h

/-! ## What a statement wants -/

/-- The commands of slots, in order, from slot number `i` on. -/
def commandCalls (symbolOf : Slot → Symbol) (i : Nat) (slots : List Slot) : List Call :=
  (slots.zipIdx i).map fun (slot, j) => .executed (symbolOf slot) j slot.command

end Run

namespace Statement

/-- The commands of a statement, in the order of its slots. Under a one-line guard all of them go
with the action that the guard names. -/
def commands (s : Statement) : List Call :=
  match s.role with
  | .guardedLine guard _ => Run.commandCalls (fun _ => guard.action) 0 s.slots
  | _ => Run.commandCalls Slot.symbol 0 s.slots

/-- What a statement wants of the database: its question, if it has one, and what it is eligible to
hand over by the answer. -/
def wanted (db : Database σ) (d : σ) (s : Statement) : List Call :=
  match s.guard? with
  | some g =>
    match SchemaObject.ofGuard? g.object g.name with
    | some kind =>
      let found := (db.has kind g.name d).1
      .asked kind g.name found :: if found != g.negated then s.commands else []
    | none => []
  | none =>
    match s.role with
    | .commands => s.commands
    | .verbatim => if db.handlesVerbatim d then [.verbatim s.lines] else []
    | _ => []

end Statement

/-- Whether a failure is one of a statement's own checks: of the application, of a version literal
or the version, or of what a guard asks. -/
def Failure.ofCheck : Failure → Bool
  | .executor _ | .saveVersion _ => false
  | _ => true

namespace Run

/-- What a statement makes of its calls: it goes through them, or makes none at all because a check
of its own fails. -/
inductive Conduct (db : Database σ) (d : σ) (s : Statement) : List Call → Signal → Prop where
  /-- The calls are made, up to the first that does not let the run go on. -/
  | attempted {made : List Call} {signal : Signal} (h : Attempt db d (s.wanted db d) made signal) :
      Conduct db d s made signal
  /-- A check of the statement fails. -/
  | refused {cause : Failure} (h : cause.ofCheck = true) : Conduct db d s [] (.fail cause)

/-! ## Calls of a statement -/

theorem executeSlots_attempt (db : Database σ) (symbolOf : Slot → Symbol) (i : Nat)
    (slots : List Slot) (d : Watched σ) :
    ∃ made, (executeSlots db.watched symbolOf i slots d).2 = d.extended db made ∧
      Attempt db d.state (commandCalls symbolOf i slots) made
        (executeSlots db.watched symbolOf i slots d).1 := by
  induction slots generalizing i d with
  | nil => exact ⟨[], by simp [executeSlots, Watched.extended, Database.after], attempt_nil db _⟩
  | cons slot rest ih =>
      have hcalls : commandCalls symbolOf i (slot :: rest)
          = .executed (symbolOf slot) i slot.command :: commandCalls symbolOf (i + 1) rest := rfl
      have hcall : db.watched.execute (symbolOf slot) i slot.command d
          = ((db.execute (symbolOf slot) i slot.command d.state).1,
              d.extended db [.executed (symbolOf slot) i slot.command]) := rfl
      rw [executeSlots, hcall, hcalls]
      cases hanswer : (db.execute (symbolOf slot) i slot.command d.state).1 with
      | error message => exact ⟨[_], rfl, attempt_failed hanswer⟩
      | ok flow =>
          cases flow with
          | stop => exact ⟨[_], rfl, attempt_stopped hanswer⟩
          | proceed =>
              obtain ⟨made, hleft, hattempt⟩ := ih (i + 1)
                (d.extended db [.executed (symbolOf slot) i slot.command])
              refine ⟨.executed (symbolOf slot) i slot.command :: made, ?_, ?_⟩
              · refine hleft.trans ?_
                simp [Watched.extended, Database.after]
              · exact attempt_cons hanswer hattempt

theorem executeCommands_attempt (db : Database σ) (symbolOf : Slot → Symbol) (slots : List Slot)
    (s : Session (Watched σ)) :
    ∃ made, (executeCommands db.watched symbolOf slots s).2.database
        = s.database.extended db made ∧
      Attempt db s.database.state (commandCalls symbolOf 0 slots) made
        (executeCommands db.watched symbolOf slots s).1 := by
  obtain ⟨made, hleft, hattempt⟩ := executeSlots_attempt db symbolOf 0 slots s.database
  refine ⟨made, ?_⟩
  unfold executeCommands
  generalize executeSlots db.watched symbolOf 0 slots s.database = r at hleft hattempt ⊢
  obtain ⟨signal, d⟩ := r
  cases signal <;> exact ⟨hleft, hattempt⟩

/-- A statement with a question asks it, and hands over its commands if the guard holds. -/
theorem executeGuarded_conduct (db : Database σ) {statement : Statement} {g : Guard}
    (hguard : statement.guard? = some g) {symbolOf : Slot → Symbol}
    (hcommands : statement.commands = commandCalls symbolOf 0 statement.slots)
    (s : Session (Watched σ)) :
    ∃ made, (executeGuarded db.watched g.object g.name g.negated symbolOf statement.slots
        s).2.database = s.database.extended db made ∧
      Conduct db s.database.state statement made (executeGuarded db.watched g.object g.name
        g.negated symbolOf statement.slots s).1 := by
  cases hkind : SchemaObject.ofGuard? g.object g.name with
  | none =>
      have hfail : executeGuarded db.watched g.object g.name g.negated symbolOf statement.slots s
          = (.fail (.badGuardObject g.object g.name), s) := by
        unfold executeGuarded
        rw [hkind]
      rw [hfail]
      exact ⟨[], by simp [Watched.extended, Database.after], .refused rfl⟩
  | some kind =>
      rw [executeGuarded_watched db hkind]
      rcases hfound : db.has kind g.name s.database.state with ⟨found, state⟩
      have hwanted : statement.wanted db s.database.state
          = .asked kind g.name found
            :: if found != g.negated then statement.commands else [] := by
        simp only [Statement.wanted, hguard, hkind, hfound]
      have hreply : db.reply s.database.state (.asked kind g.name found)
          = (.ok .proceed, state) := by
        simp only [Database.reply, hfound]
      dsimp only
      by_cases hholds : (found != g.negated) = true
      · rw [if_pos hholds] at hwanted ⊢
        obtain ⟨made, hleft, hattempt⟩ := executeCommands_attempt db symbolOf statement.slots
          { s with database := ⟨state, s.database.calls ++ [.asked kind g.name found]⟩ }
        refine ⟨.asked kind g.name found :: made, ?_, .attempted ?_⟩
        · rw [hleft]
          simp [Watched.extended, Database.after, hreply]
        · rw [hwanted, hcommands]
          refine attempt_cons (congrArg Prod.fst hreply) ?_
          rw [hreply]
          exact hattempt
      · -- the guard does not hold, and the question was all that was wanted
        rw [if_neg hholds] at hwanted ⊢
        refine ⟨[.asked kind g.name found], ?_, .attempted ?_⟩
        · simp [Session.advance, Watched.extended, Database.after, hreply]
        · rw [hwanted]
          exact attempt_cons (congrArg Prod.fst hreply) (attempt_nil db _)

/-- A verbatim block is one call, or none if the database takes no blocks. -/
theorem executeBlock_conduct (db : Database σ) {statement : Statement}
    (hrole : statement.role = .verbatim) (s : Session (Watched σ)) :
    ∃ made, (executeBlock db.watched statement.lines s).2.database
        = s.database.extended db made ∧
      Conduct db s.database.state statement made
        (executeBlock db.watched statement.lines s).1 := by
  have hwanted : statement.wanted db s.database.state
      = if db.handlesVerbatim s.database.state then [.verbatim statement.lines] else [] := by
    simp only [Statement.wanted, Statement.guard?, hrole]
  have htakes : db.watched.handlesVerbatim s.database
      = db.handlesVerbatim s.database.state := rfl
  have hcall : db.watched.executeVerbatim statement.lines s.database
      = ((db.executeVerbatim statement.lines s.database.state).1,
          s.database.extended db [.verbatim statement.lines]) := rfl
  have hreply : (db.reply s.database.state (.verbatim statement.lines)).1
      = (db.executeVerbatim statement.lines s.database.state).1.map fun _ => .proceed := rfl
  unfold executeBlock
  rw [htakes, hcall]
  by_cases htaken : db.handlesVerbatim s.database.state = true
  · rw [if_pos htaken] at hwanted ⊢
    refine ⟨[.verbatim statement.lines], ?_, .attempted ?_⟩
    · cases (db.executeVerbatim statement.lines s.database.state).1 <;> rfl
    · rw [hwanted]
      cases hanswer : (db.executeVerbatim statement.lines s.database.state).1 with
      | ok _ =>
          rw [hanswer] at hreply
          exact attempt_cons hreply (attempt_nil db _)
      | error message =>
          rw [hanswer] at hreply
          exact attempt_failed hreply
  · rw [if_neg htaken] at hwanted ⊢
    refine ⟨[], by simp [Session.advance, Watched.extended, Database.after], .attempted ?_⟩
    rw [hwanted]
    exact attempt_nil db _

/-! ## Checks -/

variable {asked : Comparison} {info : VersionInfo} {cause : Failure}

theorem ofCheck_of_checkApplication {directive : Text}
    (h : asked.checkApplication directive info = .error cause) : cause.ofCheck = true := by
  unfold Comparison.checkApplication at h
  split at h
  · cases h
    rfl
  split at h
  · cases h
    rfl
  · cases h

theorem ofCheck_of_raisedVersion? (h : asked.raisedVersion? info = .error cause) :
    cause.ofCheck = true := by
  cases hv : Version.parse? asked.value with
  | none =>
      rw [Comparison.raisedVersion?_of_bad hv] at h
      cases h
      rfl
  | some v =>
      rw [Comparison.raisedVersion?_of_parse hv] at h
      split at h
      · cases h
      split at h
      · cases h
        rfl
      · cases h

theorem ofCheck_of_checkVersion (h : asked.checkVersion info = .error cause) :
    cause.ofCheck = true := by
  cases hv : Version.parse? asked.value with
  | none =>
      rw [Comparison.checkVersion, Comparison.version_of_bad hv] at h
      cases h
      rfl
  | some v =>
      rw [Comparison.checkVersion_of_parse hv] at h
      split at h
      · cases h
      · cases h
        rfl
      · cases h
        rfl

/-- A statement that wants nothing of the database, and goes on or fails in a check. -/
theorem conduct_quiet {db : Database σ} {statement : Statement} {s : Session (Watched σ)}
    {r : Signal × Session (Watched σ)} (hwanted : statement.wanted db s.database.state = [])
    (hsame : r.2.database = s.database)
    (hsignal : r.1 = .next ∨ ∃ cause, r.1 = .fail cause ∧ cause.ofCheck = true) :
    ∃ made, r.2.database = s.database.extended db made ∧
      Conduct db s.database.state statement made r.1 := by
  refine ⟨[], by rw [hsame, Watched.extended_nil], ?_⟩
  rcases hsignal with hnext | ⟨cause, hfail, hcause⟩
  · rw [hnext]
    refine .attempted ?_
    rw [hwanted]
    exact attempt_nil db s.database.state
  · rw [hfail]
    exact .refused hcause

theorem conduct_check {db : Database σ} {statement : Statement} {s : Session (Watched σ)}
    {answer : Except Failure Unit} (hwanted : statement.wanted db s.database.state = [])
    (hanswer : ∀ cause, answer = .error cause → cause.ofCheck = true) :
    ∃ made, (s.afterCheck answer).2.database = s.database.extended db made ∧
      Conduct db s.database.state statement made (s.afterCheck answer).1 := by
  cases answer with
  | ok _ => exact conduct_quiet hwanted rfl (.inl rfl)
  | error cause => exact conduct_quiet hwanted rfl (.inr ⟨cause, rfl, hanswer cause rfl⟩)

/-- **What a statement makes of its calls**, however it ends. -/
theorem step_conduct (db : Database σ) (statement : Statement) (s : Session (Watched σ)) :
    ∃ made, (step db.watched statement s).2.database = s.database.extended db made ∧
      Conduct db s.database.state statement made (step db.watched statement s).1 := by
  unfold step
  cases hrole : statement.role with
  | checkApplication asked =>
      exact conduct_check (by simp only [Statement.wanted, Statement.guard?, hrole])
        fun cause h => ofCheck_of_checkApplication h
  | raiseVersion asked =>
      refine conduct_quiet (by simp only [Statement.wanted, Statement.guard?, hrole]) ?_ ?_
      · dsimp only
        split <;> rfl
      · dsimp only
        split
        · exact .inl rfl
        · exact .inl rfl
        · rename_i cause h
          exact .inr ⟨cause, rfl, ofCheck_of_raisedVersion? h⟩
  | checkVersion asked =>
      exact conduct_check (by simp only [Statement.wanted, Statement.guard?, hrole])
        fun cause h => ofCheck_of_checkVersion h
  | setShown shown =>
      exact conduct_quiet (by simp only [Statement.wanted, Statement.guard?, hrole]) rfl (.inl rfl)
  | setHidden hidden =>
      exact conduct_quiet (by simp only [Statement.wanted, Statement.guard?, hrole]) rfl (.inl rfl)
  | guardedBlock guard =>
      have hguard : statement.guard?
          = some ⟨statement.line, guard.object, guard.name, guard.negated⟩ := by
        rw [Statement.guard?, hrole]
      dsimp only
      split
      · exact ⟨[], (Watched.extended_nil db _).symm, .refused rfl⟩
      · exact executeGuarded_conduct db hguard (by simp only [Statement.commands, hrole]) s
  | guardedLine guard negated =>
      have hguard : statement.guard?
          = some ⟨statement.line, guard.object, guard.name, negated⟩ := by
        rw [Statement.guard?, hrole]
      exact executeGuarded_conduct db hguard (by simp only [Statement.commands, hrole]) s
  | verbatim => exact executeBlock_conduct db hrole s
  | commands =>
      have hwanted : statement.wanted db s.database.state
          = commandCalls Slot.symbol 0 statement.slots := by
        simp only [Statement.wanted, Statement.guard?, Statement.commands, hrole]
      obtain ⟨made, hleft, hattempt⟩ := executeCommands_attempt db Slot.symbol statement.slots s
      exact ⟨made, hleft, .attempted (hwanted ▸ hattempt)⟩

end Run

end MigrationScript
