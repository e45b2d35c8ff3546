import MigrationScript.Proofs.Run.Observation
import MigrationScript.Proofs.Source.Grouping

/-!
# The calls of a walk

A statement asks at most one question, and then hands over its lines, or none of them, from the
first on (`step_deals`). A walk does so for one statement after another, and may break off at any
call (`walk_trail`). What is said of a trail is then said of every moment of a walk, since what a
trail begins with is a trail (`trail_begun`).
-/

namespace MigrationScript

open Source

/-! ## What calls ask and hand over -/

/-- A question of a run, with its answer. -/
structure Question where
  kind : SchemaObject
  name : Text
  found : Bool
  deriving DecidableEq

namespace Call

/-- The question that a call asks, if it asks one. -/
def question? : Call → Option Question
  | asked kind name found => some ⟨kind, name, found⟩
  | _ => none

/-- The lines that a call hands over as a command. -/
def lines : Call → List Text
  | executed _ _ command => command.splitOn '\n'
  | _ => []

end Call

/-- What a question is about. -/
def Question.subject (q : Question) : Option SchemaObject × Text := (some q.kind, q.name)

/-- What a guard is about. There is no kind if it cannot be asked for. -/
def Source.Guard.subject (g : Guard) : Option SchemaObject × Text :=
  (SchemaObject.ofGuard? g.object g.name, g.name)

/-- The questions that calls ask, in order. -/
def questions (calls : List Call) : List Question := calls.filterMap Call.question?

/-- The lines that calls hand over as commands, in order. -/
def delivered (calls : List Call) : List Text := calls.flatMap Call.lines

theorem questions_append (a b : List Call) : questions (a ++ b) = questions a ++ questions b :=
  List.filterMap_append

theorem delivered_append (a b : List Call) : delivered (a ++ b) = delivered a ++ delivered b :=
  List.flatMap_append

theorem delivered_begun {a b : List Call} (h : a <+: b) : delivered a <+: delivered b := by
  obtain ⟨rest, rfl⟩ := h
  rw [delivered_append]
  exact List.prefix_append _ _

namespace Run

variable {σ : Type} (db : Database σ)

/-! ## What a statement makes of its calls -/

/-- Calls that ask nothing and hand over lines from the first on, all of them if they are whole. -/
structure Hands (lines : List Text) (whole : Bool) (made : List Call) : Prop where
  /-- Nothing is asked. -/
  silent : questions made = []
  /-- What has been handed over are the first of the lines. -/
  inOrder : delivered made <+: lines
  /-- Whole calls hand over all of them. -/
  all : whole = true → delivered made = lines

/-- Whether a walk goes on after a statement. -/
def Signal.goesOn : Signal → Bool
  | next => true
  | _ => false

/-- What the calls of a statement may be. They are whole if the walk goes on after them. -/
inductive Deals (s : Statement) (whole : Bool) : List Call → Prop where
  /-- Without a guard the lines go to the database if they stand free. -/
  | unasked {made : List Call} (hguard : s.guard? = none)
      (h : Hands (if s.place = .free then s.lines else []) whole made) : Deals s whole made
  /-- The walk ends before the question is asked. -/
  | unready {g : Guard} (hguard : s.guard? = some g) (hwhole : whole = false) : Deals s whole []
  /-- The question comes first. The lines follow if the guard holds. -/
  | asked {g : Guard} {kind : SchemaObject} {rest : List Call} (hguard : s.guard? = some g)
      (hkind : SchemaObject.ofGuard? g.object g.name = some kind) (found : Bool)
      (h : Hands (if found != g.negated then s.lines else []) whole rest) :
      Deals s whole (.asked kind g.name found :: rest)

theorem hands_nothing (lines : List Text) {whole : Bool} (h : whole = true → lines = []) :
    Hands lines whole [] :=
  ⟨rfl, List.nil_prefix, fun hwhole => (h hwhole).symm⟩

theorem hands_append {lines more : List Text} {whole : Bool} {made later : List Call}
    (h : Hands lines true made) (hlater : Hands more whole later) :
    Hands (lines ++ more) whole (made ++ later) where
  silent := by rw [questions_append, h.silent, hlater.silent, List.nil_append]
  inOrder := by
    rw [delivered_append, h.all rfl]
    exact (List.prefix_append_right_inj lines).mpr hlater.inOrder
  all hwhole := by rw [delivered_append, h.all rfl, hlater.all hwhole]

/-- Calls that have broken off are still in order. -/
theorem hands_begun {lines : List Text} {whole : Bool} {made begun : List Call}
    (h : Hands lines whole made) (hbegun : begun <+: made) : Hands lines false begun where
  silent := by
    have hsilent := List.IsPrefix.filterMap Call.question? hbegun
    exact List.prefix_nil.mp (h.silent ▸ hsilent)
  inOrder := (delivered_begun hbegun).trans h.inOrder
  all := by simp

theorem deals_begun {s : Statement} {whole : Bool} {made begun : List Call}
    (h : Deals s whole made) (hbegun : begun <+: made) : Deals s false begun := by
  cases h with
  | unasked hguard h => exact .unasked hguard (hands_begun h hbegun)
  | unready hguard hwhole =>
      rw [List.prefix_nil.mp hbegun]
      exact .unready hguard rfl
  | asked hguard hkind found h =>
      -- broken off before the question, or after it
      rcases List.prefix_cons_iff.mp hbegun with rfl | ⟨rest, rfl, hrest⟩
      · exact .unready hguard rfl
      · exact .asked hguard hkind found (hands_begun h hrest)

/-- Each slot holds its lines, one below the other. -/
def Splits (slots : List Slot) : Prop := ∀ slot ∈ slots, slot.command.splitOn '\n' = slot

theorem executeSlots_hands (symbolOf : Slot → Symbol) (i : Nat) {slots : List Slot}
    (hsplits : Splits slots) (d : Watched σ) :
    ∃ made, (executeSlots db.watched symbolOf i slots d).2.calls = d.calls ++ made ∧
      Hands slots.flatten (executeSlots db.watched symbolOf i slots d).1.goesOn made := by
  induction slots generalizing i d with
  | nil => exact ⟨[], (List.append_nil _).symm, hands_nothing _ fun _ => rfl⟩
  | cons slot rest ih =>
      have hslot : delivered [.executed (symbolOf slot) i slot.command] = slot :=
        (List.append_nil _).trans (hsplits slot List.mem_cons_self)
      have hcall : db.watched.execute (symbolOf slot) i slot.command d
          = ((db.execute (symbolOf slot) i slot.command d.state).1,
              ⟨(db.execute (symbolOf slot) i slot.command d.state).2,
                d.calls ++ [.executed (symbolOf slot) i slot.command]⟩) := rfl
      -- a slot that is not taken has been handed over, and is the last one
      have hlast : Hands (slot :: rest).flatten false
          [.executed (symbolOf slot) i slot.command] :=
        ⟨rfl, hslot.symm ▸ List.prefix_append _ _, by simp⟩
      have htaken : Hands slot true [.executed (symbolOf slot) i slot.command] :=
        ⟨rfl, hslot.symm ▸ List.prefix_rfl, fun _ => hslot⟩
      rw [executeSlots, hcall]
      generalize db.execute (symbolOf slot) i slot.command d.state = answered
      obtain ⟨answer, state⟩ := answered
      cases answer with
      | error message => exact ⟨_, rfl, hlast⟩
      | ok flow =>
          cases flow with
          | stop => exact ⟨_, rfl, hlast⟩
          | proceed =>
              obtain ⟨made, hcalls, hhands⟩ := ih (i + 1)
                (fun slot h => hsplits slot (List.mem_cons_of_mem _ h))
                ⟨state, d.calls ++ [.executed (symbolOf slot) i slot.command]⟩
              refine ⟨_ :: made, ?_, hands_append htaken hhands⟩
              rw [hcalls]
              exact List.append_assoc _ _ _

theorem executeCommands_hands (symbolOf : Slot → Symbol) {slots : List Slot}
    (hsplits : Splits slots) (s : Session (Watched σ)) :
    ∃ made, (executeCommands db.watched symbolOf slots s).2.database.calls
        = s.database.calls ++ made ∧
      Hands slots.flatten (executeCommands db.watched symbolOf slots s).1.goesOn made := by
  obtain ⟨made, hcalls, hhands⟩ := executeSlots_hands db symbolOf 0 hsplits s.database
  refine ⟨made, ?_⟩
  unfold executeCommands
  generalize executeSlots db.watched symbolOf 0 slots s.database = r at hcalls hhands ⊢
  obtain ⟨signal, d⟩ := r
  cases signal <;> exact ⟨hcalls, hhands⟩

theorem executeGuarded_watched {object : Symbol} {name : Text} {kind : SchemaObject}
    (hkind : SchemaObject.ofGuard? object name = some kind) (negated : Bool)
    (symbolOf : Slot → Symbol) (slots : List Slot) (s : Session (Watched σ)) :
    executeGuarded db.watched object name negated symbolOf slots s =
      let (found, state) := db.has kind name s.database.state
      let s := { s with database := ⟨state, s.database.calls ++ [.asked kind name found]⟩ }
      if found != negated then executeCommands db.watched symbolOf slots s else s.advance 1 := by
  unfold executeGuarded
  rw [hkind]
  rfl

/-- A question that can be asked is asked, and then the lines are handed over if it holds. -/
theorem executeGuarded_asks {object : Symbol} {name : Text} {kind : SchemaObject}
    (hkind : SchemaObject.ofGuard? object name = some kind) (negated : Bool)
    (symbolOf : Slot → Symbol) {slots : List Slot} (hsplits : Splits slots)
    (s : Session (Watched σ)) :
    ∃ found made, (executeGuarded db.watched object name negated symbolOf slots s).2.database.calls
        = s.database.calls ++ .asked kind name found :: made ∧
      Hands (if found != negated then slots.flatten else [])
        (executeGuarded db.watched object name negated symbolOf slots s).1.goesOn made := by
  rw [executeGuarded_watched db hkind]
  generalize db.has kind name s.database.state = answered
  obtain ⟨found, state⟩ := answered
  dsimp only
  by_cases hholds : (found != negated) = true
  · rw [if_pos hholds]
    obtain ⟨made, hcalls, hhands⟩ := executeCommands_hands db symbolOf hsplits
      { s with database := ⟨state, s.database.calls ++ [.asked kind name found]⟩ }
    refine ⟨found, made, ?_, ?_⟩
    · rw [hcalls]
      exact List.append_assoc _ _ _
    · rw [if_pos hholds]
      exact hhands
  · rw [if_neg hholds]
    refine ⟨found, [], rfl, ?_⟩
    rw [if_neg hholds]
    exact hands_nothing _ fun _ => rfl

/-- A statement with a question asks it first. What the question is about may be no object. -/
theorem executeGuarded_deals {statement : Statement} {g : Guard}
    (hguard : statement.guard? = some g) (hsplits : Splits statement.slots)
    (symbolOf : Slot → Symbol) (s : Session (Watched σ)) :
    ∃ made, (executeGuarded db.watched g.object g.name g.negated symbolOf statement.slots
        s).2.database.calls = s.database.calls ++ made ∧
      Deals statement (executeGuarded db.watched g.object g.name g.negated symbolOf
        statement.slots s).1.goesOn made := by
  cases hkind : SchemaObject.ofGuard? g.object g.name with
  | none =>
      have hfail : executeGuarded db.watched g.object g.name g.negated symbolOf statement.slots s
          = (.fail (.badGuardObject g.object g.name), s) := by
        unfold executeGuarded
        rw [hkind]
      rw [hfail]
      exact ⟨[], (List.append_nil _).symm, .unready hguard rfl⟩
  | some kind =>
      obtain ⟨found, made, hcalls, hhands⟩ :=
        executeGuarded_asks db hkind g.negated symbolOf hsplits s
      exact ⟨_, hcalls, .asked hguard hkind found hhands⟩

theorem executeVerbatim_watched (db : Database σ) (lines : List Text) (d : Watched σ) :
    db.watched.executeVerbatim lines d
      = ((db.executeVerbatim lines d.state).1,
          ⟨(db.executeVerbatim lines d.state).2, d.calls ++ [.verbatim lines]⟩) := rfl

/-- A verbatim block is never a command. -/
theorem executeBlock_hands (lines : List Text) (s : Session (Watched σ)) :
    ∃ made, (executeBlock db.watched lines s).2.database.calls = s.database.calls ++ made ∧
      Hands [] (executeBlock db.watched lines s).1.goesOn made := by
  unfold executeBlock
  by_cases htaken : db.watched.handlesVerbatim s.database = true
  · rw [if_pos htaken, executeVerbatim_watched]
    generalize db.executeVerbatim lines s.database.state = answered
    obtain ⟨answer, state⟩ := answered
    refine ⟨[.verbatim lines], ?_, rfl, List.prefix_rfl, fun _ => rfl⟩
    cases answer <;> rfl
  · rw [if_neg htaken]
    exact ⟨[], (List.append_nil _).symm, hands_nothing _ fun _ => rfl⟩

/-- **The calls of a statement**, however it ends. -/
theorem step_deals {statement : Statement} (hsplits : Splits statement.slots)
    (s : Session (Watched σ)) :
    ∃ made, (step db.watched statement s).2.database.calls = s.database.calls ++ made ∧
      Deals statement (step db.watched statement s).1.goesOn made := by
  -- a statement that only checks or sets something makes no call
  have hquiet : ∀ {r : Signal × Session (Watched σ)}, r.2.database = s.database →
      statement.guard? = none → statement.place = .control →
      ∃ made, r.2.database.calls = s.database.calls ++ made
        ∧ Deals statement r.1.goesOn made := by
    intro r hsame hguard hplace
    refine ⟨[], by rw [hsame, List.append_nil], .unasked hguard ?_⟩
    rw [if_neg (by rw [hplace]; exact Standing.noConfusion)]
    exact hands_nothing _ fun _ => rfl
  unfold step
  cases hrole : statement.role with
  | checkApplication asked =>
      refine hquiet ?_ (by rw [Statement.guard?, hrole]) (by rw [Statement.place, hrole])
      dsimp only
      cases asked.checkApplication statement.key s.info <;> rfl
  | raiseVersion asked =>
      refine hquiet ?_ (by rw [Statement.guard?, hrole]) (by rw [Statement.place, hrole])
      dsimp only
      split <;> rfl
  | checkVersion asked =>
      refine hquiet ?_ (by rw [Statement.guard?, hrole]) (by rw [Statement.place, hrole])
      dsimp only
      cases asked.checkVersion s.info <;> rfl
  | setShown shown =>
      exact hquiet rfl (by rw [Statement.guard?, hrole]) (by rw [Statement.place, hrole])
  | setHidden hidden =>
      exact hquiet rfl (by rw [Statement.guard?, hrole]) (by rw [Statement.place, hrole])
  | guardedBlock guard =>
      have hguard : statement.guard?
          = some ⟨statement.line, guard.object, guard.name, guard.negated⟩ := by
        rw [Statement.guard?, hrole]
      dsimp only
      split
      · exact ⟨[], (List.append_nil _).symm, .unready hguard rfl⟩
      · exact executeGuarded_deals db hguard hsplits _ s
  | guardedLine guard negated =>
      have hguard : statement.guard?
          = some ⟨statement.line, guard.object, guard.name, negated⟩ := by
        rw [Statement.guard?, hrole]
      exact executeGuarded_deals db hguard hsplits _ s
  | verbatim =>
      have hplace : statement.place = .data := by rw [Statement.place, hrole]
      obtain ⟨made, hcalls, hhands⟩ := executeBlock_hands db statement.lines s
      refine ⟨made, hcalls, .unasked (by rw [Statement.guard?, hrole]) ?_⟩
      rw [if_neg (by rw [hplace]; exact Standing.noConfusion)]
      exact hhands
  | commands =>
      have hplace : statement.place = .free := by rw [Statement.place, hrole]
      obtain ⟨made, hcalls, hhands⟩ := executeCommands_hands db Slot.symbol hsplits s
      refine ⟨made, hcalls, .unasked (by rw [Statement.guard?, hrole]) ?_⟩
      rw [if_pos hplace]
      exact hhands

/-! ## A whole walk -/

/-- The calls of a walk: statement by statement, and broken off at any call unless it is whole. -/
inductive Trail : List Statement → Bool → List Call → Prop where
  /-- No statement is left. -/
  | done {whole : Bool} : Trail [] whole []
  /-- The walk broke off in a statement. -/
  | cut {s : Statement} {rest : List Statement} {made : List Call} (h : Deals s false made) :
      Trail (s :: rest) false made
  /-- The walk went on after a statement. -/
  | passed {s : Statement} {rest : List Statement} {whole : Bool} {made later : List Call}
      (h : Deals s true made) (hrest : Trail rest whole later) :
      Trail (s :: rest) whole (made ++ later)

theorem trail_begun {statements : List Statement} {whole : Bool} {made begun : List Call}
    (h : Trail statements whole made) (hbegun : begun <+: made) : Trail statements false begun := by
  induction h generalizing begun with
  | done =>
      rw [List.prefix_nil.mp hbegun]
      exact .done
  | cut h => exact .cut (deals_begun h hbegun)
  | @passed s rest whole made later h _ ih =>
      -- the calls break off in this statement or after it
      rcases List.prefix_or_prefix_of_prefix hbegun (List.prefix_append made later) with hin | hpast
      · exact .cut (deals_begun h hin)
      · obtain ⟨more, rfl⟩ := hpast
        exact .passed h (ih ((List.prefix_append_right_inj made).mp hbegun))

theorem walk_trail {statements : List Statement}
    (hsplits : ∀ s ∈ statements, Splits s.slots) (s : Session (Watched σ)) :
    ∃ made, (walk db.watched statements s).2.database.calls = s.database.calls ++ made ∧
      Trail statements (walk db.watched statements s).1.goesOn made := by
  induction statements generalizing s with
  | nil => exact ⟨[], (List.append_nil _).symm, .done⟩
  | cons statement rest ih =>
      obtain ⟨made, hcalls, hdeals⟩ := step_deals db (hsplits statement List.mem_cons_self) s
      rw [walk]
      generalize step db.watched statement s = r at hcalls hdeals ⊢
      obtain ⟨signal, s'⟩ := r
      cases signal with
      | next =>
          -- the walk goes on, so the calls of this statement are whole
          obtain ⟨later, hlater, htrail⟩ := ih (fun s h => hsplits s (List.mem_cons_of_mem _ h)) s'
          refine ⟨made ++ later, ?_, .passed hdeals htrail⟩
          rw [← List.append_assoc, ← hcalls]
          exact hlater
      | halt => exact ⟨made, hcalls, .cut hdeals⟩
      | fail _ => exact ⟨made, hcalls, .cut hdeals⟩

/-! ## The questions of a walk -/

theorem filterMap_guard_cons (s : Statement) (rest : List Statement) :
    (s :: rest).filterMap Statement.guard?
      = s.guard?.toList ++ rest.filterMap Statement.guard? := by
  rw [List.filterMap_cons]
  cases s.guard? <;> rfl

theorem deals_questions {s : Statement} {whole : Bool} {made : List Call} (h : Deals s whole made) :
    (questions made).map Question.subject <+: s.guard?.toList.map Guard.subject ∧
      (whole = true →
        (questions made).map Question.subject = s.guard?.toList.map Guard.subject) := by
  cases h with
  | unasked hguard h =>
      rw [h.silent, hguard]
      exact ⟨List.prefix_rfl, fun _ => rfl⟩
  | unready hguard hwhole =>
      refine ⟨List.nil_prefix, fun hnot => ?_⟩
      rw [hwhole] at hnot
      cases hnot
  | @asked g kind rest hguard hkind found h =>
      have hquestions : (questions (.asked kind g.name found :: rest)).map Question.subject
          = [g.subject] := by
        rw [questions, List.filterMap_cons, Guard.subject, hkind]
        exact congrArg (List.map _ <| List.cons _ ·) h.silent
      rw [hquestions, hguard]
      exact ⟨List.prefix_rfl, fun _ => rfl⟩

/-- The questions of a walk are those of the statements, in order. -/
theorem trail_questions {statements : List Statement} {whole : Bool} {made : List Call}
    (h : Trail statements whole made) :
    (questions made).map Question.subject
        <+: (statements.filterMap Statement.guard?).map Guard.subject ∧
      (whole = true → (questions made).map Question.subject
        = (statements.filterMap Statement.guard?).map Guard.subject) := by
  induction h with
  | done => exact ⟨List.prefix_rfl, fun _ => rfl⟩
  | cut h =>
      refine ⟨?_, by simp⟩
      rw [filterMap_guard_cons, List.map_append]
      exact (deals_questions h).1.trans (List.prefix_append _ _)
  | passed h _ ih =>
      rw [filterMap_guard_cons, questions_append, List.map_append, List.map_append,
        (deals_questions h).2 rfl]
      obtain ⟨hsome, hall⟩ := ih
      exact ⟨(List.prefix_append_right_inj _).mpr hsome, fun hwhole => by rw [hall hwhole]⟩

end Run

end MigrationScript
