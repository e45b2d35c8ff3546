import MigrationScript.Proofs.Run.Progress

/-!
# A script in two parts

A script can be run in one piece, or in two runs one after the other. In one piece the version is
raised for the statements that follow and saved at the end. In two it is saved after the first part,
and the second part meets what the first run has left.

A walk takes no notice of its count, of what is to be saved, or of the calls so far. So the second
part goes the same way whether these start from nothing or from what the first part has left
(`walk_resumed`). As long as the store keeps what it is asked to keep, a run leaves what its walk
left (`episode_of_reliable`), and the second part finds the same in both.
-/

namespace MigrationScript

variable {σ τ : Type}

/-- The store keeps every version that it is asked to keep. -/
def VersionStore.Reliable (store : VersionStore τ) : Prop :=
  ∀ version t, ((store.save version).run t).1 = .ok ()

/-- One of some calls in a row is answered with a stop. -/
def Database.Stops (db : Database σ) (calls : List Call) (d : σ) : Prop :=
  ∃ before call, before ++ [call] <+: calls ∧
    (db.reply (db.after before d) call).1 = .ok .stop

/-- A watched database whose calls follow earlier ones. -/
def Watched.following (earlier : List Call) (d : Watched σ) : Watched σ :=
  ⟨d.state, earlier ++ d.calls⟩

/-- What was called earlier changes no answer. -/
theorem Watched.following_hom (db : Database σ) (earlier : List Call) :
    db.watched.Hom db.watched (Watched.following earlier) where
  has kind name d := by simp [Database.watched, following]
  execute symbol slot command d := by simp [Database.watched, following]
  handlesVerbatim _ := rfl
  executeVerbatim lines d := by simp [Database.watched, following]

namespace Run

variable {db : Database σ}

/-! ## Walks that go on -/

/-- Where a walk goes on after the earlier statements, it goes on with the later ones. -/
theorem walk_append_of_next {earlier : List Statement} {s s' : Session σ}
    (h : walk db earlier s = (.next, s')) (later : List Statement) :
    walk db (earlier ++ later) s = walk db later s' := by
  induction earlier generalizing s with
  | nil =>
      cases h
      rfl
  | cons statement rest ih =>
      rw [walk] at h
      rw [List.cons_append, walk]
      generalize step db statement s = r at h ⊢
      obtain ⟨signal, s''⟩ := r
      cases signal with
      | next => exact ih h
      | halt => cases h
      | fail cause => cases h

/-- A session of a walk that goes on after `n` statements. What was to be saved before still is,
unless the version has been raised again. -/
def Session.resumed (n : Nat) (pending : Option UInt32) (s : Session σ) : Session σ :=
  { s with pending := s.pending.or pending, count := n + s.count }

variable (n : Nat) (pending : Option UInt32)

theorem advance_resumed (s : Session σ) (m : Nat) :
    (s.resumed n pending).advance m = (s.advance m).map id (Session.resumed n pending) := by
  simp [Session.advance, Session.resumed, Nat.add_assoc]

theorem afterCheck_resumed (s : Session σ) (answer : Except Failure Unit) :
    (s.resumed n pending).afterCheck answer
      = (s.afterCheck answer).map id (Session.resumed n pending) := by
  cases answer with
  | ok _ => exact advance_resumed n pending s 1
  | error cause => rfl

theorem executeCommands_resumed (db : Database σ) (symbolOf : Slot → Symbol) (slots : List Slot)
    (s : Session σ) :
    executeCommands db symbolOf slots (s.resumed n pending)
      = (executeCommands db symbolOf slots s).map id (Session.resumed n pending) := by
  unfold executeCommands
  rw [show (s.resumed n pending).database = s.database from rfl]
  obtain ⟨signal, d⟩ := executeSlots db symbolOf 0 slots s.database
  cases signal with
  | next => exact advance_resumed n pending { s with database := d } 1
  | halt => rfl
  | fail cause => rfl

theorem executeGuarded_resumed (db : Database σ) (object : Symbol) (name : Text) (negated : Bool)
    (symbolOf : Slot → Symbol) (slots : List Slot) (s : Session σ) :
    executeGuarded db object name negated symbolOf slots (s.resumed n pending)
      = (executeGuarded db object name negated symbolOf slots s).map id
          (Session.resumed n pending) := by
  cases hkind : SchemaObject.ofGuard? object name with
  | none => simp only [executeGuarded, hkind, Prod.map, id]
  | some kind =>
      rcases hd : db.has kind name s.database with ⟨found, d⟩
      have hd' : db.has kind name (s.resumed n pending).database = (found, d) := hd
      simp only [executeGuarded, hkind, hd, hd']
      split
      · exact executeCommands_resumed n pending db symbolOf slots { s with database := d }
      · exact advance_resumed n pending { s with database := d } 1

theorem executeBlock_resumed (db : Database σ) (lines : List Text) (s : Session σ) :
    executeBlock db lines (s.resumed n pending)
      = (executeBlock db lines s).map id (Session.resumed n pending) := by
  unfold executeBlock
  rw [show (s.resumed n pending).database = s.database from rfl]
  split
  · obtain ⟨answer, d⟩ := db.executeVerbatim lines s.database
    cases answer with
    | ok _ => exact advance_resumed n pending { s with database := d } _
    | error message => rfl
  · exact advance_resumed n pending s 1

/-- **A statement takes no notice of the count and of what is to be saved.** -/
theorem step_resumed (db : Database σ) (statement : Statement) (s : Session σ) :
    step db statement (s.resumed n pending)
      = (step db statement s).map id (Session.resumed n pending) := by
  unfold step
  rw [show (s.resumed n pending).info = s.info from rfl]
  cases statement.role with
  | checkApplication asked => exact afterCheck_resumed n pending s _
  | raiseVersion asked =>
      dsimp only
      match asked.raisedVersion? s.info with
      | .ok (some version) => exact advance_resumed n pending (s.raise version) 1
      | .ok none => exact advance_resumed n pending s 1
      | .error cause => rfl
  | checkVersion asked => exact afterCheck_resumed n pending s _
  | setShown shown => exact advance_resumed n pending { s with info := { s.info with shown } } 1
  | setHidden hidden => exact advance_resumed n pending { s with info := { s.info with hidden } } 1
  | guardedBlock guard =>
      dsimp only
      split
      · rfl
      · exact executeGuarded_resumed n pending db _ _ _ _ _ s
  | guardedLine guard negated => exact executeGuarded_resumed n pending db _ _ _ _ _ s
  | verbatim => exact executeBlock_resumed n pending db _ s
  | commands => exact executeCommands_resumed n pending db _ _ s

/-- **A walk takes no notice of the count and of what is to be saved.** -/
theorem walk_resumed (db : Database σ) (statements : List Statement) (s : Session σ) :
    walk db statements (s.resumed n pending)
      = (walk db statements s).map id (Session.resumed n pending) := by
  induction statements generalizing s with
  | nil => rfl
  | cons statement rest ih =>
      rw [walk, walk, step_resumed]
      obtain ⟨signal, s'⟩ := step db statement s
      cases signal with
      | next => exact ih s'
      | halt => rfl
      | fail _ => rfl

/-- A session of a second part, as it is if the first part has been walked in the same run. -/
def Session.joined (earlier s : Session (Watched σ)) : Session (Watched σ) :=
  (s.resumed earlier.count earlier.pending).mapDatabase
    (Watched.following earlier.database.calls)

/-- A walk goes on from where another ended as it goes from the start. -/
theorem walk_joined (db : Database σ) (statements : List Statement)
    (earlier : Session (Watched σ)) :
    walk db.watched statements earlier
      = (walk db.watched statements (.start earlier.info ⟨earlier.database.state, []⟩)).map id
          earlier.joined := by
  have hstart : earlier = earlier.joined (.start earlier.info ⟨earlier.database.state, []⟩) := by
    simp [Session.joined, Session.resumed, Session.mapDatabase, Session.start, Watched.following]
  rw [congrArg (walk db.watched statements) hstart, Session.joined,
    walk_hom (Watched.following_hom db earlier.database.calls), walk_resumed]
  rfl

/-! ## Runs with a store that does not fail -/

/-- What a run returns if the store does not fail. -/
def Signal.result (count : Nat) : Signal → Except RunError Nat
  | .fail cause => .error ⟨count, cause⟩
  | _ => .ok count

/-- **With a store that does not fail, a run leaves what its walk left.** -/
theorem episode_of_reliable {store : VersionStore τ} (hstore : store.Reliable)
    (statements : List Statement) (e : Engine σ τ) :
    (e.episode db store statements).observed =
      { result := (e.walked db statements).1.result (e.walked db statements).2.count
        info := (e.walked db statements).2.info
        database := (e.walked db statements).2.database.state
        calls := (e.walked db statements).2.database.calls
        saves := ((e.walked db statements).2.pending.map fun v => (v, .ok ())).toList } := by
  have hledger := ledger_walk db.watched statements
    (ledger_start e.info (⟨e.database, []⟩ : Watched σ))
  change (e.walked db statements).2.Ledger e.info _ at hledger
  rw [episode_eq]
  generalize e.walked db statements = w at hledger ⊢
  obtain ⟨signal, s⟩ := w
  cases hp : s.pending with
  | none =>
      -- the version is still the one before the run
      simp only [hp, Session.observed, Session.settle, ← (hledger.idle hp).1]
      cases signal <;> rfl
  | some v =>
      -- the version that the store keeps is the current one
      obtain ⟨hversion, -⟩ := hledger.raised v hp
      have hkept := hstore v e.store
      simp only [hp]
      generalize (store.save v).run e.store = asked at hkept ⊢
      obtain ⟨answer, kept⟩ := asked
      obtain rfl : answer = .ok () := hkept
      simp only [Session.observed, Session.settle, ← hversion]
      cases signal <;> rfl

/-- A walk that the database stops has made a call that was answered with a stop. -/
theorem stops_of_ending {statements : List Statement} {k : Nat} {d : σ} {made begun : List Call}
    (h : Ending db statements k (db.after made d) begun .halt) : db.Stops (made ++ begun) d := by
  cases h with
  | ended _ _ hconduct =>
      cases hconduct with
      | attempted hattempt =>
          cases hattempt with
          | stopped before last _ _ hlast =>
              refine ⟨made ++ before, last, ?_, ?_⟩
              · exact ⟨[], by rw [List.append_nil, List.append_assoc]⟩
              · rw [Database.after_append]
                exact hlast

theorem stops_of_halt {statements : List Statement} {e : Engine σ τ}
    (h : (e.walked db statements).1 = .halt) :
    db.Stops (e.walked db statements).2.database.calls e.database := by
  obtain ⟨begun, hwalked⟩ := walk_walked db statements (.start e.info ⟨e.database, []⟩)
  have hending := hwalked.ending
  rw [show (walk db.watched statements (.start e.info ⟨e.database, []⟩)).1 = .halt from h]
    at hending
  rw [Engine.walked, hwalked.database]
  exact stops_of_ending hending

/-! ## One run and two -/

/-- What a run returns, with `n` statements counted before it. -/
def resultAfter (n : Nat) : Except RunError Nat → Except RunError Nat
  | .ok count => .ok (n + count)
  | .error e => .error ⟨n + e.statement, e.cause⟩

/-- **A run in one piece is as good as two**, of which the first has counted `n` statements. -/
structure AsTwo (n : Nat) (first second whole : Episode σ τ) : Prop where
  /-- The database meets the same calls in the same order. -/
  calls : whole.observed.calls = first.observed.calls ++ second.observed.calls
  /-- The second leaves the same database and the same version information. -/
  database : whole.observed.database = second.observed.database
  info : whole.observed.info = second.observed.info
  /-- What is returned counts the statements of the first as well. -/
  result : whole.observed.result = resultAfter n second.observed.result
  /-- The store keeps the same version last, if it keeps one. -/
  kept : whole.kept.getLast? = (first.kept ++ second.kept).getLast?

variable {store : VersionStore τ} {earlier : List Statement} {e : Engine σ τ}

theorem kept_of_reliable (hstore : store.Reliable) (statements : List Statement)
    (e : Engine σ τ) :
    (e.episode db store statements).kept = (e.walked db statements).2.pending.toList := by
  rw [Episode.kept, episode_of_reliable hstore]
  cases (e.walked db statements).2.pending with
  | none => rfl
  | some v => rfl

/-- A run that returns a count without a stop has walked to its end. -/
theorem walked_of_count {n : Nat} (hstore : store.Reliable)
    (hresult : (e.episode db store earlier).observed.result = .ok n)
    (hstop : ¬ db.Stops (e.episode db store earlier).observed.calls e.database) :
    (e.walked db earlier).1 = .next ∧ (e.walked db earlier).2.count = n := by
  rw [episode_of_reliable hstore] at hresult hstop
  dsimp only at hresult hstop
  cases hsignal : (e.walked db earlier).1 with
  | next =>
      rw [hsignal] at hresult
      exact ⟨rfl, Except.ok.inj hresult⟩
  | halt => exact absurd (stops_of_halt hsignal) hstop
  | fail cause =>
      rw [hsignal] at hresult
      cases hresult

/-- The walk of both parts is the one of the second, joined to the first. -/
theorem walked_append (hstore : store.Reliable) (hnext : (e.walked db earlier).1 = .next)
    (later : List Statement) :
    e.walked db (earlier ++ later)
      = ((e.episode db store earlier).after.walked db later).map id
          (e.walked db earlier).2.joined := by
  have hwalk : walk db.watched earlier (.start e.info ⟨e.database, []⟩)
      = (.next, (e.walked db earlier).2) := Prod.ext hnext rfl
  have hsecond : (e.episode db store earlier).after.walked db later
      = walk db.watched later (.start (e.walked db earlier).2.info
          ⟨(e.walked db earlier).2.database.state, []⟩) := by
    rw [Episode.after, episode_of_reliable hstore]
    rfl
  rw [hsecond, ← walk_joined]
  exact walk_append_of_next hwalk later

/--
**Splitting a migration in two does not change it.**

If the first part is run to its end, and the store keeps what it is asked to keep, it makes no
difference to the database, to the version information or to what is returned whether the second
part is run with the first or after it.
-/
theorem splitting_changes_nothing (db : Database σ) (hstore : store.Reliable)
    (earlier later : List Statement) (e : Engine σ τ) {n : Nat}
    (hresult : (e.episode db store earlier).observed.result = .ok n)
    (hstop : ¬ db.Stops (e.episode db store earlier).observed.calls e.database) :
    AsTwo n (e.episode db store earlier)
      ((e.episode db store earlier).after.episode db store later)
      (e.episode db store (earlier ++ later)) := by
  obtain ⟨hnext, hcount⟩ := walked_of_count hstore hresult hstop
  have hwhole := walked_append hstore hnext later
  constructor
  · rw [episode_of_reliable hstore, episode_of_reliable hstore, episode_of_reliable hstore, hwhole]
    rfl
  · rw [episode_of_reliable hstore, episode_of_reliable hstore, hwhole]
    rfl
  · rw [episode_of_reliable hstore, episode_of_reliable hstore, hwhole]
    rfl
  · rw [episode_of_reliable hstore, episode_of_reliable hstore, hwhole, ← hcount]
    dsimp only [Prod.map, id]
    cases ((e.episode db store earlier).after.walked db later).1 <;> rfl
  · rw [kept_of_reliable hstore, kept_of_reliable hstore, kept_of_reliable hstore, hwhole]
    -- what is to be saved in the end is what the second part leaves, or else the first
    change (((e.episode db store earlier).after.walked db later).2.pending.or
      (e.walked db earlier).2.pending).toList.getLast? = _
    cases ((e.episode db store earlier).after.walked db later).2.pending with
    | none => simp
    | some v => simp

/-- A database that takes every command stops no run. -/
theorem willing_never_stops (schema : SchemaObject → Text → Bool) (calls : List Call) :
    ¬ (Database.willing schema).Stops calls () := by
  rintro ⟨before, call, -, hstop⟩
  cases call <;> cases hstop

/-- A `$lastdbu` line as a statement. -/
def raising (literal : String) (line : Nat) : Statement :=
  { symbol := .lastDbu, key := "$lastdbu".toList, fields := [⟨literal.toList, .plain⟩]
    slots := [[("$lastdbu " ++ literal).toList]], line }

/-- A migration to version 0.01. -/
def firstPart : List Statement :=
  [raising "0.01" 1, { Statement.plainSql 2 with slots := [["drop table a".toList]] }]

/-- A migration to version 0.02, which goes back to an older one and fails there. -/
def secondPart : List Statement :=
  [raising "0.02" 1, { Statement.plainSql 2 with slots := [["drop table b".toList]] },
    raising "0.01" 3]

example : Script.parse "$lastdbu 0.02\ndrop table b&&\n$lastdbu 0.01".toList = .ok secondPart := by
  cbv

theorem splitting_changes_nothing_parts :
    let db := Database.willing fun _ _ => false
    let store : VersionStore Unit := ⟨fun _ => pure (.ok ())⟩
    let first := Engine.episode db store firstPart ⟨{}, (), ()⟩
    let second := first.after.episode db store secondPart
    let whole := Engine.episode db store (firstPart ++ secondPart) ⟨{}, (), ()⟩
    store.Reliable ∧ first.observed.result = .ok 2 ∧ ¬ db.Stops first.observed.calls () ∧
      AsTwo 2 first second whole ∧
      whole.observed.result = .error ⟨4, .versionRegression ⟨0, 1⟩ ⟨0, 2⟩⟩ ∧
      first.kept = [1] ∧ second.kept = [2] ∧ whole.kept = [2] := by
  intro db store first second whole
  have hstore : store.Reliable := fun _ _ => rfl
  have hresult : first.observed.result = .ok 2 := by rfl
  have hstop := willing_never_stops (fun _ _ => false) first.observed.calls
  exact ⟨hstore, hresult, hstop,
    splitting_changes_nothing db hstore firstPart secondPart ⟨{}, (), ()⟩ hresult hstop,
    by rfl, by rfl, by rfl, by rfl⟩

end Run

end MigrationScript
