import Mathlib
import MigrationScript.Proofs.Run.History
import MigrationScript.Proofs.Run.Trail

/-!
# From the source to the database

A content line of a source is due if it stands free, or under a guard that has been asked for and
holds. At any moment of a run the lines handed over are the first of those that are due by the
answers so far (`trail_delivered`), and a run that nothing stops hands over all of them.
-/

namespace MigrationScript

open Source

/-! ## What is due -/

namespace Source

/-- Whether a guard holds by an answer. -/
def Guard.verdict (g : Guard) (q : Question) : Nat × Bool := (g.line, q.found != g.negated)

/-- The guards that have been asked for, by their lines, and whether they hold. -/
def verdicts (guards : List Guard) (calls : List Call) : List (Nat × Bool) :=
  List.zipWith Guard.verdict guards (questions calls)

/-- Whether a line that stands here goes to the database. A guard that has not been asked for does
not hold. -/
def Standing.isOpen (verdicts : List (Nat × Bool)) : Standing → Bool
  | free => true
  | control => false
  | data => false
  | under line => verdicts.lookup line = some true

/-- The lines of a layout that go to the database. -/
def due (verdicts : List (Nat × Bool)) (layout : List Placed) : List Text :=
  (layout.filter fun p => p.place.isOpen verdicts).map Placed.text

variable {verdicts : List (Nat × Bool)}

theorem due_append (a b : List Placed) :
    due verdicts (a ++ b) = due verdicts a ++ due verdicts b := by
  simp [due]

theorem due_placed (s : Statement) :
    due verdicts s.placed = if s.place.isOpen verdicts then s.lines else [] := by
  unfold due Statement.placed
  cases hopen : s.place.isOpen verdicts <;> simp [List.filter_map, Function.comp_def, hopen]

/-- A verdict on another line changes nothing. -/
theorem due_cons {line : Nat} {layout : List Placed} (holds : Bool)
    (h : ∀ p ∈ layout, p.place ≠ .under line) :
    due ((line, holds) :: verdicts) layout = due verdicts layout := by
  unfold due
  congr 1
  refine List.filter_congr ?_
  intro p hp
  cases hplace : p.place with
  | under n =>
      have hne : n ≠ line := by
        rintro rfl
        exact h p hp hplace
      simp [Standing.isOpen, List.lookup_cons, beq_false_of_ne hne]
  | _ => rfl

end Source

namespace Statement

/-- A statement with a question stands under it. -/
theorem place_of_guard {s : Statement} {g : Guard} (h : s.guard? = some g) :
    s.place = .under g.line := by
  unfold guard? at h
  unfold place
  cases hrole : s.role <;> rw [hrole] at h <;> cases h <;> rfl

theorem place_of_no_guard {s : Statement} (h : s.guard? = none) (line : Nat) :
    s.place ≠ .under line := by
  unfold guard? at h
  unfold place
  cases hrole : s.role <;> rw [hrole] at h <;> cases h <;> exact Standing.noConfusion

theorem isOpen_of_no_guard {s : Statement} (h : s.guard? = none) (verdicts : List (Nat × Bool)) :
    s.place.isOpen verdicts = decide (s.place = .free) := by
  have hplace := place_of_no_guard h
  cases hp : s.place with
  | under line => exact absurd hp (hplace line)
  | _ => simp [Standing.isOpen]

theorem place_of_mem_placed {s : Statement} {p : Placed} (h : p ∈ s.placed) :
    p.place = s.place := by
  obtain ⟨line, -, rfl⟩ := List.mem_map.mp h
  rfl

/-- No other statement stands under the question of this one. -/
theorem place_ne_of_nodup {g : Guard} {rest : List Statement}
    (h : ((g :: rest.filterMap guard?).map Guard.line).Nodup) :
    ∀ p ∈ rest.flatMap placed, p.place ≠ .under g.line := by
  intro p hp hplace
  obtain ⟨s, hs, hmem⟩ := List.mem_flatMap.mp hp
  rw [place_of_mem_placed hmem] at hplace
  cases hguard : s.guard? with
  | none => exact place_of_no_guard hguard g.line hplace
  | some g' =>
      -- two guards on one line
      rw [place_of_guard hguard] at hplace
      injection hplace with hline
      refine (List.nodup_cons.mp h).1 ?_
      rw [← hline]
      exact List.mem_map_of_mem (List.mem_filterMap.mpr ⟨s, hs, hguard⟩)

end Statement

namespace Run

variable {σ τ : Type} {db : Database σ}

/-! ## What a walk hands over -/

/-- What a statement hands over is due by the answer it got, whatever is asked later. -/
theorem deals_due {s : Statement} {whole : Bool} {made : List Call} (h : Deals s whole made)
    (guards : List Guard) (later : List Call) :
    delivered made <+: due (verdicts (s.guard?.toList ++ guards) (made ++ later)) s.placed ∧
      (whole = true →
        delivered made = due (verdicts (s.guard?.toList ++ guards) (made ++ later)) s.placed) := by
  rw [due_placed]
  cases h with
  | unasked hguard h =>
      -- no verdict has a say: the lines stand free, or are never due
      rw [Statement.isOpen_of_no_guard hguard]
      simp only [decide_eq_true_eq]
      exact ⟨h.inOrder, h.all⟩
  | unready hguard hwhole =>
      refine ⟨List.nil_prefix, fun hnot => ?_⟩
      rw [hwhole] at hnot
      cases hnot
  | @asked g kind rest hguard hkind found h =>
      -- its own question is the first one, so the first verdict is the one on its line
      have hopen : s.place.isOpen (verdicts (s.guard?.toList ++ guards)
          (.asked kind g.name found :: rest ++ later)) = (found != g.negated) := by
        have hlookup : (verdicts (s.guard?.toList ++ guards)
            (.asked kind g.name found :: rest ++ later)).lookup g.line
              = some (found != g.negated) := by
          rw [hguard]
          simp [verdicts, questions, Call.question?, Guard.verdict]
        rw [Statement.place_of_guard hguard, Standing.isOpen, hlookup]
        cases found != g.negated <;> rfl
      rw [hopen]
      exact ⟨h.inOrder, h.all⟩

/-- What a statement was answered says nothing about those after it. -/
theorem deals_later {s : Statement} {rest : List Statement} {made : List Call}
    (h : Deals s true made)
    (hnodup : (((s :: rest).filterMap Statement.guard?).map Guard.line).Nodup) (later : List Call) :
    due (verdicts ((s :: rest).filterMap Statement.guard?) (made ++ later))
        (rest.flatMap Statement.placed)
      = due (verdicts (rest.filterMap Statement.guard?) later)
        (rest.flatMap Statement.placed) := by
  cases h with
  | unasked hguard h =>
      rw [List.filterMap_cons_none hguard, verdicts, questions_append, h.silent]
      rfl
  | unready hguard hwhole => cases hwhole
  | @asked g kind more hguard hkind found h =>
      -- the first question and the first guard pair up, and their line is not met again
      rw [List.filterMap_cons_some hguard] at hnodup ⊢
      have hquestions : questions (.asked kind g.name found :: more ++ later)
          = ⟨kind, g.name, found⟩ :: questions later := by
        rw [List.cons_append, questions, List.filterMap_cons]
        have := questions_append more later
        rw [h.silent] at this
        exact congrArg (List.cons _) this
      rw [verdicts, hquestions]
      exact due_cons _ (Statement.place_ne_of_nodup hnodup)

/-- **At any moment of a walk the lines handed over are the first that are due**, by the answers so
far. In the end they are all of them. -/
theorem trail_delivered {statements : List Statement} {whole : Bool} {made : List Call}
    (h : Trail statements whole made)
    (hnodup : ((statements.filterMap Statement.guard?).map Guard.line).Nodup) :
    delivered made <+: due (verdicts (statements.filterMap Statement.guard?) made)
        (statements.flatMap Statement.placed) ∧
      (whole = true → delivered made = due (verdicts (statements.filterMap Statement.guard?) made)
        (statements.flatMap Statement.placed)) := by
  induction h with
  | done => exact ⟨List.prefix_rfl, fun _ => rfl⟩
  | @cut s rest made h =>
      -- the calls end in this statement: what is due of it comes first
      refine ⟨?_, by simp⟩
      have hdue := (deals_due h (rest.filterMap Statement.guard?) []).1
      rw [List.append_nil, ← filterMap_guard_cons] at hdue
      rw [List.flatMap_cons, due_append]
      exact hdue.trans (List.prefix_append _ _)
  | @passed s rest whole made later h _ ih =>
      have hdue := (deals_due h (rest.filterMap Statement.guard?) later).2 rfl
      rw [← filterMap_guard_cons] at hdue
      have hrest : ((rest.filterMap Statement.guard?).map Guard.line).Nodup := by
        rw [filterMap_guard_cons, List.map_append] at hnodup
        exact (List.nodup_append.mp hnodup).2.1
      rw [List.flatMap_cons, due_append, deals_later h hnodup later, delivered_append, ← hdue]
      obtain ⟨hsome, hall⟩ := ih hrest
      exact ⟨(List.prefix_append_right_inj _).mpr hsome, fun hwhole => by rw [hall hwhole]⟩

/-! ## Runs that nothing stops -/

/-- A database that takes every command and goes on. -/
def Proceeds (db : Database σ) : Prop :=
  ∀ symbol slot command d, (db.execute symbol slot command d).1 = .ok .proceed

theorem proceeds_watched (h : Proceeds db) : Proceeds db.watched :=
  fun symbol slot command d => h symbol slot command d.state

theorem executeSlots_next (h : Proceeds db) (symbolOf : Slot → Symbol) (i : Nat)
    (slots : List Slot) (d : σ) : (executeSlots db symbolOf i slots d).1 = .next := by
  induction slots generalizing i d with
  | nil => rfl
  | cons slot rest ih =>
      have hanswer := h (symbolOf slot) i slot.command d
      rw [executeSlots]
      generalize db.execute (symbolOf slot) i slot.command d = answered at hanswer ⊢
      obtain ⟨answer, d'⟩ := answered
      dsimp only at hanswer
      subst hanswer
      exact ih (i + 1) d'

theorem executeCommands_next (h : Proceeds db) (symbolOf : Slot → Symbol) (slots : List Slot)
    (s : Session σ) : (executeCommands db symbolOf slots s).1 = .next := by
  have hnext := executeSlots_next h symbolOf 0 slots s.database
  unfold executeCommands
  generalize executeSlots db symbolOf 0 slots s.database = r at hnext ⊢
  obtain ⟨signal, d⟩ := r
  dsimp only at hnext
  subst hnext
  rfl

theorem executeGuarded_not_halt (h : Proceeds db) (object : Symbol) (name : Text) (negated : Bool)
    (symbolOf : Slot → Symbol) (slots : List Slot) (s : Session σ) :
    (executeGuarded db object name negated symbolOf slots s).1 ≠ .halt := by
  unfold executeGuarded
  cases SchemaObject.ofGuard? object name with
  | none => exact Signal.noConfusion
  | some kind =>
      dsimp only
      split
      · rw [executeCommands_next h]
        exact Signal.noConfusion
      · exact Signal.noConfusion

theorem executeBlock_not_halt (lines : List Text) (s : Session σ) :
    (executeBlock db lines s).1 ≠ .halt := by
  unfold executeBlock
  split
  · generalize db.executeVerbatim lines s.database = answered
    obtain ⟨answer, d⟩ := answered
    cases answer <;> exact Signal.noConfusion
  · exact Signal.noConfusion

theorem step_not_halt (h : Proceeds db) (statement : Statement) (s : Session σ) :
    (step db statement s).1 ≠ .halt := by
  have hcheck : ∀ answer, (s.afterCheck answer).1 ≠ .halt := by
    intro answer
    cases answer <;> exact Signal.noConfusion
  unfold step
  cases statement.role with
  | checkApplication asked => exact hcheck _
  | raiseVersion asked =>
      dsimp only
      split <;> exact Signal.noConfusion
  | checkVersion asked => exact hcheck _
  | setShown _ => exact Signal.noConfusion
  | setHidden _ => exact Signal.noConfusion
  | guardedBlock guard =>
      dsimp only
      split
      · exact Signal.noConfusion
      · exact executeGuarded_not_halt h _ _ _ _ _ s
  | guardedLine guard negated => exact executeGuarded_not_halt h _ _ _ _ _ s
  | verbatim => exact executeBlock_not_halt _ s
  | commands =>
      dsimp only
      rw [executeCommands_next h]
      exact Signal.noConfusion

theorem walk_not_halt (h : Proceeds db) (statements : List Statement) (s : Session σ) :
    (walk db statements s).1 ≠ .halt := by
  induction statements generalizing s with
  | nil => exact Signal.noConfusion
  | cons statement rest ih =>
      have hstep := step_not_halt h statement s
      rw [walk]
      generalize step db statement s = r at hstep ⊢
      obtain ⟨signal, s'⟩ := r
      cases signal with
      | next => exact ih s'
      | halt => exact absurd rfl hstep
      | fail _ => exact Signal.noConfusion

/-- A run whose walk fails does not return a count. -/
theorem walked_of_result {store : VersionStore τ} {statements : List Statement} {e : Engine σ τ}
    {n : Nat} (h : (e.episode db store statements).observed.result = .ok n) (cause : Failure) :
    (e.walked db statements).1 ≠ .fail cause := by
  rw [episode_eq] at h
  generalize e.walked db statements = w at h ⊢
  obtain ⟨signal, s⟩ := w
  rintro rfl
  dsimp only at h
  cases hp : s.pending with
  | none =>
      rw [hp] at h
      cases h
  | some v =>
      rw [hp] at h
      cases h

/-! ## From the source -/

variable {source : Text} {statements : List Statement}

/-- The calls of a run of a script are a trail of its statements. -/
theorem episode_trail (h : Script.parse source = .ok statements) (db : Database σ)
    (store : VersionStore τ) (e : Engine σ τ) :
    Trail statements (e.walked db statements).1.goesOn
      (e.episode db store statements).observed.calls := by
  obtain ⟨made, hcalls, htrail⟩ := walk_trail db
    (fun s hs slot hslot => Script.splitOn_command h hs hslot)
    (Session.start e.info ⟨e.database, []⟩)
  rw [(episode_calls db store statements e).1, Engine.walked, hcalls]
  exact htrail

/-- Each kind of guard: a block, a line whose command goes on over the next one, and a line whose
command is open at the end. -/
def everyGuard : Text :=
  "$if exist table a\ndrop table a&&\n$fi\n$ine create table b\n(x int)&&\n$ie drop table c".toList

/-- The statements of that script, one for each guard. -/
def everyGuardStatements : List Statement :=
  [{ symbol := .ifBlock, key := "$if".toList
     fields := [⟨"exist".toList, .exist⟩, ⟨"table".toList, .table⟩, ⟨"a".toList, .plain⟩]
     slots := [["drop table a".toList]], line := 1 },
   { symbol := .ifMissing, key := "$ine".toList
     fields := [⟨"create".toList, .create⟩, ⟨"table".toList, .table⟩, ⟨"b".toList, .plain⟩]
     slots := [["create table b".toList, "(x int)".toList]], line := 4 },
   { symbol := .ifExists, key := "$ie".toList
     fields := [⟨"drop".toList, .drop⟩, ⟨"table".toList, .table⟩, ⟨"c".toList, .plain⟩]
     slots := [["drop table c".toList]], line := 6 }]

theorem parse_everyGuard : Script.parse everyGuard = .ok everyGuardStatements := by cbv

/-- A schema that holds a table `a` and nothing else. -/
def onlyTable (kind : SchemaObject) (name : Text) : Bool := kind = .table && name = "a".toList

/-- A run of that script where only the table of the first guard is there. So the first two guards
hold, and the third does not. -/
def everyGuardEpisode : Episode Unit Unit :=
  Engine.episode (Database.willing onlyTable) ⟨fun _ => pure (.ok ())⟩ everyGuardStatements
    ⟨{}, (), ()⟩

/--
**Every line that is due is handed over once, in order, and nothing else is.**

If the database goes on after every command and the run succeeds, then each question of the source
has been asked, and the lines of the commands, one after another, are the content lines of the
source that stand free or under a guard that holds.
-/
theorem delivered_exactly (h : Script.parse source = .ok statements) (hproceeds : Proceeds db)
    (store : VersionStore τ) (e : Engine σ τ) {n : Nat}
    (hresult : (e.episode db store statements).observed.result = .ok n) :
    let calls := (e.episode db store statements).observed.calls
    (questions calls).map Question.subject = (guards source).map Guard.subject ∧
      delivered calls = due (verdicts (guards source) calls) (layout source) := by
  intro calls
  have htrail := episode_trail h db store e
  have hwhole : (e.walked db statements).1.goesOn = true := by
    have hhalt : (e.walked db statements).1 ≠ .halt :=
      walk_not_halt (proceeds_watched hproceeds) statements _
    have hfail := walked_of_result hresult
    generalize (e.walked db statements).1 = signal at hhalt hfail
    cases signal with
    | next => rfl
    | halt => exact absurd rfl hhalt
    | fail cause => exact absurd rfl (hfail cause)
  have hnodup := guards_nodup source
  rw [Script.guards_of_parse h] at hnodup ⊢
  rw [Script.layout_of_parse h]
  exact ⟨(trail_questions htrail).2 hwhole, (trail_delivered htrail hnodup).2 hwhole⟩

theorem delivered_exactly_everyGuard :
    Script.parse everyGuard = .ok everyGuardStatements ∧ Proceeds (Database.willing onlyTable) ∧
      everyGuardEpisode.observed.result = .ok 3 ∧
      delivered everyGuardEpisode.observed.calls
        = due (verdicts (guards everyGuard) everyGuardEpisode.observed.calls) (layout everyGuard) ∧
      delivered everyGuardEpisode.observed.calls
        = ["drop table a".toList, "create table b".toList, "(x int)".toList] := by
  have hproceeds : Proceeds (Database.willing onlyTable) := fun _ _ _ _ => rfl
  have hresult : everyGuardEpisode.observed.result = .ok 3 := by rfl
  exact ⟨parse_everyGuard, hproceeds, hresult,
    (delivered_exactly parse_everyGuard hproceeds _ _ hresult).2, by rfl⟩

/--
**No line is handed over before its guard has been asked for and holds.**

This is so at every moment of every run, however it ends. The guard of a line is that of the block
it is in, or else that of the one-line guard it belongs to. Blocks do not nest: an opener in a block
says nothing, and the first closer ends the block.
-/
theorem delivered_under_guards (h : Script.parse source = .ok statements) (db : Database σ)
    (store : VersionStore τ) (e : Engine σ τ) {made : List Call}
    (hmade : made <+: (e.episode db store statements).observed.calls) :
    (questions made).map Question.subject <+: (guards source).map Guard.subject ∧
      (delivered made).Sublist (due (verdicts (guards source) made) (layout source)) := by
  have htrail := trail_begun (episode_trail h db store e) hmade
  have hnodup := guards_nodup source
  rw [Script.guards_of_parse h] at hnodup ⊢
  rw [Script.layout_of_parse h]
  exact ⟨(trail_questions htrail).1, (trail_delivered htrail hnodup).1.sublist⟩

/-- After the first question and the command under it, only that command is due. -/
theorem delivered_under_guards_everyGuard :
    let made := everyGuardEpisode.observed.calls.take 2
    Script.parse everyGuard = .ok everyGuardStatements ∧ made <+: everyGuardEpisode.observed.calls ∧
      (delivered made).Sublist (due (verdicts (guards everyGuard) made) (layout everyGuard)) ∧
      due (verdicts (guards everyGuard) made) (layout everyGuard) = ["drop table a".toList] := by
  intro made
  have hmade : made <+: everyGuardEpisode.observed.calls := List.take_prefix _ _
  refine ⟨parse_everyGuard, hmade, (delivered_under_guards parse_everyGuard _ _ _ hmade).2, ?_⟩
  rw [Script.guards_of_parse parse_everyGuard, Script.layout_of_parse parse_everyGuard]
  rfl

end Run

/-! ## If blocks nested -/

namespace Source

/-- A content line, with the guards of all blocks around it and its own. -/
structure Enclosed where
  text : Text
  guards : List Guard
  deriving DecidableEq

/-- The content lines of numbered lines as if blocks nested, with the guards of the blocks that are
open, the innermost first. -/
def enclosedFrom : List (Nat × Text) → List (List Guard) → List Enclosed
  | [], _ => []
  | (number, raw) :: rest, opened =>
    match kind raw with
    | .remark | .terminator => enclosedFrom rest opened
    | .guardOpener | .dataOpener => enclosedFrom rest (guardAt number raw .outside :: opened)
    | .closer => enclosedFrom rest opened.tail
    | .directive | .command =>
      ⟨stored raw, guardAt number raw .outside ++ opened.flatten⟩ :: enclosedFrom rest opened

/-- The content lines of a source as if blocks nested. -/
def enclosed (source : Text) : List Enclosed := enclosedFrom (Script.numberedLines source) []

/-- Whether every closer closes the block that was opened last, and no block stays open. -/
def nestsFrom : List (Nat × Text) → List Kind → Bool
  | [], opened => opened.isEmpty
  | (_, raw) :: rest, opened =>
    match kind raw, opened with
    | .guardOpener, _ => nestsFrom rest (.guardOpener :: opened)
    | .dataOpener, _ => nestsFrom rest (.dataOpener :: opened)
    | .closer, [] => false
    | .closer, last :: opened =>
      (last == .dataOpener) == (word raw == "$ecv_stop".toList) && nestsFrom rest opened
    | _, _ => nestsFrom rest opened

/-- Whether the blocks of a source nest, each with a closer of its own kind. -/
def WellNested (source : Text) : Prop := nestsFrom (Script.numberedLines source) [] = true

/-- Whether a guard holds in a schema. What cannot be asked for does not hold. -/
def Guard.holds (schema : SchemaObject → Text → Bool) (g : Guard) : Bool :=
  match SchemaObject.ofGuard? g.object g.name with
  | some kind => schema kind g.name != g.negated
  | none => false

end Source

namespace Run

/-- Whatever a run hands over stands in a line whose guards all hold, if blocks nested. -/
def SoundIfNested (schema : SchemaObject → Text → Bool) (source : Text) : Prop :=
  ∀ statements, Script.parse source = .ok statements →
    ∀ text ∈ delivered (Engine.episode (Database.willing schema)
        (⟨fun _ => pure (.ok ())⟩ : VersionStore Unit) statements ⟨{}, (), ()⟩).observed.calls,
      ∃ line ∈ enclosed source, line.text = text ∧ ∀ g ∈ line.guards, g.holds schema = true

/-- The only line of a block with a guard inside, which is not asked for. -/
def dropsUnasked : List Statement :=
  [{ symbol := .ifBlock, key := "$if".toList
     fields := [⟨"exist".toList, .exist⟩, ⟨"table".toList, .table⟩, ⟨"a".toList, .plain⟩]
     slots := [["drop table b".toList]], line := 1 }]

/-- A block in a block. -/
def blockInBlock : Text :=
  "$if exist table a\n$if exist table b\ndrop table b&&\n$fi\n$fi".toList

/-- A one-line guard in a block. -/
def lineInBlock : Text := "$if exist table a\n$ie drop table b&&\n$fi".toList

theorem not_sound_of_unasked {source : Text} {inner outer : List Guard}
    (hparse : Script.parse source = .ok dropsUnasked)
    (henclosed : enclosed source = [⟨"drop table b".toList, inner ++ outer⟩])
    (hinner : inner = [⟨2, .table, "b".toList, false⟩]) : ¬ SoundIfNested onlyTable source := by
  intro h
  have hdelivered : delivered (Engine.episode (Database.willing onlyTable)
      (⟨fun _ => pure (.ok ())⟩ : VersionStore Unit) dropsUnasked ⟨{}, (), ()⟩).observed.calls
        = ["drop table b".toList] := by rfl
  obtain ⟨line, hline, -, hguards⟩ := h _ hparse "drop table b".toList
    (by rw [hdelivered]; exact List.mem_singleton_self _)
  rw [henclosed, hinner, List.mem_singleton] at hline
  subst hline
  have hholds := hguards _ List.mem_cons_self
  revert hholds
  decide

/-- Neither an opener nor a one-line guard in a block is asked for. -/
theorem not_sound_if_nested :
    (WellNested blockInBlock ∧ ¬ SoundIfNested onlyTable blockInBlock) ∧
      WellNested lineInBlock ∧ ¬ SoundIfNested onlyTable lineInBlock := by
  have hblock : guardAt 2 "$if exist table b".toList .outside
      = [⟨2, .table, "b".toList, false⟩] := by
    have hfields : fields "$if exist table b".toList
        = [⟨"exist".toList, .exist⟩, ⟨"table".toList, .table⟩, ⟨"b".toList, .plain⟩] := by cbv
    unfold guardAt
    rw [hfields]
    rfl
  have hline : guardAt 2 "$ie drop table b&&".toList .outside
      = [⟨2, .table, "b".toList, false⟩] := by
    have hfields : fields "$ie drop table b&&".toList
        = [⟨"drop".toList, .drop⟩, ⟨"table".toList, .table⟩, ⟨"b".toList, .plain⟩] := by cbv
    unfold guardAt
    rw [hfields]
    rfl
  have hinBlock : enclosed blockInBlock = [⟨"drop table b".toList,
      guardAt 2 "$if exist table b".toList .outside
        ++ guardAt 1 "$if exist table a".toList .outside⟩] := by rfl
  have hinLine : enclosed lineInBlock = [⟨"drop table b".toList,
      guardAt 2 "$ie drop table b&&".toList .outside
        ++ guardAt 1 "$if exist table a".toList .outside⟩] := by rfl
  refine ⟨⟨by unfold WellNested; decide, ?_⟩, by unfold WellNested; decide, ?_⟩
  · exact not_sound_of_unasked (by cbv) hinBlock hblock
  · exact not_sound_of_unasked (by cbv) hinLine hline

end Run

end MigrationScript
