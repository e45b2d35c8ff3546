import MigrationScript.Proofs.Run.Application
import MigrationScript.Proofs.Source.Control

/-!
# Control lines in a run

A control line outside blocks is obeyed by the run itself and makes no call (`step_obeyed`). What the
database is handed are lines of statements that are not (`handed_of_wanted`), and a control line is
among them only where the source makes it text: in a block, or behind the word of a one-line guard
(`control_obeyed`).
-/

namespace MigrationScript

open Source

/-- The lines that a call hands over, as a command or as a verbatim block. -/
def Call.handed : Call → List Text
  | asked _ _ _ => []
  | executed _ _ command => command.splitOn '\n'
  | verbatim lines => lines

namespace Run

variable {σ τ : Type} {db : Database σ}

/-! ## What is handed over -/

theorem mem_wantedAll {statements : List Statement} {d : σ} {call : Call}
    (h : call ∈ wantedAll db statements d) : ∃ s ∈ statements, ∃ d, call ∈ s.wanted db d := by
  induction statements generalizing d with
  | nil => cases h
  | cons s rest ih =>
      rcases List.mem_append.mp h with hfirst | hrest
      · exact ⟨s, List.mem_cons_self, d, hfirst⟩
      · obtain ⟨s', hs', hcall⟩ := ih hrest
        exact ⟨s', List.mem_cons_of_mem _ hs', hcall⟩

theorem Attempt.begun {d : σ} {wanted made : List Call} {signal : Signal}
    (h : Attempt db d wanted made signal) : made <+: wanted := by
  cases h with
  | whole _ => exact List.prefix_rfl
  | stopped _ _ hbegun _ _ => exact hbegun
  | failed _ _ hbegun _ _ => exact hbegun

/-- **Every call of a run is one that a statement of the script wants.** -/
theorem wanted_of_call {store : VersionStore τ} {statements : List Statement} {e : Engine σ τ}
    {call : Call} (h : call ∈ (e.episode db store statements).observed.calls) :
    ∃ s ∈ statements, ∃ d, call ∈ s.wanted db d := by
  obtain ⟨signal, begun, hprogress⟩ := progress_of_run db store statements e
  rw [hprogress.calls] at h
  rcases List.mem_append.mp h with hmade | hbegun
  · obtain ⟨s, hs, hcall⟩ := mem_wantedAll hmade
    exact ⟨s, List.mem_of_mem_take hs, hcall⟩
  · -- the calls that the last statement began with
    cases hprogress.ending with
    | finished _ => cases hbegun
    | ended hs _ hconduct =>
        cases hconduct with
        | attempted hattempt =>
            exact ⟨_, List.mem_of_getElem? hs, _, hattempt.begun.mem hbegun⟩
        | refused _ => cases hbegun

theorem handed_of_commands {symbolOf : Slot → Symbol} {i : Nat} {slots : List Slot}
    (hsplits : Splits slots) {call : Call} (hcall : call ∈ commandCalls symbolOf i slots)
    {line : Text} (hline : line ∈ call.handed) : line ∈ slots.flatten := by
  obtain ⟨⟨slot, j⟩, hslot, rfl⟩ := List.mem_map.mp hcall
  have hmem : slot ∈ slots := List.fst_mem_of_mem_zipIdx hslot
  refine List.mem_flatten.mpr ⟨slot, hmem, ?_⟩
  rwa [← hsplits slot hmem]

/-- What a call of a statement hands over are lines of the statement, and the statement is none that
the run obeys itself. -/
theorem handed_of_wanted {s : Statement} (hsplits : Splits s.slots) {d : σ} {call : Call}
    (hcall : call ∈ s.wanted db d) {line : Text} (hline : line ∈ call.handed) :
    line ∈ s.lines ∧ s.place ≠ .control := by
  have hcommands : call ∈ s.commands → line ∈ s.lines := by
    intro hcall
    unfold Statement.commands at hcall
    split at hcall
    · exact handed_of_commands hsplits hcall hline
    · exact handed_of_commands hsplits hcall hline
  cases hguard : s.guard? with
  | some g =>
      -- no statement with a question is obeyed by the run itself
      have hplace : s.place ≠ .control := by
        unfold Statement.guard? at hguard
        unfold Statement.place
        cases hrole : s.role <;> rw [hrole] at hguard <;> simp at hguard ⊢
      simp only [Statement.wanted, hguard] at hcall
      split at hcall
      · rcases List.mem_cons.mp hcall with rfl | hcall
        · -- a question hands over nothing
          cases hline
        · split at hcall
          · exact ⟨hcommands hcall, hplace⟩
          · cases hcall
      · cases hcall
  | none =>
      simp only [Statement.wanted, hguard] at hcall
      split at hcall
      · rename_i hrole
        refine ⟨hcommands hcall, ?_⟩
        rw [Statement.place, hrole]
        exact Standing.noConfusion
      · rename_i hrole
        split at hcall
        · rw [List.mem_singleton.mp hcall] at hline
          refine ⟨hline, ?_⟩
          rw [Statement.place, hrole]
          exact Standing.noConfusion
        · cases hcall
      · cases hcall

/-! ## What is obeyed -/

/-- What a control line does to a session that goes on after it. -/
inductive Obeyed (word : Text) (asked : Comparison) (s : Session σ) : Session σ → Prop where
  /-- The database belongs to the application. -/
  | application (h : word = "$app_version".toList) (hasked : asked = ⟨.equal, s.info.app⟩) :
      Obeyed word asked s s
  /-- The database has a version that will do. -/
  | version {v : Version} (h : word = "$dbu_version".toList)
      (hv : Version.parse? asked.value = some v)
      (hgate : v.gate asked.operator s.info.version = some true) : Obeyed word asked s s
  /-- The version is raised, at once and to be saved. -/
  | raised {v : Version} (h : word = "$lastdbu".toList)
      (hv : Version.parse? asked.value = some v) (hlt : s.info.version < v.encode) :
      Obeyed word asked s (s.raise v.encode)
  /-- The version is the one declared. -/
  | reached {v : Version} (h : word = "$lastdbu".toList)
      (hv : Version.parse? asked.value = some v) (heq : v.encode = s.info.version) :
      Obeyed word asked s s
  /-- Showing is switched on or off. -/
  | shown (shown : Bool) (h : word = if shown then "$show".toList else "$noshow".toList) :
      Obeyed word asked s { s with info := { s.info with shown } }
  /-- Hiding is switched on or off. -/
  | hidden (hidden : Bool) (h : word = if hidden then "$hide".toList else "$nohide".toList) :
      Obeyed word asked s { s with info := { s.info with hidden } }

theorem asked_of_checkApplication {asked : Comparison} {directive : Text} {info : VersionInfo}
    (h : asked.checkApplication directive info = .ok ()) : asked = ⟨.equal, info.app⟩ := by
  unfold Comparison.checkApplication at h
  split at h
  · cases h
  split at h
  · cases h
  · rename_i hoperator happ
    rw [← not_not.mp hoperator, ← not_not.mp happ]

theorem gate_of_checkVersion {asked : Comparison} {info : VersionInfo}
    (h : asked.checkVersion info = .ok ()) :
    ∃ v, Version.parse? asked.value = some v
      ∧ v.gate asked.operator info.version = some true := by
  cases hv : Version.parse? asked.value with
  | none =>
      rw [Comparison.checkVersion, Comparison.version_of_bad hv] at h
      cases h
  | some v =>
      rw [Comparison.checkVersion_of_parse hv] at h
      split at h
      · rename_i hgate
        exact ⟨v, rfl, hgate⟩
      · cases h
      · cases h

/-- **A control line is obeyed, or the run fails at it.** In neither case is a call made. -/
theorem step_obeyed (db : Database σ) {statement : Statement} {word : Text} {asked : Comparison}
    (h : Orders word asked statement.role) (s : Session σ) :
    (∃ s', Obeyed word asked s s' ∧ step db statement s = s'.advance 1)
      ∨ ∃ cause, step db statement s = (.fail cause, s) ∧ cause.ofCheck = true := by
  unfold step
  generalize statement.role = role at h
  cases h with
  | checkApplication h =>
      dsimp only
      cases hcheck : asked.checkApplication statement.key s.info with
      | error cause => exact .inr ⟨cause, rfl, ofCheck_of_checkApplication hcheck⟩
      | ok _ => exact .inl ⟨s, .application h (asked_of_checkApplication hcheck), rfl⟩
  | checkVersion h =>
      dsimp only
      cases hcheck : asked.checkVersion s.info with
      | error cause => exact .inr ⟨cause, rfl, ofCheck_of_checkVersion hcheck⟩
      | ok _ =>
          obtain ⟨v, hv, hgate⟩ := gate_of_checkVersion hcheck
          exact .inl ⟨s, .version h hv hgate, rfl⟩
  | raiseVersion h =>
      dsimp only
      cases hv : Version.parse? asked.value with
      | none =>
          rw [Comparison.raisedVersion?_of_bad hv]
          exact .inr ⟨_, rfl, rfl⟩
      | some v =>
          rw [Comparison.raisedVersion?_of_parse hv]
          by_cases hlt : s.info.version < v.encode
          · -- a newer version is raised
            rw [if_pos hlt]
            exact .inl ⟨_, .raised h hv hlt, rfl⟩
          rw [if_neg hlt]
          by_cases hgt : v.encode < s.info.version
          · -- an older one is refused
            rw [if_pos hgt]
            exact .inr ⟨_, rfl, rfl⟩
          · rw [if_neg hgt]
            have heq : v.encode = s.info.version :=
              UInt32.le_antisymm (UInt32.not_lt.mp hlt) (UInt32.not_lt.mp hgt)
            exact .inl ⟨s, .reached h hv heq, rfl⟩
  | setShown shown h => exact .inl ⟨_, .shown shown h, rfl⟩
  | setHidden hidden h => exact .inl ⟨_, .hidden hidden h, rfl⟩

/-! ## Control lines of a script -/

/--
**A control line is obeyed by the run, or it is text.**

What is handed over contains a control line, in any case and at any place, only if the source has it
in a block, or behind the word of a one-line guard. Any other control line is a statement of its own,
which makes no call: the run obeys it and goes on, or fails.
-/
theorem control_obeyed {source : Text} {statements : List Statement}
    (h : Script.parse source = .ok statements) (db : Database σ) (store : VersionStore τ)
    (e : Engine σ τ) :
    (∀ call ∈ (e.episode db store statements).observed.calls, ∀ line ∈ call.handed,
      beginsWithControl line = true →
      ∃ before number raw later, Script.numberedLines source = before ++ (number, raw) :: later
        ∧ line = stored raw ∧ kind raw = .directive
        ∧ ((Scope.outside.afterAll before).isBlock = true ∨ guardsLine raw = true))
    ∧ ∀ before number raw later, Script.numberedLines source = before ++ (number, raw) :: later →
      (Scope.outside.afterAll before).isBlock = false → kind raw = .directive →
      controlWords.contains (word raw) = true →
      ∃ s ∈ statements, s.line = number ∧ s.slots = [[stored raw]] ∧ ∀ session : Session σ,
        (∃ session', Obeyed (word raw) (.ofFields (fields raw)) session session'
          ∧ step db s session = session'.advance 1)
        ∨ ∃ cause, step db s session = (.fail cause, session) ∧ cause.ofCheck = true := by
  constructor
  · intro call hcall line hline hcontrol
    obtain ⟨s, hs, d, hwanted⟩ := wanted_of_call hcall
    have hsplits : Splits s.slots := fun slot hslot => Script.splitOn_command h hs hslot
    obtain ⟨hmem, hplace⟩ := handed_of_wanted hsplits hwanted hline
    -- the line has its place in the layout of the source
    have hplaced : (⟨s.place, line⟩ : Placed) ∈ layout source := by
      rw [Script.layout_of_parse h]
      exact List.mem_flatMap.mpr ⟨s, hs, List.mem_map_of_mem hmem⟩
    obtain ⟨before, number, raw, later, hlines, hadd⟩ := line_of_mem_along hplaced
    exact ⟨before, number, raw, later, hlines, placed_control hadd hplace hcontrol⟩
  · intro before number raw later hlines hblock hkind hcontrol
    obtain ⟨s, hs, hnumber, hslots, horders⟩ :=
      Script.control_statement h hlines hblock hkind hcontrol
    exact ⟨s, hs, hnumber, hslots, step_obeyed db horders⟩

/-- A control line in front of a block, and one in it. -/
def controlScript : Text := "$lastdbu 0.02\n$if exist table a\n$LastDbu 0.01\n$fi".toList

/-- The statements of that script. The line in the block is its only slot. -/
def controlStatements : List Statement :=
  [{ symbol := .lastDbu, key := "$lastdbu".toList, fields := [⟨"0.02".toList, .plain⟩]
     slots := [["$lastdbu 0.02".toList]], line := 1 },
   { symbol := .ifBlock, key := "$if".toList
     fields := [⟨"exist".toList, .exist⟩, ⟨"table".toList, .table⟩, ⟨"a".toList, .plain⟩]
     slots := [["$LastDbu 0.01".toList]], line := 2 }]

theorem parse_controlScript : Script.parse controlScript = .ok controlStatements := by cbv

theorem handed_controlScript : .executed .plain 0 "$LastDbu 0.01".toList
    ∈ ((engineOf "shop".toList).episode (.willing fun _ _ => true) keeper
      controlStatements).observed.calls := by
  have hcalls : ((engineOf "shop".toList).episode (.willing fun _ _ => true) keeper
        controlStatements).observed.calls
      = [.asked .table "a".toList true, .executed .plain 0 "$LastDbu 0.01".toList] := by cbv
  rw [hcalls]
  exact List.mem_cons_of_mem _ List.mem_cons_self

/-- The line in the block is handed over, and the one in front of it is obeyed. -/
theorem control_obeyed_controlScript :
    (∃ before number raw later,
      Script.numberedLines controlScript = before ++ (number, raw) :: later
        ∧ "$LastDbu 0.01".toList = stored raw ∧ kind raw = .directive
        ∧ ((Scope.outside.afterAll before).isBlock = true ∨ guardsLine raw = true))
    ∧ ∃ s ∈ controlStatements, s.line = 1 ∧ s.slots = [["$lastdbu 0.02".toList]]
      ∧ ∀ session : Session Unit,
        (∃ session', Obeyed "$lastdbu".toList ⟨.plain, "0.02".toList⟩ session session'
          ∧ step (.willing fun _ _ => true) s session = session'.advance 1)
        ∨ ∃ cause, step (.willing fun _ _ => true) s session = (.fail cause, session)
          ∧ cause.ofCheck = true := by
  have hlines : Script.numberedLines controlScript = (1, "$lastdbu 0.02".toList)
      :: [(2, "$if exist table a".toList), (3, "$LastDbu 0.01".toList), (4, "$fi".toList)] := by
    cbv
  have hword : word "$lastdbu 0.02".toList = "$lastdbu".toList := by decide
  have hfields : fields "$lastdbu 0.02".toList = [⟨"0.02".toList, .plain⟩] := by cbv
  have hstored : stored "$lastdbu 0.02".toList = "$lastdbu 0.02".toList := by decide
  obtain ⟨htext, hobeyed⟩ := control_obeyed parse_controlScript (.willing fun _ _ => true) keeper
    (engineOf "shop".toList)
  have hraised := hobeyed [] 1 "$lastdbu 0.02".toList _ hlines rfl (by decide) (by decide)
  rw [hword, hfields, hstored] at hraised
  exact ⟨htext _ handed_controlScript "$LastDbu 0.01".toList (by decide) (by decide), hraised⟩

/-! ## Control lines as text -/

/-- No text that is handed over for a source begins with a control line, whatever the database. -/
def HandsNoControl (source : Text) : Prop :=
  ∀ (σ τ : Type) (db : Database σ) (store : VersionStore τ) (e : Engine σ τ)
    (statements : List Statement), Script.parse source = .ok statements →
    ∀ call ∈ (e.episode db store statements).observed.calls, ∀ line ∈ call.handed.head?,
      beginsWithControl line = false

theorem not_handsNoControl_of_call (line : Text) {source : Text} {statements : List Statement}
    {db : Database σ} {store : VersionStore τ} {e : Engine σ τ} {call : Call}
    (h : Script.parse source = .ok statements)
    (hcall : call ∈ (e.episode db store statements).observed.calls)
    (hline : line ∈ call.handed.head?) (hcontrol : beginsWithControl line = true) :
    ¬ HandsNoControl source := by
  intro hnone
  rw [hnone σ τ db store e statements h call hcall line hline] at hcontrol
  cases hcontrol

/-- A control line behind the word of a one-line guard. -/
def guardedControl : Text := "$ie $lastdbu table a".toList

/-- The guard as a statement. The control line is its command. -/
def guardedStatement : Statement :=
  { symbol := .ifExists, key := "$ie".toList
    fields := [⟨"$lastdbu".toList, .lastDbu⟩, ⟨"table".toList, .table⟩, ⟨"a".toList, .plain⟩]
    slots := [["$lastdbu table a".toList]], line := 1 }

/-- A control line is handed over from a block, and from behind a one-line guard. -/
theorem not_handsNoControl_text :
    ¬ HandsNoControl controlScript ∧ ¬ HandsNoControl guardedControl := by
  have hparse : Script.parse guardedControl = .ok [guardedStatement] := by cbv
  have hcalls : ((engineOf "shop".toList).episode (.willing fun _ _ => true) keeper
        [guardedStatement]).observed.calls
      = [.asked .table "a".toList true, .executed .plain 0 "$lastdbu table a".toList] := by cbv
  constructor
  · exact not_handsNoControl_of_call "$LastDbu 0.01".toList parse_controlScript
      handed_controlScript (by decide) (by decide)
  · have hcall := List.mem_cons_of_mem (.asked .table "a".toList true)
      (List.mem_singleton_self (Call.executed .plain 0 "$lastdbu table a".toList))
    rw [← hcalls] at hcall
    exact not_handsNoControl_of_call "$lastdbu table a".toList hparse hcall (by decide) (by decide)

end Run

end MigrationScript
