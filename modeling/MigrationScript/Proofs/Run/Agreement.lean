import MigrationScript.Proofs.Run.Gate
import MigrationScript.Proofs.Run.Splitting
import MigrationScript.Proofs.StateFile

/-!
# An engine and its state file

An engine has a version, and so has the state file that it saves to, in memory. A run that raises
the version asks the state file to save it. If the file is written, both have the new version. If it
is not, the engine goes back to the version before the run, but the state file has taken the new one
already. So the two agree as long as the last save has succeeded (`Agreement`), and the next save
that succeeds brings them together again.
-/

namespace MigrationScript

namespace StateFile

variable {ω : Type} [FileSystem (StateM ω)]

/-- Saving changes the version in memory, whether the file is written or not. -/
theorem save_memory (state : StateFile) (version : UInt32) (w : ω) :
    ((state.save version : StateM ω _).run w).1.2 = state.withVersion version := by
  unfold save
  rw [run_bind]
  cases (((state.withVersion version).write : StateM ω _).run w).1 with
  | ok _ => rfl
  | error fault => rfl

theorem store_memory (version : UInt32) (kept : StateFile × ω) :
    ((store.save version).run kept).2.1 = kept.1.withVersion version :=
  save_memory kept.1 version kept.2

end StateFile

namespace Run

variable {σ τ ω : Type}

/-- What the store was asked to keep in a history of runs, with its answers. -/
def savesOf (eps : List (Episode σ τ)) : List (UInt32 × Except String Unit) :=
  eps.flatMap fun ep => ep.observed.saves

/-- An engine and its state file have the same version. -/
def Agreeing (e : Engine σ (StateFile × ω)) : Prop := e.info.version = e.store.1.info.version

/-- How an engine stands to its state file after some saves. -/
structure Agreement (start : StateFile) (saves : List (UInt32 × Except String Unit))
    (e : Engine σ (StateFile × ω)) : Prop where
  /-- The state file has the version that it was last asked to save, and nothing else changes. -/
  memory : e.store.1 = start.withVersion ((saves.getLast?.map Prod.fst).getD start.info.version)
  /-- The engine is never ahead of it. -/
  behind : e.info.version ≤ e.store.1.info.version
  /-- They agree unless the last save failed. -/
  agrees : Agreeing e ↔ ∀ save ∈ saves.getLast?, save.2 = .ok ()

theorem agreement_start {e : Engine σ (StateFile × ω)} (h : Agreeing e) :
    Agreement e.store.1 [] e where
  memory := rfl
  behind := h ▸ UInt32.le_refl _
  agrees := by
    refine ⟨fun _ save hsave => ?_, fun _ => h⟩
    cases hsave

variable {start : StateFile} {saves : List (UInt32 × Except String Unit)}

/-- After a save the state file has the version, and the engine has it if the save succeeded. -/
theorem agreement_save {e : Engine σ (StateFile × ω)} {version : UInt32}
    {answer : Except String Unit} (hmemory : e.store.1 = start.withVersion version)
    (hsucceeded : answer = .ok () → e.info.version = version)
    (hfailed : answer ≠ .ok () → e.info.version < version) :
    Agreement start (saves ++ [(version, answer)]) e := by
  have hversion : e.store.1.info.version = version := by
    rw [hmemory]
    rfl
  refine ⟨?_, ?_, ?_⟩
  · rw [List.getLast?_concat]
    exact hmemory
  · rw [hversion]
    by_cases hanswer : answer = .ok ()
    · exact UInt32.le_of_eq (hsucceeded hanswer)
    · exact UInt32.le_of_lt (hfailed hanswer)
  · rw [List.getLast?_concat, Agreeing, hversion]
    constructor
    · rintro hsame save ⟨⟩
      by_cases hanswer : answer = .ok ()
      · exact hanswer
      · exact absurd hsame (UInt32.ne_of_lt (hfailed hanswer))
    · intro h
      exact hsucceeded (h _ rfl)

variable [FileSystem (StateM ω)]

/-- **A run leaves the engine and the state file as its save came out**, and as they were if it
saved nothing. -/
theorem agreement_episode (db : Database σ) (script : List Statement)
    {e : Engine σ (StateFile × ω)} (h : Agreement start saves e) :
    Agreement start (saves ++ (e.episode db StateFile.store script).observed.saves)
      (e.episode db StateFile.store script).after := by
  have hpending := lt_of_pending db.watched script e.info ⟨e.database, []⟩
  rw [episode_eq, Engine.walked]
  generalize walk db.watched script (.start e.info ⟨e.database, []⟩) = walked at hpending ⊢
  obtain ⟨signal, s⟩ := walked
  cases hp : s.pending with
  | none =>
      simp only [hp]
      change Agreement start (saves ++ []) _
      rw [List.append_nil]
      exact ⟨h.memory, h.behind, h.agrees⟩
  | some version =>
      have hmemory := StateFile.store_memory version e.store
      simp only [hp]
      generalize (StateFile.store.save version).run e.store = asked at hmemory ⊢
      obtain ⟨answer, kept⟩ := asked
      refine agreement_save ?_ ?_ ?_
      · change kept.1 = start.withVersion version
        rw [hmemory, h.memory]
        rfl
      · rintro rfl
        rfl
      · intro hanswer
        -- the engine goes back to the version before the run, and that is lower
        cases answer with
        | ok u => exact absurd rfl hanswer
        | error message => exact hpending version hp

theorem agreement_history (db : Database σ) (scripts : List (List Statement))
    {e : Engine σ (StateFile × ω)} (h : Agreement start saves e)
    {before after : List (Episode σ (StateFile × ω))} {ep : Episode σ (StateFile × ω)}
    (hhistory : history db StateFile.store scripts e = before ++ ep :: after) :
    Agreement start (saves ++ savesOf (before ++ [ep])) ep.after := by
  induction scripts generalizing e saves before with
  | nil =>
      rw [history] at hhistory
      exact absurd hhistory.symm (by simp)
  | cons script rest ih =>
      rw [history] at hhistory
      have hfirst := agreement_episode db script h
      cases before with
      | nil =>
          obtain ⟨rfl, -⟩ := List.cons.inj hhistory
          simpa [savesOf] using hfirst
      | cons first before =>
          obtain ⟨rfl, hrest⟩ := List.cons.inj hhistory
          have hlater := ih hfirst hrest
          rw [List.append_assoc] at hlater
          exact hlater

/--
**How an engine and its state file agree over any history of runs.**

A save that fails leaves the new version in the memory of the state file, like one that succeeds. So
after every run the state file has the version that it was last asked to save, which is at least
that of the engine, and it is that of the engine unless the last save failed.
-/
theorem history_agreement (db : Database σ) (scripts : List (List Statement))
    (e : Engine σ (StateFile × ω)) (h : Agreeing e) :
    (∀ (state : StateFile) version (w : ω),
      ((state.save version : StateM ω _).run w).1.2 = state.withVersion version)
    ∧ ∀ before ep after, history db StateFile.store scripts e = before ++ ep :: after →
      Agreement e.store.1 (savesOf (before ++ [ep])) ep.after :=
  ⟨StateFile.save_memory, fun _ _ _ => agreement_history db scripts (agreement_start h)⟩

/-! ## A state file that cannot be written -/

/-- A tree where `f` is a file, so that there can be no directory of that name. -/
def blockedTree : FileTree := FileTree.empty.put ["work".toList, "f".toList] (.file (.text []))

/-- The state file of a new database, in the directory `f`. -/
def blockedState : StateFile := ⟨"f/state.json".toList, .new 0 "shop".toList⟩

/-- An engine at the version of its state file. -/
def blockedEngine : Engine Unit (StateFile × FileTree) :=
  ⟨blockedState.info, (), (blockedState, blockedTree)⟩

theorem history_agreement_blocked :
    let db := Database.willing fun _ _ => false
    Agreeing blockedEngine
      ∧ ∃ ep message, history db StateFile.store [[raising "0.01" 1]] blockedEngine = [ep]
        ∧ savesOf [ep] = [(1, .error message)] ∧ Agreement blockedState (savesOf [ep]) ep.after := by
  intro db
  refine ⟨rfl, _, _, rfl, by rfl, ?_⟩
  exact (history_agreement db [[raising "0.01" 1]] blockedEngine rfl).2 [] _ [] rfl

/-- **A save that fails parts the engine from its state file.** -/
theorem not_agreeing_blocked :
    let db := Database.willing fun _ _ => false
    let opened := (StateFile.load "f/state.json".toList "shop".toList : StateM FileTree _).run
      blockedTree
    let saved := (blockedState.save 1 : StateM FileTree _).run blockedTree
    let after := (blockedEngine.episode db StateFile.store [raising "0.01" 1]).after
    opened = (.ok blockedState, blockedTree)
      ∧ (∃ message, saved = ((.error message, blockedState.withVersion 1), blockedTree))
      ∧ Agreeing blockedEngine ∧ ¬ Agreeing after := by
  intro db opened saved after
  have hengine : after.info.version = 0 := by rfl
  have hfile : after.store.1.info.version = 1 := by rfl
  refine ⟨by rfl, ⟨_, by rfl⟩, rfl, ?_⟩
  rw [Agreeing, hengine, hfile]
  decide

end Run

end MigrationScript
