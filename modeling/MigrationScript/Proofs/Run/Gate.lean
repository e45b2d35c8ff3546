import MigrationScript.Proofs.Run.History
import MigrationScript.Proofs.Version

/-!
# A gated migration is applied at most once

A migration that starts with `$dbu_version > v` and `$lastdbu v` lets itself in only at a version
that `v` follows, and leaves the version at `v` or above before it does anything else. What `v`
follows is below `v`, so once that version is kept the gate stays shut.

This module says so of one engine that runs one script after another (`history_gated`), where the
version of the history only rises.
-/

namespace MigrationScript

/-- A script that starts with `$dbu_version > v` and `$lastdbu v`. -/
def GatedAt (v : Version) : List Statement → Prop
  | gate :: raise :: _ => ∃ literal asked, Version.parse? literal = some v
      ∧ gate.role = .checkVersion ⟨.greater, literal⟩
      ∧ raise.role = .raiseVersion asked ∧ asked.value = literal
  | _ => False

namespace Run

variable {σ τ : Type} {v : Version} {script : List Statement}

/-- A run that the gate turned away. It has done nothing. -/
structure Refused (v : Version) (found : VersionInfo) (o : Observed σ) : Prop where
  result : o.result = .error ⟨0, .versionGateFailed .greater v found.current⟩
  calls : o.calls = []
  saves : o.saves = []

/-- The store kept a version of the run, however the run ended. -/
def Observed.Saved (o : Observed σ) : Prop := ∃ version, (version, Except.ok ()) ∈ o.saves

/-! ## The walk of a gated script -/

theorem step_gate (db : Database σ) {gate : Statement} {literal : Text}
    (hrole : gate.role = .checkVersion ⟨.greater, literal⟩)
    (hv : Version.parse? literal = some v) (s : Session σ) :
    step db gate s =
      if v.follows s.info.version then s.advance 1
      else (.fail (.versionGateFailed .greater v s.info.current), s) := by
  have hcheck := @Comparison.checkVersion_of_parse ⟨.greater, literal⟩ s.info v hv
  rw [step, hrole]
  dsimp only
  rw [hcheck]
  cases hf : v.follows s.info.version with
  | true => simp [Version.gate, hf, Session.afterCheck]
  | false => simp [Version.gate, hf, Session.afterCheck]

/-- From its own version on, a gated script is turned away at its first statement. -/
theorem walk_refused (db : Database σ) (hscript : GatedAt v script) {s : Session σ}
    (h : v.encode ≤ s.info.version) :
    walk db script s = (.fail (.versionGateFailed .greater v s.info.current), s) := by
  match script, hscript with
  | gate :: raise :: _, ⟨literal, asked, hv, hgate, _, _⟩ =>
      have hshut : ¬ v.follows s.info.version = true := by
        intro hf
        exact UInt32.not_lt.mpr h (Version.lt_encode_of_follows (Version.parse?_bounded hv) hf)
      rw [walk, step_gate db hgate hv, if_neg hshut]

/-- A version that a walk leaves to be saved is greater than the one it began with. -/
theorem lt_of_pending (db : Database σ) (script : List Statement) (info : VersionInfo) (d : σ) :
    ∀ u, (walk db script (.start info d)).2.pending = some u → info.version < u := by
  intro u h
  have hledger := ledger_walk db script (ledger_start info d)
  exact (hledger.raised u h).2.1

/-- A version that a gated script leaves to be saved is its own version or a greater one. -/
theorem walk_pending (db : Database σ) (hscript : GatedAt v script) (info : VersionInfo) (d : σ) :
    ∀ u, (walk db script (.start info d)).2.pending = some u → v.encode ≤ u := by
  intro u h
  have hledger := ledger_walk db script (ledger_start info d)
  rw [List.nil_append] at hledger
  obtain ⟨hu, -⟩ := hledger.raised u h
  rw [← hu]
  apply hledger.greatest
  match script, hscript with
  | gate :: raise :: rest, ⟨literal, asked, hv, hgate, hraise, hasked⟩ =>
      have hstep := step_gate db hgate hv (.start info d)
      by_cases hf : v.follows (Session.start info d).info.version = true
      · -- the gate is open, and the next statement declares the version
        rw [if_pos hf] at hstep
        have hlt : ((Session.start info d).advance 1).2.info.version < v.encode :=
          Version.lt_encode_of_follows (Version.parse?_bounded hv) hf
        have hliteral := step_of_literal db ((Session.start info d).advance 1).2 hraise
          (hasked ▸ hv)
        rw [if_pos hlt] at hliteral
        refine mem_accepted.mpr ⟨⟨raise, info.version, .next⟩, ?_, rfl, ?_⟩
        · rw [processed, hstep]
          refine List.mem_cons_of_mem _ ?_
          dsimp only [Session.advance] at hliteral ⊢
          rw [processed, hliteral]
          exact List.mem_cons_self
        · simp [Statement.declared?, hraise, hasked, hv]
      · -- the gate is shut, and nothing is to be saved
        rw [if_neg hf] at hstep
        rw [walk, hstep] at h
        cases h

/-! ## In one engine -/

/-- A watched run of a gated script from its own version on is refused, and asks nothing of the
store. -/
theorem observe_refused {m : Type → Type} [Monad m] [LawfulMonad m] (db : Database σ)
    (save : UInt32 → m (Except String Unit)) (hscript : GatedAt v script) (info : VersionInfo)
    (h : v.encode ≤ info.version) (d : σ) :
    ∃ o, Refused v info o ∧ observe db save script info d = pure o := by
  have hwalk := walk_refused db.watched hscript (s := .start info ⟨d, []⟩) h
  refine ⟨_, ?_, by rw [observe_eq, hwalk]; exact map_pure _ _⟩
  exact ⟨rfl, rfl, rfl⟩

theorem episode_refused (db : Database σ) (store : VersionStore τ) (hscript : GatedAt v script)
    {e : Engine σ τ} (h : v.encode ≤ e.info.version) :
    Refused v e.info (e.episode db store script).observed := by
  obtain ⟨o, ho, hobserve⟩ := observe_refused db store.save hscript e.info h e.database
  unfold Engine.episode
  rw [hobserve]
  exact ho

/-- A run that the store kept a version of leaves the engine at the version of the gate or above. -/
theorem episode_saved (db : Database σ) (store : VersionStore τ) (hscript : GatedAt v script)
    {e : Engine σ τ} (h : (e.episode db store script).observed.Saved) :
    v.encode ≤ (e.episode db store script).after.info.version := by
  have hpending := walk_pending db.watched hscript e.info ⟨e.database, []⟩
  rw [episode_eq, Engine.walked] at h ⊢
  generalize walk db.watched script (.start e.info ⟨e.database, []⟩) = w at h hpending ⊢
  obtain ⟨signal, s⟩ := w
  dsimp only at h hpending ⊢
  cases hp : s.pending with
  | none =>
      simp only [hp] at h
      obtain ⟨u, hu⟩ := h
      cases hu
  | some u =>
      simp only [hp] at h ⊢
      obtain ⟨u', hu'⟩ := h
      generalize (store.save u).run e.store = asked at hu' ⊢
      obtain ⟨answer, kept⟩ := asked
      obtain ⟨rfl, rfl⟩ : u' = u ∧ Except.ok () = answer := by
        simpa [Session.observed] using hu'
      exact hpending u' hp

theorem version_le_before {db : Database σ} {store : VersionStore τ}
    {scripts : List (List Statement)} {e : Engine σ τ} {ep : Episode σ τ}
    (h : ep ∈ history db store scripts e) : e.info.version ≤ ep.before.info.version := by
  induction scripts generalizing e with
  | nil => cases h
  | cons script rest ih =>
      rcases List.mem_cons.mp h with rfl | h
      · exact UInt32.le_refl _
      · exact UInt32.le_trans (version_le_after db store script e) (ih h)

/-- **In one engine a gated migration is applied once.** -/
theorem history_gated (db : Database σ) (store : VersionStore τ) (v : Version)
    (scripts : List (List Statement)) (e : Engine σ τ) :
    (history db store scripts e).Pairwise fun earlier later =>
      GatedAt v earlier.statements → earlier.observed.Saved → GatedAt v later.statements →
        Refused v later.before.info later.observed := by
  induction scripts generalizing e with
  | nil => exact .nil
  | cons script rest ih =>
      refine List.Pairwise.cons ?_ (ih _)
      intro later hlater hscript hsaved hgated
      have hfloor := episode_saved db store hscript hsaved
      have hversion := UInt32.le_trans hfloor (version_le_before hlater)
      obtain ⟨e', he'⟩ := mem_history hlater
      rw [he'] at hversion ⊢
      exact episode_refused db store hgated hversion

end Run

end MigrationScript
