import MigrationScript.Proofs.Source.Grouping

/-!
# Lines with other numbers

The number of a line is only written down: in the statement that the line opens, and in the error it
causes. No step compares two numbers or computes with one. So lines that stand in other places are
read as they were, with every number that was written down replaced by the new one, and lines that
say nothing may come in between (`parseFrom_kept`).
-/

namespace MigrationScript

/-- The statement with its line in another place. -/
def Statement.renumbered (place : Nat → Nat) (s : Statement) : Statement :=
  { s with line := place s.line }

namespace Script

/-- The error with its line in another place. -/
def ParseError.renumbered (place : Nat → Nat) : ParseError → ParseError
  | unknownDirective line word => unknownDirective (place line) word
  | unterminatedBlock line key => unterminatedBlock (place line) key

/-- The draft with its line in another place. -/
def Draft.renumbered (place : Nat → Nat) (d : Draft) : Draft := { d with line := place d.line }

/-- The step with all lines in other places. -/
def Step.renumbered (place : Nat → Nat) (st : Step) : Step :=
  (st.1.map (Statement.renumbered place), st.2.map (Draft.renumbered place))

/-- What is answered when the lines stand in other places. -/
def renumberedAnswer (place : Nat → Nat) :
    Except ParseError (List Statement) → Except ParseError (List Statement)
  | .ok statements => .ok (statements.map (Statement.renumbered place))
  | .error e => .error (e.renumbered place)

/-! ## One step -/

section Renumbered

variable (place : Nat → Nat)

theorem closeAny_renumbered (draft : Option Draft) :
    closeAny (draft.map (Draft.renumbered place))
      = (closeAny draft).map (Statement.renumbered place) := by
  cases draft with
  | none => rfl
  | some d => rfl

theorem closeIf_renumbered (complete : Bool) (d : Draft) :
    closeIf complete (d.renumbered place) = (closeIf complete d).renumbered place := by
  cases complete <;> rfl

theorem pushLine_renumbered (d : Draft) (text : Text) (ended : Bool) :
    (d.renumbered place).pushLine text ended = (d.pushLine text ended).renumbered place := by
  cases ended <;> rfl

theorem pushAndClose_renumbered (d : Draft) (text : Text) (ended : Bool) :
    pushAndClose (d.renumbered place) text ended
      = (pushAndClose d text ended).renumbered place := by
  rw [pushAndClose, pushLine_renumbered]
  exact closeIf_renumbered place _ _

theorem filter_isBlock_renumbered (draft : Option Draft) :
    (draft.map (Draft.renumbered place)).filter Draft.isBlock
      = (draft.filter Draft.isBlock).map (Draft.renumbered place) := by
  cases draft with
  | none => rfl
  | some d =>
      have hblock : (d.renumbered place).isBlock = d.isBlock := rfl
      rw [Option.map_some, Option.filter_some, Option.filter_some, hblock]
      cases d.isBlock <;> rfl

/-- **A line says the same in another place.** -/
theorem step_renumbered (number : Nat) (line : Line) (draft : Option Draft) :
    step (place number) line (draft.map (Draft.renumbered place))
      = (step number line draft).renumbered place := by
  cases line with
  | blank => rfl
  | terminator =>
      cases draft with
      | none => rfl
      | some d => exact closeIf_renumbered place _ d.endSlot
  | closer => exact Prod.ext (closeAny_renumbered place draft) rfl
  | opener head =>
      rw [step, step, filter_isBlock_renumbered, closeAny_renumbered]
      cases draft.filter Draft.isBlock <;> rfl
  | directive head text ended =>
      have hnew : pushAndClose (.new head (place number)) text ended
          = (pushAndClose (.new head number) text ended).renumbered place :=
        pushAndClose_renumbered place (.new head number) text ended
      rw [step, step, filter_isBlock_renumbered, closeAny_renumbered, hnew]
      cases draft.filter Draft.isBlock with
      | none => exact Prod.ext List.map_append.symm rfl
      | some block =>
          exact congrArg (fun d => ([], some d)) (pushLine_renumbered place block text ended)
  | command text ended =>
      rw [step, step, ← pushAndClose_renumbered]
      cases draft <;> rfl

theorem finish_renumbered (st : Step) :
    finish (st.renumbered place) = renumberedAnswer place (finish st) := by
  obtain ⟨statements, draft⟩ := st
  cases draft with
  | none => rfl
  | some d =>
      have hblock : (d.renumbered place).isBlock = d.isBlock := rfl
      rw [Step.renumbered, Option.map_some, finish, finish, hblock]
      cases d.isBlock with
      | true => rfl
      | false =>
          change Except.ok (statements.map _ ++ [d.statement].map (Statement.renumbered place))
            = Except.ok ((statements ++ [d.statement]).map (Statement.renumbered place))
          rw [List.map_append]

theorem renumberedAnswer_append (completed : List Statement)
    (answer : Except ParseError (List Statement)) :
    renumberedAnswer place ((completed ++ ·) <$> answer)
      = (completed.map (Statement.renumbered place) ++ ·) <$> renumberedAnswer place answer := by
  cases answer with
  | error e => rfl
  | ok statements => exact congrArg Except.ok List.map_append

end Renumbered

/-! ## Line after line -/

/-- The statements of numbered lines that come after a draft. -/
def parseFrom (draft : Option Draft) (raws : List (Nat × Text)) :
    Except ParseError (List Statement) := do
  finish (group (← raws.mapM readLine) draft)

/-- What the first line completes comes first, and the rest is read after what it leaves open. -/
theorem parseFrom_cons (draft : Option Draft) (number : Nat) (raw : Text)
    (rest : List (Nat × Text)) :
    parseFrom draft ((number, raw) :: rest) =
      match Line.ofText raw with
      | .error word => .error (.unknownDirective number word)
      | .ok line =>
        ((step number line draft).1 ++ ·) <$> parseFrom (step number line draft).2 rest := by
  unfold parseFrom
  rw [List.mapM_cons, readLine]
  cases Line.ofText raw with
  | error word => rfl
  | ok line =>
      cases rest.mapM readLine with
      | error e => rfl
      | ok later => exact finish_append _ _

/-- A line that says nothing is read as if it were not there. -/
theorem parseFrom_blank {remark : Text} (h : Line.ofText remark = .ok .blank) (number : Nat)
    (draft : Option Draft) (rest : List (Nat × Text)) :
    parseFrom draft ((number, remark) :: rest) = parseFrom draft rest := by
  rw [parseFrom_cons, h]
  change ([] ++ ·) <$> parseFrom draft rest = _
  cases parseFrom draft rest <;> rfl

/-- Numbered lines and the same lines in other places, with lines in between that say nothing. Two
lines are the same if they are in a relation. -/
inductive Kept (same : Text → Text → Prop) (place : Nat → Nat) :
    List (Nat × Text) → List (Nat × Text) → Prop where
  | done : Kept same place [] []
  /-- A line that says nothing comes in. -/
  | between (number : Nat) {remark : Text} (hblank : Line.ofText remark = .ok .blank)
      {raws raws' : List (Nat × Text)} (hrest : Kept same place raws raws') :
      Kept same place raws ((number, remark) :: raws')
  /-- A line has moved to its new place. -/
  | line (number : Nat) {raw raw' : Text} (hsame : same raw raw')
      {raws raws' : List (Nat × Text)} (hrest : Kept same place raws raws') :
      Kept same place ((number, raw) :: raws) ((place number, raw') :: raws')

variable {same : Text → Text → Prop} {place : Nat → Nat} {raws raws' : List (Nat × Text)}

/-- **Lines in other places are read as they were, with the new numbers.** -/
theorem parseFrom_kept (htext : ∀ raw raw', same raw raw' → Line.ofText raw' = Line.ofText raw)
    (h : Kept same place raws raws') (draft : Option Draft) :
    parseFrom (draft.map (Draft.renumbered place)) raws'
      = renumberedAnswer place (parseFrom draft raws) := by
  induction h generalizing draft with
  | done => exact finish_renumbered place ([], draft)
  | between number hblank hrest ih => rw [parseFrom_blank hblank, ih]
  | @line number raw raw' hsame raws raws' hrest ih =>
      rw [parseFrom_cons, parseFrom_cons, htext raw raw' hsame]
      cases Line.ofText raw with
      | error word => rfl
      | ok line =>
          dsimp only
          rw [step_renumbered, renumberedAnswer_append, ← ih]
          rfl

/-- Lines are kept where they are by a change of the numbers that none of them has. -/
theorem kept_self (hplace : ∀ raw ∈ raws, place raw.1 = raw.1) : Kept Eq place raws raws := by
  induction raws with
  | nil => exact .done
  | cons raw rest ih =>
      obtain ⟨hfirst, hrest⟩ := List.forall_mem_cons.mp hplace
      have hkept : Kept Eq place (raw :: rest) ((place raw.1, raw.2) :: rest) :=
        .line raw.1 rfl (ih hrest)
      rwa [hfirst] at hkept

/-- The lines that an answer points to. -/
def reported : Except ParseError (List Statement) → List Nat
  | .ok statements => statements.map Statement.line
  | .error e => [e.line]

theorem reported_renumbered (place : Nat → Nat) (answer : Except ParseError (List Statement)) :
    reported (renumberedAnswer place answer) = (reported answer).map place := by
  cases answer with
  | ok statements => simp [renumberedAnswer, reported, Statement.renumbered]
  | error e => cases e <;> rfl

/-- Another number in the place of one. -/
def otherThan (number n : Nat) : Nat := if n = number then number + 1 else n

theorem otherThan_ne (number n : Nat) : otherThan number n ≠ number := by
  unfold otherThan
  split
  · omega
  · assumption

/-- **An answer points to lines of the source.** -/
theorem mem_reported {number : Nat} (h : number ∈ reported (parseFrom none raws)) :
    ∃ text, (number, text) ∈ raws := by
  by_contra hnone
  -- if no line had the number, the answer would be the same with another one in its place
  have hplace : ∀ raw ∈ raws, otherThan number raw.1 = raw.1 := by
    intro raw hraw
    refine if_neg fun heq => hnone ⟨raw.2, ?_⟩
    rw [← heq]
    exact hraw
  have hsame : parseFrom none raws = renumberedAnswer (otherThan number) (parseFrom none raws) :=
    parseFrom_kept (fun raw raw' hsame => by rw [hsame]) (kept_self hplace) none
  rw [hsame, reported_renumbered] at h
  obtain ⟨other, -, hother⟩ := List.mem_map.mp h
  exact otherThan_ne number other hother

end Script

end MigrationScript
