import MigrationScript.Run.Role
import MigrationScript.Proofs.Source.Layout

/-!
# Statements are pieces of the layout

One step of the grouping adds to the statements what its line adds to the layout (`step_follows`).
So the statements of a script are the layout of its source, cut into pieces (`layout_of_parse`), and
the questions of the statements are those of the source (`guards_of_parse`).
-/

namespace MigrationScript

open Source

/-! ## Statements as pieces of the layout -/

namespace Statement

/-- Where the lines of a statement stand. -/
def place (s : Statement) : Standing :=
  match s.role with
  | .guardedBlock _ | .guardedLine _ _ => .under s.line
  | .verbatim => .data
  | .commands => .free
  | _ => .control

/-- The lines of a statement as a piece of the layout. -/
def placed (s : Statement) : List Placed := s.lines.map (⟨s.place, ·⟩)

/-- The question of a statement, if it has one. -/
def guard? (s : Statement) : Option Guard :=
  match s.role with
  | .guardedBlock g => some ⟨s.line, g.object, g.name, g.negated⟩
  | .guardedLine g negated => some ⟨s.line, g.object, g.name, negated⟩
  | _ => none

theorem guards_singleton (s : Statement) : [s].filterMap guard? = s.guard?.toList := by
  rw [List.filterMap_cons]
  cases s.guard? <;> rfl

/-- No slot is without a line. -/
def Full (s : Statement) : Prop := ∀ slot ∈ s.slots, slot ≠ []

end Statement

namespace Script

namespace Draft

/-- What a line under the draft stands in. -/
def scope (d : Draft) : Scope :=
  match d.statement.role with
  | .guardedBlock _ => .block d.line
  | .guardedLine _ _ => .guarded d.line
  | .verbatim => .data
  | _ => .outside

theorem lines_statement (d : Draft) : d.statement.lines = d.finished.flatten ++ d.current := by
  unfold statement slots Statement.lines
  cases hc : d.current with
  | nil => simp
  | cons first rest => simp

/-- Ending a slot changes nothing but the slots. -/
theorem endSlot_statement (d : Draft) : d.endSlot.statement = d.statement := by
  unfold statement
  simp [endSlot, slots]

theorem pushLine_statement (d : Draft) (text : Text) (ended : Bool) :
    (d.pushLine text ended).statement = (d.push text).statement := by
  unfold pushLine
  split
  · exact endSlot_statement _
  · rfl

theorem placed_push (d : Draft) (text : Text) :
    (d.push text).statement.placed = d.statement.placed ++ [⟨d.statement.place, text⟩] := by
  have hplace : (d.push text).statement.place = d.statement.place := rfl
  rw [Statement.placed, Statement.placed, lines_statement, lines_statement, hplace]
  simp [push]

theorem full_push {d : Draft} (h : d.statement.Full) (text : Text) :
    (d.push text).statement.Full := by
  intro slot hslot
  have hpush : (d.push text).statement.slots = d.finished ++ [d.current ++ [text]] := by
    simp [statement, slots, push]
  rw [hpush] at hslot
  -- only the slot in progress has changed, and it has a line now
  rcases List.mem_append.mp hslot with hfinished | hlast
  · exact h slot (List.mem_append_left _ hfinished)
  · rw [List.mem_singleton.mp hlast]
    simp

/-- A draft that a further line can go to does not end with its line. -/
def Lasting (d : Draft) : Prop := d.head.symbol.isSingleLine = false

theorem isBlock_scope (d : Draft) : d.scope.isBlock = d.isBlock := by
  unfold scope isBlock Statement.role statement
  cases d.head.symbol <;> rfl

theorem place_scope {d : Draft} (h : d.Lasting) : d.scope.place = d.statement.place := by
  unfold Lasting at h
  unfold scope Statement.place Statement.role statement
  cases hsymbol : d.head.symbol <;> first | rfl | (rw [hsymbol] at h; cases h)

/-- A terminator ends the scope of a draft if it completes the draft. -/
theorem ended_scope (d : Draft) :
    d.scope.ended = if d.endsAtTerminator then .outside else d.scope := by
  unfold scope endsAtTerminator Statement.role statement
  cases d.head.symbol <;> rfl

theorem scope_pushLine (d : Draft) (text : Text) (ended : Bool) :
    (d.pushLine text ended).scope = d.scope := by
  unfold pushLine
  split <;> rfl

theorem head_pushLine (d : Draft) (text : Text) (ended : Bool) :
    (d.pushLine text ended).head = d.head := by
  unfold pushLine
  split <;> rfl

theorem line_pushLine (d : Draft) (text : Text) (ended : Bool) :
    (d.pushLine text ended).line = d.line := by
  unfold pushLine
  split <;> rfl

end Draft

/-! ## One step -/

/-- The scope of the next line. -/
def scopeOf : Option Draft → Scope
  | none => .outside
  | some d => d.scope

/-- The statements so far, with the one that is open. -/
def Step.statements (st : Step) : List Statement := st.1 ++ closeAny st.2

theorem statements_closeIf (complete : Bool) (d : Draft) :
    (closeIf complete d).statements = [d.statement] := by
  cases complete <;> rfl

theorem scopeOf_closeIf (complete : Bool) (d : Draft) :
    scopeOf (closeIf complete d).2 = if complete then .outside else d.scope := by
  cases complete <;> rfl

theorem filter_isBlock_none {draft : Option Draft} (h : (scopeOf draft).isBlock = false) :
    draft.filter Draft.isBlock = none := by
  cases draft with
  | none => rfl
  | some d => simpa [Draft.isBlock_scope, scopeOf] using h

theorem filter_isBlock_some {draft : Option Draft} (h : (scopeOf draft).isBlock = true) :
    ∃ block, draft = some block ∧ draft.filter Draft.isBlock = some block := by
  cases draft with
  | none => cases h
  | some d => exact ⟨d, rfl, by simpa [Draft.isBlock_scope, scopeOf] using h⟩

/-- Either no block is open, or the draft is one. -/
theorem filter_isBlock_cases (draft : Option Draft) :
    draft.filter Draft.isBlock = none
      ∨ ∃ block, draft = some block ∧ block.isBlock = true
        ∧ draft.filter Draft.isBlock = some block := by
  cases hfilter : draft.filter Draft.isBlock with
  | none => exact .inl rfl
  | some block =>
      obtain ⟨hdraft, hblock⟩ := Option.filter_eq_some_iff.mp hfilter
      exact .inr ⟨block, hdraft, hblock, rfl⟩

/-- An opener completes whatever is open and opens a block, but in a block it is dropped. -/
theorem step_opener_cases (number : Nat) (head : Directive) (draft : Option Draft) :
    (draft.filter Draft.isBlock = none
      ∧ step number (.opener head) draft = (closeAny draft, some (.new head number)))
    ∨ ∃ block, draft = some block ∧ block.isBlock = true
      ∧ step number (.opener head) draft = ([], some block) := by
  rcases filter_isBlock_cases draft with hfilter | ⟨block, hdraft, hblock, hfilter⟩
  · exact .inl ⟨hfilter, by rw [step, hfilter]⟩
  · exact .inr ⟨block, hdraft, hblock, by rw [step, hfilter]⟩

/-- Any other directive completes whatever is open and starts a statement, but in a block it is a
line of the block. -/
theorem step_directive_cases (number : Nat) (head : Directive) (text : Text) (ended : Bool)
    (draft : Option Draft) :
    (draft.filter Draft.isBlock = none
      ∧ step number (.directive head text ended) draft
        = (closeAny draft ++ (pushAndClose (.new head number) text ended).1,
          (pushAndClose (.new head number) text ended).2))
    ∨ ∃ block, draft = some block ∧ block.isBlock = true
      ∧ step number (.directive head text ended) draft
        = ([], some (block.pushLine text ended)) := by
  rcases filter_isBlock_cases draft with hfilter | ⟨block, hdraft, hblock, hfilter⟩
  · exact .inl ⟨hfilter, by rw [step, hfilter]⟩
  · exact .inr ⟨block, hdraft, hblock, by rw [step, hfilter]⟩

theorem statements_pushAndClose (d : Draft) (text : Text) (ended : Bool) :
    (pushAndClose d text ended).statements = [(d.push text).statement] := by
  rw [pushAndClose, statements_closeIf, Draft.pushLine_statement]

/-- A directive outside blocks completes what is open, and adds a statement of its own. -/
theorem statements_directive {draft : Option Draft} (hfilter : draft.filter Draft.isBlock = none)
    (number : Nat) (head : Directive) (text : Text) (ended : Bool) :
    (step number (.directive head text ended) draft).statements
      = closeAny draft ++ [((Draft.new head number).push text).statement] := by
  rw [step, hfilter, ← statements_pushAndClose _ _ ended]
  exact List.append_assoc _ _ _

theorem scopeOf_pushAndClose (d : Draft) (text : Text) (ended : Bool) :
    scopeOf (pushAndClose d text ended).2
      = if ended && d.endsAtTerminator then .outside else d.scope := by
  rw [pushAndClose, scopeOf_closeIf, Draft.scope_pushLine]

/-- What a line makes of the draft, in terms of the layout. -/
structure Follows (number : Nat) (raw : Text) (draft : Option Draft) (st : Step) : Prop where
  /-- The lines of the statements are those of what was open, and this line in its place. -/
  placed : st.statements.flatMap Statement.placed
    = (closeAny draft).flatMap Statement.placed ++ placedAt number raw (scopeOf draft)
  /-- Their questions are those of what was open, and the one that stands on this line. -/
  guards : st.statements.filterMap Statement.guard?
    = (closeAny draft).filterMap Statement.guard? ++ guardAt number raw (scopeOf draft)
  /-- What the next line stands in is told by this line and what it stood in. -/
  scope : scopeOf st.2 = (scopeOf draft).after number raw
  /-- A directive that takes a single line is not left open. -/
  lasting : ∀ d ∈ st.2, d.Lasting
  /-- No slot is made without a line. -/
  full : (∀ s ∈ closeAny draft, s.Full) → ∀ s ∈ st.statements, s.Full

variable {number : Nat} {raw : Text} {draft : Option Draft}

/-- A line that leaves the statements as they are. -/
theorem follows_of_same {st : Step} (hstatements : st.statements = closeAny draft)
    (hplaced : placedAt number raw (scopeOf draft) = [])
    (hguards : guardAt number raw (scopeOf draft) = [])
    (hscope : scopeOf st.2 = (scopeOf draft).after number raw) (hlasting : ∀ d ∈ st.2, d.Lasting) :
    Follows number raw draft st where
  placed := by rw [hstatements, hplaced, List.append_nil]
  guards := by rw [hstatements, hguards, List.append_nil]
  scope := hscope
  lasting := hlasting
  full hfull := by rwa [hstatements]

/-- A line that starts a statement, after completing whatever is open. -/
theorem follows_of_start {st : Step} {s : Statement}
    (hstatements : st.statements = closeAny draft ++ [s])
    (hplaced : s.placed = placedAt number raw (scopeOf draft))
    (hguards : s.guard?.toList = guardAt number raw (scopeOf draft))
    (hscope : scopeOf st.2 = (scopeOf draft).after number raw) (hlasting : ∀ d ∈ st.2, d.Lasting)
    (hfull : s.Full) : Follows number raw draft st where
  placed := by rw [hstatements, ← hplaced, List.flatMap_append, List.flatMap_singleton]
  guards := by
    rw [hstatements, ← hguards, List.filterMap_append, Statement.guards_singleton]
  scope := hscope
  lasting := hlasting
  full hdone s' hs' := by
    rw [hstatements] at hs'
    rcases List.mem_append.mp hs' with hold | hnew
    · exact hdone s' hold
    · rw [List.mem_singleton.mp hnew]
      exact hfull

/-- A line that goes to a draft, which is the open one or new and without text. -/
theorem follows_of_push {st : Step} {d : Draft} {text : Text}
    (hdraft : draft = some d ∨ draft = none ∧ d = .plainSql number)
    (hstatements : st.statements = [(d.push text).statement])
    (hplaced : placedAt number raw (scopeOf draft) = [⟨d.statement.place, text⟩])
    (hguards : guardAt number raw (scopeOf draft) = [])
    (hscope : scopeOf st.2 = (scopeOf draft).after number raw)
    (hlasting : ∀ d ∈ st.2, d.Lasting) : Follows number raw draft st where
  placed := by
    rw [hstatements, hplaced, List.flatMap_singleton, Draft.placed_push]
    rcases hdraft with rfl | ⟨rfl, rfl⟩
    · simp [closeAny]
    · rfl
  guards := by
    rw [hstatements, hguards, List.append_nil]
    rcases hdraft with rfl | ⟨rfl, rfl⟩
    · exact (Statement.guards_singleton _).trans (Statement.guards_singleton d.statement).symm
    · rfl
  scope := hscope
  lasting := hlasting
  full hfull s hs := by
    rw [hstatements, List.mem_singleton] at hs
    rw [hs]
    refine Draft.full_push ?_ text
    -- a new draft has no slot, and the slots of the open one are the statement's own
    rcases hdraft with rfl | ⟨rfl, rfl⟩
    · exact hfull _ List.mem_cons_self
    · intro slot hslot
      cases hslot

theorem follows_terminator (hkind : kind raw = .terminator) (hdraft : ∀ d ∈ draft, d.Lasting) :
    Follows number raw draft (step number .terminator draft) := by
  have hscope : (scopeOf draft).after number raw = (scopeOf draft).ended := by
    rw [Scope.after, hkind]
  refine follows_of_same ?_ (by rw [placedAt, hkind]) (by simp [guardAt, guardsLine, hkind]) ?_ ?_
  · cases draft with
    | none => rfl
    | some d => exact (statements_closeIf _ _).trans (congrArg ([·]) d.endSlot_statement)
  · rw [hscope]
    cases draft with
    | none => rfl
    | some d => exact (scopeOf_closeIf _ _).trans d.ended_scope.symm
  · cases draft with
    | none => exact hdraft
    | some d =>
        intro d' hd'
        have hhead : d'.head = d.head := by
          rw [step] at hd'
          unfold closeIf at hd'
          split at hd'
          · cases hd'
          · cases hd'
            rfl
        unfold Draft.Lasting
        rw [hhead]
        exact hdraft d rfl

theorem follows_closer (hkind : kind raw = .closer) :
    Follows number raw draft (step number .closer draft) := by
  refine follows_of_same (List.append_nil _) (by rw [placedAt, hkind])
    (by simp [guardAt, guardsLine, hkind]) ?_ (by intro d hd; cases hd)
  rw [Scope.after, hkind]
  rfl

/-- A nested opener is dropped. -/
theorem follows_nested (hkind : kind raw = .guardOpener ∨ kind raw = .dataOpener)
    (hblock : (scopeOf draft).isBlock = true) (hdraft : ∀ d ∈ draft, d.Lasting) (head : Directive) :
    Follows number raw draft (step number (.opener head) draft) := by
  obtain ⟨block, rfl, hfilter⟩ := filter_isBlock_some hblock
  have hstep : step number (.opener head) (some block) = ([], some block) := by
    rw [step, hfilter]
  rw [hstep]
  refine follows_of_same rfl ?_ (by simp [guardAt, hblock]) ?_ hdraft
  · rcases hkind with hkind | hkind <;> rw [placedAt, hkind]
  · rcases hkind with hkind | hkind <;> simp [Scope.after, hkind, hblock]

/-- An opener outside blocks opens one. -/
theorem follows_opened {head : Directive} (hplaced : placedAt number raw (scopeOf draft) = [])
    (hblock : (scopeOf draft).isBlock = false) (hopens : head.symbol.isSingleLine = false)
    (hguards : (Draft.new head number).statement.guard?.toList
      = guardAt number raw (scopeOf draft))
    (hscope : (Draft.new head number).scope = (scopeOf draft).after number raw) :
    Follows number raw draft (step number (.opener head) draft) := by
  have hstep : step number (.opener head) draft = (closeAny draft, some (.new head number)) := by
    rw [step, filter_isBlock_none hblock]
  rw [hstep]
  refine follows_of_start rfl hplaced.symm hguards hscope ?_ ?_
  · intro d hd
    cases hd
    exact hopens
  · intro slot hslot
    cases hslot

theorem follows_opener {head : Directive} (hdraft : ∀ d ∈ draft, d.Lasting)
    (hkind : kind raw = .guardOpener ∧ head.symbol = .ifBlock ∧ head.fields = fields raw
      ∨ kind raw = .dataOpener ∧ head.symbol = .verbatimStart) :
    Follows number raw draft (step number (.opener head) draft) := by
  by_cases hblock : (scopeOf draft).isBlock = true
  · refine follows_nested ?_ hblock hdraft head
    rcases hkind with ⟨hkind, -⟩ | ⟨hkind, -⟩
    · exact .inl hkind
    · exact .inr hkind
  rw [Bool.not_eq_true] at hblock
  rcases hkind with ⟨hkind, hsymbol, hfields⟩ | ⟨hkind, hsymbol⟩
  · -- the question of the block is the one on its line
    refine follows_opened (by rw [placedAt, hkind]) hblock (by rw [hsymbol]; rfl) ?_ ?_
    · simp [Statement.guard?, Statement.role, Draft.statement, Draft.new, guardAt, hkind, hblock,
        hsymbol, hfields]
    · simp [Draft.scope, Statement.role, Draft.statement, Draft.new, Scope.after, hkind, hblock,
        hsymbol]
  · refine follows_opened (by rw [placedAt, hkind]) hblock (by rw [hsymbol]; rfl) ?_ ?_
    · simp [Statement.guard?, Statement.role, Draft.statement, Draft.new, guardAt, guardsLine,
        hkind, hblock, hsymbol]
    · simp [Draft.scope, Statement.role, Draft.statement, Draft.new, Scope.after, hkind, hblock,
        hsymbol]

/-- A draft that stays open after a line has the directive it had. -/
theorem head_pushAndClose {d d' : Draft} {text : Text} {ended : Bool}
    (h : d' ∈ (pushAndClose d text ended).2) :
    d'.head = d.head ∧ (ended && d.endsAtTerminator) = false := by
  unfold pushAndClose closeIf at h
  split at h
  · cases h
  · rename_i hopen
    cases h
    exact ⟨d.head_pushLine text ended, Bool.not_eq_true _ ▸ hopen⟩

theorem follows_command (hkind : kind raw = .command) (hdraft : ∀ d ∈ draft, d.Lasting) :
    Follows number raw draft (step number (.command (stored raw) (isEnded raw)) draft) := by
  have hscope : (draft.getD (.plainSql number)).scope = scopeOf draft := by
    cases draft with
    | none => rfl
    | some d => rfl
  have hlasting : (draft.getD (.plainSql number)).Lasting := by
    cases draft with
    | none => rfl
    | some d => exact hdraft d rfl
  -- the line goes on with what is open, or else it starts plain SQL
  have hopen : draft = some (draft.getD (.plainSql number))
      ∨ draft = none ∧ draft.getD (.plainSql number) = .plainSql number := by
    cases draft with
    | none => exact .inr ⟨rfl, rfl⟩
    | some d => exact .inl rfl
  rw [step]
  refine follows_of_push hopen (statements_pushAndClose _ _ _) ?_
    (by simp [guardAt, guardsLine, hkind]) ?_ ?_
  · rw [placedAt, hkind]
    dsimp only
    rw [placeAt_scope (.inr hkind), ← hscope, Draft.place_scope hlasting]
  · rw [scopeOf_pushAndClose, Scope.after, hkind, ← hscope]
    dsimp only
    cases isEnded raw with
    | false => rfl
    | true => exact (Draft.ended_scope _).symm
  · intro d' hd'
    unfold Draft.Lasting
    rw [(head_pushAndClose hd').1]
    exact hlasting

/-- Inside a block a directive line is text. -/
theorem follows_text (hkind : kind raw = .directive) (hdraft : ∀ d ∈ draft, d.Lasting)
    (hblock : (scopeOf draft).isBlock = true) (head : Directive) (ended : Bool) :
    Follows number raw draft (step number (.directive head (stored raw) ended) draft) := by
  obtain ⟨block, rfl, hfilter⟩ := filter_isBlock_some hblock
  have hstep : step number (.directive head (stored raw) ended) (some block)
      = ([], some (block.pushLine (stored raw) ended)) := by
    rw [step, hfilter]
  have hlasting : block.Lasting := hdraft block rfl
  have hstatements : Step.statements ([], some (block.pushLine (stored raw) ended))
      = [(block.push (stored raw)).statement] :=
    congrArg ([·]) (block.pushLine_statement (stored raw) ended)
  rw [hstep]
  refine follows_of_push (.inl rfl) hstatements ?_ (by simp [guardAt, hblock]) ?_ ?_
  · rw [placedAt, hkind]
    dsimp only
    rw [placeAt_scope (.inl hblock), ← Draft.place_scope hlasting]
    rfl
  · rw [Scope.after, hkind]
    dsimp only
    rw [if_pos hblock]
    exact block.scope_pushLine (stored raw) ended
  · intro d' hd'
    cases hd'
    unfold Draft.Lasting
    rw [block.head_pushLine]
    exact hlasting

/-- What a directive line outside blocks starts. -/
structure Starts (number : Nat) (raw : Text) (head : Directive) : Prop where
  /-- The line stands under its own guard, or is obeyed, or stands free. -/
  place : (Draft.new head number).statement.place =
    if guardsLine raw then .under number
    else if controlWords.contains (word raw) then .control
    else .free
  /-- Only a one-line guard asks a question. -/
  guard : (Draft.new head number).statement.guard? =
    if guardsLine raw then
      some ⟨number, (OneLineGuard.ofFields (fields raw)).object,
        (OneLineGuard.ofFields (fields raw)).name, word raw = "$ine".toList⟩
    else none
  /-- The next line belongs to the guard, if this line is one. -/
  scope : (Draft.new head number).scope = if guardsLine raw then .guarded number else .outside

theorem starts_of_reads {head : Directive} (hfields : head.fields = fields raw)
    (hopens : head.symbol.opensBlock = false)
    (hguards : head.symbol.guardsOneLine = guardsLine raw)
    (hnegated : word raw = "$ine".toList ↔ head.symbol = .ifMissing)
    (hcontrols : controlWords.contains (word raw) = controls head.symbol) :
    Starts number raw head := by
  have hnegated : decide (word raw = "$ine".toList) = decide (head.symbol = .ifMissing) :=
    decide_eq_decide.mpr hnegated
  constructor
  · rw [← hguards, hcontrols]
    unfold Statement.place Statement.role Draft.statement Draft.new
    cases hsymbol : head.symbol <;> first | rfl | (rw [hsymbol] at hopens; cases hopens)
  · rw [← hguards, hnegated, ← hfields]
    unfold Statement.guard? Statement.role Draft.statement Draft.new
    cases hsymbol : head.symbol <;> first | rfl | (rw [hsymbol] at hopens; cases hopens)
  · rw [← hguards]
    unfold Draft.scope Statement.role Draft.statement Draft.new
    cases hsymbol : head.symbol <;> first | rfl | (rw [hsymbol] at hopens; cases hopens)

theorem follows_directive {head : Directive} (hkind : kind raw = .directive)
    (hblock : (scopeOf draft).isBlock = false) (hstarts : Starts number raw head)
    (hguards : head.symbol.guardsOneLine = guardsLine raw) :
    Follows number raw draft (step number
      (.directive head (stored raw) (isEnded raw || head.symbol.isSingleLine)) draft) := by
  generalize hended : (isEnded raw || head.symbol.isSingleLine) = ended
  have hstep : step number (.directive head (stored raw) ended) draft
      = (closeAny draft ++ (pushAndClose (.new head number) (stored raw) ended).1,
          (pushAndClose (.new head number) (stored raw) ended).2) := by
    rw [step, filter_isBlock_none hblock]
  have hstatements := statements_directive (filter_isBlock_none hblock) number head (stored raw)
    ended
  have hfull : (Draft.new head number).statement.Full := by
    intro slot hslot
    cases hslot
  refine follows_of_start hstatements ?_ ?_ ?_ ?_ (Draft.full_push hfull _)
  · rw [Draft.placed_push, hstarts.place, placedAt, hkind]
    dsimp only
    rw [placeAt_outside hblock hkind]
    rfl
  · have hguard := hstarts.guard
    change ((Draft.new head number).statement.guard?).toList = _
    rw [hguard, guardAt]
    cases hline : guardsLine raw <;> simp [hblock, hkind]
  · have hafter : (scopeOf draft).after number raw
        = if guardsLine raw && !isEnded raw then .guarded number else .outside := by
      rw [Scope.after, hkind]
      exact if_neg (by simp [hblock])
    rw [hstep, hafter]
    dsimp only
    rw [scopeOf_pushAndClose, hstarts.scope]
    cases hline : guardsLine raw with
    | false => simp
    | true =>
        -- a one-line guard is open until a terminator, on its line or after it
        rw [hline] at hguards
        have hmore : head.symbol.isSingleLine = false := by
          revert hguards
          cases head.symbol <;> simp [Symbol.guardsOneLine, Symbol.isSingleLine]
        rw [← hended, hmore]
        cases isEnded raw <;> simp [Draft.endsAtTerminator, Draft.new, hguards]
  · intro d hd
    rw [hstep] at hd
    obtain ⟨hhead, hopen⟩ := head_pushAndClose hd
    unfold Draft.Lasting
    rw [hhead]
    cases hsingle : head.symbol.isSingleLine with
    | false => exact hsingle
    | true =>
        -- its own line completes it
        rw [← hended, hsingle] at hopen
        simp [Draft.endsAtTerminator, Draft.new, hsingle] at hopen

/-- **What one line does to the statements is what it adds to the layout.** -/
theorem step_follows {line : Line} (hreads : Reads raw line) (hdraft : ∀ d ∈ draft, d.Lasting) :
    Follows number raw draft (step number line draft) := by
  cases hreads with
  | remark hkind =>
      -- nothing changes, and nothing is added
      have hscope : (scopeOf draft).after number raw = scopeOf draft := by
        rw [Scope.after, hkind]
      exact follows_of_same rfl (by rw [placedAt, hkind]) (by simp [guardAt, guardsLine, hkind])
        hscope.symm hdraft
  | terminator hkind => exact follows_terminator hkind hdraft
  | closer hkind => exact follows_closer hkind
  | guardOpener d hkind hsymbol hfields =>
      exact follows_opener hdraft (.inl ⟨hkind, hsymbol, hfields⟩)
  | dataOpener d hkind hsymbol => exact follows_opener hdraft (.inr ⟨hkind, hsymbol⟩)
  | directive d hkind hfields hopens hguards hnegated hcontrols =>
      -- text inside a block, a statement of its own outside
      by_cases hblock : (scopeOf draft).isBlock = true
      · exact follows_text hkind hdraft hblock d _
      · rw [Bool.not_eq_true] at hblock
        exact follows_directive hkind hblock
          (starts_of_reads hfields hopens hguards hnegated hcontrols) hguards
  | command hkind => exact follows_command hkind hdraft

/-! ## A whole source -/

theorem readLine_ok {raw : Nat × Text} {line : Nat × Line} (h : readLine raw = .ok line) :
    line.1 = raw.1 ∧ Line.ofText raw.2 = .ok line.2 := by
  unfold readLine at h
  cases hread : Line.ofText raw.2 with
  | error word =>
      rw [hread] at h
      cases h
  | ok line =>
      rw [hread] at h
      cases h
      exact ⟨rfl, rfl⟩

theorem readLine_reads {raw : Nat × Text} {line : Nat × Line} (h : readLine raw = .ok line) :
    line.1 = raw.1 ∧ Reads raw.2 line.2 :=
  (readLine_ok h).imp_right ofText_reads

theorem mapM_readLine_cons {raw : Nat × Text} {rest : List (Nat × Text)}
    {lines : List (Nat × Line)} (h : (raw :: rest).mapM readLine = .ok lines) :
    ∃ line later, readLine raw = .ok line ∧ rest.mapM readLine = .ok later
      ∧ lines = line :: later := by
  rw [List.mapM_cons] at h
  cases hfirst : readLine raw with
  | error e =>
      rw [hfirst] at h
      cases h
  | ok line =>
      rw [hfirst] at h
      cases hrest : rest.mapM readLine with
      | error e =>
          rw [hrest] at h
          cases h
      | ok later =>
          rw [hrest] at h
          cases h
          exact ⟨line, later, rfl, rfl, rfl⟩

/-- The statements of a group are those of its first line and those of the rest. -/
theorem statements_group_cons (number : Nat) (line : Line) (rest : List (Nat × Line))
    (draft : Option Draft) :
    (group ((number, line) :: rest) draft).statements
      = (step number line draft).1 ++ (group rest (step number line draft).2).statements := by
  rw [group]
  exact List.append_assoc _ _ _

/-- Lines are grouped on from the draft that the lines before them leave. -/
theorem group_append (earlier later : List (Nat × Line)) (draft : Option Draft) :
    group (earlier ++ later) draft
      = ((group earlier draft).1 ++ (group later (group earlier draft).2).1,
          (group later (group earlier draft).2).2) := by
  induction earlier generalizing draft with
  | nil => rfl
  | cons first rest ih =>
      simp only [List.cons_append, group, ih, List.append_assoc]

/-- What the statements of a group have been made of, line by line. -/
structure Grouped (raws : List (Nat × Text)) (draft : Option Draft) (st : Step) : Prop where
  /-- The lines of the statements are those of the draft, and each further line in its place. -/
  placed : st.statements.flatMap Statement.placed
    = (closeAny draft).flatMap Statement.placed ++ along placedAt raws (scopeOf draft)
  /-- Their questions are those of the draft, and those that stand on further lines. -/
  guards : st.statements.filterMap Statement.guard?
    = (closeAny draft).filterMap Statement.guard? ++ along guardAt raws (scopeOf draft)
  /-- No slot is made without a line. -/
  full : (∀ s ∈ closeAny draft, s.Full) → ∀ s ∈ st.statements, s.Full

theorem group_grouped {raws : List (Nat × Text)} {lines : List (Nat × Line)}
    (hread : raws.mapM readLine = .ok lines) (hdraft : ∀ d ∈ draft, d.Lasting) :
    Grouped raws draft (group lines draft) := by
  induction raws generalizing lines draft with
  | nil =>
      cases hread
      exact ⟨(List.append_nil _).symm, (List.append_nil _).symm, id⟩
  | cons raw rest ih =>
      obtain ⟨⟨n, line⟩, later, hfirst, hrest, rfl⟩ := mapM_readLine_cons hread
      obtain ⟨number, raw⟩ := raw
      obtain ⟨rfl, hreads⟩ := readLine_reads hfirst
      -- what the first line leaves open is the draft of the rest
      have hstep : Follows n raw draft (step n line draft) := step_follows hreads hdraft
      have hgroup := ih hrest hstep.lasting
      constructor
      · rw [statements_group_cons, List.flatMap_append, hgroup.placed, ← List.append_assoc,
          ← List.flatMap_append, hstep.scope]
        exact (congrArg (· ++ _) hstep.placed).trans (List.append_assoc _ _ _)
      · rw [statements_group_cons, List.filterMap_append, hgroup.guards, ← List.append_assoc,
          ← List.filterMap_append, hstep.scope]
        exact (congrArg (· ++ _) hstep.guards).trans (List.append_assoc _ _ _)
      · intro hfull s hs
        have hsofar := hstep.full hfull
        rw [statements_group_cons] at hs
        rcases List.mem_append.mp hs with hdone | hlater
        · exact hsofar s (List.mem_append_left _ hdone)
        · exact hgroup.full (fun s hs => hsofar s (List.mem_append_right _ hs)) s hlater

theorem finish_statements {st : Step} {statements : List Statement}
    (h : finish st = .ok statements) : statements = st.statements := by
  obtain ⟨completed, draft⟩ := st
  cases draft with
  | none =>
      cases h
      exact (List.append_nil _).symm
  | some d =>
      rw [finish] at h
      split at h
      · cases h
      · cases h
        rfl

/-- What has been completed before stands before what is completed at the end. -/
theorem finish_append (completed : List Statement) (st : Step) :
    finish (completed ++ st.1, st.2) = (completed ++ ·) <$> finish st := by
  obtain ⟨later, draft⟩ := st
  cases draft with
  | none => rfl
  | some d =>
      rw [finish, finish]
      split
      · rfl
      · exact congrArg Except.ok (List.append_assoc _ _ _)

variable {source : Text} {statements : List Statement}

/-- A source that is a script has been read line by line, and then grouped. -/
theorem parse_ok (h : parse source = .ok statements) :
    ∃ lines, (numberedLines source).mapM readLine = .ok lines
      ∧ finish (group lines none) = .ok statements := by
  unfold parse at h
  cases hread : (numberedLines source).mapM readLine with
  | error e =>
      rw [hread] at h
      cases h
  | ok lines =>
      rw [hread] at h
      exact ⟨lines, rfl, h⟩

theorem parse_grouped (h : parse source = .ok statements) :
    ∃ st, statements = Step.statements st ∧ Grouped (numberedLines source) none st := by
  obtain ⟨lines, hread, hfinish⟩ := parse_ok h
  exact ⟨_, finish_statements hfinish, group_grouped hread (by intro d hd; cases hd)⟩

/-- **The statements of a script are the layout of its source, cut into pieces.** -/
theorem layout_of_parse (h : parse source = .ok statements) :
    layout source = statements.flatMap Statement.placed := by
  obtain ⟨st, rfl, hgrouped⟩ := parse_grouped h
  exact hgrouped.placed.symm

example : layout "$if exist table a\n$ie drop table b&&\n$fi\n$ine create table c\n(x int)&&".toList
    = [⟨.under 1, "drop table b".toList⟩, ⟨.under 4, "create table c".toList⟩,
        ⟨.under 4, "(x int)".toList⟩] := by decide

/-- **The questions of the statements are those of the source.** -/
theorem guards_of_parse (h : parse source = .ok statements) :
    guards source = statements.filterMap Statement.guard? := by
  obtain ⟨st, rfl, hgrouped⟩ := parse_grouped h
  exact hgrouped.guards.symm

/-- The command of a slot can be taken apart into the lines of the slot. -/
theorem splitOn_command (h : parse source = .ok statements) {s : Statement}
    (hs : s ∈ statements) {slot : Slot} (hslot : slot ∈ s.slots) :
    slot.command.splitOn '\n' = slot := by
  have hfull : slot ≠ [] := by
    obtain ⟨st, rfl, hgrouped⟩ := parse_grouped h
    exact hgrouped.full (by intro s hs; cases hs) s hs slot hslot
  refine List.splitOn_intercalate '\n' ?_ hfull
  intro line hline
  have hplaced : (⟨s.place, line⟩ : Placed) ∈ layout source := by
    rw [layout_of_parse h]
    refine List.mem_flatMap.mpr ⟨s, hs, List.mem_map_of_mem ?_⟩
    exact List.mem_flatten.mpr ⟨slot, hslot, hline⟩
  exact layout_line hplaced

end Script

end MigrationScript
