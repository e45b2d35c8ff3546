import MigrationScript.Proofs.Source.Acceptance

/-!
# Slots by their number

A draft keeps the lines of the slot in progress apart from the finished slots. A statement can also
be put together in one piece: each line is handed to it with the number of the slot it is for, and
the number is counted on where a slot ends. A line for a slot beyond the next would then be lost,
for `Statement.add` does not keep it. None ever is: the number is that of the last slot or of the
next one (`Cursor.Sound`). Every step keeps this and stores the line that it hands over
(`Reader.adds_step`), and so all lines are stored (`Reader.adds_run`).

Both ways give the same statements. A draft is a cursor behind its finished slots, and a step takes
the one as it takes the other (`Reader.step_of`).
-/

namespace MigrationScript.Script

/-- A statement in progress, with the number of the slot that its next line goes to. -/
structure Cursor where
  statement : Statement
  slot : Nat

namespace Cursor

/-- A statement without any text yet. -/
def new (head : Directive) (line : Nat) : Cursor :=
  ⟨⟨head.symbol, head.key, head.fields, [], line⟩, 0⟩

/-- Plain SQL without any text yet. -/
def plainSql (line : Nat) : Cursor := ⟨Statement.plainSql line, 0⟩

/-- Whether only a closer ends the statement. -/
def isBlock (c : Cursor) : Bool := c.statement.symbol.opensBlock

/-- Hands a line to the statement. -/
def add (c : Cursor) (text : Text) : Cursor :=
  { c with statement := c.statement.add c.slot text }

/-- Goes on to the next slot, if the one in progress has been made. -/
def advance (c : Cursor) : Cursor :=
  if c.slot < c.statement.slots.length then { c with slot := c.slot + 1 } else c

/-- Whether the end of a slot completes the statement. `single` says that a directive which takes a
single line has ended the slot. -/
def completes (c : Cursor) (single : Bool) : Bool :=
  !c.isBlock && (single || c.statement.symbol = .sql || c.statement.symbol.guardsOneLine)

end Cursor

/-- The statements that have been read, and the one in progress. -/
structure Reader where
  completed : List Statement
  opened : Option Cursor

namespace Reader

/-- A reader that has read nothing. -/
def start : Reader := ⟨[], none⟩

/-- Completes whatever is open. -/
def close (r : Reader) : Reader := ⟨r.completed ++ r.opened.toList.map Cursor.statement, none⟩

/-- Completes whatever is open, unless it is a block. -/
def interrupt (r : Reader) : Reader := if r.opened.any Cursor.isBlock then r else r.close

/-- Goes on with what is open, or else with another statement. -/
def ensure (r : Reader) (c : Cursor) : Reader := { r with opened := r.opened.or (some c) }

/-- Finishes the slot in progress. -/
def endSlot (r : Reader) (single : Bool) : Reader :=
  let next : Reader := { r with opened := r.opened.map Cursor.advance }
  if r.opened.any (·.completes single) then next.close else next

/-- Hands a line to the statement in progress, and finishes the slot if the line ends it. -/
def take (r : Reader) (text : Text) (ended single : Bool) : Reader :=
  let next : Reader := { r with opened := r.opened.map (·.add text) }
  if ended then next.endSlot single else next

/-- What a line makes of what has been read. -/
def step (r : Reader) (number : Nat) : Line → Reader
  | .blank => r
  | .terminator => r.endSlot false
  | .closer => r.close
  | .opener head => r.interrupt.ensure (.new head number)
  | .directive head text ended =>
    (r.interrupt.ensure (.new head number)).take text ended head.symbol.isSingleLine
  | .command text ended => (r.ensure (.plainSql number)).take text ended false

/-- What is read from numbered lines. -/
def run (lines : List (Nat × Line)) : Reader :=
  lines.foldl (fun r line => r.step line.1 line.2) start

end Reader

/-! ## No line is lost -/

/-- The slot in progress is the last one, or the next one to be made, and no slot is without a
line. -/
structure Cursor.Sound (c : Cursor) : Prop where
  /-- All slots before the one in progress have been made. -/
  slot_le : c.slot ≤ c.statement.slots.length
  /-- No slot after it has been made. -/
  length_le : c.statement.slots.length ≤ c.slot + 1
  /-- No slot is without a line. -/
  full : c.statement.Full

namespace Cursor

variable {c : Cursor}

/-- A line goes to the slot in progress. If there is none, it starts the next slot. -/
theorem Sound.slots_add (h : c.Sound) (text : Text) :
    ∃ (done : List Slot) (last : Option Slot), c.slot = done.length
      ∧ c.statement.slots = done ++ last.toList
      ∧ (c.add text).statement.slots = done ++ [last.getD [] ++ [text]] := by
  rcases h.slot_le.eq_or_lt with hnext | hlast
  · -- the slot has not been made yet
    refine ⟨c.statement.slots, none, hnext, (List.append_nil _).symm, ?_⟩
    rw [add, hnext]
    exact c.statement.slots_add_new text
  · rcases List.eq_nil_or_concat c.statement.slots with hnil | ⟨done, last, hslots⟩
    · rw [hnil] at hlast
      cases hlast
    rw [List.concat_eq_append] at hslots
    have hlength := h.length_le
    have hslot : c.slot = done.length := by
      rw [hslots, List.length_append, List.length_singleton] at hlast hlength
      omega
    refine ⟨done, some last, hslot, hslots, ?_⟩
    rw [add, hslot]
    exact Statement.slots_add_last hslots text

/-- **A line that is handed over is stored.** -/
theorem Sound.lines_add (h : c.Sound) (text : Text) :
    (c.add text).statement.lines = c.statement.lines ++ [text] := by
  obtain ⟨done, last, -, hslots, hadd⟩ := h.slots_add text
  rw [Statement.lines, Statement.lines, hadd, hslots]
  cases last <;> simp

theorem sound_new (head : Directive) (line : Nat) : (new head line).Sound where
  slot_le := le_rfl
  length_le := Nat.zero_le _
  full := List.forall_mem_nil _

theorem sound_plainSql (line : Nat) : (plainSql line).Sound where
  slot_le := le_rfl
  length_le := Nat.zero_le _
  full := List.forall_mem_nil _

theorem Sound.add (h : c.Sound) (text : Text) : (c.add text).Sound := by
  obtain ⟨done, last, hslot, hslots, hadd⟩ := h.slots_add text
  have hlength : (c.add text).statement.slots.length = c.slot + 1 := by
    rw [hadd, hslot, List.length_append]
    rfl
  have hdone : ∀ slot ∈ done, slot ≠ [] := fun slot hmem =>
    h.full slot (hslots ▸ List.mem_append_left _ hmem)
  refine ⟨hlength.symm ▸ Nat.le_succ _, hlength.le, ?_⟩
  rw [Statement.Full, hadd]
  exact List.forall_mem_append.mpr ⟨hdone, by simp⟩

theorem statement_advance (c : Cursor) : c.advance.statement = c.statement := by
  unfold advance
  split <;> rfl

theorem Sound.advance (h : c.Sound) : c.advance.Sound := by
  unfold Cursor.advance
  split
  · exact ⟨‹_›, Nat.le_succ_of_le h.length_le, h.full⟩
  · exact h

end Cursor

/-- The text that a line hands to a statement, if it is more than a mark. -/
def Line.text? : Line → Option Text
  | .directive _ text _ => some text
  | .command text _ => some text
  | _ => none

namespace Reader

variable {r : Reader}

/-- The lines of all statements so far. -/
def lines (r : Reader) : List Text :=
  (r.completed ++ r.opened.toList.map Cursor.statement).flatMap Statement.lines

/-- Whatever is open is sound. -/
def Sound (r : Reader) : Prop := ∀ c ∈ r.opened, c.Sound

/-- A reader that is as sound as another, with some more lines. -/
structure Adds (r r' : Reader) (texts : List Text) : Prop where
  sound : r'.Sound
  lines : r'.lines = r.lines ++ texts

theorem adds_refl (h : r.Sound) : r.Adds r [] := ⟨h, (List.append_nil _).symm⟩

theorem Adds.trans {r' r'' : Reader} {texts texts' : List Text} (h : r.Adds r' texts)
    (h' : r'.Adds r'' texts') : r.Adds r'' (texts ++ texts') :=
  ⟨h'.sound, by rw [h'.lines, h.lines, List.append_assoc]⟩

theorem adds_close (r : Reader) : r.Adds r.close [] where
  sound := by rintro c ⟨⟩
  lines := by simp [Reader.lines, close]

theorem adds_interrupt (h : r.Sound) : r.Adds r.interrupt [] := by
  unfold interrupt
  split
  · exact adds_refl h
  · exact adds_close r

theorem adds_ensure (h : r.Sound) {c : Cursor} (hc : c.Sound) (hnone : c.statement.lines = []) :
    r.Adds (r.ensure c) [] := by
  obtain ⟨completed, opened⟩ := r
  cases opened with
  | none =>
      constructor
      · rintro _ ⟨⟩
        exact hc
      · simp [Reader.lines, ensure, hnone]
  | some c => exact adds_refl h

theorem adds_endSlot (h : r.Sound) (single : Bool) : r.Adds (r.endSlot single) [] := by
  have hnext : r.Adds { r with opened := r.opened.map Cursor.advance } [] := by
    obtain ⟨completed, opened⟩ := r
    cases opened with
    | none => exact adds_refl h
    | some c =>
        constructor
        · rintro _ ⟨⟩
          exact (h c rfl).advance
        · simp [Reader.lines, Cursor.statement_advance]
  unfold endSlot
  dsimp only
  split
  · exact hnext.trans (adds_close _)
  · exact hnext

theorem adds_take (h : r.Sound) (hopened : r.opened.isSome = true) (text : Text)
    (ended single : Bool) : r.Adds (r.take text ended single) [text] := by
  have hnext : r.Adds { r with opened := r.opened.map (·.add text) } [text] := by
    obtain ⟨completed, opened⟩ := r
    cases opened with
    | none => cases hopened
    | some c =>
        constructor
        · rintro _ ⟨⟩
          exact (h c rfl).add text
        · simp [Reader.lines, (h c rfl).lines_add]
  unfold take
  dsimp only
  split
  · exact hnext.trans (adds_endSlot hnext.sound single)
  · exact hnext

theorem isSome_ensure (r : Reader) (c : Cursor) : (r.ensure c).opened.isSome = true := by
  unfold ensure
  cases r.opened <;> rfl

/-- **A step stores the line that it hands over, if it hands over one.** -/
theorem adds_step (h : r.Sound) (number : Nat) (line : Line) :
    r.Adds (r.step number line) line.text?.toList := by
  have hdirective (head : Directive) : r.Adds (r.interrupt.ensure (.new head number)) [] :=
    (adds_interrupt h).trans
      (adds_ensure (adds_interrupt h).sound (Cursor.sound_new head number) rfl)
  cases line with
  | blank => exact adds_refl h
  | terminator => exact adds_endSlot h false
  | closer => exact adds_close r
  | opener head => exact hdirective head
  | directive head text ended =>
      exact (hdirective head).trans
        (adds_take (hdirective head).sound (isSome_ensure _ _) text ended _)
  | command text ended =>
      have hplain := adds_ensure h (Cursor.sound_plainSql number) rfl
      exact hplain.trans (adds_take hplain.sound (isSome_ensure _ _) text ended false)

theorem adds_foldl (h : r.Sound) (lines : List (Nat × Line)) :
    r.Adds (lines.foldl (fun r line => r.step line.1 line.2) r)
      (lines.filterMap fun line => line.2.text?) := by
  induction lines generalizing r with
  | nil => exact adds_refl h
  | cons line rest ih =>
      have hstep := adds_step h line.1 line.2
      have hall := hstep.trans (ih hstep.sound)
      rw [List.filterMap_cons]
      cases htext : line.2.text? with
      | none => simpa [htext] using hall
      | some text => simpa [htext] using hall

/-- **After any lines the slot in progress is sound, and every line that was handed over is
stored.** -/
theorem adds_run (lines : List (Nat × Line)) :
    start.Adds (run lines) (lines.filterMap fun line => line.2.text?) :=
  adds_foldl (by rintro c ⟨⟩) lines

end Reader

/-! ## Drafts as cursors -/

/-- A draft as a cursor behind its finished slots. -/
def Draft.cursor (d : Draft) : Cursor := ⟨d.statement, d.finished.length⟩

namespace Draft

theorem cursor_push (d : Draft) (text : Text) : (d.push text).cursor = d.cursor.add text := by
  rw [cursor, statement_push]
  rfl

theorem cursor_endSlot (d : Draft) : d.endSlot.cursor = d.cursor.advance := by
  have hslots : d.statement.slots = d.slots := rfl
  rw [cursor, endSlot_statement, Cursor.advance]
  unfold cursor
  dsimp only
  rw [hslots]
  unfold endSlot slots
  cases d.current <;> simp

/-- The end of a slot completes the cursor if it completes the draft. -/
theorem completes_cursor {d : Draft} {single : Bool}
    (hsingle : d.isBlock = false → single = d.head.symbol.isSingleLine) :
    d.cursor.completes single = d.endsAtTerminator := by
  have hsame : d.cursor.isBlock = d.isBlock := rfl
  unfold Cursor.completes
  rw [hsame]
  cases hblock : d.isBlock with
  | true =>
      cases hends : d.endsAtTerminator with
      | false => rfl
      | true =>
          rw [isBlock_of_endsAtTerminator hends] at hblock
          cases hblock
  | false =>
      rw [hsingle hblock]
      unfold endsAtTerminator cursor statement
      cases d.head.symbol <;> rfl

/-- A terminator leaves a block open. -/
theorem pushAndClose_of_isBlock {d : Draft} (hblock : d.isBlock = true) (text : Text)
    (ended : Bool) : pushAndClose d text ended = ([], some (d.pushLine text ended)) := by
  have hopen : d.endsAtTerminator = false :=
    Bool.eq_false_iff.mpr fun hends => by
      rw [isBlock_of_endsAtTerminator hends] at hblock
      cases hblock
  rw [pushAndClose, hopen, Bool.and_false]
  rfl

end Draft

namespace Reader

/-- What has been read, with the draft as a cursor. -/
def of (st : Step) : Reader := ⟨st.1, st.2.map Draft.cursor⟩

variable {done : List Statement} {draft : Option Draft} {d : Draft}

theorem of_close (done : List Statement) (draft : Option Draft) :
    (of (done, draft)).close = of (done ++ closeAny draft, none) := by
  cases draft <;> rfl

theorem of_endSlot {single : Bool}
    (hsingle : d.isBlock = false → single = d.head.symbol.isSingleLine) :
    (of (done, some d)).endSlot single
      = of (done ++ (closeIf d.endsAtTerminator d.endSlot).1,
          (closeIf d.endsAtTerminator d.endSlot).2) := by
  have hopened : (of (done, some d)).opened = some d.cursor := rfl
  rw [endSlot, hopened, Option.any_some, Draft.completes_cursor hsingle, Option.map_some,
    ← Draft.cursor_endSlot]
  cases d.endsAtTerminator with
  | true => exact of_close done (some d.endSlot)
  | false => exact congrArg (Reader.mk · _) (List.append_nil done).symm

theorem of_take (done : List Statement) (text : Text) (ended : Bool) {single : Bool}
    (hsingle : d.isBlock = false → single = d.head.symbol.isSingleLine) :
    (of (done, some d)).take text ended single
      = of (done ++ (pushAndClose d text ended).1, (pushAndClose d text ended).2) := by
  have hopened : (of (done, some d)).opened = some d.cursor := rfl
  rw [take, hopened, Option.map_some, ← Draft.cursor_push]
  cases ended with
  | false => exact congrArg (Reader.mk · _) (List.append_nil done).symm
  | true => exact of_endSlot (d := d.push text) hsingle

theorem of_interrupt (h : draft.filter Draft.isBlock = none) :
    (of (done, draft)).interrupt = of (done ++ closeAny draft, none) := by
  have hopened : (of (done, draft)).opened.any Cursor.isBlock = false := by
    cases draft with
    | none => rfl
    | some d =>
        have hblock : ¬ d.isBlock = true := fun hblock => by
          rw [Option.filter_some, if_pos hblock] at h
          cases h
        exact Bool.eq_false_iff.mpr hblock
  rw [interrupt, hopened]
  exact of_close done draft

theorem of_interrupt_block {block : Draft} (h : block.isBlock = true) :
    (of (done, some block)).interrupt = of (done, some block) := if_pos h

theorem of_unchanged (done : List Statement) (draft : Option Draft) :
    of (done, draft) = of (done ++ [], draft) := by
  rw [List.append_nil]

/-- **A step takes a cursor as it takes a draft.** -/
theorem step_of (hlasting : ∀ d ∈ draft, d.Lasting) (number : Nat) (line : Line) :
    (of (done, draft)).step number line
      = of (done ++ (Script.step number line draft).1, (Script.step number line draft).2) := by
  cases line with
  | blank => exact of_unchanged done draft
  | terminator =>
      cases draft with
      | none => exact of_unchanged done none
      | some d => exact of_endSlot fun _ => (hlasting d rfl).symm
  | closer => exact of_close done draft
  | opener head =>
      rcases step_opener_cases number head draft with
        ⟨hfilter, hstep⟩ | ⟨block, rfl, hblock, hstep⟩
      · rw [hstep, step, of_interrupt hfilter]
        rfl
      · rw [hstep, step, of_interrupt_block hblock]
        exact of_unchanged done (some block)
  | directive head text ended =>
      rcases step_directive_cases number head text ended draft with
        ⟨hfilter, hstep⟩ | ⟨block, rfl, hblock, hstep⟩
      · -- the new statement completes what is open, and then takes the line
        have htake := of_take (d := .new head number) (done ++ closeAny draft) text ended
          fun _ => rfl
        rw [List.append_assoc] at htake
        rw [hstep, step, of_interrupt hfilter]
        exact htake
      · -- the block is left open, so it does not matter that the line belongs to another directive
        have hclosed : block.isBlock = false → head.symbol.isSingleLine
            = block.head.symbol.isSingleLine := fun hopen => by
          rw [hblock] at hopen
          cases hopen
        have htake := of_take done text ended hclosed
        rw [Draft.pushAndClose_of_isBlock hblock] at htake
        rw [hstep, step, of_interrupt_block hblock]
        exact htake
  | command text ended =>
      have hopened : (of (done, draft)).ensure (.plainSql number)
          = of (done, some (draft.getD (.plainSql number))) := by
        cases draft <;> rfl
      have hopen : (draft.getD (.plainSql number)).Lasting := by
        cases draft with
        | none => rfl
        | some d => exact hlasting d rfl
      rw [step, hopened]
      exact of_take done text ended fun _ => hopen.symm

theorem foldl_of (done : List Statement) (draft : Option Draft) {raws : List (Nat × Text)}
    {lines : List (Nat × Line)} (hread : raws.mapM readLine = .ok lines)
    (hlasting : ∀ d ∈ draft, d.Lasting) :
    lines.foldl (fun r line => r.step line.1 line.2) (of (done, draft))
      = of (done ++ (group lines draft).1, (group lines draft).2) := by
  -- a draft of a directive that takes a single line is never left open, and lines that were read
  -- keep this
  induction raws generalizing lines draft done with
  | nil =>
      cases hread
      exact of_unchanged done draft
  | cons raw rest ih =>
      obtain ⟨⟨n, line⟩, later, hfirst, hrest, rfl⟩ := mapM_readLine_cons hread
      have hfollows : Follows n raw.2 draft (Script.step n line draft) :=
        step_follows (readLine_reads hfirst).2 hlasting
      rw [List.foldl_cons, step_of hlasting, ih _ _ hrest hfollows.lasting, List.append_assoc]
      rfl

/-- **Reading with a cursor is reading with a draft.** -/
theorem run_eq {raws : List (Nat × Text)} {lines : List (Nat × Line)}
    (hread : raws.mapM readLine = .ok lines) : run lines = of (group lines none) :=
  foldl_of [] none hread (by rintro d ⟨⟩)

end Reader

end MigrationScript.Script
