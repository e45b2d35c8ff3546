import MigrationScript.Proofs.Source.Block
import MigrationScript.Proofs.Source.Cursor

/-!
# The shape of a statement

Each statement of a script stems from one line, the one that opened it, and what slots it has
depends on that line (`Statement.Shaped`): plain SQL and one-line guards have one slot, a directive
that takes a single line has that line alone, `$exit` and `$drop` go on after their line, and only
blocks may be without a slot. There are no other statements.

A draft has the shape already, but for the single lines, which are never left open. A step keeps
this (`step_stems`), and it opens no more than one statement, with the number of its line
(`lines_step`).
-/

namespace MigrationScript

open Source

namespace Source

variable {raw : Text} {d : Directive}

theorem directives_grouped : ∀ entry ∈ Keyword.directiveEntries ++ Keyword.sharedEntries,
    entry.spelling.toList.head? = some '$' → entry.symbol.opensBlock = true
      ∨ entry.symbol.closesBlock = true ∨ entry.symbol.guardsOneLine = true
      ∨ entry.symbol.isSingleLine = true ∨ entry.symbol = .exit ∨ entry.symbol = .drop := by
  decide

/-- The directives that are no blocks: guards, those that take a single line, and two more. -/
theorem Leads.symbol_cases (h : Leads raw d) (hopens : d.symbol.opensBlock = false)
    (hcloses : d.symbol.closesBlock = false) : d.symbol.guardsOneLine = true
      ∨ d.symbol.isSingleLine = true ∨ d.symbol = .exit ∨ d.symbol = .drop := by
  obtain ⟨entry, hmem, -, hsymbol, hdollar⟩ := h.entry
  have hgroup := directives_grouped entry hmem hdollar
  rw [hsymbol, hopens, hcloses] at hgroup
  simpa using hgroup

end Source

/-! ## Shapes -/

/-- The directive of a statement. -/
def Statement.head (s : Statement) : Directive := ⟨s.symbol, s.key, s.fields⟩

/-- A statement by the line that opened it. -/
inductive Statement.Shaped (raw : Text) (s : Statement) : Prop where
  /-- Plain SQL has one slot, and it starts with the line. -/
  | plain (more : Slot) (hkind : kind raw = .command) (hsymbol : s.symbol = .sql)
      (hslots : s.slots = [body raw :: more])
  /-- A one-line guard has one slot, and it starts with the command on the line. -/
  | guarded (more : Slot) (hleads : Leads raw s.head)
      (hsymbol : s.symbol = .ifExists ∨ s.symbol = .ifMissing)
      (hslots : s.slots = [Lexeme.dropLeadingWord (body raw) :: more])
  /-- A directive that takes a single line has one slot, which is the line. -/
  | single (hleads : Leads raw s.head) (hsymbol : s.symbol.isSingleLine = true)
      (hcloses : s.symbol.closesBlock = false) (hslots : s.slots = [[body raw]])
  /-- A directive that goes on after its line has that line first. -/
  | lasting (more : Slot) (later : List Slot) (hleads : Leads raw s.head)
      (hsymbol : s.symbol = .exit ∨ s.symbol = .drop)
      (hslots : s.slots = (body raw :: more) :: later)
  /-- A block does not hold the line that opened it, and may hold nothing at all. -/
  | block (hleads : Leads raw s.head) (hsymbol : s.symbol = .ifBlock ∨ s.symbol = .verbatimStart)

/-- Whether one of the numbered lines gave a statement its shape. -/
def Statement.Stems (raws : List (Nat × Text)) (s : Statement) : Prop :=
  ∃ raw, (s.line, raw) ∈ raws ∧ s.Shaped raw

namespace Script

/-- A draft that stays open, by the line that opened it. -/
structure Draft.Begun (raw : Text) (d : Draft) : Prop where
  /-- What has been read has the shape of the statement. -/
  shaped : d.statement.Shaped raw
  /-- It is no directive that takes a single line. -/
  lasting : d.Lasting
  /-- Where a terminator completes the statement, no slot is finished before. -/
  undivided : d.endsAtTerminator = true → d.finished = []

/-- Whether one of the numbered lines began a draft. -/
def Draft.Stems (raws : List (Nat × Text)) (d : Draft) : Prop :=
  ∃ raw, (d.line, raw) ∈ raws ∧ d.Begun raw

namespace Draft

variable {raw : Text} {d : Draft}

/-- A further line leaves the first as it is. -/
theorem slots_push_first {first : Text} {more : Slot} {later : List Slot}
    (h : d.slots = (first :: more) :: later) (text : Text) :
    ∃ more' later', (d.push text).slots = (first :: more') :: later'
      ∧ (d.finished = [] → later' = []) := by
  have hpush : (d.push text).slots = d.finished ++ [d.current ++ [text]] := by
    simp [slots, push]
  rw [slots] at h
  cases hfinished : d.finished with
  | nil =>
      rw [hfinished, List.nil_append] at h
      split at h
      · cases h
      · rw [hpush, hfinished, (List.cons.inj h).1]
        exact ⟨more ++ [text], [], rfl, fun _ => rfl⟩
  | cons slot rest =>
      rw [hfinished] at h
      rw [hpush, hfinished, (List.cons.inj h).1]
      exact ⟨more, rest ++ [d.current ++ [text]], rfl,
        fun hnil => absurd hnil (List.cons_ne_nil _ _)⟩

/-- **A further line keeps the shape of a statement.** -/
theorem shaped_push (h : d.Begun raw) (text : Text) : (d.push text).statement.Shaped raw := by
  -- a statement that a terminator completes is still in its first slot
  have hundivided {first : Text} {more : Slot} (hends : d.endsAtTerminator = true)
      (hslots : d.slots = [first :: more]) :
      ∃ more', (d.push text).slots = [first :: more'] := by
    obtain ⟨more', later', hpush, hnone⟩ := slots_push_first hslots text
    rw [hnone (h.undivided hends)] at hpush
    exact ⟨more', hpush⟩
  cases h.shaped with
  | plain more hkind hsymbol hslots =>
      have hsymbol : d.head.symbol = .sql := hsymbol
      obtain ⟨more', hpush⟩ := hundivided (by simp [endsAtTerminator, hsymbol]) hslots
      exact .plain more' hkind hsymbol hpush
  | guarded more hleads hsymbol hslots =>
      have hguards : d.head.symbol.guardsOneLine = true := by
        rcases hsymbol with hsymbol | hsymbol <;> exact congrArg Symbol.guardsOneLine hsymbol
      obtain ⟨more', hpush⟩ := hundivided (by simp [endsAtTerminator, hguards]) hslots
      exact .guarded more' hleads hsymbol hpush
  | single _ hsymbol _ _ =>
      -- it has been completed by its own line
      exact absurd (hsymbol.symm.trans h.lasting) Bool.noConfusion
  | lasting more later hleads hsymbol hslots =>
      obtain ⟨more', later', hpush, -⟩ := slots_push_first hslots text
      exact .lasting more' later' hleads hsymbol hpush
  | block hleads hsymbol => exact .block hleads hsymbol

/-- A draft of a block is begun by its opener. -/
theorem begun_opener {head : Directive} (hleads : Leads raw head)
    (hsymbol : head.symbol = .ifBlock ∨ head.symbol = .verbatimStart) (number : Nat) :
    (new head number).Begun raw where
  shaped := .block hleads hsymbol
  lasting := by
    rcases hsymbol with hsymbol | hsymbol <;> exact congrArg Symbol.isSingleLine hsymbol
  undivided _ := rfl

/-- The line of a directive that is no block gives its statement the shape. -/
theorem shaped_new {head : Directive} (hleads : Leads raw head)
    (hopens : head.symbol.opensBlock = false) (hcloses : head.symbol.closesBlock = false)
    (hguards : head.symbol.guardsOneLine = guardsLine raw) (number : Nat) :
    ((new head number).push (stored raw)).statement.Shaped raw := by
  have hslots : ((new head number).push (stored raw)).statement.slots = [[stored raw]] := rfl
  have hbody (hline : head.symbol.guardsOneLine = false) : stored raw = body raw := by
    rw [stored, ← hguards, hline, if_neg Bool.false_ne_true]
  rcases hleads.symbol_cases hopens hcloses with hguard | hsingle | hlasting
  · have hsymbol : head.symbol = .ifExists ∨ head.symbol = .ifMissing := by
      revert hguard
      cases head.symbol <;> simp [Symbol.guardsOneLine]
    rw [stored, ← hguards, hguard, if_pos rfl] at hslots ⊢
    exact .guarded [] hleads hsymbol hslots
  · have hline : head.symbol.guardsOneLine = false := by
      revert hsingle
      cases head.symbol <;> simp [Symbol.guardsOneLine, Symbol.isSingleLine]
    rw [hbody hline] at hslots ⊢
    exact .single hleads hsingle hcloses hslots
  · have hline : head.symbol.guardsOneLine = false := by
      rcases hlasting with hsymbol | hsymbol <;> exact congrArg Symbol.guardsOneLine hsymbol
    rw [hbody hline] at hslots ⊢
    exact .lasting [] [] hleads hlasting hslots

end Draft

/-! ## One step -/

/-- What a step completes, and what it leaves open. -/
structure Step.Stems (raws : List (Nat × Text)) (st : Step) : Prop where
  completed : ∀ s ∈ st.1, s.Stems raws
  draft : ∀ d ∈ st.2, d.Stems raws

variable {raws : List (Nat × Text)} {number : Nat} {raw : Text} {line : Line}
  {draft : Option Draft}

theorem closeAny_stems (hdraft : ∀ d ∈ draft, d.Stems raws) :
    ∀ s ∈ closeAny draft, s.Stems raws := by
  intro s hs
  obtain ⟨d, hd, rfl⟩ := List.mem_map.mp hs
  obtain ⟨raw, hraw, hbegun⟩ := hdraft d (Option.mem_toList.mp hd)
  exact ⟨raw, hraw, hbegun.shaped⟩

theorem stems_completed {statements : List Statement} (h : ∀ s ∈ statements, s.Stems raws) :
    Step.Stems raws (statements, none) := by
  refine ⟨h, fun d hd => ?_⟩
  cases hd

theorem stems_open (hdraft : ∀ d ∈ draft, d.Stems raws) : Step.Stems raws ([], draft) :=
  ⟨List.forall_mem_nil _, hdraft⟩

/-- A statement is completed or stays open with the shape that it has. -/
theorem closeIf_stems {complete : Bool} {d : Draft} (hraw : (d.line, raw) ∈ raws)
    (hshaped : d.statement.Shaped raw) (hopen : complete = false → d.Begun raw) :
    Step.Stems raws (closeIf complete d) := by
  cases complete with
  | true =>
      refine stems_completed fun s hs => ?_
      rw [List.mem_singleton.mp hs]
      exact ⟨raw, hraw, hshaped⟩
  | false =>
      refine stems_open ?_
      rintro _ ⟨⟩
      exact ⟨raw, hraw, hopen rfl⟩

theorem pushAndClose_stems {d : Draft} {text : Text} {ended : Bool} (hraw : (d.line, raw) ∈ raws)
    (hshaped : (d.push text).statement.Shaped raw)
    (hundivided : d.endsAtTerminator = true → d.finished = [])
    (hsingle : d.head.symbol.isSingleLine = true → ended = true) :
    Step.Stems raws (pushAndClose d text ended) := by
  have hsame : (d.pushLine text ended).statement.Shaped raw := by
    rwa [Draft.pushLine_statement]
  refine closeIf_stems (by rwa [Draft.line_pushLine]) hsame fun hopen => ⟨hsame, ?_, ?_⟩
  · -- a directive that takes a single line is completed by it
    unfold Draft.Lasting
    rw [Draft.head_pushLine, Bool.eq_false_iff]
    intro hline
    rw [hsingle hline] at hopen
    simp [Draft.endsAtTerminator, hline] at hopen
  · intro hends
    rw [Draft.endsAtTerminator, Draft.head_pushLine] at hends
    have hends : d.endsAtTerminator = true := hends
    rw [hends, Bool.and_true] at hopen
    rw [hopen]
    exact hundivided hends

/-- A line that goes to an open statement. -/
theorem Draft.Stems.pushAndClose {d : Draft} (h : d.Stems raws) (text : Text) (ended : Bool) :
    Step.Stems raws (pushAndClose d text ended) := by
  obtain ⟨raw, hraw, hbegun⟩ := h
  refine pushAndClose_stems hraw (Draft.shaped_push hbegun text) hbegun.undivided fun hsingle => ?_
  exact absurd (hsingle.symm.trans hbegun.lasting) Bool.noConfusion

theorem terminator_stems (hdraft : ∀ d ∈ draft, d.Stems raws) :
    Step.Stems raws (step number .terminator draft) := by
  cases draft with
  | none => exact stems_open hdraft
  | some d =>
      obtain ⟨raw, hraw, hbegun⟩ := hdraft d rfl
      have hsame : d.endSlot.statement.Shaped raw := d.endSlot_statement.symm ▸ hbegun.shaped
      refine closeIf_stems hraw hsame fun hopen => ⟨hsame, hbegun.lasting, fun hends => ?_⟩
      exact absurd (hends.symm.trans hopen) Bool.noConfusion

theorem opener_stems {head : Directive} (hraw : (number, raw) ∈ raws) (hleads : Leads raw head)
    (hsymbol : head.symbol = .ifBlock ∨ head.symbol = .verbatimStart)
    (hdraft : ∀ d ∈ draft, d.Stems raws) :
    Step.Stems raws (step number (.opener head) draft) := by
  rcases step_opener_cases number head draft with ⟨-, hstep⟩ | ⟨block, rfl, -, hstep⟩
  · rw [hstep]
    refine ⟨closeAny_stems hdraft, ?_⟩
    rintro _ ⟨⟩
    exact ⟨raw, hraw, Draft.begun_opener hleads hsymbol number⟩
  · rw [hstep]
    exact stems_open hdraft

/-- **A step gives every statement the shape of the line that opened it.** -/
theorem step_stems (hraw : (number, raw) ∈ raws) (h : Line.ofText raw = .ok line)
    (hdraft : ∀ d ∈ draft, d.Stems raws) : Step.Stems raws (step number line draft) := by
  cases ofText_reads h with
  | remark _ => exact stems_open hdraft
  | terminator _ => exact terminator_stems hdraft
  | closer _ => exact stems_completed (closeAny_stems hdraft)
  | guardOpener d _ hsymbol _ =>
      exact opener_stems hraw (leads_of_opener h) (.inl hsymbol) hdraft
  | dataOpener d _ hsymbol =>
      exact opener_stems hraw (leads_of_opener h) (.inr hsymbol) hdraft
  | directive d hkind _ hopens hguards _ _ =>
      obtain ⟨hleads, hcloses⟩ := leads_of_directive h hkind
      rcases step_directive_cases number d (stored raw) (isEnded raw || d.symbol.isSingleLine) draft
        with ⟨-, hstep⟩ | ⟨block, rfl, hblock, hstep⟩
      · -- the line is the first of a statement of its own
        have hown : Step.Stems raws (pushAndClose (.new d number) (stored raw)
            (isEnded raw || d.symbol.isSingleLine)) :=
          pushAndClose_stems hraw (Draft.shaped_new hleads hopens hcloses hguards number)
            (fun _ => rfl) fun hsingle => Bool.or_eq_true_iff.mpr (.inr hsingle)
        rw [hstep]
        exact ⟨List.forall_mem_append.mpr ⟨closeAny_stems hdraft, hown.completed⟩, hown.draft⟩
      · -- inside a block it is text
        rw [hstep, ← Draft.pushAndClose_of_isBlock hblock]
        exact (hdraft block rfl).pushAndClose _ _
  | command hkind =>
      cases draft with
      | none =>
          have hshaped : ((Draft.plainSql number).push (stored raw)).statement.Shaped raw := by
            rw [stored_of_command hkind]
            exact .plain [] hkind rfl rfl
          exact pushAndClose_stems hraw hshaped (fun _ => rfl) Bool.noConfusion
      | some d => exact (hdraft d rfl).pushAndClose _ _

/-! ## The numbers of the statements -/

/-- A step opens at most one statement, and numbers it. -/
theorem lines_step (number : Nat) (line : Line) (draft : Option Draft) :
    ∃ opened, opened.Sublist [number]
      ∧ (step number line draft).statements.map Statement.line
        = (closeAny draft).map Statement.line ++ opened := by
  have hsame {st : Step} (h : st.statements.map Statement.line
      = (closeAny draft).map Statement.line) :
      ∃ opened, opened.Sublist [number] ∧ st.statements.map Statement.line
        = (closeAny draft).map Statement.line ++ opened :=
    ⟨[], List.nil_sublist _, by rw [h, List.append_nil]⟩
  -- a statement that the line opens comes after what was open
  have hnew {st : Step} {s : Statement} (hline : s.line = number)
      (h : st.statements = closeAny draft ++ [s]) :
      ∃ opened, opened.Sublist [number] ∧ st.statements.map Statement.line
        = (closeAny draft).map Statement.line ++ opened :=
    ⟨[number], .refl _, by rw [h, List.map_append, List.map_singleton, hline]⟩
  cases line with
  | blank => exact hsame rfl
  | terminator =>
      cases draft with
      | none => exact hsame rfl
      | some d => exact hsame (by rw [step, statements_closeIf]; rfl)
  | closer => exact hsame (by rw [step, Step.statements]; simp [closeAny])
  | opener head =>
      rcases step_opener_cases number head draft with ⟨-, hstep⟩ | ⟨block, rfl, -, hstep⟩
      · rw [hstep]
        exact hnew rfl rfl
      · rw [hstep]
        exact hsame rfl
  | directive head text ended =>
      rcases step_directive_cases number head text ended draft with
        ⟨hfilter, -⟩ | ⟨block, rfl, -, hstep⟩
      · exact hnew rfl (statements_directive hfilter number head text ended)
      · rw [hstep]
        exact hsame (congrArg ([·]) (block.line_pushLine text ended))
  | command text ended =>
      have hpush := statements_pushAndClose (draft.getD (.plainSql number)) text ended
      cases draft with
      | none => exact hnew rfl hpush
      | some d =>
          have hlines := congrArg (List.map Statement.line) hpush
          exact hsame hlines

/-- The statements that lines open are numbered by the lines, in order. -/
theorem lines_group (lines : List (Nat × Line)) (draft : Option Draft) :
    ∃ opened, opened.Sublist (lines.map Prod.fst)
      ∧ (group lines draft).statements.map Statement.line
        = (closeAny draft).map Statement.line ++ opened := by
  induction lines generalizing draft with
  | nil => exact ⟨[], .slnil, (List.append_nil _).symm⟩
  | cons line rest ih =>
      obtain ⟨number, line⟩ := line
      obtain ⟨first, hfirst, hstep⟩ := lines_step number line draft
      obtain ⟨later, hlater, hgroup⟩ := ih (step number line draft).2
      refine ⟨first ++ later, hfirst.append hlater, ?_⟩
      rw [statements_group_cons, List.map_append, hgroup, ← List.append_assoc, ← List.map_append,
        ← List.append_assoc, ← hstep]
      rfl

theorem numbers_of_read {raws : List (Nat × Text)} {lines : List (Nat × Line)}
    (h : raws.mapM readLine = .ok lines) : lines.map Prod.fst = raws.map Prod.fst := by
  induction raws generalizing lines with
  | nil =>
      cases h
      rfl
  | cons raw rest ih =>
      obtain ⟨line, later, hfirst, hrest, rfl⟩ := mapM_readLine_cons h
      rw [List.map_cons, List.map_cons, (readLine_ok hfirst).1, ih hrest]

/-! ## A whole source -/

theorem group_stems {raws rest : List (Nat × Text)} {lines : List (Nat × Line)}
    {draft : Option Draft} (hread : rest.mapM readLine = .ok lines) (hrest : rest ⊆ raws)
    (hdraft : ∀ d ∈ draft, d.Stems raws) : ∀ s ∈ (group lines draft).statements, s.Stems raws := by
  -- on the lines that are left: what is open stems from a line before them
  induction rest generalizing lines draft with
  | nil =>
      cases hread
      exact closeAny_stems hdraft
  | cons raw rest ih =>
      obtain ⟨⟨number, line⟩, later, hfirst, hlater, rfl⟩ := mapM_readLine_cons hread
      obtain ⟨hraw, hrest⟩ := List.cons_subset.mp hrest
      obtain ⟨hnumber, hline⟩ := readLine_ok hfirst
      have hnumber : number = raw.1 := hnumber
      have hstep : Step.Stems raws (step number line draft) :=
        step_stems (hnumber ▸ hraw) hline hdraft
      rw [statements_group_cons]
      exact List.forall_mem_append.mpr ⟨hstep.completed, ih hlater hrest hstep.draft⟩

variable {source : Text} {statements : List Statement}

/-- The statements of a script follow each other as the lines that opened them. -/
theorem increasing_of_parse (h : parse source = .ok statements) :
    (statements.map Statement.line).Pairwise (· < ·) := by
  obtain ⟨lines, hread, hfinish⟩ := parse_ok h
  obtain ⟨opened, hopened, hlines⟩ := lines_group lines none
  rw [finish_statements hfinish, hlines]
  refine List.Pairwise.sublist hopened ?_
  rw [numbers_of_read hread, numbers_numberedLines]
  exact List.pairwise_lt_range'

theorem stems_of_parse (h : parse source = .ok statements) :
    ∀ s ∈ statements, s.Stems (numberedLines source) := by
  obtain ⟨lines, hread, hfinish⟩ := parse_ok h
  rw [finish_statements hfinish]
  exact group_stems hread (List.Subset.refl _) (by rintro d ⟨⟩)

theorem full_of_parse (h : parse source = .ok statements) : ∀ s ∈ statements, s.Full := by
  obtain ⟨st, rfl, hgrouped⟩ := parse_grouped h
  exact hgrouped.full (by rintro s ⟨⟩)

/--
**What is read of a source is in shape at every moment, and so is the script it gives.**

After any number of lines that can be read, the slot in progress is the last one or the next one, no
slot is without a line, and every line that has been handed over is stored. In a script the numbers
of the statements increase, and each statement has the shape of the line with its number.
-/
theorem shape_of_source (source : Text) :
    (∀ n lines, ((numberedLines source).take n).mapM readLine = .ok lines →
      Reader.run lines = Reader.of (group lines none)
      ∧ (∀ c ∈ (Reader.run lines).opened, c.Sound
        ∧ ∀ text, (c.add text).statement.lines = c.statement.lines ++ [text])
      ∧ (Reader.run lines).lines = lines.filterMap fun line => line.2.text?)
    ∧ ∀ statements, parse source = .ok statements →
      (statements.map Statement.line).Pairwise (· < ·)
      ∧ ∀ s ∈ statements, s.Full ∧ s.Stems (numberedLines source) := by
  constructor
  · intro n lines hread
    have hrun := Reader.adds_run lines
    exact ⟨Reader.run_eq hread, fun c hc => ⟨hrun.sound c hc, (hrun.sound c hc).lines_add⟩,
      hrun.lines⟩
  · intro statements hparse
    exact ⟨increasing_of_parse hparse, fun s hs =>
      ⟨full_of_parse hparse s hs, stems_of_parse hparse s hs⟩⟩

/-- Statements of all shapes. `$drop` goes on behind its terminator, the block is empty, and `$exit`
is open at the end. -/
def shapes : Text :=
  "select 1\nfrom a&&\n# note\n$INE create table t\n(x int)&&\n$echo hi\n$drop &&\nx&&\ny
$if exist table a\n&&\n$fi\n$exit".toList

/-- The lines of all shapes up to the middle of a slot. -/
def shapeLines : List (Nat × Line) :=
  [(1, .command "select 1".toList false), (2, .command "from a".toList true), (3, .blank),
    (4, .directive ⟨.ifMissing, "$ine".toList, [⟨"create".toList, .create⟩,
      ⟨"table".toList, .table⟩, ⟨"t".toList, .plain⟩]⟩ "create table t".toList false),
    (5, .command "(x int)".toList true),
    (6, .directive ⟨.echo, "$echo".toList, [⟨"hi".toList, .plain⟩]⟩ "$echo hi".toList true),
    (7, .directive ⟨.drop, "$drop".toList, []⟩ "$drop".toList true),
    (8, .command "x".toList true), (9, .command "y".toList false)]

/-- The statements of all shapes, with the numbers of the lines that opened them. -/
def shapeStatements : List Statement :=
  [⟨.sql, "sql".toList, [], [["select 1".toList, "from a".toList]], 1⟩,
    ⟨.ifMissing, "$ine".toList, [⟨"create".toList, .create⟩, ⟨"table".toList, .table⟩,
      ⟨"t".toList, .plain⟩], [["create table t".toList, "(x int)".toList]], 4⟩,
    ⟨.echo, "$echo".toList, [⟨"hi".toList, .plain⟩], [["$echo hi".toList]], 6⟩,
    ⟨.drop, "$drop".toList, [], [["$drop".toList], ["x".toList], ["y".toList]], 7⟩,
    ⟨.ifBlock, "$if".toList, [⟨"exist".toList, .exist⟩, ⟨"table".toList, .table⟩,
      ⟨"a".toList, .plain⟩], [], 10⟩,
    ⟨.exit, "$exit".toList, [], [["$exit".toList]], 13⟩]

theorem shape_of_source_shapes :
    ((numberedLines shapes).take 9).mapM readLine = .ok shapeLines
    ∧ (Reader.run shapeLines).opened
      = some ⟨⟨.drop, "$drop".toList, [], [["$drop".toList], ["x".toList], ["y".toList]], 7⟩, 2⟩
    ∧ (∀ c ∈ (Reader.run shapeLines).opened, c.Sound
      ∧ ∀ text, (c.add text).statement.lines = c.statement.lines ++ [text])
    ∧ (Reader.run shapeLines).lines = shapeLines.filterMap (fun line => line.2.text?)
    ∧ parse shapes = .ok shapeStatements
    ∧ ([1, 4, 6, 7, 10, 13] : List Nat).Pairwise (· < ·)
    ∧ ∀ s ∈ shapeStatements, s.Full ∧ s.Stems (numberedLines shapes) := by
  have hread : ((numberedLines shapes).take 9).mapM readLine = .ok shapeLines := by cbv
  have hparse : parse shapes = .ok shapeStatements := by cbv
  obtain ⟨-, hsound, hlines⟩ := (shape_of_source shapes).1 9 shapeLines hread
  exact ⟨hread, by rfl, hsound, hlines, hparse, (shape_of_source shapes).2 shapeStatements hparse⟩

end Script

end MigrationScript
