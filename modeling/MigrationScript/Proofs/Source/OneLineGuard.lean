import MigrationScript.Proofs.Lexeme
import MigrationScript.Proofs.Source.Block

/-!
# One-line guards and their commands

The line of a one-line guard is read twice. Its words are the fields, from which the question is
taken, and the text behind its first word starts the command that is asked about. The text is cut
off at the end of the first word and the white space after it, the words are found by running over
the whole line, and both see the same words (`words_leading`).

So a statement that is a one-line guard has a single slot, and its fields are the words of the first
line of that slot. A step keeps this of the draft and of what it completes (`step_described`).
-/

namespace MigrationScript

open Source

/-- A one-line guard has one command, and its fields are the words of the first line of it. -/
def Statement.Described (s : Statement) : Prop :=
  s.symbol.guardsOneLine = true → ∃ first later, s.slots = [first :: later]
    ∧ s.fields = (Lexeme.words first).map Field.ofWord

namespace Script

/-- A draft whose next line, if it is a one-line guard, goes to the slot of the line before. -/
structure Draft.Describes (d : Draft) : Prop where
  described : d.statement.Described
  unfinished : d.head.symbol.guardsOneLine = true → d.finished = []

/-- What a step completes, and what it leaves open. -/
structure Step.Describes (st : Step) : Prop where
  completed : ∀ s ∈ st.1, s.Described
  draft : ∀ d ∈ st.2, d.Describes

namespace Draft

/-- A block is no one-line guard. -/
theorem describes_of_opens {d : Draft} (h : d.head.symbol.opensBlock = true) : d.Describes := by
  have hline : ¬ d.head.symbol.guardsOneLine = true := by
    revert h
    cases d.head.symbol <;> decide
  exact ⟨fun hguard => absurd hguard hline, fun hguard => absurd hguard hline⟩

/-- A further line leaves the first as it is. -/
theorem described_push {d : Draft} (h : d.Describes) (text : Text) :
    (d.push text).statement.Described := by
  intro hguard
  obtain ⟨first, later, hslots, hfields⟩ := h.described hguard
  have hcurrent : d.current = first :: later := by
    have hslots : d.slots = [first :: later] := hslots
    rw [slots, h.unfinished hguard, List.nil_append] at hslots
    split at hslots
    · cases hslots
    · exact (List.cons.inj hslots).1
  refine ⟨first, later ++ [text], ?_, hfields⟩
  change (d.push text).slots = _
  simp [slots, push, h.unfinished hguard, hcurrent]

/-- The line of a one-line guard is described by its fields. -/
theorem described_new {raw : Text} {head : Directive} (number : Nat)
    (hkind : kind raw = .directive) (hfields : head.fields = fields raw)
    (hguards : head.symbol.guardsOneLine = guardsLine raw) :
    ((new head number).push (stored raw)).statement.Described := by
  intro hguard
  have hline : guardsLine raw = true := hguards.symm.trans hguard
  refine ⟨stored raw, [], rfl, ?_⟩
  change head.fields = _
  rw [hfields, fields, stored, if_pos hline]
  -- the body of the line starts with the `$` of its first word
  have hdollar := dollar_of_directive hkind
  cases hbody : body raw with
  | nil =>
      rw [hbody] at hdollar
      cases hdollar
  | cons c rest =>
      rw [hbody] at hdollar
      cases hdollar
      rw [Lexeme.words_leading (by decide), List.drop_succ_cons, List.drop_zero]

end Draft

/-! ## One step -/

theorem describes_open {draft : Option Draft} (h : ∀ d ∈ draft, d.Describes) :
    Step.Describes ([], draft) := ⟨List.forall_mem_nil _, h⟩

theorem describes_completed {statements : List Statement} (h : ∀ s ∈ statements, s.Described) :
    Step.Describes (statements, none) := by
  refine ⟨h, fun d hd => ?_⟩
  cases hd

theorem closeAny_described {draft : Option Draft} (h : ∀ d ∈ draft, d.Describes) :
    ∀ s ∈ closeAny draft, s.Described := by
  intro s hs
  cases draft with
  | none => cases hs
  | some d =>
      rw [List.mem_singleton.mp hs]
      exact (h d rfl).described

theorem closeIf_described {complete : Bool} {d : Draft} (h : d.statement.Described)
    (hopen : complete = false → d.head.symbol.guardsOneLine = true → d.finished = []) :
    (closeIf complete d).Describes := by
  cases complete with
  | true =>
      refine describes_completed fun s hs => ?_
      rwa [List.mem_singleton.mp hs]
  | false =>
      refine describes_open ?_
      rintro d' ⟨⟩
      exact ⟨h, hopen rfl⟩

/-- A terminator completes a one-line guard, so no second slot is started. -/
theorem pushAndClose_described {d : Draft} {text : Text}
    (hpush : (d.push text).statement.Described)
    (hunfinished : d.head.symbol.guardsOneLine = true → d.finished = []) (ended : Bool) :
    (pushAndClose d text ended).Describes := by
  refine closeIf_described (by rwa [Draft.pushLine_statement]) fun hopen hguard => ?_
  rw [Draft.head_pushLine] at hguard
  have hended : ended = false := by
    simpa [Draft.endsAtTerminator, hguard] using hopen
  rw [hended]
  exact hunfinished hguard

variable {number : Nat} {raw : Text} {line : Line} {draft : Option Draft}

theorem terminator_described (hdraft : ∀ d ∈ draft, d.Describes) :
    (step number .terminator draft).Describes := by
  cases draft with
  | none => exact describes_open hdraft
  | some d =>
      have hsame : d.endSlot.statement.Described := by
        rw [Draft.endSlot_statement]
        exact (hdraft d rfl).described
      refine closeIf_described hsame fun hopen hguard => ?_
      have hguard : d.head.symbol.guardsOneLine = true := hguard
      simp [Draft.endsAtTerminator, hguard] at hopen

theorem opener_described {head : Directive} (hopens : head.symbol.opensBlock = true)
    (hdraft : ∀ d ∈ draft, d.Describes) : (step number (.opener head) draft).Describes := by
  rcases step_opener_cases number head draft with ⟨-, hstep⟩ | ⟨block, rfl, -, hstep⟩
  · rw [hstep]
    refine ⟨closeAny_described hdraft, ?_⟩
    rintro d ⟨⟩
    exact Draft.describes_of_opens hopens
  · rw [hstep]
    exact describes_open hdraft

/-- **A step keeps a one-line guard with the words it was opened with.** -/
theorem step_described (h : Line.ofText raw = .ok line) (hdraft : ∀ d ∈ draft, d.Describes) :
    (step number line draft).Describes := by
  cases ofText_reads h with
  | remark _ => exact describes_open hdraft
  | terminator _ => exact terminator_described hdraft
  | closer _ => exact describes_completed (closeAny_described hdraft)
  | guardOpener d _ hsymbol _ => exact opener_described (by rw [hsymbol]; rfl) hdraft
  | dataOpener d _ hsymbol => exact opener_described (by rw [hsymbol]; rfl) hdraft
  | directive d hkind hfields _ hguards _ _ =>
      rcases step_directive_cases number d (stored raw) (isEnded raw || d.symbol.isSingleLine) draft
        with ⟨-, hstep⟩ | ⟨block, rfl, hblock, hstep⟩
      · obtain ⟨hcompleted, hopen⟩ := pushAndClose_described
          (Draft.described_new number hkind hfields hguards) (fun _ => rfl)
          (isEnded raw || d.symbol.isSingleLine)
        rw [hstep]
        exact ⟨List.forall_mem_append.mpr ⟨closeAny_described hdraft, hcompleted⟩, hopen⟩
      · -- inside a block the line of a one-line guard is text
        rw [hstep]
        refine describes_open ?_
        rintro d' ⟨⟩
        refine Draft.describes_of_opens ?_
        rw [Draft.head_pushLine]
        exact hblock
  | command _ =>
      have hopen : (draft.getD (.plainSql number)).Describes := by
        cases draft with
        | none => exact ⟨fun hguard => absurd hguard Bool.false_ne_true, fun _ => rfl⟩
        | some d => exact hdraft d rfl
      rw [step]
      exact pushAndClose_described (Draft.described_push hopen _) hopen.unfinished _

/-! ## A whole source -/

theorem group_described {raws : List (Nat × Text)} {lines : List (Nat × Line)}
    (h : raws.mapM readLine = .ok lines) (hdraft : ∀ d ∈ draft, d.Describes) :
    ∀ s ∈ (group lines draft).statements, s.Described := by
  induction raws generalizing lines draft with
  | nil =>
      cases h
      exact closeAny_described hdraft
  | cons raw rest ih =>
      obtain ⟨line, later, hfirst, hrest, rfl⟩ := mapM_readLine_cons h
      have hstep : (step line.1 line.2 draft).Describes :=
        step_described (readLine_ok hfirst).2 hdraft
      rw [statements_group_cons]
      exact List.forall_mem_append.mpr ⟨hstep.completed, ih hrest hstep.draft⟩

/--
**A one-line guard asks about the words of its command.**

A line that starts with a word has that word, and behind it the words of what is left when the word
and the white space after it are cut off. So in every script the fields of a one-line guard are the
words of the first line of its command, and it has no other command.
-/
theorem fields_of_guarded_line :
    (∀ (c : Char) (rest : Text), LexemeClass.isWord c = true →
      Lexeme.words (c :: rest)
        = Lexeme.leadingWord (c :: rest) :: Lexeme.words (Lexeme.dropLeadingWord (c :: rest)))
    ∧ ∀ (source : Text) (statements : List Statement), parse source = .ok statements →
      ∀ s ∈ statements, s.symbol = .ifExists ∨ s.symbol = .ifMissing →
        ∃ first later, s.slots = [first :: later]
          ∧ s.fields = (Lexeme.words first).map Field.ofWord := by
  refine ⟨fun c rest hc => Lexeme.words_leading hc rest, ?_⟩
  intro source statements hparse s hs hsymbol
  obtain ⟨lines, hread, hfinish⟩ := parse_ok hparse
  have hdescribed : ∀ s ∈ (group lines none).statements, s.Described :=
    group_described hread (by intro d hd; cases hd)
  rw [← finish_statements hfinish] at hdescribed
  refine hdescribed s hs ?_
  rcases hsymbol with hsymbol | hsymbol <;> rw [hsymbol] <;> rfl

/-- A guard whose words are glued together, with a letter and a wide space that belong to no word,
and a guard with nothing behind its word. -/
def gluedGuards : Text := "$INE!create(Table)[caf\u00E9]\u3000x<>1\n(id int)&&\n$ie\t&&".toList

/-- What stands behind the word of the first guard. -/
def gluedCommand : Text := "!create(Table)[caf\u00E9]\u3000x<>1".toList

/-- The two guards as statements. The second has one line, which is empty, and no fields. -/
def gluedStatements : List Statement :=
  [⟨.ifMissing, "$ine".toList,
      [⟨"!".toList, .negation⟩, ⟨"create".toList, .create⟩, ⟨"(".toList, .bracketOpen⟩,
        ⟨"Table".toList, .table⟩, ⟨")[".toList, .plain⟩, ⟨"caf".toList, .plain⟩,
        ⟨"]".toList, .plain⟩, ⟨"x".toList, .plain⟩, ⟨"<>".toList, .plain⟩, ⟨"1".toList, .plain⟩],
      [[gluedCommand, "(id int)".toList]], 1⟩,
    ⟨.ifExists, "$ie".toList, [], [[[]]], 3⟩]

theorem fields_of_guarded_line_glued :
    Lexeme.words ("$INE".toList ++ gluedCommand) = "$INE".toList :: Lexeme.words gluedCommand
    ∧ parse gluedGuards = .ok gluedStatements
    ∧ ∀ s ∈ gluedStatements, (s.symbol = .ifExists ∨ s.symbol = .ifMissing)
      ∧ ∃ first later, s.slots = [first :: later]
        ∧ s.fields = (Lexeme.words first).map Field.ofWord := by
  have hparse : parse gluedGuards = .ok gluedStatements := by cbv
  refine ⟨fields_of_guarded_line.1 '$' ("INE".toList ++ gluedCommand) (by decide), hparse, ?_⟩
  intro s hs
  have hsymbol : s.symbol = .ifExists ∨ s.symbol = .ifMissing := by
    simp only [gluedStatements, List.mem_cons, List.not_mem_nil, or_false] at hs
    rcases hs with rfl | rfl
    · exact .inr rfl
    · exact .inl rfl
  exact ⟨hsymbol, fields_of_guarded_line.2 gluedGuards gluedStatements hparse s hs hsymbol⟩

end Script

end MigrationScript
