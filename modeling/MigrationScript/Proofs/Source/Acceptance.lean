import Mathlib
import MigrationScript.Proofs.Source.Grouping

/-!
# Which sources are scripts

A source is no script if a line starts with a `$` word that is no directive, or else if an opener
stands after the last closer. Both are read off the raw lines, from top to bottom, and in both cases
the first such line is the one that is reported.

The grouping finds the second by what is left open. A closer ends any block and openers inside a
block are dropped, so the block that is open after some lines is that of the first opener since the
last closer (`openBlock_group`), whatever the lines between them are.
-/

namespace MigrationScript

namespace Source

/-- The words of directives. -/
def directiveWords : List Text :=
  "$if".toList :: dataWords ++ closingWords ++ guardWords ++ controlWords ++ Keyword.commandWords

/-- Whether a line starts with a `$` word that is no directive. -/
def isUnknown (raw : Text) : Bool :=
  kind raw ≠ .remark && (body raw).head? = some '$' && !directiveWords.contains (word raw)

/-- Whether a line opens a block, with a guard or for data. -/
def isOpener (raw : Text) : Bool := kind raw = .guardOpener || kind raw = .dataOpener

/-- The first line of a source with an unknown word, and its number. -/
def unknown? (source : Text) : Option (Nat × Text) :=
  (Script.numberedLines source).find? fun raw => isUnknown raw.2

/-- The first opener after the last closer of numbered lines. -/
def openerOf? (raws : List (Nat × Text)) : Option (Nat × Text) :=
  (raws.rtakeWhile fun raw => kind raw.2 ≠ .closer).find? fun raw => isOpener raw.2

/-- The first opener after the last closer of a source, and its number. -/
def opener? (source : Text) : Option (Nat × Text) := openerOf? (Script.numberedLines source)

theorem openerOf?_concat (raws : List (Nat × Text)) (raw : Nat × Text) :
    openerOf? (raws ++ [raw]) =
      if kind raw.2 = .closer then none
      else (openerOf? raws).or (if isOpener raw.2 then some raw else none) := by
  unfold openerOf?
  rw [List.rtakeWhile_concat]
  by_cases hcloser : kind raw.2 = .closer
  · rw [if_neg (by simp [hcloser]), if_pos hcloser]
    rfl
  · rw [if_pos (by simp [hcloser]), if_neg hcloser, List.find?_append, List.find?_singleton]

/-! ## Unknown words -/

variable {raw : Text}

theorem kind_remark : kind raw = .remark ↔
    ((Text.trim raw).isEmpty || (Text.trim raw).head? = some '#') = true := by
  unfold kind
  constructor
  · intro h
    split at h
    · assumption
    · -- no other line is a remark
      repeat' split at h
      all_goals cases h
  · exact fun h => if_pos h

theorem directiveWords_spelled : ∀ word ∈ directiveWords,
    ∃ entry ∈ Keyword.directiveEntries ++ Keyword.sharedEntries,
      entry.spelling.toList = word := by
  decide

theorem directiveWords_complete : ∀ entry ∈ Keyword.directiveEntries ++ Keyword.sharedEntries,
    entry.spelling.toList.head? = some '$' →
      directiveWords.contains entry.spelling.toList = true := by
  decide

/-- A `$` word is known if it is the word of a directive, in any case. -/
theorem directive?_eq_none {head : Text} (hdollar : head.head? = some '$') :
    Keyword.directive? head = none ↔ directiveWords.contains (Keyword.folded head) = false := by
  constructor
  · intro hnone
    rw [Bool.eq_false_iff]
    intro hword
    obtain ⟨entry, hmem, hspelling⟩ := directiveWords_spelled _ (List.contains_iff_mem.mp hword)
    exact Keyword.lookup_eq_none hnone entry hmem hspelling
  · intro hword
    cases hsymbol : Keyword.directive? head with
    | none => rfl
    | some symbol =>
        obtain ⟨entry, hmem, hspelling, -⟩ := Keyword.lookup_eq_some hsymbol
        have hfolded : (Keyword.folded head).head? = some '$' := by
          rw [Keyword.folded, List.head?_map, hdollar]
          rfl
        have hcontains := directiveWords_complete entry hmem (hspelling ▸ hfolded)
        rw [hspelling, hword] at hcontains
        cases hcontains

theorem head_leadingWord (hdollar : (body raw).head? = some '$') :
    (Lexeme.leadingWord (body raw)).head? = some '$' := by
  unfold Lexeme.leadingWord
  cases hbody : body raw with
  | nil =>
      rw [hbody] at hdollar
      cases hdollar
  | cons c rest =>
      rw [hbody] at hdollar
      obtain rfl := Option.some.inj hdollar
      rw [List.takeWhile_cons_of_pos (by decide)]
      rfl

/-- A line that starts with `$` is read by its first word. -/
theorem ofText_dollar (hremark : kind raw ≠ .remark) (hdollar : (body raw).head? = some '$') :
    Script.Line.ofText raw = (Directive.ofLine (body raw)).map
      fun d => Script.Line.ofDirective d (body raw) (isEnded raw) := by
  have hfilled : (body raw).isEmpty = false := by
    cases hbody : body raw with
    | nil =>
        rw [hbody] at hdollar
        cases hdollar
    | cons c rest => rfl
  unfold Script.Line.ofText
  dsimp only
  change (if _ then _ else if (body raw).isEmpty then _ else if (body raw).head? = some '$' then
    (do return Script.Line.ofDirective (← Directive.ofLine (body raw)) (body raw) (isEnded raw))
    else Except.ok (Script.Line.command (body raw) (isEnded raw))) = _
  rw [if_neg (mt kind_remark.mpr hremark), if_neg (by rw [hfilled]; decide), if_pos hdollar]
  cases Directive.ofLine (body raw) <;> rfl

/-- Whether a line begins with the word of a directive, and reads as that directive. -/
structure Leads (raw : Text) (d : Directive) : Prop where
  /-- The line starts with `$`. -/
  dollar : (body raw).head? = some '$'
  /-- Its first word spells the symbol, in any case. -/
  symbol : Keyword.directive? (Lexeme.leadingWord (body raw)) = some d.symbol
  /-- The key is that word in lower case. -/
  key : d.key = word raw
  /-- The fields are the words after it. -/
  fields : d.fields = fields raw

/-- What a line that starts with `$` reads as is said by the directive of its first word. -/
theorem leads_of_ofText {line : Script.Line} (hremark : kind raw ≠ .remark)
    (hdollar : (body raw).head? = some '$') (h : Script.Line.ofText raw = .ok line) :
    ∃ d, Leads raw d ∧ line = Script.Line.ofDirective d (body raw) (isEnded raw) := by
  rw [ofText_dollar hremark hdollar, Directive.ofLine] at h
  cases hsymbol : Keyword.directive? (Lexeme.leadingWord (body raw)) with
  | none =>
      rw [hsymbol] at h
      cases h
  | some symbol =>
      rw [hsymbol] at h
      exact ⟨⟨symbol, word raw, fields raw⟩, ⟨hdollar, hsymbol, rfl, rfl⟩, (Except.ok.inj h).symm⟩

/-- The symbol of a directive is that of the entry that spells its word. -/
theorem Leads.entry {d : Directive} (h : Leads raw d) :
    ∃ entry ∈ Keyword.directiveEntries ++ Keyword.sharedEntries,
      entry.spelling.toList = word raw ∧ entry.symbol = d.symbol
        ∧ entry.spelling.toList.head? = some '$' := by
  obtain ⟨entry, hmem, hspelling, hsymbol⟩ := Keyword.lookup_eq_some h.symbol
  refine ⟨entry, hmem, hspelling, hsymbol, ?_⟩
  rw [hspelling, Keyword.folded, List.head?_map, head_leadingWord h.dollar]
  rfl

/-- A line that does not start with `$` can be read, and opens no block. -/
theorem ofText_plain (h : kind raw = .remark ∨ (body raw).head? ≠ some '$') :
    ∃ line, Script.Line.ofText raw = .ok line ∧ ∀ d, line ≠ .opener d := by
  unfold Script.Line.ofText
  dsimp only
  by_cases hremark : kind raw = .remark
  · rw [if_pos (kind_remark.mp hremark)]
    exact ⟨_, rfl, fun d => Script.Line.noConfusion⟩
  rw [if_neg (mt kind_remark.mpr hremark)]
  change ∃ line, (if (body raw).isEmpty then _ else if (body raw).head? = some '$' then _
    else Except.ok (Script.Line.command (body raw) (isEnded raw))) = _ ∧ _
  split
  · exact ⟨_, rfl, fun d => Script.Line.noConfusion⟩
  · rw [if_neg (h.resolve_left hremark)]
    exact ⟨_, rfl, fun d => Script.Line.noConfusion⟩

/-- **A line can be read unless its first word is unknown.** -/
theorem ofText_unknown (raw : Text) :
    if isUnknown raw then Script.Line.ofText raw = .error (Lexeme.leadingWord (body raw))
    else ∃ line, Script.Line.ofText raw = .ok line := by
  by_cases hplain : kind raw = .remark ∨ (body raw).head? ≠ some '$'
  · have hknown : isUnknown raw = false := by
      rcases hplain with h | h <;> simp [isUnknown, h]
    obtain ⟨line, hline, -⟩ := ofText_plain hplain
    rw [if_neg (by simp [hknown])]
    exact ⟨line, hline⟩
  · obtain ⟨hremark, hdollar⟩ := not_or.mp hplain
    rw [not_not] at hdollar
    have hunknown : isUnknown raw = !directiveWords.contains (word raw) := by
      simp [isUnknown, hremark, hdollar]
    have hword := directive?_eq_none (head_leadingWord hdollar)
    rw [hunknown, ofText_dollar hremark hdollar, Directive.ofLine]
    cases hsymbol : Keyword.directive? (Lexeme.leadingWord (body raw)) with
    | none =>
        rw [word, hword.mp hsymbol]
        rfl
    | some symbol =>
        have hcontains : directiveWords.contains (word raw) = true := by
          rw [← Bool.not_eq_false]
          intro hfalse
          rw [hword.mpr hfalse] at hsymbol
          cases hsymbol
        rw [hcontains]
        exact ⟨_, rfl⟩

/-- A line that reads as an opener begins with its word. -/
theorem leads_of_opener {d : Directive} (h : Script.Line.ofText raw = .ok (.opener d)) :
    Leads raw d := by
  by_cases hplain : kind raw = .remark ∨ (body raw).head? ≠ some '$'
  · obtain ⟨line, hline, hopener⟩ := ofText_plain hplain
    rw [hline] at h
    exact absurd (Except.ok.inj h) (hopener d)
  · obtain ⟨hremark, hdollar⟩ := not_or.mp hplain
    obtain ⟨d', hleads, hline⟩ := leads_of_ofText hremark (not_not.mp hdollar) h
    unfold Script.Line.ofDirective at hline
    split at hline
    · cases hline
    split at hline
    · cases hline
      exact hleads
    · cases hline

end Source

namespace Script

open Source

/-- **The lines of a source can be read up to the first unknown word.** -/
theorem mapM_readLine (raws : List (Nat × Text)) :
    (∀ raw, raws.find? (isUnknown ·.2) = some raw →
      raws.mapM readLine
        = .error (.unknownDirective raw.1 (Lexeme.leadingWord (body raw.2))))
    ∧ (raws.find? (isUnknown ·.2) = none → ∃ lines, raws.mapM readLine = .ok lines) := by
  induction raws with
  | nil =>
      refine ⟨?_, fun _ => ⟨[], rfl⟩⟩
      intro raw h
      cases h
  | cons raw rest ih =>
      obtain ⟨herror, hok⟩ := ih
      have hfirst := ofText_unknown raw.2
      rw [List.mapM_cons, readLine, List.find?_cons]
      cases hunknown : isUnknown raw.2 with
      | true =>
          rw [hunknown, if_pos rfl] at hfirst
          rw [hfirst]
          constructor
          · intro raw' h
            cases h
            rfl
          · intro h
            cases h
      | false =>
          rw [hunknown, if_neg Bool.false_ne_true] at hfirst
          obtain ⟨line, hline⟩ := hfirst
          rw [hline]
          constructor
          · intro raw' h
            rw [herror raw' h]
            rfl
          · intro h
            obtain ⟨later, hlater⟩ := hok h
            rw [hlater]
            exact ⟨_, rfl⟩

/-! ## What is left open -/

/-- The block that is open, by the line and the word of its opener. -/
def openBlock (draft : Option Draft) : Option (Nat × Text) :=
  (draft.filter Draft.isBlock).map fun d => (d.line, d.head.key)

theorem openBlock_some (d : Draft) :
    openBlock (some d) = if d.isBlock then some (d.line, d.head.key) else none := by
  rw [openBlock, Option.filter_some]
  split <;> rfl

/-- A source may end with any draft but a block. -/
theorem finish_eq (st : Step) : finish st =
    match openBlock st.2 with
    | some (line, key) => .error (.unterminatedBlock line key)
    | none => .ok st.statements := by
  obtain ⟨statements, draft⟩ := st
  cases draft with
  | none => exact congrArg Except.ok (List.append_nil _).symm
  | some d =>
      rw [finish, openBlock_some]
      split
      · rfl
      · rfl

/-- What a terminator completes is no block. -/
theorem isBlock_of_endsAtTerminator {d : Draft} (h : d.endsAtTerminator = true) :
    d.isBlock = false := by
  revert h
  unfold Draft.isBlock Draft.endsAtTerminator
  cases d.head.symbol <;> decide

theorem openBlock_congr {d d' : Draft} (hhead : d'.head = d.head) (hline : d'.line = d.line) :
    openBlock (some d') = openBlock (some d) := by
  rw [openBlock_some, openBlock_some, Draft.isBlock, Draft.isBlock, hhead, hline]

theorem openBlock_pushLine (d : Draft) (text : Text) (ended : Bool) :
    openBlock (some (d.pushLine text ended)) = openBlock (some d) :=
  openBlock_congr (d.head_pushLine text ended) (d.line_pushLine text ended)

/-- Completing a draft at a terminator closes no block. -/
theorem openBlock_closeIf {complete : Bool} {d : Draft}
    (hcomplete : complete = true → d.endsAtTerminator = true) :
    openBlock (closeIf complete d).2 = openBlock (some d) := by
  cases complete with
  | false => rfl
  | true =>
      change none = openBlock (some d)
      rw [openBlock_some, isBlock_of_endsAtTerminator (hcomplete rfl)]
      rfl

theorem openBlock_pushAndClose (d : Draft) (text : Text) (ended : Bool) :
    openBlock (pushAndClose d text ended).2 = openBlock (some d) := by
  rw [pushAndClose, openBlock_closeIf, openBlock_pushLine]
  intro h
  rw [Draft.endsAtTerminator, d.head_pushLine]
  exact (Bool.and_eq_true_iff.mp h).2

variable {number : Nat} {raw : Text} {draft : Option Draft}

theorem openBlock_of_filter (h : draft.filter Draft.isBlock = none) : openBlock draft = none := by
  rw [openBlock, h]
  rfl

/-- An opener is dropped in a block, and opens one elsewhere. -/
theorem openBlock_opener {d : Directive} (hopens : d.symbol.opensBlock = true) :
    openBlock (step number (.opener d) draft).2
      = (openBlock draft).or (some (number, d.key)) := by
  rcases step_opener_cases number d draft with ⟨hfilter, hstep⟩ | ⟨block, rfl, hblock, hstep⟩
  · rw [hstep, openBlock_of_filter hfilter, openBlock_some]
    exact if_pos hopens
  · rw [hstep, openBlock_some, if_pos hblock]
    rfl

/-- Any other directive is text in a block, and opens none elsewhere. -/
theorem openBlock_directive {d : Directive} (hopens : d.symbol.opensBlock = false) (text : Text)
    (ended : Bool) :
    openBlock (step number (.directive d text ended) draft).2 = openBlock draft := by
  rcases step_directive_cases number d text ended draft with
    ⟨hfilter, hstep⟩ | ⟨block, rfl, -, hstep⟩
  · rw [hstep, openBlock_of_filter hfilter, openBlock_pushAndClose, openBlock_some]
    exact if_neg (by simp [Draft.isBlock, Draft.new, hopens])
  · rw [hstep]
    exact openBlock_pushLine block text ended

/-- **A block that is open before a line is open after it, unless the line is a closer.** If none is
open, an opener opens one. -/
theorem openBlock_step {line : Line} (h : Line.ofText raw = .ok line) :
    openBlock (step number line draft).2 =
      if kind raw = .closer then none
      else (openBlock draft).or (if isOpener raw then some (number, word raw) else none) := by
  cases ofText_reads h with
  | remark hkind => simp [step, isOpener, hkind]
  | terminator hkind =>
      have hsame : openBlock (step number .terminator draft).2 = openBlock draft := by
        cases draft with
        | none => rfl
        | some d =>
            have hclose : openBlock (closeIf d.endsAtTerminator d.endSlot).2
                = openBlock (some d.endSlot) := openBlock_closeIf id
            exact hclose.trans (openBlock_congr rfl rfl)
      simp [hsame, isOpener, hkind]
  | closer hkind =>
      rw [if_pos hkind]
      rfl
  | guardOpener d hkind hsymbol _ =>
      rw [openBlock_opener (by rw [hsymbol]; rfl), (leads_of_opener h).key]
      simp [isOpener, hkind]
  | dataOpener d hkind hsymbol =>
      rw [openBlock_opener (by rw [hsymbol]; rfl), (leads_of_opener h).key]
      simp [isOpener, hkind]
  | directive d hkind _ hopens _ _ _ =>
      rw [openBlock_directive hopens]
      simp [isOpener, hkind]
  | command hkind =>
      have hsame : openBlock (step number (.command (stored raw) (isEnded raw)) draft).2
          = openBlock draft := by
        rw [step, openBlock_pushAndClose]
        cases draft with
        | none => rfl
        | some d => rfl
      simp [hsame, isOpener, hkind]

theorem mapM_readLine_concat {earlier : List (Nat × Text)} {raw : Nat × Text}
    {lines : List (Nat × Line)} (h : (earlier ++ [raw]).mapM readLine = .ok lines) :
    ∃ before line, earlier.mapM readLine = .ok before ∧ Line.ofText raw.2 = .ok line
      ∧ lines = before ++ [(raw.1, line)] := by
  rw [List.mapM_append] at h
  cases hearlier : earlier.mapM readLine with
  | error e =>
      rw [hearlier] at h
      cases h
  | ok before =>
      cases hline : Line.ofText raw.2 with
      | error e =>
          rw [hearlier, List.mapM_cons, readLine, hline] at h
          cases h
      | ok line =>
          rw [hearlier, List.mapM_cons, readLine, hline] at h
          cases h
          exact ⟨before, line, rfl, rfl, rfl⟩

/-- **The block that is open after some lines is that of the first opener since the last closer.** -/
theorem openBlock_group {raws : List (Nat × Text)} {lines : List (Nat × Line)}
    (h : raws.mapM readLine = .ok lines) :
    openBlock (group lines none).2 = (openerOf? raws).map fun raw => (raw.1, word raw.2) := by
  induction raws using List.reverseRecOn generalizing lines with
  | nil =>
      cases h
      rfl
  | append_singleton earlier raw ih =>
      obtain ⟨before, line, hbefore, hline, rfl⟩ := mapM_readLine_concat h
      have hlast : group [(raw.1, line)] (group before none).2
          = ((step raw.1 line (group before none).2).1 ++ [],
              (step raw.1 line (group before none).2).2) := rfl
      rw [group_append, hlast, openBlock_step hline, ih hbefore, openerOf?_concat]
      split
      · rfl
      · rw [Option.map_or]
        split <;> rfl

/-! ## The verdict -/

theorem parse_cases (source : Text) :
    (∃ raw, unknown? source = some raw
      ∧ parse source = .error (.unknownDirective raw.1 (Lexeme.leadingWord (body raw.2))))
    ∨ (unknown? source = none ∧ ∃ raw, opener? source = some raw
      ∧ parse source = .error (.unterminatedBlock raw.1 (word raw.2)))
    ∨ (unknown? source = none ∧ opener? source = none
      ∧ ∃ statements, parse source = .ok statements) := by
  obtain ⟨herror, hok⟩ := mapM_readLine (numberedLines source)
  cases hunknown : unknown? source with
  | some raw =>
      refine .inl ⟨raw, rfl, ?_⟩
      rw [parse, herror raw hunknown]
      rfl
  | none =>
      obtain ⟨lines, hlines⟩ := hok hunknown
      have hopen : openBlock (group lines none).2
          = (opener? source).map fun raw => (raw.1, word raw.2) := openBlock_group hlines
      have hparse : parse source = finish (group lines none) := by
        rw [parse, hlines]
        rfl
      rw [hparse, finish_eq, hopen]
      cases hopener : opener? source with
      | some raw => exact .inr (.inl ⟨rfl, raw, rfl, rfl⟩)
      | none => exact .inr (.inr ⟨rfl, rfl, _, rfl⟩)

/--
**Which sources are scripts.**

A source is refused for its first unknown word, whatever is open there. If it has none it is refused
for the first opener after its last closer, and if there is none of these either it is a script.
-/
theorem parse_verdict (source : Text) :
    (∀ number head, parse source = .error (.unknownDirective number head) ↔
      ∃ raw, unknown? source = some (number, raw) ∧ head = Lexeme.leadingWord (body raw))
    ∧ (∀ number key, parse source = .error (.unterminatedBlock number key) ↔
      unknown? source = none ∧ ∃ raw, opener? source = some (number, raw) ∧ key = word raw)
    ∧ ((∃ statements, parse source = .ok statements) ↔
      unknown? source = none ∧ opener? source = none) := by
  rcases parse_cases source with ⟨⟨n, raw⟩, hunknown, hparse⟩
    | ⟨hunknown, ⟨n, raw⟩, hopener, hparse⟩ | ⟨hunknown, hopener, statements, hparse⟩
  · rw [hparse, hunknown]
    refine ⟨fun number head => ⟨?_, ?_⟩, fun number key => ⟨nofun, nofun⟩, nofun, nofun⟩
    · intro h
      cases h
      exact ⟨raw, rfl, rfl⟩
    · rintro ⟨raw', hraw, rfl⟩
      cases hraw
      rfl
  · rw [hparse, hunknown, hopener]
    refine ⟨fun number head => ⟨nofun, nofun⟩, fun number key => ⟨?_, ?_⟩, nofun, nofun⟩
    · intro h
      cases h
      exact ⟨rfl, raw, rfl, rfl⟩
    · rintro ⟨-, raw', hraw, rfl⟩
      cases hraw
      rfl
  · rw [hparse, hunknown, hopener]
    exact ⟨fun number head => ⟨nofun, nofun⟩, fun number key => ⟨nofun, nofun⟩,
      fun _ => ⟨rfl, rfl⟩, fun _ => ⟨statements, rfl⟩⟩

example : parse "$if exist table a\n$ECV\nselect 1\n$fi\n$Exit\n$IF&&\n$ecv_start".toList
    = .error (.unterminatedBlock 6 "$if".toList) := by cbv

end Script

end MigrationScript
