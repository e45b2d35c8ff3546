import Mathlib
import MigrationScript.Proofs.Source.Passages

/-!
# What a block holds

A block is opened by one line and ends at the first closer after it. It holds the content lines in
between, and they are divided into slots where a line ends one: a content line with a terminator, a
directive that takes a single line, or a terminator alone (`block_extent`). Openers inside a block
are no exception: they are dropped, and the next closer ends the block.

One line of a block adds its marks to the draft (`step_inside`), so the slots of the block are the
marks of its lines, cut, and the pieces between marks are passages.
-/

namespace MigrationScript

namespace Source

/-- The words of directives that take a single line, other than closers. -/
def singleWords : List Text :=
  ["$app_version".toList, "$dbu_version".toList, "$dbu".toList, "$dbu_start".toList,
    "$dbu_end".toList, "$lastdbu".toList, "$echo".toList, "$show".toList, "$noshow".toList,
    "$hide".toList, "$nohide".toList, "$set".toList]

/-- Whether a line of a block ends a slot. -/
def endsSlot (raw : Text) : Bool :=
  kind raw = .terminator
    || kind raw = .command && isEnded raw
    || kind raw = .directive && (isEnded raw || singleWords.contains (word raw))

/-- A line as a block keeps it, if it is a content line. -/
def keptLine? (raw : Text) : Option Text := if isContent raw then some (stored raw) else none

/-- The content lines among lines, as they are stored. -/
def contentLines (raws : List Text) : List Text := (raws.filter isContent).map stored

/-- The slots that lines of a block make: one for each passage with a content line. -/
def slotsOf (raws : List Text) : List Slot :=
  ((passages endsSlot raws).map contentLines).filter fun slot => !slot.isEmpty

theorem filterMap_keptLine (raws : List Text) : raws.filterMap keptLine? = contentLines raws := by
  induction raws with
  | nil => rfl
  | cons raw rest ih =>
      rw [List.filterMap_cons, keptLine?, ih, contentLines, contentLines, List.filter_cons]
      cases isContent raw <;> rfl

theorem cut_slots (raws : List Text) :
    (cut (raws.flatMap (marksOf keptLine? endsSlot))).filter (fun slot => !slot.isEmpty)
      = slotsOf raws := by
  have hkept : List.filterMap keptLine? = contentLines := funext filterMap_keptLine
  rw [cut_marksOf, hkept]
  rfl

/-- Dividing lines into slots loses none of them. -/
theorem flatten_slotsOf (raws : List Text) : (slotsOf raws).flatten = contentLines raws := by
  have hnonempty (slots : List Slot) :
      (slots.filter fun slot => !slot.isEmpty).flatten = slots.flatten := by
    induction slots with
    | nil => rfl
    | cons slot rest ih => cases slot <;> simp [ih]
  have hkept : contentLines = List.filterMap keptLine? := (funext filterMap_keptLine).symm
  rw [slotsOf, hnonempty, hkept, ← List.filterMap_flatten, passages, List.flatten_splitBy]

theorem ne_nil_of_mem_slotsOf {raws : List Text} {slot : Slot} (h : slot ∈ slotsOf raws) :
    slot ≠ [] := by
  have hfilled := (List.mem_filter.mp h).2
  rintro rfl
  cases hfilled

/-! ## Lines of a block -/

variable {raw : Text}

theorem singles_grouped : ∀ entry ∈ Keyword.directiveEntries ++ Keyword.sharedEntries,
    entry.spelling.toList.head? = some '$' → entry.symbol.closesBlock = false →
      entry.symbol.isSingleLine = singleWords.contains entry.spelling.toList := by
  decide

theorem dollar_of_directive (hkind : kind raw = .directive) : (body raw).head? = some '$' := by
  unfold kind at hkind
  split at hkind
  · cases hkind
  split at hkind
  · cases hkind
  split at hkind
  · cases hkind
  · exact not_not.mp ‹_›

/-- A line that reads as a directive begins with its word, and closes nothing. -/
theorem leads_of_directive {d : Directive} {text : Text} {ended : Bool}
    (h : Script.Line.ofText raw = .ok (.directive d text ended)) (hkind : kind raw = .directive) :
    Leads raw d ∧ d.symbol.closesBlock = false := by
  obtain ⟨d', hleads, hline⟩ := leads_of_ofText (by simp [hkind]) (dollar_of_directive hkind) h
  unfold Script.Line.ofDirective at hline
  split at hline
  · cases hline
  rename_i hcloses
  split at hline
  · cases hline
  · cases hline
    exact ⟨hleads, Bool.not_eq_true _ ▸ hcloses⟩

/-- A directive takes a single line if its word is one of those that do. -/
theorem isSingleLine_directive {d : Directive} {text : Text} {ended : Bool}
    (h : Script.Line.ofText raw = .ok (.directive d text ended)) (hkind : kind raw = .directive) :
    d.symbol.isSingleLine = singleWords.contains (word raw) := by
  obtain ⟨hleads, hcloses⟩ := leads_of_directive h hkind
  obtain ⟨entry, hmem, hword, hsymbol, hdollar⟩ := hleads.entry
  rw [← hword, ← hsymbol]
  exact singles_grouped entry hmem hdollar (hsymbol ▸ hcloses)

end Source

namespace Script

open Source

/-! ## The slots of a draft -/

namespace Draft

/-- The slots of a draft after more lines, which are given by their marks. -/
def slotsWith (d : Draft) (marked : List (Option Text)) : List Slot :=
  d.finished ++ ((cut marked).modifyHead (d.current ++ ·)).filter fun slot => !slot.isEmpty

theorem slotsWith_nil (d : Draft) : d.slotsWith [] = d.slots := by
  have hcut : cut ([] : List (Option Text)) = [[]] := rfl
  rw [slotsWith, slots, hcut, List.modifyHead_cons, List.append_nil, List.filter_singleton]
  cases d.current.isEmpty <;> rfl

theorem slotsWith_push (d : Draft) (text : Text) (marked : List (Option Text)) :
    (d.push text).slotsWith marked = d.slotsWith (some text :: marked) := by
  have happend : ((d.current ++ [text]) ++ ·) = (d.current ++ ·) ∘ (text :: ·) :=
    funext fun slot => List.append_assoc d.current [text] slot
  rw [slotsWith, slotsWith, cut_some, List.modifyHead_modifyHead, ← happend]
  rfl

theorem slotsWith_endSlot (d : Draft) (marked : List (Option Text)) :
    d.endSlot.slotsWith marked = d.slotsWith (none :: marked) := by
  rw [slotsWith, slotsWith, cut_none, List.modifyHead_cons, List.append_nil]
  change d.slots ++ ((cut marked).modifyHead ([] ++ ·)).filter _ = _
  rw [modifyHead_nil_append, slots, List.append_assoc, List.filter_cons]
  cases d.current.isEmpty <;> rfl

/-- A line that is added to a draft marks it. -/
theorem slotsWith_pushLine (d : Draft) (text : Text) (ended : Bool) (marked : List (Option Text)) :
    (d.pushLine text ended).slotsWith marked
      = d.slotsWith (some text :: (if ended then [none] else []) ++ marked) := by
  cases ended with
  | false => exact d.slotsWith_push text marked
  | true => exact ((d.push text).slotsWith_endSlot marked).trans (d.slotsWith_push text _)

end Draft

/-! ## Inside a block -/

variable {number : Nat} {raw : Text} {line : Line} {draft : Option Draft}

/-- A draft that has taken in a line, and is otherwise as it was. -/
structure Taken (raw : Text) (d d' : Draft) : Prop where
  head : d'.head = d.head
  line : d'.line = d.line
  /-- The marks of the line come before those of later lines. -/
  slots : ∀ marked, d'.slotsWith marked = d.slotsWith (marksOf keptLine? endsSlot raw ++ marked)

theorem taken_same {d : Draft} (hmarks : marksOf keptLine? endsSlot raw = []) : Taken raw d d :=
  ⟨rfl, rfl, fun marked => by rw [hmarks, List.nil_append]⟩

theorem taken_pushLine {d : Draft} {ended : Bool} (hkept : isContent raw = true)
    (hended : ended = endsSlot raw) : Taken raw d (d.pushLine (stored raw) ended) where
  head := d.head_pushLine _ _
  line := d.line_pushLine _ _
  slots marked := by
    rw [Draft.slotsWith_pushLine, marksOf, keptLine?, if_pos hkept, hended]
    rfl

/-- **A block takes in every line but a closer.** Openers and remarks leave it as it is. -/
theorem step_inside (number : Nat) {block : Draft} (hblock : block.isBlock = true)
    (h : Line.ofText raw = .ok line) (hcloser : kind raw ≠ .closer) :
    ∃ block', step number line (some block) = ([], some block') ∧ Taken raw block block' := by
  have hfilter : (some block).filter Draft.isBlock = some block := by
    rw [Option.filter_some, if_pos hblock]
  -- no terminator completes a block
  have hopen : block.endsAtTerminator = false :=
    Bool.eq_false_iff.mpr fun hends => by
      rw [isBlock_of_endsAtTerminator hends] at hblock
      cases hblock
  cases ofText_reads h with
  | remark hkind =>
      exact ⟨block, rfl, taken_same (by simp [marksOf, keptLine?, isContent, endsSlot, hkind])⟩
  | terminator hkind =>
      refine ⟨block.endSlot, by rw [step, hopen]; rfl, rfl, rfl, fun marked => ?_⟩
      rw [Draft.slotsWith_endSlot]
      simp [marksOf, keptLine?, isContent, endsSlot, hkind]
  | closer hkind => exact absurd hkind hcloser
  | guardOpener d hkind _ _ | dataOpener d hkind _ =>
      refine ⟨block, by rw [step, hfilter], taken_same ?_⟩
      simp [marksOf, keptLine?, isContent, endsSlot, hkind]
  | directive d hkind _ _ _ _ _ =>
      refine ⟨_, by rw [step, hfilter], taken_pushLine (by simp [isContent, hkind]) ?_⟩
      rw [isSingleLine_directive h hkind]
      simp [endsSlot, hkind]
  | command hkind =>
      refine ⟨block.pushLine (stored raw) (isEnded raw), ?_,
        taken_pushLine (by simp [isContent, hkind]) (by simp [endsSlot, hkind])⟩
      rw [step, Option.getD_some, pushAndClose, hopen, Bool.and_false]
      rfl

/-! ## Outside blocks -/

/-- None of the statements is a block. -/
def Blockless (statements : List Statement) : Prop :=
  ∀ s ∈ statements, s.symbol.opensBlock = false

theorem filter_isBlock_blockless (h : Blockless (closeAny draft)) :
    draft.filter Draft.isBlock = none := by
  cases draft with
  | none => rfl
  | some d =>
      have hblock : d.isBlock = false := h d.statement List.mem_cons_self
      rw [Option.filter_some, hblock]
      rfl

/-- Outside blocks a line gives no block, unless it is an opener. -/
theorem step_outside (number : Nat) (h : Line.ofText raw = .ok line)
    (hopener : ∀ head, line ≠ .opener head) (hdraft : Blockless (closeAny draft)) :
    Blockless (step number line draft).statements := by
  cases ofText_reads h with
  | remark _ => exact hdraft
  | terminator _ =>
      cases draft with
      | none => exact hdraft
      | some d =>
          have hsame : (step number .terminator (some d)).statements = closeAny (some d) :=
            (statements_closeIf _ _).trans (congrArg ([·]) d.endSlot_statement)
          rwa [hsame]
  | closer _ =>
      have hsame : (step number .closer draft).statements = closeAny draft := List.append_nil _
      rwa [hsame]
  | guardOpener d _ _ _ | dataOpener d _ _ => exact absurd rfl (hopener d)
  | directive d hkind _ hopens _ _ _ =>
      rw [statements_directive (filter_isBlock_blockless hdraft)]
      refine List.forall_mem_append.mpr ⟨hdraft, fun s hs => ?_⟩
      rw [List.mem_singleton.mp hs]
      exact hopens
  | command _ =>
      rw [step, statements_pushAndClose]
      intro s hs
      rw [List.mem_singleton.mp hs]
      cases draft with
      | none => rfl
      | some d => exact hdraft d.statement List.mem_cons_self

/-! ## From the opener to the closer -/

/-- Lines up to the first closer. -/
def untilCloser (raws : List (Nat × Text)) : List Text :=
  (raws.map Prod.snd).takeWhile fun raw => kind raw ≠ .closer

/-- The statement that a draft becomes at the first closer among lines. What stands after the closer
has no part in it. -/
structure Closed (d : Draft) (raws : List (Nat × Text)) (s : Statement) : Prop where
  /-- There is a closer among the lines. -/
  closes : ∃ raw ∈ raws, kind raw.2 = .closer
  symbol : s.symbol = d.head.symbol
  line : s.line = d.line
  /-- The slots are those of the draft, with the lines before the closer. -/
  slots : s.slots = d.slotsWith ((untilCloser raws).flatMap (marksOf keptLine? endsSlot))

variable {d d' : Draft} {s : Statement} {rest : List (Nat × Text)}

theorem closed_here (hcloser : kind raw = .closer) :
    Closed d ((number, raw) :: rest) d.statement where
  closes := ⟨(number, raw), List.mem_cons_self, hcloser⟩
  symbol := rfl
  line := rfl
  slots := by
    rw [untilCloser, List.map_cons, List.takeWhile_cons_of_neg (by simp [hcloser])]
    exact d.slotsWith_nil.symm

/-- A line that a draft takes in is one of those before the closer. -/
theorem closed_later (hcloser : kind raw ≠ .closer) (htaken : Taken raw d d')
    (h : Closed d' rest s) : Closed d ((number, raw) :: rest) s where
  closes := by
    obtain ⟨last, hlast, hkind⟩ := h.closes
    exact ⟨last, List.mem_cons_of_mem _ hlast, hkind⟩
  symbol := h.symbol.trans (congrArg Directive.symbol htaken.head)
  line := h.line.trans htaken.line
  slots := by
    rw [h.slots, htaken.slots, untilCloser, untilCloser, List.map_cons,
      List.takeWhile_cons_of_pos (by simpa using hcloser), List.flatMap_cons]

/-- Some opener among lines opens a statement, which the first closer after it completes. -/
def Opened (raws : List (Nat × Text)) (s : Statement) : Prop :=
  ∃ before number raw later head, raws = before ++ (number, raw) :: later
    ∧ Line.ofText raw = .ok (.opener head) ∧ Closed (.new head number) later s

theorem opened_later {first : Nat × Text} (h : Opened rest s) : Opened (first :: rest) s := by
  obtain ⟨before, number, raw, later, head, rfl, hopener, hclosed⟩ := h
  exact ⟨first :: before, number, raw, later, head, rfl, hopener, hclosed⟩

/-- Where a block comes from that lines complete: it was open before them, or one of them opened
it. -/
def Origin (draft : Option Draft) (raws : List (Nat × Text)) (s : Statement) : Prop :=
  (∃ d ∈ draft, d.isBlock = true ∧ Closed d raws s) ∨ Opened raws s

theorem eq_closer (hcloser : kind raw = .closer) (h : Line.ofText raw = .ok line) :
    line = .closer := by
  cases ofText_reads h <;> simp_all

/-- A block that is open before a line is completed by it, or takes it in. -/
theorem block_inside {block : Draft} (hblock : block.isBlock = true)
    (h : Line.ofText raw = .ok line) {later : List (Nat × Line)}
    (hs : s ∈ (group ((number, line) :: later) (some block)).1)
    (hlater : ∀ draft, s ∈ (group later draft).1 → Origin draft rest s) :
    Closed block ((number, raw) :: rest) s ∨ Opened ((number, raw) :: rest) s := by
  by_cases hcloser : kind raw = .closer
  · obtain rfl := eq_closer hcloser h
    rcases List.mem_cons.mp hs with rfl | hs
    · exact .inl (closed_here hcloser)
    · rcases hlater none hs with ⟨d, hd, -⟩ | hopened
      · cases hd
      · exact .inr (opened_later hopened)
  · obtain ⟨block', hstep, htaken⟩ := step_inside number hblock h hcloser
    rw [group, hstep] at hs
    rcases hlater (some block') hs with ⟨d, hd, -, hclosed⟩ | hopened
    · cases hd
      exact .inl (closed_later hcloser htaken hclosed)
    · exact .inr (opened_later hopened)

/-- Outside blocks a block comes from an opener. -/
theorem block_outside (hdraft : Blockless (closeAny draft)) (h : Line.ofText raw = .ok line)
    {later : List (Nat × Line)} (hs : s ∈ (group ((number, line) :: later) draft).1)
    (hblock : s.symbol.opensBlock = true)
    (hlater : ∀ draft, s ∈ (group later draft).1 → Origin draft rest s) :
    Opened ((number, raw) :: rest) s := by
  by_cases hopener : ∃ head, line = .opener head
  · obtain ⟨head, rfl⟩ := hopener
    rw [group, step, filter_isBlock_blockless hdraft] at hs
    rcases List.mem_append.mp hs with hopen | hs
    · rw [hdraft s hopen] at hblock
      cases hblock
    · rcases hlater _ hs with ⟨d, hd, -, hclosed⟩ | hopened
      · cases hd
        exact ⟨[], number, raw, rest, head, rfl, h, hclosed⟩
      · exact opened_later hopened
  · have hnone := step_outside number h (fun head hline => hopener ⟨head, hline⟩) hdraft
    obtain ⟨hcompleted, hopen⟩ := List.forall_mem_append.mp hnone
    rcases List.mem_append.mp hs with hs | hs
    · rw [hcompleted s hs] at hblock
      cases hblock
    · rcases hlater _ hs with ⟨d, hd, hisBlock, -⟩ | hopened
      · have hplain : d.isBlock = false :=
          hopen d.statement (List.mem_map_of_mem (Option.mem_toList.mpr hd))
        rw [hplain] at hisBlock
        cases hisBlock
      · exact opened_later hopened

/-- **A block that lines complete has an origin.** -/
theorem block_of_group {raws : List (Nat × Text)} {lines : List (Nat × Line)}
    (hread : raws.mapM readLine = .ok lines) (hs : s ∈ (group lines draft).1)
    (hblock : s.symbol.opensBlock = true) : Origin draft raws s := by
  induction raws generalizing lines draft with
  | nil =>
      cases hread
      cases hs
  | cons first rest ih =>
      obtain ⟨⟨n, line⟩, later, hfirst, hrest, rfl⟩ := mapM_readLine_cons hread
      obtain ⟨number, raw⟩ := first
      obtain ⟨rfl, hline⟩ := readLine_ok hfirst
      have hlater : ∀ draft, s ∈ (group later draft).1 → Origin draft rest s :=
        fun _ hs => ih hrest hs
      by_cases hopen : ∃ block ∈ draft, block.isBlock = true
      · obtain ⟨block, rfl, hisBlock⟩ := hopen
        exact (block_inside hisBlock hline hs hlater).imp_left fun hclosed =>
          ⟨block, rfl, hisBlock, hclosed⟩
      · refine .inr (block_outside ?_ hline hs hblock hlater)
        intro s' hs'
        obtain ⟨d, hd, rfl⟩ := List.mem_map.mp hs'
        exact Bool.eq_false_iff.mpr fun hisBlock =>
          hopen ⟨d, Option.mem_toList.mp hd, hisBlock⟩

/-! ## The blocks of a script -/

theorem drop_numberedLines {source : Text} {before later : List (Nat × Text)}
    (h : numberedLines source = before ++ (number, raw) :: later) :
    (numberedLines source).drop number = later := by
  have hnumber : number = before.length + 1 := by
    have hfirst : (List.range' 1 (source.splitOn '\n').length)[before.length]? = some number := by
      rw [← numbers_numberedLines, h]
      simp
    obtain ⟨hlength, hfirst⟩ := List.getElem?_eq_some_iff.mp hfirst
    rw [← hfirst, List.getElem_range']
    omega
  rw [h, hnumber, List.append_cons, List.drop_left' (by simp)]

/-- The lines of a source after the opener on a line, up to the first closer. -/
def blockLines (source : Text) (number : Nat) : List Text :=
  untilCloser ((numberedLines source).drop number)

/-- What a statement that opens a block holds, by the lines of the source. -/
structure Block (source : Text) (s : Statement) : Prop where
  /-- The line with its number opened it. -/
  opened : ∃ opener, (s.line, opener) ∈ numberedLines source
    ∧ kind opener = if s.symbol = .ifBlock then .guardOpener else .dataOpener
  /-- A closer stands below that line. -/
  closed : ∃ closer ∈ (numberedLines source).drop s.line, kind closer.2 = .closer
  /-- It holds the content lines up to the first closer. -/
  lines : s.lines = contentLines (blockLines source s.line)
  /-- They are divided where a line ends a slot. -/
  slots : s.slots = slotsOf (blockLines source s.line)
  /-- No slot is without a line. -/
  filled : ∀ slot ∈ s.slots, slot ≠ []

/-- Every block of a script has been opened by a line, and has been closed. -/
theorem opened_of_parse {source : Text} {statements : List Statement}
    (h : parse source = .ok statements) (hs : s ∈ statements)
    (hblock : s.symbol.opensBlock = true) : Opened (numberedLines source) s := by
  obtain ⟨lines, hread, hfinish⟩ := parse_ok h
  rw [finish_statements hfinish] at hs
  rcases List.mem_append.mp hs with hs | hs
  · rcases block_of_group hread hs hblock with ⟨d, hd, -⟩ | hopened
    · cases hd
    · exact hopened
  · -- a block that is open after the last line is refused
    obtain ⟨d, hd, rfl⟩ := List.mem_map.mp hs
    have hisBlock : d.isBlock = true := hblock
    rw [finish_eq, Option.mem_toList.mp hd, openBlock_some, if_pos hisBlock] at hfinish
    cases hfinish

/--
**A block holds the content lines between its opener and the first closer after it.**

They are divided into slots after each content line with a terminator, after each directive that
takes a single line, and at each terminator alone. No slot is without a line, so terminators that
come first or follow each other make none.
-/
theorem block_extent {source : Text} {statements : List Statement}
    (h : parse source = .ok statements) (hs : s ∈ statements)
    (hblock : s.symbol.opensBlock = true) : Block source s := by
  obtain ⟨before, number, raw, later, head, hlines, hopener, hclosed⟩ := opened_of_parse h hs hblock
  have hnumber : s.line = number := hclosed.line
  have hlater : (numberedLines source).drop s.line = later := hnumber ▸ drop_numberedLines hlines
  have hslots : s.slots = slotsOf (blockLines source s.line) := by
    rw [blockLines, hlater, hclosed.slots, Draft.slotsWith, ← cut_slots]
    change ((cut _).modifyHead ([] ++ ·)).filter _ = _
    rw [modifyHead_nil_append]
  have hsymbol : s.symbol = head.symbol := hclosed.symbol
  refine ⟨⟨raw, ?_, ?_⟩, hlater ▸ hclosed.closes, ?_, hslots, ?_⟩
  · rw [hlines, hnumber]
    exact List.mem_append_right _ List.mem_cons_self
  · cases ofText_reads hopener with
    | guardOpener d hkind hif _ => rw [hsymbol, hif, hkind, if_pos rfl]
    | dataOpener d hkind hdata => rw [hsymbol, hdata, hkind, if_neg (by decide)]
  · rw [Statement.lines, hslots, flatten_slotsOf]
  · rw [hslots]
    exact fun slot => ne_nil_of_mem_slotsOf

/-- A block with terminators that come first and follow each other, a nested opener, directives of
three kinds, and lines after its closer. -/
def nested : Text :=
  "# note\n$if exist table a\n&&\n$ie drop b &&\n&&\n &&\n$if not exist table c\nadd c\n (x) && &&
$lastdbu 3.6\n# note\n$exit\nbye\n$EndIf\nselect 1\n$fi".toList

/-- The block on its second line. The nested opener is dropped, and the directives are text. -/
def nestedBlock : Statement :=
  { symbol := .ifBlock, key := "$if".toList
    fields := [⟨"exist".toList, .exist⟩, ⟨"table".toList, .table⟩, ⟨"a".toList, .plain⟩]
    slots := [["drop b".toList], ["add c".toList, "(x) &&".toList], ["$lastdbu 3.6".toList],
      ["$exit".toList, "bye".toList]]
    line := 2 }

/-- The statements of that source. The second closer closes no block. -/
def nestedStatements : List Statement :=
  [nestedBlock, ⟨.sql, "sql".toList, [], [["select 1".toList]], 15⟩]

theorem block_extent_nested :
    parse nested = .ok nestedStatements ∧ nestedBlock ∈ nestedStatements ∧
      nestedBlock.symbol.opensBlock = true ∧
      slotsOf (blockLines nested 2) = nestedBlock.slots ∧
      contentLines (blockLines nested 2) = nestedBlock.lines := by
  have hparse : parse nested = .ok nestedStatements := by decide +kernel
  have hblock : Block nested nestedBlock := block_extent hparse List.mem_cons_self rfl
  exact ⟨hparse, List.mem_cons_self, rfl, hblock.slots.symm, hblock.lines.symm⟩

end Script

end MigrationScript
