import Mathlib
import MigrationScript.Proofs.Run.Application
import MigrationScript.Proofs.Source.Block
import MigrationScript.Proofs.Source.Spacing
import MigrationScript.Proofs.Source.Twin

/-!
# What a data block hands over

A script can be a data block and nothing else: `$ecv_start`, rows of data, one on each line, and
`$ecv_stop`. The rows are lines of a script like any other lines. So a row that starts with `#` is a
comment, a terminator at the end of a row is taken off, and a row that starts with `$` is read as a
directive, which may be unknown.

A row with an unknown word is reported. Without one the script is a single statement, since a block
takes in every line but a closer (`group_inside`), and its rows that are content lines are handed
over in one call (`rows_handed_over`). Rows that have none of these signs are handed over as they
are.
-/

namespace MigrationScript

namespace Source

/-- Rows of data as a script. -/
def dataScript (rows : List Text) : Text :=
  Text.join ['\n'] ("$ecv_start".toList :: (rows ++ ["$ecv_stop".toList]))

/-- A text that can stand as one row in a block: it goes over one line, and does not close it. -/
structure DataRow (row : Text) : Prop where
  single : '\n' ∉ row
  inside : kind row ≠ .closer

instance (row : Text) : Decidable (DataRow row) :=
  decidable_of_iff ('\n' ∉ row ∧ kind row ≠ .closer)
    ⟨fun h => ⟨h.1, h.2⟩, fun h => ⟨h.single, h.inside⟩⟩

/-- A row with none of the signs that mean something in a script. -/
structure PlainRow (row : Text) : Prop where
  filled : Text.trim row ≠ []
  noRemark : (Text.trim row).head? ≠ some '#'
  noDirective : (Text.trim row).head? ≠ some '$'
  noTerminator : ¬ "&&".toList <:+ Text.trim row

variable {row : Text}

theorem body_plainRow (hrow : PlainRow row) : body row = Text.trim row := by
  have hcropped := cropped row
  exact hcropped.whole (Bool.eq_false_iff.mpr (mt hcropped.ended.mp hrow.noTerminator))

/-- A row without signs is a line of command text. -/
theorem kind_plainRow (hrow : PlainRow row) : kind row = .command := by
  have hremark : ¬ ((Text.trim row).isEmpty || (Text.trim row).head? = some '#') = true := by
    simp [hrow.filled, hrow.noRemark]
  have hlone : Text.trim row ≠ "&&".toList := fun h => hrow.noTerminator (h ▸ List.suffix_rfl)
  rw [kind, if_neg hremark, if_neg hlone, body_plainRow hrow, if_pos hrow.noDirective]

theorem isUnknown_plainRow (hrow : PlainRow row) : isUnknown row = false := by
  simp [isUnknown, body_plainRow hrow, hrow.noDirective]

theorem contentLines_plainRows {rows : List Text} (hrows : ∀ row ∈ rows, PlainRow row) :
    contentLines rows = rows.map Text.trim := by
  have hall : rows.filter isContent = rows :=
    List.filter_eq_self.mpr fun row hrow => by simp [isContent, kind_plainRow (hrows row hrow)]
  rw [contentLines, hall]
  refine List.map_congr_left fun row hrow => ?_
  rw [stored_of_command (kind_plainRow (hrows row hrow)), body_plainRow (hrows row hrow)]

end Source

namespace Script

open Source

/-! ## The lines of the script -/

variable {rows : List Text}

theorem numberedLines_dataScript (hrows : ∀ row ∈ rows, '\n' ∉ row) :
    numberedLines (dataScript rows) = (1, "$ecv_start".toList) ::
      (numbered 2 rows ++ [(rows.length + 2, "$ecv_stop".toList)]) := by
  have hsingle : ∀ line ∈ "$ecv_start".toList :: (rows ++ ["$ecv_stop".toList]), '\n' ∉ line := by
    intro line hline
    rcases List.mem_cons.mp hline with rfl | hline
    · decide
    rcases List.mem_append.mp hline with hrow | hlast
    · exact hrows line hrow
    · rw [List.mem_singleton.mp hlast]
      decide
  have hsplit : (dataScript rows).splitOn '\n'
      = "$ecv_start".toList :: (rows ++ ["$ecv_stop".toList]) :=
    List.splitOn_intercalate '\n' hsingle (List.cons_ne_nil _ _)
  have hnumbered := numbered_append 2 rows ["$ecv_stop".toList]
  rw [Nat.add_comm] at hnumbered
  rw [numberedLines, hsplit]
  exact congrArg (List.cons _) hnumbered

theorem find?_unknown_numbered {lines : List Text} (h : ∀ line ∈ lines, isUnknown line = false)
    (first : Nat) : (numbered first lines).find? (isUnknown ·.2) = none := by
  rw [List.find?_eq_none]
  intro raw hraw
  simp [h raw.2 (mem_of_mem_numbered hraw)]

/-- The directive that opens the block. -/
def dataOpening : Directive := ⟨.verbatimStart, "$ecv_start".toList, []⟩

theorem ofText_opening : Line.ofText "$ecv_start".toList = .ok (.opener dataOpening) := by
  decide +kernel

theorem ofText_closing : Line.ofText "$ecv_stop".toList = .ok .closer := by decide +kernel

/-! ## The block -/

/-- **A block stays open until a closer**, whatever its lines are. -/
theorem group_inside {raws : List (Nat × Text)} {lines : List (Nat × Line)}
    (hread : raws.mapM readLine = .ok lines) (hcloser : ∀ raw ∈ raws, kind raw.2 ≠ .closer)
    {block : Draft} (hblock : block.isBlock = true) :
    ∃ block', group lines (some block) = ([], some block') ∧ block'.head = block.head ∧
      block'.line = block.line := by
  induction raws generalizing lines block with
  | nil =>
      cases hread
      exact ⟨block, rfl, rfl, rfl⟩
  | cons first rest ih =>
      obtain ⟨⟨n, line⟩, later, hfirst, hrest, rfl⟩ := mapM_readLine_cons hread
      obtain ⟨number, raw⟩ := first
      obtain ⟨rfl, hline⟩ := readLine_ok hfirst
      obtain ⟨hraw, hcloser⟩ := List.forall_mem_cons.mp hcloser
      obtain ⟨between, hstep, htaken⟩ := step_inside n hblock hline hraw
      have hbetween : between.isBlock = true := by rwa [Draft.isBlock, htaken.head]
      obtain ⟨block', hgroup, hhead, hnumber⟩ := ih hrest hcloser hbetween
      refine ⟨block', ?_, hhead.trans htaken.head, hnumber.trans htaken.line⟩
      rw [group, hstep]
      dsimp only
      rw [hgroup]
      rfl

/-- **The first row with an unknown word is reported**, with its number in the script. -/
theorem parse_dataScript_unknown {before after : List Text} {row : Text}
    (hrows : ∀ r ∈ before ++ row :: after, '\n' ∉ r) (hbefore : ∀ r ∈ before, isUnknown r = false)
    (hrow : isUnknown row = true) :
    parse (dataScript (before ++ row :: after))
      = .error (.unknownDirective (before.length + 2) (Lexeme.leadingWord (body row))) := by
  have hnumbered : numbered 2 (before ++ row :: after) = numbered 2 before
      ++ (before.length + 2, row) :: numbered (before.length + 3) after := by
    have h := numbered_append 2 before (row :: after)
    rwa [Nat.add_comm] at h
  rw [parse_cons (numberedLines_dataScript hrows) ofText_opening]
  refine congrArg (· >>= _) ((mapM_readLine _).1 (before.length + 2, row) ?_)
  rw [hnumbered, List.append_assoc, List.find?_append, find?_unknown_numbered hbefore,
    Option.none_or, List.cons_append, List.find?_cons]
  dsimp only
  rw [hrow]

/-- **A data block is one statement**, of the rows that are content lines. -/
theorem parse_dataScript (hrows : ∀ row ∈ rows, DataRow row)
    (hknown : ∀ row ∈ rows, isUnknown row = false) :
    ∃ s, parse (dataScript rows) = .ok [s] ∧ s.role = .verbatim ∧ s.lines = contentLines rows := by
  have hlines := numberedLines_dataScript fun row hrow => (hrows row hrow).single
  obtain ⟨lines, hread⟩ := (mapM_readLine (numbered 2 rows)).2 (find?_unknown_numbered hknown 2)
  obtain ⟨block, hgroup, hhead, hline⟩ := group_inside hread
    (fun raw hraw => (hrows raw.2 (mem_of_mem_numbered hraw)).inside)
    (show (Draft.new dataOpening 1).isBlock = true from rfl)
  have hparse : parse (dataScript rows) = .ok [block.statement] := by
    rw [parse_cons hlines ofText_opening, List.mapM_append, hread, List.mapM_cons, readLine,
      ofText_closing]
    change finish (Step.along (lines ++ [(rows.length + 2, .closer)])
      ([], some (Draft.new dataOpening 1))) = _
    rw [Step.along, group_append, hgroup]
    rfl
  have hsymbol : block.statement.symbol = .verbatimStart := congrArg Directive.symbol hhead
  refine ⟨block.statement, hparse, by rw [Statement.role, hsymbol], ?_⟩
  have hblock := block_extent hparse List.mem_cons_self (by rw [hsymbol]; rfl)
  have hnumber : block.statement.line = 1 := hline
  have hinside : blockLines (dataScript rows) 1 = rows := by
    rw [blockLines, hlines, List.drop_succ_cons, List.drop_zero, untilCloser, List.map_append,
      texts_numbered, List.takeWhile_append_of_pos]
    · exact List.append_nil rows
    · exact fun row hrow => decide_eq_true (hrows row hrow).inside
  rw [hblock.lines, hnumber, hinside]

end Script

namespace Run

open Source Script

variable {σ τ : Type}

/-- A block that is taken is one call, whatever the answer. -/
theorem executeBlock_calls (db : Database σ) (lines : List Text) {s : Session (Watched σ)}
    (htakes : db.handlesVerbatim s.database.state = true) :
    (executeBlock db.watched lines s).2.database.calls
      = s.database.calls ++ [.verbatim lines] := by
  have hhandles : db.watched.handlesVerbatim s.database = true := htakes
  rw [executeBlock, if_pos hhandles, executeVerbatim_watched]
  cases (db.executeVerbatim lines s.database.state).1 <;> rfl

/-- A script that is one verbatim block hands it over, if the database takes such blocks. -/
theorem calls_of_block (db : Database σ) (store : VersionStore τ) (e : Engine σ τ) {s : Statement}
    (hrole : s.role = .verbatim) (htakes : db.handlesVerbatim e.database = true) :
    (e.episode db store [s]).observed.calls = [.verbatim s.lines] := by
  rw [(episode_calls db store [s] e).1, Engine.walked, walk_single, step, hrole]
  exact executeBlock_calls db s.lines htakes

/-- What any database that takes verbatim blocks meets in a run: one block, of these lines. -/
def HandsOver (statements : List Statement) (lines : List Text) : Prop :=
  ∀ (σ τ : Type) (db : Database σ) (store : VersionStore τ) (e : Engine σ τ),
    db.handlesVerbatim e.database = true →
      (e.episode db store statements).observed.calls = [.verbatim lines]

/-- Whether a block hands over all of its rows as they are, but for white space around them. -/
def HandsAll (rows : List Text) : Prop :=
  ∃ statements, parse (dataScript rows) = .ok statements ∧
    HandsOver statements (rows.map Text.trim)

/-- A data block without unknown words hands over its content lines. -/
theorem contents_handed_over {rows : List Text} (hrows : ∀ row ∈ rows, DataRow row)
    (hknown : ∀ row ∈ rows, isUnknown row = false) :
    ∃ statements, parse (dataScript rows) = .ok statements ∧
      HandsOver statements (contentLines rows) := by
  obtain ⟨s, hparse, hrole, hlines⟩ := parse_dataScript hrows hknown
  refine ⟨[s], hparse, ?_⟩
  intro σ τ db store e htakes
  rw [calls_of_block db store e hrole htakes, hlines]

/--
**What the rows of a data block become.**

The first row with an unknown word is reported. If there is none, the rows that are content lines
are handed over in one call, in order, each without a terminator at its end. Of a one-line guard it
is not said what is handed over. Rows without any sign are all handed over as they are.
-/
theorem rows_handed_over {rows : List Text} (hrows : ∀ row ∈ rows, DataRow row) :
    (∀ before row after, rows = before ++ row :: after → (∀ r ∈ before, isUnknown r = false) →
      isUnknown row = true → parse (dataScript rows)
        = .error (.unknownDirective (before.length + 2) (Lexeme.leadingWord (body row)))) ∧
      ((∀ row ∈ rows, isUnknown row = false) → ∃ statements received,
        parse (dataScript rows) = .ok statements ∧ HandsOver statements received ∧
          List.Forall₂ (fun row text => guardsLine row = false → text = body row)
            (rows.filter isContent) received) ∧
      ((∀ row ∈ rows, PlainRow row) → HandsAll rows) := by
  refine ⟨?_, ?_, ?_⟩
  · rintro before row after rfl hbefore hrow
    exact parse_dataScript_unknown (fun r hr => (hrows r hr).single) hbefore hrow
  · intro hknown
    obtain ⟨statements, hparse, hcalls⟩ := contents_handed_over hrows hknown
    refine ⟨statements, contentLines rows, hparse, hcalls, ?_⟩
    refine List.forall₂_map_right_iff.mpr (List.forall₂_same.mpr fun row _ hline => ?_)
    rw [stored, if_neg (by simp [hline])]
  · intro hplain
    have hall := contents_handed_over hrows fun row hrow => isUnknown_plainRow (hplain row hrow)
    rwa [contentLines_plainRows hplain] at hall

/-- A comment, a terminator, a nested opener and a directive among rows. -/
def signedRows : List Text :=
  [" 1,a ".toList, "# 2,b".toList, "3,c &&".toList, "$if x".toList, "$exit".toList]

/-- A word that is no directive, behind a row of data. -/
def pricedRows : List Text := ["1,a".toList, " $5,b".toList]

theorem rows_handed_over_signedRows :
    (∀ row ∈ signedRows, DataRow row) ∧ (∀ row ∈ pricedRows, DataRow row) ∧
      (∃ statements, parse (dataScript signedRows) = .ok statements ∧
        HandsOver statements ["1,a".toList, "3,c".toList, "$exit".toList]) ∧
      parse (dataScript pricedRows) = .error (.unknownDirective 3 "$5".toList) := by
  have hsigned : ∀ row ∈ signedRows, DataRow row := by decide +kernel
  have hpriced : ∀ row ∈ pricedRows, DataRow row := by decide +kernel
  have hknown : ∀ row ∈ signedRows, isUnknown row = false := by decide +kernel
  have hcontent : signedRows.filter isContent
      = [" 1,a ".toList, "3,c &&".toList, "$exit".toList] := by decide +kernel
  obtain ⟨statements, received, hparse, hcalls, hbodies⟩ :=
    (rows_handed_over hsigned).2.1 hknown
  have hreceived : received = ["1,a".toList, "3,c".toList, "$exit".toList] := by
    rw [hcontent] at hbodies
    obtain _ | ⟨ha, _ | ⟨hc, _ | ⟨hexit, _ | _⟩⟩⟩ := hbodies
    rw [ha (by decide +kernel), hc (by decide +kernel), hexit (by decide +kernel)]
    decide +kernel
  refine ⟨hsigned, hpriced, ⟨statements, hparse, hreceived ▸ hcalls⟩, ?_⟩
  exact (rows_handed_over hpriced).1 ["1,a".toList] " $5,b".toList [] rfl (by decide +kernel)
    (by decide +kernel)

/-- A database that takes verbatim blocks. -/
def blockTaker : Database Unit :=
  { Database.willing (fun _ _ => true) with handlesVerbatim := fun _ => true }

theorem not_handsAll_of_parse {rows : List Text} {statements : List Statement}
    (hparse : parse (dataScript rows) = .ok statements)
    (hcalls : ((engineOf "shop".toList).episode blockTaker keeper statements).observed.calls
      ≠ [.verbatim (rows.map Text.trim)]) : ¬ HandsAll rows := by
  rintro ⟨statements', hparse', hall⟩
  obtain rfl := Except.ok.inj (hparse.symm.trans hparse')
  exact hcalls (hall Unit Unit blockTaker keeper (engineOf "shop".toList) rfl)

/-- A row that looks like a comment. -/
def notedRows : List Text := ["#1,a".toList, "2,b".toList]

/-- A row that ends like a statement. -/
def endedRows : List Text := ["1,R&&".toList, "2,b".toList]

/-- Rows with the signs of comments and terminators are not handed over as they are, and one with a
word that is no directive is not even read. -/
theorem not_handsAll_signs :
    (∀ row ∈ notedRows ++ endedRows ++ pricedRows, Text.trim row ≠ [] ∧ DataRow row) ∧
      ¬ HandsAll notedRows ∧ ¬ HandsAll endedRows ∧ ¬ HandsAll pricedRows := by
  have hnoted : parse (dataScript notedRows)
      = .ok [⟨.verbatimStart, "$ecv_start".toList, [], [["2,b".toList]], 1⟩] := by decide +kernel
  have hended : parse (dataScript endedRows)
      = .ok [⟨.verbatimStart, "$ecv_start".toList, [], [["1,R".toList], ["2,b".toList]], 1⟩] := by
    decide +kernel
  have hpriced : parse (dataScript pricedRows) = .error (.unknownDirective 3 "$5".toList) := by
    decide +kernel
  refine ⟨by decide +kernel, not_handsAll_of_parse hnoted (by decide +kernel),
    not_handsAll_of_parse hended (by decide +kernel), ?_⟩
  rintro ⟨statements, hparse, -⟩
  rw [hpriced] at hparse
  cases hparse

end Run

end MigrationScript
