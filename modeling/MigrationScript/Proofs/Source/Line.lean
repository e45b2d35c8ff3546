import MigrationScript.Script.Line
import MigrationScript.Guard
import MigrationScript.Proofs.Keyword
import MigrationScript.Proofs.Text

/-!
# What a source line is, by its spelling

A source line is known by its first character and its first word: a remark, a lone terminator, an
opener, a closer, or a content line, which is stored as text. This is said here of the raw line,
with the words as they are spelled and no symbol. `ofText_reads` ties it to how the lines of a
script are read. What it needs of the keyword list is one table, `spellings_grouped`.
-/

namespace MigrationScript.Source

/-! ## Lines by their spelling -/

/-- The trimmed line without one terminator at its end and the white space before it. -/
def body (raw : Text) : Text := (Script.Line.splitTerminator (Text.trim raw)).1

/-- Whether the trimmed line has a terminator at its end. -/
def isEnded (raw : Text) : Bool := (Script.Line.splitTerminator (Text.trim raw)).2

/-- The first word of a line in lower case. -/
def word (raw : Text) : Text := Keyword.folded (Lexeme.leadingWord (body raw))

/-- The words after the first word of a line. -/
def fields (raw : Text) : List Field := ((Lexeme.words (body raw)).drop 1).map Field.ofWord

/-- The words that open a data block. -/
def dataWords : List Text := ["$ecv_start".toList, "$ecv".toList]

/-- The words that close a block of either kind. -/
def closingWords : List Text := ["$fi".toList, "$endif".toList, "$ecv_stop".toList]

/-- The words of one-line guards. -/
def guardWords : List Text := ["$ie".toList, "$ine".toList]

/-- The words that a run obeys itself. -/
def controlWords : List Text :=
  ["$app_version".toList, "$dbu_version".toList, "$lastdbu".toList, "$show".toList,
    "$noshow".toList, "$hide".toList, "$nohide".toList]

/-- What a line is. The last two are the content lines. -/
inductive Kind where
  /-- White space only, or a comment. -/
  | remark
  /-- A terminator alone. -/
  | terminator
  /-- The opener of a block with a guard. -/
  | guardOpener
  /-- The opener of a block of data. -/
  | dataOpener
  /-- The end of a block of either kind. -/
  | closer
  /-- Any other line that starts with `$`. -/
  | directive
  /-- Any other line. -/
  | command
  deriving DecidableEq

/-- What a line is, by its first character and its first word. -/
def kind (raw : Text) : Kind :=
  if (Text.trim raw).isEmpty || (Text.trim raw).head? = some '#' then .remark
  else if Text.trim raw = "&&".toList then .terminator
  else if (body raw).head? ≠ some '$' then .command
  else if word raw = "$if".toList then .guardOpener
  else if dataWords.contains (word raw) then .dataOpener
  else if closingWords.contains (word raw) then .closer
  else .directive

/-- A one-line guard, with the command it guards. -/
def guardsLine (raw : Text) : Bool := kind raw = .directive && guardWords.contains (word raw)

/-- A content line as it is stored. Of a one-line guard the command after its word is. -/
def stored (raw : Text) : Text :=
  if guardsLine raw then Lexeme.dropLeadingWord (body raw) else body raw

theorem splitTerminator_ended (rest : Text) :
    Script.Line.splitTerminator (rest ++ "&&".toList) = (Text.trimEnd rest, true) := by
  rw [Script.Line.splitTerminator, Script.Line.terminatorSign, Text.dropSuffix?_append]

theorem splitTerminator_of_not {t : Text} (h : ¬ "&&".toList <:+ t) :
    Script.Line.splitTerminator t = (t, false) := by
  rw [Script.Line.splitTerminator, Script.Line.terminatorSign, Text.dropSuffix?_of_not h]

/-- The body of a line is a beginning of the trimmed line. -/
theorem body_prefix_trim (raw : Text) : body raw <+: Text.trim raw := by
  unfold body Script.Line.splitTerminator
  split
  · rename_i rest hcut
    rw [Text.dropSuffix?_of_some hcut]
    exact (Text.trimEnd_prefix_self rest).trans (List.prefix_append _ _)
  · exact List.prefix_rfl

/-- What is taken off a trimmed line at its end. -/
structure Cropped (raw : Text) : Prop where
  /-- A line is ended by a terminator at its end. -/
  ended : isEnded raw = true ↔ "&&".toList <:+ Text.trim raw
  /-- The terminator is taken off, and the white space before it. -/
  cut : isEnded raw = true → ∃ space, (∀ c ∈ space, Text.isBlank c = true) ∧
    body raw ++ space ++ "&&".toList = Text.trim raw
  /-- Nothing else is taken off. -/
  whole : isEnded raw = false → body raw = Text.trim raw
  /-- What is left does not end with white space. -/
  tight : ∀ c ∈ (body raw).getLast?, Text.isBlank c = false

theorem cropped (raw : Text) : Cropped raw := by
  by_cases hends : "&&".toList <:+ Text.trim raw
  · obtain ⟨rest, hrest⟩ := hends
    have hsplit : Script.Line.splitTerminator (Text.trim raw) = (Text.trimEnd rest, true) :=
      hrest ▸ splitTerminator_ended rest
    obtain ⟨space, hspace, hjoin⟩ := Text.trimEnd_append rest
    refine ⟨?_, fun _ => ⟨space, hspace, ?_⟩, ?_, fun c hc => ?_⟩
    · rw [isEnded, hsplit]
      exact iff_of_true rfl ⟨rest, hrest⟩
    · rw [body, hsplit, hjoin, hrest]
    · rw [isEnded, hsplit]
      exact fun h => absurd h Bool.noConfusion
    · rw [body, hsplit] at hc
      exact Text.getLast_trimEnd hc
  · have hsplit : Script.Line.splitTerminator (Text.trim raw) = (Text.trim raw, false) :=
      splitTerminator_of_not hends
    refine ⟨?_, ?_, fun _ => ?_, fun c hc => ?_⟩
    · rw [isEnded, hsplit]
      exact iff_of_false Bool.noConfusion hends
    · rw [isEnded, hsplit]
      exact fun h => absurd h Bool.noConfusion
    · rw [body, hsplit]
    · rw [body, hsplit] at hc
      exact Text.getLast_trimEnd hc

/-- The body of a line is a part of it. -/
theorem body_sublist (raw : Text) : (body raw).Sublist raw :=
  (body_prefix_trim raw).sublist.trans (Text.trim_sublist raw)

theorem stored_sublist (raw : Text) : (stored raw).Sublist raw := by
  refine List.Sublist.trans ?_ (body_sublist raw)
  unfold stored Lexeme.dropLeadingWord
  split
  · exact (List.dropWhile_sublist _).trans (List.dropWhile_sublist _)
  · exact List.Sublist.refl _

/-- A command is no one-line guard, so it is stored as it stands. -/
theorem stored_of_command {raw : Text} (hkind : kind raw = .command) : stored raw = body raw := by
  rw [stored, guardsLine, hkind]
  rfl

/-- Only a lone terminator leaves nothing of a line that says something. -/
theorem body_eq_nil {raw : Text} (h : Text.trim raw ≠ []) :
    body raw = [] ↔ Text.trim raw = "&&".toList := by
  unfold body Script.Line.splitTerminator
  constructor
  · intro hbody
    split at hbody
    · rename_i rest hcut
      have htrim := Text.dropSuffix?_of_some hcut
      -- what stands before the terminator is trimmed to nothing, so nothing stands there
      cases rest with
      | nil => exact htrim
      | cons c rest => exact absurd hbody (Text.trimEnd_cons (Text.head_trim htrim) rest)
    · exact absurd hbody h
  · intro hlone
    rw [hlone]
    rfl

/-! ## What the keyword list says of the words -/

/-- Symbols of the directives that a run obeys itself. -/
def controls : Symbol → Bool
  | .appVersion | .dbuVersion | .lastDbu | .showOn | .showOff | .hideOn | .hideOff => true
  | _ => false

/-- A word and a symbol are in the same groups. -/
def Matches (word : Text) (symbol : Symbol) : Prop :=
  (word = "$if".toList ↔ symbol = .ifBlock)
    ∧ (dataWords.contains word = true ↔ symbol = .verbatimStart)
    ∧ closingWords.contains word = symbol.closesBlock
    ∧ guardWords.contains word = symbol.guardsOneLine
    ∧ (word = "$ine".toList ↔ symbol = .ifMissing)
    ∧ controlWords.contains word = controls symbol

theorem spellings_grouped : ∀ entry ∈ Keyword.directiveEntries ++ Keyword.sharedEntries,
    Matches entry.spelling.toList entry.symbol := by
  unfold Matches
  decide

/-- The groups of symbols are groups of words. -/
theorem matches_of_directive {head : Text} {symbol : Symbol}
    (h : Keyword.directive? head = some symbol) : Matches (Keyword.folded head) symbol := by
  obtain ⟨entry, hmem, hspelling, rfl⟩ := Keyword.lookup_eq_some h
  rw [← hspelling]
  exact spellings_grouped entry hmem

/-! ## How a line is read -/

/-- What a line reads as, by its kind. -/
inductive Reads (raw : Text) : Script.Line → Prop where
  | remark (hkind : kind raw = .remark) : Reads raw .blank
  | terminator (hkind : kind raw = .terminator) : Reads raw .terminator
  | closer (hkind : kind raw = .closer) : Reads raw .closer
  | guardOpener (d : Directive) (hkind : kind raw = .guardOpener) (hsymbol : d.symbol = .ifBlock)
      (hfields : d.fields = fields raw) : Reads raw (.opener d)
  | dataOpener (d : Directive) (hkind : kind raw = .dataOpener)
      (hsymbol : d.symbol = .verbatimStart) : Reads raw (.opener d)
  | directive (d : Directive) (hkind : kind raw = .directive) (hfields : d.fields = fields raw)
      (hopens : d.symbol.opensBlock = false) (hguards : d.symbol.guardsOneLine = guardsLine raw)
      (hnegated : word raw = "$ine".toList ↔ d.symbol = .ifMissing)
      (hcontrols : controlWords.contains (word raw) = controls d.symbol) :
      Reads raw (.directive d (stored raw) (isEnded raw || d.symbol.isSingleLine))
  | command (hkind : kind raw = .command) : Reads raw (.command (stored raw) (isEnded raw))

/-- A directive line that is not a remark reads as its word says. -/
theorem ofDirective_reads {raw : Text} {d : Directive}
    (hremark : ¬ ((Text.trim raw).isEmpty || (Text.trim raw).head? = some '#') = true)
    (hlone : ¬ Text.trim raw = "&&".toList) (hdollar : (body raw).head? = some '$')
    (hmatches : Matches (word raw) d.symbol) (hfields : d.fields = fields raw) :
    Reads raw (Script.Line.ofDirective d (body raw) (isEnded raw)) := by
  obtain ⟨hif, hdata, hcloses, hguards, hnegated, hcontrols⟩ := hmatches
  have hkind : kind raw =
      if d.symbol = .ifBlock then .guardOpener
      else if d.symbol = .verbatimStart then .dataOpener
      else if d.symbol.closesBlock then .closer
      else .directive := by
    rw [kind, if_neg hremark, if_neg hlone, if_neg (not_not_intro hdollar), ← hcloses]
    simp only [hif, hdata]
  unfold Script.Line.ofDirective
  -- the reader asks for closers first, but no symbol is in two groups
  by_cases hisIf : d.symbol = .ifBlock
  · rw [if_neg (by rw [hisIf]; decide), if_pos (by rw [hisIf]; decide)]
    exact .guardOpener d (by rw [hkind, if_pos hisIf]) hisIf hfields
  by_cases hisData : d.symbol = .verbatimStart
  · rw [if_neg (by rw [hisData]; decide), if_pos (by rw [hisData]; decide)]
    exact .dataOpener d (by rw [hkind, if_neg hisIf, if_pos hisData]) hisData
  rw [if_neg hisIf, if_neg hisData] at hkind
  by_cases hisCloser : d.symbol.closesBlock = true
  · rw [if_pos hisCloser] at hkind ⊢
    exact .closer hkind
  · rw [if_neg hisCloser] at hkind ⊢
    have hopens : d.symbol.opensBlock = false := by
      revert hisIf hisData
      cases d.symbol <;> simp [Symbol.opensBlock]
    have hline : d.symbol.guardsOneLine = guardsLine raw := by
      rw [guardsLine, hkind, hguards]
      rfl
    rw [if_neg (by rw [hopens]; decide), hline]
    exact .directive d hkind hfields hopens hline hnegated hcontrols

/-- **A source line that can be read reads as its spelling says.** -/
theorem ofText_reads {raw : Text} {line : Script.Line} (h : Script.Line.ofText raw = .ok line) :
    Reads raw line := by
  unfold Script.Line.ofText at h
  dsimp only at h
  change (if _ then _ else if (body raw).isEmpty then _ else if (body raw).head? = some '$' then
    (do return Script.Line.ofDirective (← Directive.ofLine (body raw)) (body raw) (isEnded raw))
    else Except.ok (Script.Line.command (body raw) (isEnded raw))) = _ at h
  by_cases hremark : ((Text.trim raw).isEmpty || (Text.trim raw).head? = some '#') = true
  · rw [if_pos hremark] at h
    cases h
    exact .remark (if_pos hremark)
  rw [if_neg hremark] at h
  have hsays : Text.trim raw ≠ [] := by
    intro hnil
    rw [hnil] at hremark
    exact hremark rfl
  have hempty : (body raw).isEmpty = true ↔ Text.trim raw = "&&".toList := by
    rw [List.isEmpty_iff, body_eq_nil hsays]
  by_cases hlone : Text.trim raw = "&&".toList
  · rw [if_pos (hempty.mpr hlone)] at h
    cases h
    exact .terminator (by rw [kind, if_neg hremark, if_pos hlone])
  rw [if_neg (mt hempty.mp hlone)] at h
  by_cases hdollar : (body raw).head? = some '$'
  · rw [if_pos hdollar] at h
    unfold Directive.ofLine at h
    dsimp only at h
    cases hsymbol : Keyword.directive? (Lexeme.leadingWord (body raw)) with
    | none =>
        rw [hsymbol] at h
        cases h
    | some symbol =>
        rw [hsymbol] at h
        cases h
        exact ofDirective_reads hremark hlone hdollar (matches_of_directive hsymbol) rfl
  · rw [if_neg hdollar] at h
    cases h
    have hkind : kind raw = .command := by
      rw [kind, if_neg hremark, if_neg hlone, if_pos hdollar]
    rw [← stored_of_command hkind]
    exact .command hkind

end MigrationScript.Source
