import MigrationScript.Proofs.Source.Acceptance

/-!
# Where control lines stand

A line whose first word is one of the control words is a control line. Outside blocks it is a
statement of its own (`control_statement`), and its role is the one that its word names
(`role_of_control`). Among the lines that go to the database such a line is found in two places
only: in a block, whose lines are text, and behind the word of a one-line guard (`placed_control`).
-/

namespace MigrationScript.Source

/-! ## Positions -/

/-- What lines leave the next one in. -/
def Scope.afterAll : List (Nat × Text) → Scope → Scope
  | [], scope => scope
  | (number, raw) :: rest, scope => Scope.afterAll rest (scope.after number raw)

/-- What lines add is added by one of them, in the scope that those before it leave. -/
theorem line_of_mem_along {α : Type} {add : Nat → Text → Scope → List α}
    {raws : List (Nat × Text)} {scope : Scope} {a : α} (h : a ∈ along add raws scope) :
    ∃ before number raw later, raws = before ++ (number, raw) :: later
      ∧ a ∈ add number raw (scope.afterAll before) := by
  induction raws generalizing scope with
  | nil => cases h
  | cons first rest ih =>
      obtain ⟨number, raw⟩ := first
      rcases List.mem_append.mp h with hfirst | hrest
      · exact ⟨[], number, raw, rest, rfl, hfirst⟩
      · obtain ⟨before, number', raw', later, rfl, hadd⟩ := ih hrest
        exact ⟨(number, raw) :: before, number', raw', later, rfl, hadd⟩

/-! ## Lines that begin with a control word -/

/-- Whether a line begins with a control word, in any case and after white space. -/
def beginsWithControl (line : Text) : Bool :=
  controlWords.contains (Keyword.folded (Lexeme.leadingWord (Text.trimStart line)))

/-- White space before the body of a line has been taken off. -/
theorem trimStart_body (raw : Text) : Text.trimStart (body raw) = body raw := by
  cases hbody : body raw with
  | nil => rfl
  | cons c rest =>
      obtain ⟨after, hafter⟩ := body_prefix_trim raw
      rw [hbody, List.cons_append] at hafter
      have hc : Text.isBlank c = false := Text.head_trim hafter.symm
      exact List.dropWhile_cons_of_neg (by simp [hc])

theorem beginsWithControl_body (raw : Text) :
    beginsWithControl (body raw) = controlWords.contains (word raw) := by
  rw [beginsWithControl, trimStart_body, word]

theorem controlWords_dollar : ∀ w ∈ controlWords, w.head? = some '$' := by decide

/-- A control word starts with `$` as it is written. -/
theorem dollar_of_control {line : Text}
    (h : controlWords.contains (Keyword.folded (Lexeme.leadingWord line)) = true) :
    line.head? = some '$' := by
  have hdollar := controlWords_dollar _ (List.contains_iff_mem.mp h)
  cases line with
  | nil => cases hdollar
  | cons c rest =>
      rw [Lexeme.leadingWord, List.takeWhile_cons] at hdollar
      split at hdollar
      · exact congrArg some (Keyword.eq_dollar_of_fold (Option.some.inj hdollar))
      · cases hdollar

/-- A line without a directive does not begin with a control word. -/
theorem beginsWithControl_command {raw : Text} (hkind : kind raw = .command) :
    beginsWithControl (body raw) = false := by
  refine Bool.eq_false_iff.mpr fun hcontrol => ?_
  rw [beginsWithControl_body] at hcontrol
  have hdollar := dollar_of_control hcontrol
  unfold kind at hkind
  split at hkind
  · cases hkind
  split at hkind
  · cases hkind
  · rw [if_neg (not_not_intro hdollar)] at hkind
    repeat' split at hkind
    all_goals cases hkind

/-- **A control line that is not obeyed** stands in a block, or behind the word of a one-line
guard. -/
theorem placed_control {number : Nat} {raw : Text} {scope : Scope} {p : Placed}
    (h : p ∈ placedAt number raw scope) (hplace : p.place ≠ .control)
    (hcontrol : beginsWithControl p.text = true) :
    p.text = stored raw ∧ kind raw = .directive
      ∧ (scope.isBlock = true ∨ guardsLine raw = true) := by
  unfold placedAt at h
  split at h
  · rename_i hkind
    obtain rfl := List.mem_singleton.mp h
    refine ⟨rfl, hkind, ?_⟩
    cases hblock : scope.isBlock with
    | true => exact .inl rfl
    | false =>
        cases hguards : guardsLine raw with
        | true => exact .inr rfl
        | false =>
            -- outside blocks the line is stored as it stands, and would stand for itself
            have hstored : stored raw = body raw := by
              rw [stored, hguards]
              rfl
            change beginsWithControl (stored raw) = true at hcontrol
            rw [hstored, beginsWithControl_body] at hcontrol
            refine absurd ?_ hplace
            change placeAt number raw scope = .control
            rw [placeAt_outside hblock hkind, hguards, if_neg Bool.false_ne_true, if_pos hcontrol]
  · rename_i hkind
    obtain rfl := List.mem_singleton.mp h
    rw [stored_of_command hkind, beginsWithControl_command hkind] at hcontrol
    cases hcontrol
  · cases h

/-! ## Control lines as statements -/

/-- The symbols of the control words. -/
def controlSymbols : List (Text × Symbol) :=
  [("$app_version".toList, .appVersion), ("$dbu_version".toList, .dbuVersion),
    ("$lastdbu".toList, .lastDbu), ("$show".toList, .showOn), ("$noshow".toList, .showOff),
    ("$hide".toList, .hideOn), ("$nohide".toList, .hideOff)]

theorem controlSymbols_spelled : ∀ entry ∈ Keyword.directiveEntries ++ Keyword.sharedEntries,
    controlWords.contains entry.spelling.toList = true →
      (entry.spelling.toList, entry.symbol) ∈ controlSymbols := by
  decide

/-- What a control word orders a run to do. -/
inductive Orders (word : Text) (asked : Comparison) : Role → Prop where
  | checkApplication (h : word = "$app_version".toList) :
      Orders word asked (.checkApplication asked)
  | checkVersion (h : word = "$dbu_version".toList) : Orders word asked (.checkVersion asked)
  | raiseVersion (h : word = "$lastdbu".toList) : Orders word asked (.raiseVersion asked)
  | setShown (shown : Bool) (h : word = if shown then "$show".toList else "$noshow".toList) :
      Orders word asked (.setShown shown)
  | setHidden (hidden : Bool) (h : word = if hidden then "$hide".toList else "$nohide".toList) :
      Orders word asked (.setHidden hidden)

/-- A statement with the symbol of a control word has the role that the word orders. -/
theorem role_of_control {word : Text} {s : Statement} (h : (word, s.symbol) ∈ controlSymbols) :
    Orders word (.ofFields s.fields) s.role := by
  unfold Statement.role
  simp only [controlSymbols, List.mem_cons, List.not_mem_nil, Prod.mk.injEq, or_false] at h
  rcases h with ⟨h, hs⟩ | ⟨h, hs⟩ | ⟨h, hs⟩ | ⟨h, hs⟩ | ⟨h, hs⟩ | ⟨h, hs⟩ | ⟨h, hs⟩ <;> rw [hs]
  · exact .checkApplication h
  · exact .checkVersion h
  · exact .raiseVersion h
  · exact .setShown true h
  · exact .setShown false h
  · exact .setHidden true h
  · exact .setHidden false h

/-- Control words guard nothing and open nothing, and each takes a single line. -/
theorem controlSymbols_single : ∀ entry ∈ controlSymbols, guardWords.contains entry.1 = false
    ∧ entry.2.guardsOneLine = false ∧ entry.2.closesBlock = false ∧ entry.2.opensBlock = false
    ∧ entry.2.isSingleLine = true := by
  decide

/-- A control line is a directive that takes a single line. -/
theorem ofText_control {raw : Text} {line : Script.Line} (hkind : kind raw = .directive)
    (hcontrol : controlWords.contains (word raw) = true) (h : Script.Line.ofText raw = .ok line) :
    ∃ d : Directive, line = .directive d (stored raw) true ∧ d.fields = fields raw
      ∧ d.symbol.isSingleLine = true ∧ (word raw, d.symbol) ∈ controlSymbols := by
  obtain ⟨d, hleads, rfl⟩ := leads_of_ofText (by simp [hkind]) (dollar_of_control hcontrol) h
  obtain ⟨entry, hentry, hspelling, hsymbol, -⟩ := hleads.entry
  have hmem : (word raw, d.symbol) ∈ controlSymbols := by
    rw [← hspelling] at hcontrol ⊢
    rw [← hsymbol]
    exact controlSymbols_spelled entry hentry hcontrol
  obtain ⟨hword, hguards, hcloses, hopens, hsingle⟩ := controlSymbols_single _ hmem
  have hstored : stored raw = body raw := by
    rw [stored, guardsLine, hword, Bool.and_false]
    rfl
  refine ⟨d, ?_, hleads.fields, hsingle, hmem⟩
  rw [hstored, Script.Line.ofDirective]
  rw [hcloses, hopens, hguards, hsingle, Bool.or_true]
  rfl

end MigrationScript.Source

namespace MigrationScript.Script

open Source

variable {number : Nat} {raw : Text} {draft : Option Draft}

/-- Outside blocks a directive that takes a single line is a statement. -/
theorem step_single {d : Directive} (hblock : (scopeOf draft).isBlock = false)
    (hsingle : d.symbol.isSingleLine = true) (text : Text) :
    step number (.directive d text true) draft
      = (closeAny draft ++ [⟨d.symbol, d.key, d.fields, [[text]], number⟩], none) := by
  have hends : (Draft.new d number).endsAtTerminator = true := by
    unfold Draft.endsAtTerminator Draft.new
    simp [hsingle]
  rw [step, filter_isBlock_none hblock]
  dsimp only
  rw [pushAndClose, hends]
  rfl

theorem scopeOf_group {raws : List (Nat × Text)} {lines : List (Nat × Line)}
    (h : raws.mapM readLine = .ok lines) (hdraft : ∀ d ∈ draft, d.Lasting) :
    scopeOf (group lines draft).2 = (scopeOf draft).afterAll raws := by
  induction raws generalizing lines draft with
  | nil =>
      cases h
      rfl
  | cons raw rest ih =>
      obtain ⟨⟨n, line⟩, later, hfirst, hrest, rfl⟩ := mapM_readLine_cons h
      obtain ⟨number, raw⟩ := raw
      obtain ⟨rfl, hreads⟩ := readLine_reads hfirst
      have hstep : Follows n raw draft (step n line draft) := step_follows hreads hdraft
      rw [Scope.afterAll, ← hstep.scope, ← ih hrest hstep.lasting]
      rfl

/-- Where the lines of a source are read, each of them is. -/
theorem mapM_readLine_append {before later : List (Nat × Text)} {lines : List (Nat × Line)}
    (h : (before ++ (number, raw) :: later).mapM readLine = .ok lines) :
    ∃ first line last, before.mapM readLine = .ok first ∧ Line.ofText raw = .ok line
      ∧ lines = first ++ (number, line) :: last := by
  induction before generalizing lines with
  | nil =>
      obtain ⟨⟨n, line⟩, last, hline, -, rfl⟩ := mapM_readLine_cons h
      obtain ⟨rfl, hread⟩ := readLine_ok hline
      exact ⟨[], line, last, rfl, hread, rfl⟩
  | cons first before ih =>
      obtain ⟨l, more, hfirst, hmore, rfl⟩ := mapM_readLine_cons h
      obtain ⟨lines, line, last, hbefore, hline, rfl⟩ := ih hmore
      refine ⟨l :: lines, line, last, ?_, hline, rfl⟩
      rw [List.mapM_cons, hfirst, hbefore]
      rfl

/-- **A control line outside blocks is a statement of its own**, with the role that its word
orders. -/
theorem control_statement {source : Text} {statements : List Statement}
    {before later : List (Nat × Text)} (h : parse source = .ok statements)
    (hlines : numberedLines source = before ++ (number, raw) :: later)
    (hblock : (Scope.outside.afterAll before).isBlock = false) (hkind : kind raw = .directive)
    (hcontrol : controlWords.contains (word raw) = true) :
    ∃ s ∈ statements, s.line = number ∧ s.slots = [[stored raw]]
      ∧ Orders (word raw) (.ofFields (fields raw)) s.role := by
  obtain ⟨lines, hread, hfinish⟩ := parse_ok h
  rw [hlines] at hread
  obtain ⟨first, line, last, hfirst, hline, rfl⟩ := mapM_readLine_append hread
  obtain ⟨d, rfl, hfields, hsingle, hsymbol⟩ := ofText_control hkind hcontrol hline
  have hscope : (scopeOf (group first none).2).isBlock = false := by
    rw [scopeOf_group hfirst (by intro d hd; cases hd)]
    exact hblock
  let s : Statement := ⟨d.symbol, d.key, d.fields, [[stored raw]], number⟩
  have horders : Orders (word raw) (.ofFields s.fields) s.role := role_of_control hsymbol
  refine ⟨s, ?_, rfl, rfl, hfields ▸ horders⟩
  rw [finish_statements hfinish, group_append, group, step_single hscope hsingle]
  simp [Step.statements, s]

end MigrationScript.Script
