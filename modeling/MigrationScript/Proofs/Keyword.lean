import MigrationScript.Keyword

/-!
# What the keyword list says of words

A word stands for a symbol because some entry of the list spells it, so what a group of symbols is
called can be read off the entries (`lookup_grouped`). For the operators that is
`isOperator_classify`, and for the commands that are no SQL `isCommand_directive`.
-/

namespace MigrationScript

/-- The symbols of commands that are no SQL. -/
def Symbol.isCommand : Symbol → Bool
  | exit | echo | set | drop | dbu | dbuStart | dbuEnd => true
  | _ => false

namespace Keyword

theorem lookup_eq_some {entries : List Entry} {word : Text} {symbol : Symbol}
    (h : lookup entries word = some symbol) :
    ∃ entry ∈ entries, entry.spelling.toList = folded word ∧ entry.symbol = symbol := by
  obtain ⟨entry, hfind, rfl⟩ := Option.map_eq_some_iff.mp h
  exact ⟨entry, List.mem_of_find?_eq_some hfind, by simpa using List.find?_some hfind, rfl⟩

theorem lookup_eq_none {entries : List Entry} {word : Text} (h : lookup entries word = none) :
    ∀ entry ∈ entries, entry.spelling.toList ≠ folded word := by
  have hfind := Option.map_eq_none_iff.mp h
  simpa using List.find?_eq_none.mp hfind

/-- A group of symbols is a group of words, if it is so for each entry. -/
theorem lookup_grouped {entries : List Entry} {p : Symbol → Bool} {words : List Text}
    (hgroup : ∀ entry ∈ entries, p entry.symbol = words.contains entry.spelling.toList)
    {word : Text} {symbol : Symbol} (h : lookup entries word = some symbol) :
    p symbol = words.contains (folded word) := by
  obtain ⟨entry, hmem, hspelling, rfl⟩ := lookup_eq_some h
  rw [← hspelling]
  exact hgroup entry hmem

/-! ## Argument words -/

/-- Whether a word is spelled by some entry of the list, in any case. -/
def isKeyword (word : Text) : Bool := entries.any fun e => e.spelling.toList == folded word

theorem mem_entries_of_directive {entry : Entry} (h : entry ∈ directiveEntries ++ sharedEntries) :
    entry ∈ entries := List.mem_append_left _ h

theorem mem_entries_of_sql {entry : Entry} (h : entry ∈ sharedEntries ++ sqlEntries) :
    entry ∈ entries := by
  rw [entries, List.append_assoc]
  exact List.mem_append_right _ h

/-- What is said of symbols can be said of words, if it is so for each entry and for the words that
no entry spells. -/
theorem classify_grouped {β : Type} {p : Symbol → β} {q : Text → β}
    (hspelled : ∀ entry ∈ entries, p entry.symbol = q entry.spelling.toList)
    (hplain : ∀ word, isKeyword word = false → q (folded word) = p .plain) (word : Text) :
    p (classify word) = q (folded word) := by
  unfold classify
  cases hdirective : directive? word with
  | some symbol =>
      obtain ⟨entry, hmem, hspelling, rfl⟩ := lookup_eq_some hdirective
      rw [← hspelling]
      exact hspelled entry (mem_entries_of_directive hmem)
  | none =>
      cases hsql : sql? word with
      | some symbol =>
          obtain ⟨entry, hmem, hspelling, rfl⟩ := lookup_eq_some hsql
          rw [← hspelling]
          exact hspelled entry (mem_entries_of_sql hmem)
      | none =>
          refine (hplain word (Bool.eq_false_iff.mpr fun hkeyword => ?_)).symm
          obtain ⟨entry, hmem, hspelling⟩ := List.any_eq_true.mp hkeyword
          rw [entries, List.append_assoc] at hmem
          rcases List.mem_append.mp hmem with hmem | hmem
          · exact lookup_eq_none hdirective entry (List.mem_append_left _ hmem)
              (beq_iff_eq.mp hspelling)
          · exact lookup_eq_none hsql entry hmem (beq_iff_eq.mp hspelling)

/-- A word that is no keyword is in no group of words that the entries spell. -/
theorem not_mem_of_plain {words : List Text}
    (hwords : ∀ word ∈ words, ∃ entry ∈ entries, entry.spelling.toList = word) {word : Text}
    (h : isKeyword word = false) : folded word ∉ words := by
  intro hmem
  obtain ⟨entry, hentry, hspelling⟩ := hwords _ hmem
  rw [isKeyword, List.any_eq_false] at h
  exact h entry hentry (beq_iff_eq.mpr hspelling)

/-- A word is plain exactly if it is no keyword. -/
theorem plain_classify (word : Text) : decide (classify word = .plain) = !isKeyword word := by
  have hsymbols : ∀ entry ∈ entries, entry.symbol ≠ .plain := by decide
  refine classify_grouped (p := fun s => decide (s = .plain))
    (q := fun t => !entries.any fun e => e.spelling.toList == t) ?_ ?_ word
  · intro entry hentry
    have hspelled : (entries.any fun e => e.spelling.toList == entry.spelling.toList) = true :=
      List.any_eq_true.mpr ⟨entry, hentry, beq_self_eq_true _⟩
    rw [hspelled]
    exact decide_eq_false (hsymbols entry hentry)
  · intro word hplain
    exact congrArg not hplain

/-! ## Operators -/

/-- The words that are passed over where a value is looked for. -/
def operatorWords : List Text :=
  ["!".toList, "not".toList, "!=".toList, "=".toList, ">".toList, "<".toList, ">=".toList,
    "<=".toList]

theorem operators_grouped : ∀ entry ∈ entries,
    entry.symbol.isOperator = operatorWords.contains entry.spelling.toList := by
  decide

theorem operatorWords_spelled : ∀ word ∈ operatorWords,
    ∃ entry ∈ entries, entry.spelling.toList = word := by
  decide

/-- A word stands for an operator if it is spelled as one, in any case. -/
theorem isOperator_classify (word : Text) :
    (classify word).isOperator = operatorWords.contains (folded word) :=
  classify_grouped operators_grouped (fun _ h => by
    simpa [Symbol.isOperator] using not_mem_of_plain operatorWords_spelled h) word

/-! ## Commands -/

/-- The words that start a command that is no SQL. -/
def commandWords : List Text :=
  ["$exit".toList, "$echo".toList, "$set".toList, "$drop".toList, "$dbu".toList,
    "$dbu_start".toList, "$dbu_end".toList]

theorem commands_grouped : ∀ entry ∈ directiveEntries ++ sharedEntries,
    entry.symbol.isCommand = commandWords.contains entry.spelling.toList := by
  decide

theorem commandWords_spelled : ∀ word ∈ commandWords,
    word.head? = some '$' ∧ ∃ entry ∈ directiveEntries ++ sharedEntries,
      entry.spelling.toList = word := by
  decide

theorem eq_dollar_of_fold {c : Char} (h : fold c = '$') : c = '$' := by
  unfold fold at h
  split at h
  · exact absurd h (by decide)
  unfold Char.toLower at h
  split at h
  · -- a lower case letter is no `$`
    rename_i hupper
    have hlow : 65 ≤ c.val.toNat := UInt32.le_iff_toNat_le.mp hupper.1
    have hhigh : c.val.toNat ≤ 90 := UInt32.le_iff_toNat_le.mp hupper.2
    have hsum : (c.val.toNat + 32) % 2 ^ 32 = 36 := congrArg (UInt32.toNat ∘ Char.val) h
    omega
  · exact h

/-- A word that starts a command is a directive, and starts with `$` as it is written. -/
theorem directive_of_command {word : Text} (h : commandWords.contains (folded word) = true) :
    word.head? = some '$' ∧ ∃ symbol, directive? word = some symbol := by
  obtain ⟨hdollar, entry, hmem, hspelling⟩ :=
    commandWords_spelled _ (List.contains_iff_mem.mp h)
  constructor
  · rw [folded, List.head?_map] at hdollar
    obtain ⟨c, hc, hfold⟩ := Option.map_eq_some_iff.mp hdollar
    rw [hc, eq_dollar_of_fold hfold]
  · cases hdirective : directive? word with
    | none => exact absurd hspelling (lookup_eq_none hdirective entry hmem)
    | some symbol => exact ⟨symbol, rfl⟩

/-- A directive is a command exactly if its word is one of them. -/
theorem isCommand_directive {word : Text} {symbol : Symbol} (h : directive? word = some symbol) :
    symbol.isCommand = commandWords.contains (folded word) :=
  lookup_grouped commands_grouped h

end Keyword

end MigrationScript
