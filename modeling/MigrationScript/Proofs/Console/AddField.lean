import MigrationScript.Proofs.Case
import MigrationScript.Proofs.Console
import MigrationScript.Proofs.Lexeme
import MigrationScript.Proofs.Run.PlainSql
import MigrationScript.Proofs.Text

/-!
# What becomes of `add field`

The console sends `add field T.C D` as `alter table T add C D`. Three scans have a part in this. The
words of the first line say that it is an `add field`, white space of any kind cuts the command into
its parts, and single spaces put the parts of `D` together again.

The last of them changes `D`. Every run of white space becomes one space, also in a string or at the
end of a line comment, so `D` is kept exactly if it has no other white space than single spaces
(`respaced_eq_self`). The first of them misses a `field` on another line than `add`; the command is
then sent as it stands.
-/

namespace MigrationScript

namespace Text

/-! ## White space between words -/

/-- White space that sets words apart. -/
def IsGap (t : Text) : Prop := t ≠ [] ∧ ∀ c ∈ t, isBlank c = true

/-- A word, as white space sets it apart from others. -/
def IsWord (t : Text) : Prop := t ≠ [] ∧ ∀ c ∈ t, isBlank c = false

/-- Neither the first character nor the last is white space. -/
structure Tight (t : Text) : Prop where
  head : ∀ c ∈ t.head?, isBlank c = false
  last : ∀ c ∈ t.getLast?, isBlank c = false

/-- All white space is spaces, and no two of them are next to each other. -/
structure SingleSpaced (t : Text) : Prop where
  space : ∀ c ∈ t, isBlank c = true → c = ' '
  single : t.IsChain fun c d => isBlank c = true → isBlank d = false

instance (t : Text) : Decidable (IsGap t) :=
  decidable_of_iff (t ≠ [] ∧ t.all isBlank = true) (by rw [IsGap, List.all_eq_true])

instance (t : Text) : Decidable (IsWord t) :=
  decidable_of_iff (t ≠ [] ∧ t.any isBlank = false)
    (by simp only [IsWord, List.any_eq_false, Bool.not_eq_true])

instance (t : Text) : Decidable (Tight t) :=
  decidable_of_iff (t.head?.any isBlank = false ∧ t.getLast?.any isBlank = false) <| by
    simp only [Option.any_eq_false]
    exact ⟨fun h => ⟨h.1, h.2⟩, fun h => ⟨h.head, h.last⟩⟩

/-- The words of a text with single spaces between them. -/
def respaced (t : Text) : Text := join [' '] (blankSeparated t)

theorem blankSeparated_append {c : Char} (h : isBlank c = true) (before after : Text) :
    blankSeparated (before ++ c :: after) = blankSeparated before ++ blankSeparated after := by
  rw [blankSeparated, List.splitOnP_append_cons before after h, List.filter_append]
  rfl

theorem blankSeparated_nil : blankSeparated [] = [] := rfl

theorem blankSeparated_blank {gap : Text} (h : ∀ c ∈ gap, isBlank c = true) (t : Text) :
    blankSeparated (gap ++ t) = blankSeparated t := by
  induction gap with
  | nil => rfl
  | cons c rest ih =>
      have hfirst := blankSeparated_append (h c List.mem_cons_self) [] (rest ++ t)
      rw [blankSeparated_nil, List.nil_append, List.nil_append] at hfirst
      rw [List.cons_append, hfirst]
      exact ih fun d hd => h d (List.mem_cons_of_mem _ hd)

theorem blankSeparated_word {word : Text} (h : IsWord word) : blankSeparated word = [word] := by
  obtain ⟨hne, hword⟩ := h
  rw [blankSeparated, List.splitOnP_eq_singleton fun c hc => by simp [hword c hc]]
  simp [hne]

/-- The word at the start is the first. -/
theorem blankSeparated_cons {word gap : Text} (hword : IsWord word) (hgap : IsGap gap)
    (t : Text) : blankSeparated (word ++ gap ++ t) = word :: blankSeparated t := by
  obtain ⟨hne, hblank⟩ := hgap
  obtain ⟨c, rest, rfl⟩ := List.exists_cons_of_ne_nil hne
  rw [List.append_assoc, List.cons_append, blankSeparated_append (hblank c List.mem_cons_self),
    blankSeparated_word hword,
    blankSeparated_blank fun d hd => hblank d (List.mem_cons_of_mem _ hd)]
  rfl

theorem mem_splitOnP {p : Char → Bool} {t run : Text} (h : run ∈ t.splitOnP p) :
    ∀ c ∈ run, p c = false := by
  induction t generalizing run with
  | nil =>
      rw [List.splitOnP_nil, List.mem_singleton] at h
      rintro c hc
      rw [h] at hc
      cases hc
  | cons d t ih =>
      rw [List.splitOnP_cons_eq_if_modifyHead] at h
      split at h
      · rcases List.mem_cons.mp h with rfl | h
        · rintro c ⟨⟩
        · exact ih h
      · rename_i hd
        obtain ⟨first, more, hmore⟩ := List.exists_cons_of_ne_nil (List.splitOnP_ne_nil p t)
        rw [hmore, List.modifyHead_cons] at h
        rcases List.mem_cons.mp h with rfl | h
        · intro c hc
          rcases List.mem_cons.mp hc with rfl | hc
          · exact Bool.eq_false_iff.mpr hd
          · exact ih (hmore ▸ List.mem_cons_self) c hc
        · exact ih (hmore ▸ List.mem_cons_of_mem _ h)

theorem isWord_of_mem_blankSeparated {t word : Text} (h : word ∈ blankSeparated t) :
    IsWord word := by
  obtain ⟨hmem, hne⟩ := List.mem_filter.mp h
  refine ⟨?_, mem_splitOnP hmem⟩
  rintro rfl
  cases hne

/-! ## Single spaces -/

/-- Words can be told from each other by the spaces between them. -/
theorem blankSeparated_join {words : List Text} (h : ∀ word ∈ words, IsWord word) :
    blankSeparated (join [' '] words) = words := by
  induction words with
  | nil => rfl
  | cons word rest ih =>
      have hword := h word List.mem_cons_self
      have hrest := ih fun w hw => h w (List.mem_cons_of_mem _ hw)
      by_cases hne : rest = []
      · subst hne
        rw [join, List.intercalate_singleton]
        exact blankSeparated_word hword
      · rw [join_cons hne, blankSeparated_append (by decide), blankSeparated_word hword, hrest]
        rfl

/-- Only white space is changed. -/
theorem blankSeparated_respaced (t : Text) : blankSeparated (respaced t) = blankSeparated t :=
  blankSeparated_join fun _ => isWord_of_mem_blankSeparated

theorem head?_join {words : List Text} (h : ∀ word ∈ words, IsWord word) :
    ∀ c ∈ (join [' '] words).head?, isBlank c = false := by
  cases words with
  | nil => exact fun c hc => nomatch hc
  | cons word rest =>
      obtain ⟨hne, hword⟩ := h word List.mem_cons_self
      obtain ⟨d, more, rfl⟩ := List.exists_cons_of_ne_nil hne
      by_cases hrest : rest = []
      · subst hrest
        rintro c ⟨⟩
        exact hword d List.mem_cons_self
      · rw [join_cons hrest]
        rintro c ⟨⟩
        exact hword d List.mem_cons_self

theorem isChain_word {word : Text} (h : ∀ c ∈ word, isBlank c = false) :
    word.IsChain fun c d => isBlank c = true → isBlank d = false := by
  induction word with
  | nil => exact .nil
  | cons c rest ih =>
      have hrest : ∀ d ∈ rest, isBlank d = false := fun d hd => h d (List.mem_cons_of_mem _ hd)
      exact List.isChain_cons.mpr ⟨fun d hd _ => hrest d (List.mem_of_mem_head? hd), ih hrest⟩

/-- The white space between words is single spaces, as the words have none. -/
theorem singleSpaced_join {words : List Text} (h : ∀ word ∈ words, IsWord word) :
    SingleSpaced (join [' '] words) := by
  induction words with
  | nil => exact ⟨fun c hc => absurd hc List.not_mem_nil, .nil⟩
  | cons word rest ih =>
      obtain ⟨hne, hword⟩ := h word List.mem_cons_self
      have hlater := fun w hw => h w (List.mem_cons_of_mem _ hw)
      have hrest := ih hlater
      by_cases hlast : rest = []
      · subst hlast
        rw [join, List.intercalate_singleton]
        refine ⟨fun c hc hblank => ?_, isChain_word hword⟩
        rw [hword c hc] at hblank
        cases hblank
      · rw [join_cons hlast]
        constructor
        · intro c hc hblank
          rcases List.mem_append.mp hc with hc | hc
          · rw [hword c hc] at hblank
            cases hblank
          rcases List.mem_cons.mp hc with rfl | hc
          · rfl
          · exact hrest.space c hc hblank
        · refine List.isChain_append.mpr ⟨isChain_word hword, ?_, ?_⟩
          · exact List.isChain_cons.mpr ⟨fun d hd _ => head?_join hlater d hd, hrest.single⟩
          · intro c hc d _ hblank
            rw [hword c (List.mem_of_getLast? hc)] at hblank
            cases hblank

/-- A text that is not empty starts with a word, and either ends with it or goes on with white
space and what comes behind that. -/
theorem leading_word {t : Text} (hne : t ≠ []) (hhead : ∀ c ∈ t.head?, isBlank c = false) :
    ∃ word, IsWord word ∧
      (t = word ∨ ∃ c after, isBlank c = true ∧ t = word ++ c :: after) := by
  obtain ⟨first, more, rfl⟩ := List.exists_cons_of_ne_nil hne
  have hfirst : (!isBlank first) = true := by
    rw [hhead first rfl]
    rfl
  have hjoin := List.takeWhile_append_dropWhile (p := fun c => !isBlank c) (l := first :: more)
  refine ⟨(first :: more).takeWhile fun c => !isBlank c, ⟨?_, fun c hc => ?_⟩, ?_⟩
  · rw [List.takeWhile_cons_of_pos (p := fun c => !isBlank c) hfirst]
    exact List.cons_ne_nil _ _
  · simpa using List.mem_takeWhile_imp hc
  · cases hrest : (first :: more).dropWhile fun c => !isBlank c with
    | nil =>
        rw [hrest, List.append_nil] at hjoin
        exact .inl hjoin.symm
    | cons c after =>
        have hc := List.head?_dropWhile_not (fun c => !isBlank c) (first :: more)
        rw [hrest] at hc hjoin
        exact .inr ⟨c, after, by simpa using hc, hjoin.symm⟩

/-- **Single spaces are put between words exactly if there was nothing else before.** -/
theorem respaced_eq_self {t : Text} (h : Tight t) : respaced t = t ↔ SingleSpaced t := by
  constructor
  · intro hself
    rw [← hself]
    exact singleSpaced_join fun _ => isWord_of_mem_blankSeparated
  · -- the induction takes off one word and the space behind it
    induction hlength : t.length using Nat.strongRecOn generalizing t with
    | ind n ih =>
      intro hspaced
      by_cases hne : t = []
      · rw [hne]
        rfl
      obtain ⟨word, hword, rfl | ⟨c, after, hc, rfl⟩⟩ := leading_word hne h.head
      · rw [respaced, blankSeparated_word hword, join, List.intercalate_singleton]
      · have hspace : c = ' ' :=
          hspaced.space c (List.mem_append_right _ List.mem_cons_self) hc
        subst hspace
        obtain ⟨-, hchain, -⟩ := List.isChain_append.mp hspaced.single
        obtain ⟨hnext, hchain⟩ := List.isChain_cons.mp hchain
        have hafter : after ≠ [] := by
          rintro rfl
          have hblank := h.last ' ' (by rw [List.getLast?_append_of_ne_nil _ (by simp)]; rfl)
          exact absurd hblank (by decide)
        have htight : Tight after := by
          refine ⟨fun d hd => hnext d hd hc, fun d hd => h.last d ?_⟩
          rw [List.getLast?_append_of_ne_nil _ (List.cons_ne_nil _ _),
            List.getLast?_cons_of_ne_nil hafter]
          exact hd
        have hsingle : SingleSpaced after := by
          refine ⟨fun d hd => hspaced.space d ?_, hchain⟩
          exact List.mem_append_right _ (List.mem_cons_of_mem _ hd)
        have hshorter : after.length < n := by
          rw [← hlength, List.length_append, List.length_cons]
          omega
        have hrest : respaced after = after := ih _ hshorter htight rfl hsingle
        have hwords : blankSeparated after ≠ [] := by
          intro hnone
          rw [respaced, hnone] at hrest
          exact hafter hrest.symm
        rw [respaced, blankSeparated_append hc, blankSeparated_word hword, List.singleton_append,
          join_cons hwords, ← respaced, hrest]

/-- The first line of a text ends at the first line break. -/
theorem headD_splitOn (t : Text) : (t.splitOn '\n').headD [] = t.takeWhile fun c => c ≠ '\n' := by
  induction t with
  | nil => rfl
  | cons c rest ih =>
      rw [List.splitOn_eq_splitOnP] at ih ⊢
      rw [List.splitOnP_cons_eq_if_modifyHead]
      by_cases hc : c = '\n'
      · subst hc
        rfl
      · obtain ⟨first, more, hmore⟩ :=
          List.exists_cons_of_ne_nil (List.splitOnP_ne_nil (fun d => d == '\n') rest)
        rw [hmore] at ih ⊢
        rw [List.takeWhile_cons_of_pos (by simpa using hc), ← ih, if_neg (by simpa using hc)]
        rfl

end Text

/-! ## Spelling -/

/-- A word that is spelled with letters in any case has word characters only. -/
theorem LexemeClass.word_of_sameIgnoringCase {w spelling : Text}
    (hletters : ∀ c ∈ spelling, c.isAlpha = true)
    (h : Text.sameIgnoringCase w spelling = true) : ∀ c ∈ w, word.holds c = true := by
  intro c hc
  have hsame : Text.asciiUpper w = Text.asciiUpper spelling := beq_iff_eq.mp h
  have hcapital : c.toUpper ∈ Text.asciiUpper spelling := hsame ▸ List.mem_map_of_mem hc
  obtain ⟨d, hd, hcd⟩ := List.mem_map.mp hcapital
  have halpha : c.isAlpha = true := by
    rw [← Char.isAlpha_toUpper_eq_isAlpha, ← hcd, Char.isAlpha_toUpper_eq_isAlpha]
    exact hletters d hd
  simp [holds, isWord, Char.isAlphanum, halpha]

/-! ## Commands -/

/-- A command `add field T.C D`, with white space of any kind between its parts. -/
structure AddField where
  /-- The two words of the command, in any case. -/
  add : Text
  field : Text
  table : Text
  column : Text
  definition : Text
  /-- The white space after `add`, after `field` and after the column. -/
  afterAdd : Text
  afterField : Text
  afterColumn : Text
  add_spelled : Text.sameIgnoringCase add "add".toList = true
  field_spelled : Text.sameIgnoringCase field "field".toList = true
  table_word : Text.IsWord table
  table_dotless : '.' ∉ table
  column_word : Text.IsWord column
  column_dotless : '.' ∉ column
  definition_ne : definition ≠ []
  definition_tight : Text.Tight definition
  afterAdd_gap : Text.IsGap afterAdd
  afterField_gap : Text.IsGap afterField
  afterColumn_gap : Text.IsGap afterColumn

namespace AddField

/-- The name of a column with that of its table. -/
def target (a : AddField) : Text := a.table ++ '.' :: a.column

/-- The text of a command. -/
def text (a : AddField) : Text :=
  a.add ++ a.afterAdd ++ (a.field ++ a.afterField ++ (a.target ++ a.afterColumn ++ a.definition))

/-- The lines of a command. -/
def slot (a : AddField) : Slot := a.text.splitOn '\n'

/-- The statement with which a column is added to a table. -/
def statement (a : AddField) (definition : Text) : Text :=
  "alter table ".toList ++ a.table ++ " add ".toList ++ a.column ++ ' ' :: definition

/-- What the console sends. -/
def sent (a : AddField) : Text :=
  if '\n' ∈ a.afterAdd then a.text else a.statement (Text.respaced a.definition)

variable (a : AddField)

theorem command_slot : a.slot.command = a.text := by
  rw [slot, Slot.command, Text.join, List.intercalate_splitOn]

theorem isWord_target : Text.IsWord a.target := by
  refine ⟨List.append_ne_nil_of_right_ne_nil _ (List.cons_ne_nil _ _), fun c hc => ?_⟩
  rcases List.mem_append.mp hc with hc | hc
  · exact a.table_word.2 c hc
  rcases List.mem_cons.mp hc with rfl | hc
  · decide
  · exact a.column_word.2 c hc

/-- A text of word characters is a word, also where only white space sets words apart. -/
theorem isWord_of_spelled {word spelling : Text} (hne : spelling ≠ [])
    (hletters : ∀ c ∈ spelling, c.isAlpha = true)
    (h : Text.sameIgnoringCase word spelling = true) : Text.IsWord word := by
  refine ⟨?_, fun c hc => LexemeClass.not_isBlank_of_holds
    (LexemeClass.word_of_sameIgnoringCase hletters h c hc)⟩
  rintro rfl
  exact hne (List.map_eq_nil_iff.mp (beq_iff_eq.mp h).symm)

theorem add_wordChars : ∀ c ∈ a.add, LexemeClass.word.holds c = true :=
  LexemeClass.word_of_sameIgnoringCase (by simp) a.add_spelled

theorem field_wordChars : ∀ c ∈ a.field, LexemeClass.word.holds c = true :=
  LexemeClass.word_of_sameIgnoringCase (by simp) a.field_spelled

theorem isWord_add : Text.IsWord a.add := isWord_of_spelled (by simp) (by simp) a.add_spelled

theorem isWord_field : Text.IsWord a.field := isWord_of_spelled (by simp) (by simp) a.field_spelled

theorem blankSeparated_definition : Text.blankSeparated a.definition ≠ [] := by
  obtain ⟨word, hword, heq | ⟨c, after, hc, heq⟩⟩ :=
    Text.leading_word a.definition_ne a.definition_tight.head
  · rw [heq, Text.blankSeparated_word hword]
    exact List.cons_ne_nil _ _
  · rw [heq, Text.blankSeparated_append hc, Text.blankSeparated_word hword]
    exact List.cons_ne_nil _ _

/-- White space cuts a command into its parts. -/
theorem addFieldStatement?_text :
    Console.addFieldStatement? a.text = some (a.statement (Text.respaced a.definition)) := by
  have hparts : Text.blankSeparated a.text
      = a.add :: a.field :: a.target :: Text.blankSeparated a.definition := by
    rw [text, Text.blankSeparated_cons a.isWord_add a.afterAdd_gap,
      Text.blankSeparated_cons a.isWord_field a.afterField_gap,
      Text.blankSeparated_cons a.isWord_target a.afterColumn_gap]
  have htarget : Text.splitOnce? (· = '.') a.target = some (a.table, a.column) := by
    refine Text.splitOnce?_append (p := (· = '.')) (fun c hc => decide_eq_false ?_)
      (decide_eq_true rfl) a.column
    rintro rfl
    exact a.table_dotless hc
  have htype : (Text.blankSeparated a.definition).isEmpty = false :=
    List.isEmpty_eq_false_iff.mpr a.blankSeparated_definition
  have htable : a.table.isEmpty = false := List.isEmpty_eq_false_iff.mpr a.table_word.1
  have hcolumn : a.column.isEmpty = false := List.isEmpty_eq_false_iff.mpr a.column_word.1
  have hdot : a.column.contains '.' = false :=
    Bool.eq_false_iff.mpr (mt List.contains_iff_mem.mp a.column_dotless)
  simp only [Console.addFieldStatement?, hparts, a.field_spelled, htype, htarget, htable, hcolumn,
    hdot, Bool.not_false, Bool.and_self, Bool.or_self, if_true, if_neg Bool.false_ne_true]
  rfl

/-! ## Which commands are found -/

/-- A keyword at the start of a line is the first word of it. -/
theorem words_keyword {word rest : Text} (hne : word ≠ [])
    (hword : ∀ c ∈ word, LexemeClass.word.holds c = true)
    (hrest : ∀ c ∈ rest.head?, Text.isBlank c = true) :
    Lexeme.words (word ++ rest) = word :: Lexeme.words rest := by
  refine Lexeme.words_run hne hword fun c hc => Bool.eq_false_iff.mpr fun h => ?_
  have hblank := hrest c hc
  rw [LexemeClass.not_isBlank_of_holds h] at hblank
  cases hblank

theorem head?_gap {gap : Text} (h : Text.IsGap gap) (rest : Text) :
    ∀ c ∈ (gap ++ rest).head?, Text.isBlank c = true := by
  obtain ⟨hne, hblank⟩ := h
  obtain ⟨c, more, rfl⟩ := List.exists_cons_of_ne_nil hne
  rintro d ⟨⟩
  exact hblank _ List.mem_cons_self

theorem ne_lineBreak_of_isWord {word : Text} (h : Text.IsWord word) :
    ∀ c ∈ word, decide (c ≠ '\n') = true := by
  intro c hc
  refine decide_eq_true ?_
  rintro rfl
  exact absurd (h.2 _ hc) (by decide)

theorem head_ne_dollar : a.add.head? ≠ some '$' := by
  intro hhead
  obtain ⟨rest, hadd⟩ := List.head?_eq_some_iff.mp hhead
  have hupper : Text.asciiUpper a.add = "ADD".toList := beq_iff_eq.mp a.add_spelled
  rw [hadd] at hupper
  exact absurd (List.cons.inj hupper).1 (by decide)

/-- An `add` with a line break behind it is alone on its line. -/
theorem symbol_of_lineBreak (h : '\n' ∈ a.afterAdd) : a.slot.symbol = .plain := by
  obtain ⟨before, after, hafter, hbefore⟩ := List.eq_append_cons_of_mem h
  have hline : a.slot.headD [] = a.add ++ before := by
    rw [slot, Text.headD_splitOn, text, hafter, List.append_assoc, List.append_assoc,
      List.cons_append, ← List.append_assoc a.add,
      List.takeWhile_append_of_pos fun c hc => ?_, List.takeWhile_cons_of_neg (by decide),
      List.append_nil]
    rcases List.mem_append.mp hc with hc | hc
    · exact ne_lineBreak_of_isWord a.isWord_add c hc
    · exact decide_eq_true fun heq => hbefore (heq ▸ hc)
  have hblank : ∀ c ∈ before, LexemeClass.of? c = none := fun c hc =>
    LexemeClass.of?_blank (a.afterAdd_gap.2 c (hafter ▸ List.mem_append_left _ hc))
  have hwords : Lexeme.words (a.slot.headD []) = [a.add] := by
    rw [hline, Lexeme.words_append_none hblank]
    exact Lexeme.words_of_class a.isWord_add.1 a.add_wordChars
  have hhead := a.head_ne_dollar
  rw [Slot.symbol, hwords]
  simp only [if_neg hhead, List.head?_nil, Option.bind_none, reduceCtorEq, decide_false,
    Bool.and_false, Bool.false_eq_true, if_false]

/-- An `add` with its `field` on the same line is found. -/
theorem symbol_of_oneLine (h : '\n' ∉ a.afterAdd) : a.slot.symbol = .add := by
  have hline : ∃ rest, a.slot.headD [] = a.add ++ (a.afterAdd ++ (a.field ++ rest)) ∧
      ∀ c ∈ rest.head?, Text.isBlank c = true := by
    let behind := a.afterField ++ (a.target ++ a.afterColumn ++ a.definition)
    refine ⟨behind.takeWhile fun c => c ≠ '\n', ?_, ?_⟩
    · have htext : a.text = (a.add ++ (a.afterAdd ++ a.field)) ++ behind := by
        simp only [text, behind, List.append_assoc]
      rw [slot, Text.headD_splitOn, htext, List.takeWhile_append_of_pos fun c hc => ?_]
      · simp only [List.append_assoc]
      · rcases List.mem_append.mp hc with hc | hc
        · exact ne_lineBreak_of_isWord a.isWord_add c hc
        rcases List.mem_append.mp hc with hc | hc
        · exact decide_eq_true fun heq => h (heq ▸ hc)
        · exact ne_lineBreak_of_isWord a.isWord_field c hc
    · intro c hc
      rw [List.head?_takeWhile] at hc
      exact head?_gap a.afterField_gap _ c (Option.mem_filter_iff.mp hc).1
  obtain ⟨rest, hline, hrest⟩ := hline
  have hblank : ∀ c ∈ a.afterAdd, LexemeClass.of? c = none := fun c hc =>
    LexemeClass.of?_blank (a.afterAdd_gap.2 c hc)
  have hwords : Lexeme.words (a.slot.headD []) = a.add :: a.field :: Lexeme.words rest := by
    rw [hline, words_keyword a.isWord_add.1 a.add_wordChars (head?_gap a.afterAdd_gap _),
      Lexeme.words_none_append hblank,
      words_keyword a.isWord_field.1 a.field_wordChars hrest]
  have hadd : Keyword.sql? a.add = some .add := by
    rw [Keyword.sql?,
      Keyword.lookup_of_folded (Keyword.folded_of_sameIgnoringCase a.add_spelled)]
    decide
  have hfield : Keyword.directive? a.field = some .field := by
    rw [Keyword.directive?,
      Keyword.lookup_of_folded (Keyword.folded_of_sameIgnoringCase a.field_spelled)]
    decide
  rw [Slot.symbol, hwords]
  simp only [if_neg a.head_ne_dollar, List.head?_cons, Option.bind_some, hadd, hfield,
    decide_true, Bool.and_self, if_true]

/-- The console sends one statement for the command. -/
theorem action_slot : Console.action a.slot.symbol a.slot.command = .send a.sent := by
  have hplain : a.slot.command.head? ≠ some '$' := by
    rw [command_slot, text, List.append_assoc, List.head?_append_of_ne_nil _ a.isWord_add.1]
    exact a.head_ne_dollar
  have hcommands : a.slot.commands = false := by
    rw [← a.slot.symbol_cases.1]
    by_cases hbreak : '\n' ∈ a.afterAdd
    · rw [a.symbol_of_lineBreak hbreak]
      rfl
    · rw [a.symbol_of_oneLine hbreak]
      rfl
  have hsent : a.slot.sent = a.sent := by
    rw [Slot.sent, command_slot, sent]
    by_cases hbreak : '\n' ∈ a.afterAdd
    · rw [a.symbol_of_lineBreak hbreak, if_pos hbreak, if_neg (by decide)]
    · rw [a.symbol_of_oneLine hbreak, if_neg hbreak, if_pos rfl, a.addFieldStatement?_text]
      rfl
  rw [Slot.action_sent hplain hcommands, hsent]

theorem statement_inj {x y : Text} : a.statement x = a.statement y ↔ x = y := by
  constructor
  · intro h
    exact (List.cons.inj (List.append_cancel_left h)).2
  · rintro rfl
    rfl

/-- A command that is sent as it stands is no `alter table`. -/
theorem text_ne_statement (definition : Text) : a.text ≠ a.statement definition := by
  intro h
  have hupper : Text.asciiUpper a.add = "ADD".toList := beq_iff_eq.mp a.add_spelled
  have hsplit : a.statement definition = "alt".toList ++
      ("er table ".toList ++ a.table ++ " add ".toList ++ a.column ++ ' ' :: definition) := rfl
  have hlength : a.add.length = "alt".toList.length := by
    rw [Text.asciiUpper] at hupper
    have hsame := congrArg List.length hupper
    rw [List.length_map] at hsame
    exact hsame
  rw [hsplit, text, List.append_assoc] at h
  rw [(List.append_inj h hlength).1] at hupper
  exact absurd hupper (by decide)

/-- The statement keeps the definition exactly if it is on one line and single-spaced. -/
theorem sent_eq_statement :
    a.sent = a.statement a.definition ↔
      '\n' ∉ a.afterAdd ∧ Text.SingleSpaced a.definition := by
  rw [sent]
  split
  · rename_i hbreak
    exact ⟨fun h => absurd h (a.text_ne_statement _), fun h => absurd hbreak h.1⟩
  · rename_i hbreak
    rw [statement_inj, Text.respaced_eq_self a.definition_tight]
    exact ⟨fun h => ⟨hbreak, h⟩, And.right⟩

end AddField

/--
**An `add field` is sent as one statement, in which all white space of the definition is single
spaces.**

So the definition is kept as it was written exactly if it had no other white space, also in strings
and comments. Otherwise it still has the same words. A command with `add` alone on its first line is
sent as it stands.
-/
theorem Console.addField_sent (a : AddField) (catalog : Catalog) (i : Nat) {c : Console}
    (h : c.sink.room = none) :
    (∃ c', (Console.database catalog).execute a.slot.symbol i a.slot.command c
        = (.ok .proceed, c') ∧ Sent c [a.sent] c')
    ∧ (a.sent = a.statement a.definition ↔
      '\n' ∉ a.afterAdd ∧ Text.SingleSpaced a.definition)
    ∧ ('\n' ∉ a.afterAdd → ∃ definition, a.sent = a.statement definition ∧
      Text.blankSeparated definition = Text.blankSeparated a.definition)
    ∧ ('\n' ∈ a.afterAdd → a.sent = a.text) := by
  refine ⟨execute_send h a.action_slot, a.sent_eq_statement, fun hline => ?_, fun hbreak => ?_⟩
  · exact ⟨_, if_neg hline, Text.blankSeparated_respaced _⟩
  · exact if_pos hbreak

/-- A column with two spaces in the string it starts out with. -/
def AddField.blankDefault : AddField where
  add := "add".toList
  field := "field".toList
  table := "T".toList
  column := "C".toList
  definition := "varchar(9) default 'a  b'".toList
  afterAdd := [' ']
  afterField := [' ']
  afterColumn := [' ']
  add_spelled := by decide
  field_spelled := by decide
  table_word := by decide
  table_dotless := by decide
  column_word := by decide
  column_dotless := by decide
  definition_ne := by decide
  definition_tight := by decide
  afterAdd_gap := by decide
  afterField_gap := by decide
  afterColumn_gap := by decide

/-- The string is sent with one space. -/
theorem Console.addField_sent_blankDefault :
    let a := AddField.blankDefault
    ∃ c', (Console.database {}).execute a.slot.symbol 0 a.slot.command {} = (.ok .proceed, c')
      ∧ Sent {} ["alter table T add C varchar(9) default 'a b'".toList] c' :=
  (addField_sent AddField.blankDefault {} 0 (c := {}) rfl).1

theorem AddField.not_statement_blankDefault :
    ¬ ∀ a : AddField, ∃ c', (Console.database {}).execute a.slot.symbol 0 a.slot.command {}
        = (.ok .proceed, c') ∧ Console.Sent {} [a.statement a.definition] c' := by
  intro h
  obtain ⟨c, hexecute, hsent⟩ := h blankDefault
  obtain ⟨c', hexecute', hsent'⟩ :=
    Console.execute_send (c := {}) rfl blankDefault.action_slot
  have hsame : c = c' := congrArg Prod.snd (hexecute.symm.trans hexecute')
  have hwritten := hsent.written.symm.trans (hsame ▸ hsent'.written)
  revert hwritten
  decide +kernel

end MigrationScript
