import MigrationScript.Proofs.Lexeme
import MigrationScript.Proofs.Source.Acceptance

/-!
# Lines by their first word

What a line says is its first word and what stands behind it. Of that white space and a terminator
are taken off at the end, which is the same whatever the word is, and no other word is lost with it
(`words_kept`). So two lines with the same text behind different words read alike but for the words
(`ofText_word`).
-/

namespace MigrationScript.Source

/-- A terminator is looked for behind a text that does not end like one. -/
theorem splitTerminator_append {s : Text} (hblank : ∀ c ∈ s.getLast?, Text.isBlank c = false)
    (hsign : ∀ c ∈ s.getLast?, c ≠ '&') (t : Text) :
    Script.Line.splitTerminator (s ++ t)
      = (s ++ (Script.Line.splitTerminator t).1, (Script.Line.splitTerminator t).2) := by
  by_cases hends : "&&".toList <:+ t
  · obtain ⟨rest, rfl⟩ := hends
    rw [← List.append_assoc, splitTerminator_ended, splitTerminator_ended,
      Text.trimEnd_append_left hblank]
  · have hnot : ¬ "&&".toList <:+ s ++ t := by
      intro hjoined
      rcases List.suffix_or_suffix_of_suffix hjoined (List.suffix_append s t) with hin | hin
      · exact hends hin
      · -- a shorter text leaves a sign of the terminator to the end of the first
        have hshort : t = "&&".toList ∨ t = "&".toList ∨ t = [] := by
          simpa [List.suffix_cons_iff] using hin
        obtain ⟨rest, hrest⟩ := hjoined
        rcases hshort with rfl | rfl | rfl
        · exact hends List.suffix_rfl
        · have hs : rest ++ ['&'] = s :=
            List.append_cancel_right (by simpa using hrest : (rest ++ ['&']) ++ ['&'] = s ++ ['&'])
          exact hsign '&' (by rw [← hs, List.getLast?_concat]; rfl) rfl
        · rw [List.append_nil] at hrest
          exact hsign '&' (by rw [← hrest, List.getLast?_append]; rfl) rfl
    rw [splitTerminator_of_not hends, splitTerminator_of_not hnot]

/-- What a line keeps of the text behind its first word. -/
def kept (behind : Text) : Text := (Script.Line.splitTerminator (Text.trimEnd behind)).1

/-- Whether the text behind the first word of a line ends with a terminator. -/
def keptEnded (behind : Text) : Bool := (Script.Line.splitTerminator (Text.trimEnd behind)).2

/-- What is taken off is white space and terminator signs. -/
theorem kept_append (behind : Text) :
    ∃ junk, (∀ c ∈ junk, LexemeClass.of? c = none) ∧ kept behind ++ junk = behind := by
  obtain ⟨space, hspace, hbehind⟩ := Text.trimEnd_append behind
  have hspace : ∀ c ∈ space, LexemeClass.of? c = none :=
    fun c hc => LexemeClass.of?_blank (hspace c hc)
  unfold kept Script.Line.splitTerminator
  split
  · rename_i rest hcut
    obtain ⟨gap, hgap, hrest⟩ := Text.trimEnd_append rest
    have hgap : ∀ c ∈ gap, LexemeClass.of? c = none := fun c hc => LexemeClass.of?_blank (hgap c hc)
    have hsign : ∀ c ∈ Script.Line.terminatorSign, LexemeClass.of? c = none := by
      intro c hc
      obtain rfl : c = '&' := by simpa [Script.Line.terminatorSign] using hc
      decide
    refine ⟨gap ++ (Script.Line.terminatorSign ++ space), ?_, ?_⟩
    · exact List.forall_mem_append.mpr ⟨hgap, List.forall_mem_append.mpr ⟨hsign, hspace⟩⟩
    · rw [← List.append_assoc, hrest, ← List.append_assoc, ← Text.dropSuffix?_of_some hcut, hbehind]
  · exact ⟨space, hspace, hbehind⟩

theorem words_kept (behind : Text) : Lexeme.words (kept behind) = Lexeme.words behind := by
  obtain ⟨junk, hjunk, hbehind⟩ := kept_append behind
  rw [← Lexeme.words_append_none hjunk, hbehind]

variable {first behind : Text}

/-- The first word of a line is kept whole. -/
theorem body_word (hdollar : first.head? = some '$')
    (hword : ∀ c ∈ first, LexemeClass.word.holds c = true) (behind : Text) :
    body (first ++ behind) = first ++ kept behind
      ∧ isEnded (first ++ behind) = keptEnded behind := by
  have hblank : ∀ c ∈ first, Text.isBlank c = false := fun c hc =>
    LexemeClass.not_isBlank_of_holds (hword c hc)
  have hlast : ∀ c ∈ first.getLast?, Text.isBlank c = false := fun c hc =>
    hblank c (List.mem_of_getLast? hc)
  have hsign : ∀ c ∈ first.getLast?, c ≠ '&' := by
    rintro c hc rfl
    exact absurd (hword '&' (List.mem_of_getLast? hc)) (by decide)
  have hstart : Text.trimStart (first ++ behind) = first ++ behind := by
    cases first with
    | nil => cases hdollar
    | cons c rest => exact List.dropWhile_cons_of_neg (by simp [hblank c List.mem_cons_self])
  unfold body isEnded
  rw [Text.trim, hstart, Text.trimEnd_append_left hlast, splitTerminator_append hlast hsign]
  exact ⟨rfl, rfl⟩

theorem leadingWord_word (hword : ∀ c ∈ first, LexemeClass.word.holds c = true)
    (hbehind : ∀ c ∈ behind.head?, LexemeClass.word.holds c = false) :
    Lexeme.leadingWord (first ++ behind) = first ∧
      Lexeme.dropLeadingWord (first ++ behind) = behind.dropWhile LexemeClass.isSpace := by
  have hend : behind.takeWhile LexemeClass.isWord = []
      ∧ behind.dropWhile LexemeClass.isWord = behind := by
    cases behind with
    | nil => exact ⟨rfl, rfl⟩
    | cons c rest =>
        have hc : LexemeClass.isWord c = false := hbehind c rfl
        simp [hc]
  have hword : ∀ c ∈ first, LexemeClass.isWord c = true := hword
  rw [Lexeme.leadingWord, Lexeme.dropLeadingWord, List.takeWhile_append_of_pos hword,
    List.dropWhile_append_of_pos hword, hend.1, hend.2, List.append_nil]
  exact ⟨rfl, rfl⟩

/-- A space ends a word. -/
theorem head_space (t : Text) : ∀ c ∈ (' ' :: t).head?, LexemeClass.word.holds c = false := by
  rintro c ⟨⟩
  decide

theorem head_kept (hbehind : ∀ c ∈ behind.head?, LexemeClass.word.holds c = false) :
    ∀ c ∈ (kept behind).head?, LexemeClass.word.holds c = false := by
  obtain ⟨junk, -, hjoin⟩ := kept_append behind
  intro c hc
  refine hbehind c ?_
  rw [← hjoin, List.head?_append, Option.mem_def.mp hc]
  rfl

/-- **A line reads as its first word says**, with the words behind it as fields. -/
theorem ofText_word (hdollar : first.head? = some '$')
    (hword : ∀ c ∈ first, LexemeClass.word.holds c = true)
    (hbehind : ∀ c ∈ behind.head?, LexemeClass.word.holds c = false) {symbol : Symbol}
    (hsymbol : Keyword.directive? first = some symbol) :
    Script.Line.ofText (first ++ behind) = .ok (Script.Line.ofDirective
      ⟨symbol, Keyword.folded first, (Lexeme.words behind).map Field.ofWord⟩
      (first ++ kept behind) (keptEnded behind)) := by
  obtain ⟨hbody, hended⟩ := body_word hdollar hword behind
  have hhead : (body (first ++ behind)).head? = some '$' := by
    rw [hbody, List.head?_append, hdollar]
    rfl
  have hremark : kind (first ++ behind) ≠ .remark := by
    obtain ⟨rest, hrest⟩ := body_prefix_trim (first ++ behind)
    have htrim : (Text.trim (first ++ behind)).head? = some '$' := by
      rw [← hrest, List.head?_append, hhead]
      rfl
    rw [ne_eq, kind_remark, htrim]
    cases htext : Text.trim (first ++ behind) with
    | nil =>
        rw [htext] at htrim
        cases htrim
    | cons c rest => simp
  have hne : first ≠ [] := by
    rintro rfl
    cases hdollar
  have hwords : Lexeme.words (first ++ kept behind) = first :: Lexeme.words behind := by
    rw [Lexeme.words_run hne hword (head_kept hbehind), words_kept]
  rw [ofText_dollar hremark hhead, hbody, hended, Directive.ofLine,
    (leadingWord_word hword (head_kept hbehind)).1, hsymbol, hwords]
  rfl

end MigrationScript.Source
