import Mathlib
import MigrationScript.Proofs.Verbatim

/-!
# Values as SQL reads them

The values of a statement are read back here by the rules of SQL, which know nothing of how they
were written: a text in quotes goes up to the first quote that is not written twice, a literal
without quotes is a longest run of letters, digits and minus signs, and `, ` stands between two
literals.

Each value reads itself off the front of whatever may follow it (`literal_reads`). So a list of
values is read as one literal for each column, whatever the fields hold (`literals_of_inserts`): no
quote, comma or bracket in a field ends its literal or begins another.

What is printed in an integer column has the digits of the field and its sign
(`integers_of_inserts`). A sign without a digit is printed alone, and that is no number.
-/

namespace MigrationScript

namespace Sql

/-! ## Reading literals -/

/-- A literal in a list of values. -/
inductive Literal where
  /-- The literal NULL. -/
  | null
  /-- A literal without quotes, such as a number. -/
  | bare (text : Text)
  /-- A text in quotes, as it is meant. -/
  | quoted (text : Text)
  deriving DecidableEq

/-- Reads a text in quotes from behind its first quote, and gives what follows the quote that ends
it. A quote that is written twice is one of the text. -/
def quoted? : Text → Option (Text × Text)
  | [] => none
  | '\'' :: '\'' :: rest => (quoted? rest).map fun (t, after) => ('\'' :: t, after)
  | '\'' :: rest => some ([], rest)
  | c :: rest => (quoted? rest).map fun (t, after) => (c :: t, after)

/-- Whether a literal without quotes may hold a character. -/
def isBare (c : Char) : Bool := c.isAlphanum || c = '-'

/-- Reads a literal, and gives what follows it. -/
def literal? : Text → Option (Literal × Text)
  | '\'' :: rest => (quoted? rest).map fun (t, after) => (.quoted t, after)
  | text =>
    let word := text.takeWhile isBare
    if word.isEmpty then none
    else
      let l := if Text.sameIgnoringCase word "null".toList then .null else .bare word
      some (l, text.dropWhile isBare)

theorem length_of_quoted? {text t after : Text} (h : quoted? text = some (t, after)) :
    after.length < text.length := by
  fun_induction quoted? text generalizing t with
  | case1 => cases h
  | case2 rest ih | case4 _ rest _ _ ih =>
      obtain ⟨⟨t', after'⟩, hrest, heq⟩ := Option.map_eq_some_iff.mp h
      cases heq
      have := ih hrest
      simp only [List.length_cons]
      omega
  | case3 rest _ =>
      cases h
      simp

theorem length_of_literal? {text after : Text} {l : Literal} (h : literal? text = some (l, after)) :
    after.length < text.length := by
  unfold literal? at h
  split at h
  · obtain ⟨⟨t, after'⟩, hrest, heq⟩ := Option.map_eq_some_iff.mp h
    cases heq
    have := length_of_quoted? hrest
    simp only [List.length_cons]
    omega
  · dsimp only at h
    split at h
    · cases h
    · rename_i hword
      cases h
      have hcut : text.takeWhile isBare ++ text.dropWhile isBare = text :=
        List.takeWhile_append_dropWhile
      have hlength := congrArg List.length hcut
      rw [List.length_append] at hlength
      have := List.length_pos_iff.mpr (mt List.isEmpty_iff.mpr hword)
      omega

/-- Reads literals with `, ` between each two, up to the end. -/
def literals? (text : Text) : Option (List Literal) :=
  match _h : literal? text with
  | some (l, []) => some [l]
  | some (l, ',' :: ' ' :: rest) => (literals? rest).map (l :: ·)
  | _ => none
termination_by text.length
decreasing_by
  have := length_of_literal? _h
  simp only [List.length_cons] at this
  omega

variable {t rest : Text} {l : Literal}

theorem literals?_last (h : literal? t = some (l, [])) : literals? t = some [l] := by
  rw [literals?, h]

theorem literals?_next (h : literal? t = some (l, ", ".toList ++ rest)) :
    literals? t = (literals? rest).map (l :: ·) := by
  rw [literals?, h]
  rfl

/-! ## Reading what is written -/

/-- A text that reads itself as a literal off the front of whatever follows, if that is nothing or
begins with a comma. -/
def Reads (t : Text) (l : Literal) : Prop :=
  ∀ rest : Text, (∀ c ∈ rest.head?, c = ',') → literal? (t ++ rest) = some (l, rest)

/-- **A quoted text ends with its last quote**, whatever it holds, if no quote follows. -/
theorem quoted?_quotedChar (t : Text) (hrest : ∀ c ∈ rest.head?, c ≠ '\'') :
    quoted? (t.flatMap Verbatim.quotedChar ++ '\'' :: rest) = some (t, rest) := by
  induction t with
  | nil =>
      cases rest with
      | nil => rfl
      | cons c rest =>
          have hc : c ≠ '\'' := hrest c rfl
          simp [quoted?, hc]
  | cons c t ih =>
      rw [List.flatMap_cons, List.append_assoc]
      by_cases hc : c = '\''
      · subst hc
        change quoted? ('\'' :: '\'' :: (t.flatMap Verbatim.quotedChar ++ '\'' :: rest)) = _
        rw [quoted?, ih]
        rfl
      · rw [Verbatim.quotedChar, if_neg hc]
        change quoted? (c :: (t.flatMap Verbatim.quotedChar ++ '\'' :: rest)) = _
        rw [quoted?, ih]
        · rfl
        · exact fun _ h => absurd h hc
        · exact fun h => absurd h hc

theorem reads_quote (t : Text) : Reads (Verbatim.quote t) (.quoted t) := by
  intro rest hrest
  have hnext : ∀ c ∈ rest.head?, c ≠ '\'' := by
    intro c hc
    rw [hrest c hc]
    decide
  have hquoted := quoted?_quotedChar t hnext
  rw [Verbatim.quote, List.append_assoc]
  change (quoted? (t.flatMap Verbatim.quotedChar ++ '\'' :: rest)).map _ = _
  rw [hquoted]
  rfl

/-- A word without quotes is the literal that it is, and a comma ends it. -/
theorem reads_word (hne : t ≠ []) (hword : ∀ c ∈ t, isBare c = true) :
    Reads t (if Text.sameIgnoringCase t "null".toList then .null else .bare t) := by
  intro rest hrest
  have hnext : ∀ c ∈ rest.head?, isBare c = false := by
    intro c hc
    rw [hrest c hc]
    decide
  obtain ⟨htake, hdrop⟩ := Verbatim.run_of_head hnext
  have hfull : t.isEmpty = false := by simp [hne]
  unfold literal?
  split
  · rename_i after hquote
    obtain ⟨c, more, rfl⟩ := List.exists_cons_of_ne_nil hne
    obtain rfl := (List.cons.inj hquote).1
    exact absurd (hword _ List.mem_cons_self) (by decide)
  · simp only [List.takeWhile_append_of_pos hword, List.dropWhile_append_of_pos hword, htake,
      hdrop, List.append_nil, hfull]
    rfl

/-- **Literals with `, ` between them are read one by one.** -/
theorem literals?_join {texts : List Text} {literals : List Literal}
    (hreads : List.Forall₂ Reads texts literals) (hne : texts ≠ []) :
    literals? (Text.join ", ".toList texts) = some literals := by
  induction hreads with
  | nil => exact absurd rfl hne
  | @cons t l texts literals hfirst hrest ih =>
      cases hrest with
      | nil =>
          have hread := hfirst [] (fun c hc => by cases hc)
          rw [List.append_nil] at hread
          rw [Text.join, List.intercalate_singleton, literals?_last hread]
      | @cons t' l' texts literals hsecond hrest =>
          have hread := hfirst (", ".toList ++ Text.join ", ".toList (t' :: texts))
            (fun c hc => (Option.some.inj hc).symm)
          rw [Text.join, List.intercalate_cons_cons, ← Text.join, List.append_assoc,
            literals?_next hread, ih (List.cons_ne_nil _ _)]
          rfl

end Sql

namespace Verbatim

open Sql

/-! ## The literals of a statement -/

/-- What a field means in a column of a type. -/
def meant (type : ColumnType) (field : Text) : Literal :=
  let value := type.clean field
  if value = [] ∨ Text.sameIgnoringCase value "null".toList = true then .null
  else if type.isInteger = true then .bare value
  else .quoted value

/-- The value of an integer column is of digits and signs. -/
theorem mem_clean {type : ColumnType} (htype : type.isInteger = true) {field : Text} {c : Char}
    (hc : c ∈ type.clean field) : c = '-' ∨ c.isDigit = true := by
  rw [ColumnType.clean, if_pos htype] at hc
  dsimp only at hc
  split at hc
  · exact (List.mem_cons.mp hc).imp_right fun h => (List.mem_filter.mp h).2
  · exact .inr (List.mem_filter.mp hc).2

theorem isBare_clean {type : ColumnType} (htype : type.isInteger = true) (field : Text) :
    ∀ c ∈ type.clean field, isBare c = true := by
  intro c hc
  rcases mem_clean htype hc with rfl | hdigit
  · rfl
  · simp [isBare, Char.isAlphanum, hdigit]

theorem not_isLower_of_isDigit {c : Char} (h : c.isDigit = true) : ¬ c.isLower = true := by
  simp only [Char.isDigit, Char.isLower, Bool.and_eq_true, decide_eq_true_eq] at h ⊢
  grind

/-- Digits and signs do not spell the word `null`. -/
theorem clean_ne_null {type : ColumnType} (htype : type.isInteger = true) (field : Text) :
    Text.sameIgnoringCase (type.clean field) "null".toList = false := by
  rw [Bool.eq_false_iff]
  intro hsame
  -- the first character would be an N
  have hupper : (type.clean field).map Char.toUpper = "NULL".toList := beq_iff_eq.mp hsame
  obtain ⟨c, rest, hclean, hc, -⟩ := List.map_eq_cons_iff.mp hupper
  rcases mem_clean htype (hclean ▸ List.mem_cons_self) with rfl | hdigit
  · exact absurd hc (by decide)
  · rw [Char.toUpper_eq_of_not_isLower (not_isLower_of_isDigit hdigit)] at hc
    rw [hc] at hdigit
    exact absurd hdigit (by decide)

/-- **What is written for a field is read as what the field means.** -/
theorem literal_reads (type : ColumnType) (field : Text) :
    Reads (literal type field) (meant type field) := by
  by_cases hnull : type.clean field = [] ∨
      Text.sameIgnoringCase (type.clean field) "null".toList = true
  · have hwritten : literal type field = "NULL".toList := by
      rw [literal, if_pos (by simpa using hnull)]
    have hmeant : meant type field = .null := if_pos hnull
    rw [hwritten, hmeant]
    exact reads_word (by decide) (List.all_eq_true.mp (by decide))
  · have hwritten : literal type field = if type.isInteger then type.clean field
        else quote (type.clean field) := by
      rw [literal, if_neg (by simpa using hnull)]
    have hmeant : meant type field = if type.isInteger = true then .bare (type.clean field)
        else .quoted (type.clean field) := if_neg hnull
    rw [hwritten, hmeant]
    split
    · rename_i htype
      have hread := reads_word (mt .inl hnull) (isBare_clean htype field)
      rwa [if_neg (mt .inr hnull)] at hread
    · exact reads_quote _

theorem literals_read (types : List ColumnType) (fields : List Text) :
    List.Forall₂ Reads (List.zipWith literal types fields) (List.zipWith meant types fields) := by
  induction types generalizing fields with
  | nil => exact .nil
  | cons type types ih =>
      cases fields with
      | nil => exact .nil
      | cons field fields => exact .cons (literal_reads type field) (ih fields)

/-- The values of a row are read as what its fields mean. -/
theorem literals_of_row {columns : List Column} {row : Text} {values : List Text}
    (h : Row literal columns row values) :
    ∃ literals, literals? (Text.join ", ".toList values) = some literals ∧
      Row meant columns row literals := by
  obtain ⟨hfields, rfl⟩ := row_iff.mp h
  refine ⟨_, literals?_join (literals_read _ _) ?_, row_iff.mpr ⟨hfields, rfl⟩⟩
  -- a row has a first field, so there is a column
  have hsome := List.length_pos_iff.mpr (List.splitOn_ne_nil ',' row)
  refine List.ne_nil_of_length_pos ?_
  rw [List.length_zipWith, List.length_map]
  omega

/-- A statement with one literal for each column between the bracket of the values and the last
bracket, and each literal is what the field in its place means. -/
def Meant (h : Header) (row statement : Text) : Prop :=
  ∃ list literals, statement = opening h ++ list ++ [')'] ∧ literals? list = some literals ∧
    Row meant h.columns row literals

/-- **No field ends its literal early or runs into the next one**, whatever the fields hold. -/
theorem literals_of_inserts {lines statements : List Text} (h : inserts lines = .ok statements) :
    EachRow Meant lines statements := by
  refine (inserts_eq_ok.mp h).imp ?_
  rintro header row statement ⟨values, hvalues, hstatement⟩
  obtain ⟨literals, hread, hmeant⟩ := literals_of_row hvalues
  exact ⟨_, literals, hstatement, hread, hmeant⟩

/-- A row with quotes at both ends of its fields and next to a separator, and with a quote where a
time is cut off. -/
def quoteRows : List Text :=
  ["@T,A,B[timestamp],C,D[int]".toList, "'') --,2020-01-02T03:04:05'6,nUlL,'-1'".toList]

/-- The statement for that row. A quote in a text is doubled. -/
def quoteStatements : List Text :=
  ["insert into T (A, B, C, D) values (''''') --', '2020-01-02 03:04:05', NULL, -1)".toList]

theorem literals_of_inserts_quoteRows :
    inserts quoteRows = .ok quoteStatements ∧ EachRow Meant quoteRows quoteStatements := by
  have hread : inserts quoteRows = .ok quoteStatements := by decide +kernel
  exact ⟨hread, literals_of_inserts hread⟩

/-! ## Integers -/

/-- The digits of a field. -/
def digitsOf (field : Text) : Text := field.filter Char.isDigit

/-- The digits of a field, at least one, behind a minus sign if there is one in the field. -/
inductive Number (field : Text) : Text → Prop where
  | positive (hdigits : digitsOf field ≠ []) (hsign : '-' ∉ field) : Number field (digitsOf field)
  | negative (hdigits : digitsOf field ≠ []) (hsign : '-' ∈ field) :
      Number field ('-' :: digitsOf field)

/-- What is printed for a field in an integer column. Where the field has no digit it is NULL, but
for a minus sign, which is printed as it is. -/
inductive Printed (field : Text) : Text → Prop where
  | number {value : Text} (hnumber : Number field value) : Printed field value
  | null (hdigits : digitsOf field = []) (hsign : '-' ∉ field) : Printed field "NULL".toList
  | sign (hdigits : digitsOf field = []) (hsign : '-' ∈ field) : Printed field ['-']

theorem literal_integer {type : ColumnType} (htype : type.isInteger = true) (field : Text) :
    literal type field =
      if (type.clean field).isEmpty then "NULL".toList else type.clean field := by
  rw [literal, clean_ne_null htype, Bool.or_false, if_pos htype]

/-- **What is printed for a field in an integer column**: a number, NULL, or a sign alone. -/
theorem literal_printed {type : ColumnType} (htype : type.isInteger = true) (field : Text) :
    Printed field (literal type field) := by
  have hclean : type.clean field = if field.contains '-' then '-' :: digitsOf field
      else digitsOf field := if_pos htype
  rw [literal_integer htype, hclean]
  by_cases hsign : '-' ∈ field
  · rw [if_pos (List.contains_iff_mem.mpr hsign), if_neg (by simp)]
    by_cases hdigits : digitsOf field = []
    · rw [hdigits]
      exact .sign hdigits hsign
    · exact .number (.negative hdigits hsign)
  · rw [if_neg (mt List.contains_iff_mem.mp hsign)]
    by_cases hdigits : digitsOf field = []
    · rw [if_pos (List.isEmpty_iff.mpr hdigits)]
      exact .null hdigits hsign
    · rw [if_neg (mt List.isEmpty_iff.mp hdigits)]
      exact .number (.positive hdigits hsign)

/-- A statement in which the value of each integer column is as asked for the field in its place. -/
def Integers (P : Text → Text → Prop) (h : Header) (row statement : Text) : Prop :=
  ∃ values, Row literal h.columns row values ∧
    statement = opening h ++ Text.join ", ".toList values ++ [')'] ∧
    ∀ (j : Nat) (column : Column) (field value : Text), h.columns[j]? = some column →
      column.type.isInteger = true → (row.splitOn ',')[j]? = some field →
        values[j]? = some value → P field value

/--
**An integer column has the digits of its fields and their sign.**

What is printed is NULL only for a field without a digit, and it is no number only where that field
has a minus sign.
-/
theorem integers_of_inserts {lines statements : List Text} (h : inserts lines = .ok statements) :
    EachRow (Integers Printed) lines statements := by
  refine (inserts_eq_ok.mp h).imp ?_
  rintro header row statement ⟨values, hvalues, hstatement⟩
  refine ⟨values, hvalues, hstatement, ?_⟩
  intro j column field value hcolumn htype hfield hvalue
  have hwritten := hvalues.each j column field hcolumn hfield
  rw [hvalue] at hwritten
  obtain rfl := Option.some.inj hwritten
  exact literal_printed htype field

/-- Two integer columns, with a number whose sign comes last and a field without digits. -/
def integerRows : List Text := ["@T,A[int],B[bigint]".toList, "4 0-,n/a".toList]

/-- The statement for that row. The sign is in front of the digits. -/
def integerStatements : List Text := ["insert into T (A, B) values (-40, NULL)".toList]

theorem integers_of_inserts_integerRows :
    inserts integerRows = .ok integerStatements ∧
      EachRow (Integers Printed) integerRows integerStatements := by
  have hread : inserts integerRows = .ok integerStatements := by decide +kernel
  exact ⟨hread, integers_of_inserts hread⟩

/-- What an integer column is for: a number, or NULL. -/
def WellFormed (field value : Text) : Prop := value = "NULL".toList ∨ Number field value

/-- A row that is a minus sign. -/
def signRows : List Text := ["@T,A[int]".toList, "-".toList]

/-- A sign without digits is printed, and is neither a number nor NULL. -/
theorem not_wellFormed_signRows :
    inserts signRows = .ok ["insert into T (A) values (-)".toList] ∧
      ¬ EachRow (Integers WellFormed) signRows ["insert into T (A) values (-)".toList] := by
  refine ⟨by decide +kernel, ?_⟩
  rintro ⟨first, rows, header, hlines, hfirst, hrows⟩
  obtain ⟨rfl, rfl⟩ := List.cons.inj hlines
  have hheader : header = ⟨"T".toList, [⟨"A".toList, .int⟩]⟩ := by
    have hread := header_eq_ok.mpr hfirst
    rw [show Verbatim.header "@T,A[int]".toList = .ok ⟨"T".toList, [⟨"A".toList, .int⟩]⟩ by
      decide +kernel] at hread
    exact (Except.ok.inj hread).symm
  subst hheader
  cases hrows with
  | cons hrow _ =>
      obtain ⟨values, hvalues, -, hintegers⟩ := hrow
      have hfield : ("-".toList.splitOn ',')[0]? = some "-".toList := by decide
      have hvalue := hvalues.each 0 _ _ rfl hfield
      rcases hintegers 0 _ _ _ rfl rfl hfield hvalue with hnull | hnumber
      · exact absurd hnull (by decide)
      · cases hnumber with
        | _ hdigits => exact hdigits (by decide)

end Verbatim

end MigrationScript
