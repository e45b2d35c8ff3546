import Mathlib.Data.List.Forall2
import MigrationScript.Console
import MigrationScript.Proofs.Text

/-!
# Which verbatim blocks become statements

A block becomes statements if its first line heads a table and every line after it has as many
fields as the table has columns. How a first line is written is said here without the reader, by the
texts it is put together from (`Spells`, `Heads`), and the reader is tied to that: `column?_eq_some`
for a column and `header_eq_ok` for the line.

Each row then stands for one statement, with one value in the place of each field
(`inserts_eq_ok`). A block with a fault anywhere stands for none, and since the statements are made
before the first of them is sent, the console is left as it was (`block_all_or_nothing`).
-/

namespace MigrationScript

/-! ## Characters of names -/

/-- Whether the ranges of two sets of characters lie apart. -/
def CharRanges.apart (r s : CharRanges) : Bool :=
  r.all fun a => s.all fun b => a.2 < b.1 || b.2 < a.1

/-- Sets whose ranges lie apart have no character in common. -/
theorem CharRanges.not_contains_of_apart {r s : CharRanges} (h : r.apart s = true) {c : Char}
    (hc : r.contains c = true) : s.contains c = false := by
  obtain ⟨a, ha, hina⟩ := List.any_eq_true.mp hc
  rw [Bool.eq_false_iff]
  intro hs
  obtain ⟨b, hb, hinb⟩ := List.any_eq_true.mp hs
  have hapart := List.all_eq_true.mp (List.all_eq_true.mp h a ha) b hb
  simp only [Bool.or_eq_true, Bool.and_eq_true, decide_eq_true_eq] at hapart hina hinb
  omega

namespace Text

theorem blanks_apart : blanks.apart WordChar.rangeLow = true ∧
    blanks.apart WordChar.rangeMiddle = true ∧ blanks.apart WordChar.rangeHigh = true := by
  decide +kernel

/-- White space is part of no word. -/
theorem not_isWordChar_of_isBlank {c : Char} (hc : isBlank c = true) : isWordChar c = false := by
  obtain ⟨hlow, hmiddle, hhigh⟩ := blanks_apart
  rw [isWordChar, CharRanges.not_contains_of_apart hlow hc,
    CharRanges.not_contains_of_apart hmiddle hc, CharRanges.not_contains_of_apart hhigh hc]
  rfl

end Text

namespace Verbatim

/-! ## How a header is written -/

/-- White space, or nothing. -/
def Blank (t : Text) : Prop := ∀ c ∈ t, Text.isBlank c = true

/-- Word characters, at least one. -/
structure Name (t : Text) : Prop where
  ne_nil : t ≠ []
  word : ∀ c ∈ t, Text.isWordChar c = true

/-- A column as it is written: `NAME` or `NAME[type]`, with white space around each name. -/
inductive Spells : Text → Column → Prop where
  | untyped {before name after : Text} (hbefore : Blank before) (hname : Name name)
      (hafter : Blank after) : Spells (before ++ (name ++ after)) ⟨name, .other⟩
  | typed {before name between start type finish after : Text} (hbefore : Blank before)
      (hname : Name name) (hbetween : Blank between) (hstart : Blank start) (htype : Name type)
      (hfinish : Blank finish) (hafter : Blank after) :
      Spells (before ++ (name ++ (between ++ '[' :: (start ++ (type ++ (finish ++ ']' :: after))))))
        ⟨name, .ofName type⟩

/-- A first line as it is written: `@`, the name of the table and the columns, with commas between.
The name of the table is any text that is more than white space. -/
inductive Heads : Text → Header → Prop where
  | line {rest label : Text} {specs : List Text} {columns : List Column}
      (hparts : rest.splitOn ',' = label :: specs) (htable : Text.trim label ≠ [])
      (hcolumns : List.Forall₂ Spells specs columns) :
      Heads ('@' :: rest) ⟨Text.trim label, columns⟩

/-! ## Reading a name -/

variable {t name rest : Text}

/-- A text that does not go on a name or white space before it. -/
def Breaks (t : Text) : Prop := ∀ c ∈ t.head?, Text.isWordChar c = false ∧ Text.isBlank c = false

theorem breaks_nil : Breaks [] := by
  intro c hc
  cases hc

theorem breaks_open (t : Text) : Breaks ('[' :: t) := by
  intro c hc
  obtain rfl := Option.some.inj hc
  decide +kernel

theorem breaks_close (t : Text) : Breaks (']' :: t) := by
  intro c hc
  obtain rfl := Option.some.inj hc
  decide +kernel

/-- A longest run is empty if the text begins with another character. -/
theorem run_of_head {p : Char → Bool} (h : ∀ c ∈ t.head?, p c = false) :
    t.takeWhile p = [] ∧ t.dropWhile p = t := by
  cases t with
  | nil => exact ⟨rfl, rfl⟩
  | cons c t =>
      have hc : ¬ p c = true := by simp [h c rfl]
      exact ⟨List.takeWhile_cons_of_neg hc, List.dropWhile_cons_of_neg hc⟩

theorem trimStart_blank {space : Text} (hspace : Blank space) (hrest : Breaks rest) :
    Text.trimStart (space ++ rest) = rest := by
  rw [Text.trimStart_append_blank hspace]
  exact (run_of_head fun c hc => (hrest c hc).2).2

/-- What follows a name and the white space after it does not begin with a word character. -/
theorem head_after {after : Text} (hafter : Blank after) (hrest : Breaks rest) :
    ∀ c ∈ (after ++ rest).head?, Text.isWordChar c = false := by
  cases after with
  | nil => exact fun c hc => (hrest c hc).1
  | cons d after =>
      intro c hc
      obtain rfl := Option.some.inj hc
      exact Text.not_isWordChar_of_isBlank (hafter d List.mem_cons_self)

/-- A name does not begin with white space. -/
theorem head_name (hname : Name name) (rest : Text) :
    ∀ c ∈ (name ++ rest).head?, Text.isBlank c = false := by
  obtain ⟨c, more, rfl⟩ := List.exists_cons_of_ne_nil hname.ne_nil
  intro d hd
  obtain rfl := Option.some.inj hd
  rw [Bool.eq_false_iff]
  intro hblank
  have hword := hname.word c List.mem_cons_self
  rw [Text.not_isWordChar_of_isBlank hblank] at hword
  cases hword

/-- A name is read, with the white space around it. -/
theorem name?_append {before after : Text} (hbefore : Blank before) (hname : Name name)
    (hafter : Blank after) (hrest : Breaks rest) :
    name? (before ++ (name ++ (after ++ rest))) = some (name, rest) := by
  have hstart : Text.trimStart (before ++ (name ++ (after ++ rest))) = name ++ (after ++ rest) := by
    rw [Text.trimStart_append_blank hbefore]
    exact (run_of_head (head_name hname _)).2
  obtain ⟨htake, hdrop⟩ := run_of_head (head_after hafter hrest)
  have hfull : name.isEmpty = false := by simp [hname.ne_nil]
  unfold name?
  simp only [hstart, List.takeWhile_append_of_pos hname.word,
    List.dropWhile_append_of_pos hname.word, htake, hdrop, List.append_nil, hfull,
    trimStart_blank hafter hrest]
  rfl

/-- What is read as a name stands at the start, with white space around it. -/
theorem name?_eq_some (h : name? t = some (name, rest)) :
    ∃ before after, Blank before ∧ Name name ∧ Blank after ∧
      t = before ++ (name ++ (after ++ rest)) := by
  unfold name? at h
  dsimp only at h
  split at h
  · cases h
  rename_i hne
  cases h
  refine ⟨t.takeWhile Text.isBlank,
    ((Text.trimStart t).dropWhile Text.isWordChar).takeWhile Text.isBlank,
    fun _ => List.mem_takeWhile_imp, ⟨by simpa using hne, fun _ => List.mem_takeWhile_imp⟩,
    fun _ => List.mem_takeWhile_imp, ?_⟩
  have hafter (s : Text) : s.takeWhile Text.isBlank ++ Text.trimStart s = s :=
    List.takeWhile_append_dropWhile
  rw [hafter, List.takeWhile_append_dropWhile, hafter]

/-! ## Reading a header -/

/-- What is read as a column begins with its name, and then either ends or names a type. -/
theorem column?_cases {c : Column} (h : column? t = some c) :
    (∃ name, name? t = some (name, []) ∧ c = ⟨name, .other⟩) ∨
      ∃ name inside type after, name? t = some (name, '[' :: inside) ∧
        name? inside = some (type, ']' :: after) ∧ Text.trimStart after = [] ∧
        c = ⟨name, .ofName type⟩ := by
  unfold column? at h
  cases hname : name? t with
  | none =>
      rw [hname] at h
      cases h
  | some read =>
      rw [hname] at h
      dsimp only [bind, Option.bind] at h
      split at h
      · rename_i name
        cases h
        exact .inl ⟨name, rfl, rfl⟩
      · -- a bracket behind the name: a type, its bracket, and white space at most
        rename_i name inside
        cases htype : name? inside with
        | none =>
            rw [htype] at h
            cases h
        | some read =>
            rw [htype] at h
            dsimp only at h
            split at h
            · rename_i type after
              split at h
              · rename_i hafter
                cases h
                exact .inr ⟨name, inside, type, after, rfl, htype, List.isEmpty_iff.mp hafter, rfl⟩
              · cases h
            · cases h
      · cases h

/-- **A column is read if it is written as one.** -/
theorem column?_eq_some {c : Column} : column? t = some c ↔ Spells t c := by
  constructor
  · intro h
    rcases column?_cases h with ⟨name, hname, rfl⟩
      | ⟨name, inside, type, after, hname, htype, hafter, rfl⟩
    · obtain ⟨before, space, hbefore, hn, hspace, rfl⟩ := name?_eq_some hname
      rw [List.append_nil]
      exact .untyped hbefore hn hspace
    · obtain ⟨before, between, hbefore, hn, hbetween, rfl⟩ := name?_eq_some hname
      obtain ⟨start, finish, hstart, ht, hfinish, rfl⟩ := name?_eq_some htype
      exact .typed hbefore hn hbetween hstart ht hfinish (List.dropWhile_eq_nil_iff.mp hafter)
  · intro h
    cases h with
    | untyped hbefore hname hafter =>
        have hread := name?_append hbefore hname hafter breaks_nil
        rw [List.append_nil] at hread
        unfold column?
        rw [hread]
        rfl
    | typed hbefore hname hbetween hstart htype hfinish hafter =>
        unfold column?
        rw [name?_append hbefore hname hbetween (breaks_open _)]
        simp only [name?_append hstart htype hfinish (breaks_close _), Option.bind_eq_bind,
          Option.bind_some]
        exact if_pos (List.isEmpty_iff.mpr (List.dropWhile_eq_nil_iff.mpr hafter))

theorem column_eq_ok {c : Column} : column t = .ok c ↔ Spells t c := by
  rw [← column?_eq_some, column]
  cases column? t <;> simp

/-- A list is read if each of its parts is. -/
theorem mapM_eq_ok {α β ε : Type} {f : α → Except ε β} {xs : List α} {ys : List β} :
    xs.mapM f = .ok ys ↔ List.Forall₂ (fun x y => f x = .ok y) xs ys := by
  induction xs generalizing ys with
  | nil =>
      rw [List.mapM_nil, List.forall₂_nil_left_iff]
      constructor
      · rintro ⟨⟩
        rfl
      · rintro rfl
        rfl
  | cons x xs ih =>
      rw [List.mapM_cons, List.forall₂_cons_left_iff]
      constructor
      · intro h
        cases hfirst : f x with
        | error e =>
            rw [hfirst] at h
            cases h
        | ok y =>
            cases hrest : xs.mapM f with
            | error e =>
                rw [hfirst, hrest] at h
                cases h
            | ok later =>
                rw [hfirst, hrest] at h
                cases h
                exact ⟨y, later, rfl, ih.mp hrest, rfl⟩
      · rintro ⟨y, later, hfirst, hrest, rfl⟩
        rw [hfirst, ih.mpr hrest]
        rfl

theorem header_eq {rest label : Text} {specs : List Text}
    (hparts : rest.splitOn ',' = label :: specs) :
    header ('@' :: rest) =
      if (Text.trim label).isEmpty then .error .noTableName
      else do return ⟨Text.trim label, ← specs.mapM column⟩ := by
  simp only [header]
  rw [hparts]
  rfl

/-- **A first line is read if it is written as one.** -/
theorem header_eq_ok {line : Text} {h : Header} : header line = .ok h ↔ Heads line h := by
  constructor
  · intro hread
    unfold header at hread
    split at hread
    · rename_i rest
      obtain ⟨label, specs, hparts⟩ := List.exists_cons_of_ne_nil (List.splitOn_ne_nil ',' rest)
      change header ('@' :: rest) = _ at hread
      rw [header_eq hparts] at hread
      split at hread
      · cases hread
      rename_i htable
      cases hcolumns : specs.mapM column with
      | error fault =>
          rw [hcolumns] at hread
          cases hread
      | ok columns =>
          rw [hcolumns] at hread
          cases hread
          exact .line hparts (mt List.isEmpty_iff.mpr htable)
            ((mapM_eq_ok.mp hcolumns).imp fun _ _ => column_eq_ok.mp)
    · cases hread
  · rintro ⟨hparts, htable, hcolumns⟩
    rw [header_eq hparts, if_neg (mt List.isEmpty_iff.mp htable),
      mapM_eq_ok.mpr (hcolumns.imp fun _ _ => column_eq_ok.mpr)]
    rfl

/-! ## Rows -/

/-- What a statement says before its values, the bracket included. It is the same for all rows of a
block. -/
def opening (h : Header) : Text :=
  "insert into ".toList ++ h.table ++ ' ' :: bracketed (h.columns.map Column.name) ++
    " values ".toList ++ ['(']

/-- What a row holds, one thing for each column: what the field in its place is for the type of the
column. -/
structure Row {α : Type} (value : ColumnType → Text → α) (columns : List Column) (row : Text)
    (values : List α) : Prop where
  fields : (row.splitOn ',').length = columns.length
  length : values.length = columns.length
  each : ∀ (j : Nat) (column : Column) (field : Text), columns[j]? = some column →
    (row.splitOn ',')[j]? = some field → values[j]? = some (value column.type field)

/-- The statement that a row stands for. -/
def Inserted (h : Header) (row statement : Text) : Prop :=
  ∃ values, Row literal h.columns row values ∧
    statement = opening h ++ Text.join ", ".toList values ++ [')']

variable {columns : List Column} {row : Text} {h : Header}

theorem row_iff {α : Type} {value : ColumnType → Text → α} {values : List α} :
    Row value columns row values ↔ (row.splitOn ',').length = columns.length ∧
      values = List.zipWith value (columns.map Column.type) (row.splitOn ',') := by
  constructor
  · rintro ⟨hfields, hlength, heach⟩
    refine ⟨hfields, List.ext_getElem ?_ ?_⟩
    · simp [hfields, hlength]
    · intro j hj hj'
      have hcolumn : j < columns.length := by omega
      have hfield : j < (row.splitOn ',').length := by omega
      have hvalue := heach j _ _ (List.getElem?_eq_getElem hcolumn)
        (List.getElem?_eq_getElem hfield)
      rw [List.getElem?_eq_getElem hj] at hvalue
      rw [List.getElem_zipWith, List.getElem_map]
      exact Option.some.inj hvalue
  · rintro ⟨hfields, rfl⟩
    refine ⟨hfields, by simp [hfields], ?_⟩
    intro j column field hcolumn hfield
    rw [List.getElem?_zipWith, List.getElem?_map, hcolumn, hfield]
    rfl

/-- **A row is turned into a statement if it has a field for each column.** -/
theorem insert_eq_ok {statement : Text} :
    insert h row = .ok statement ↔ Inserted h row statement := by
  have hopening (values : List Text) : "insert into ".toList ++ h.table ++
      ' ' :: bracketed (h.columns.map Column.name) ++ " values ".toList ++ bracketed values
      = opening h ++ Text.join ", ".toList values ++ [')'] := by
    unfold opening bracketed
    simp only [List.append_assoc, List.cons_append, List.nil_append]
  unfold insert Inserted
  dsimp only
  rw [hopening]
  simp only [row_iff]
  by_cases hwidth : (row.splitOn ',').length = h.columns.length
  · rw [if_pos hwidth]
    constructor
    · rintro ⟨⟩
      exact ⟨_, ⟨hwidth, rfl⟩, rfl⟩
    · rintro ⟨values, ⟨-, rfl⟩, rfl⟩
      rfl
  · rw [if_neg hwidth]
    constructor
    · rintro ⟨⟩
    · rintro ⟨values, ⟨hfields, -⟩, -⟩
      exact absurd hfields hwidth

/-! ## Blocks -/

/-- A block whose first line heads a table, and whose other lines have a field for each column. -/
def Tabular (lines : List Text) : Prop :=
  ∃ first rows h, lines = first :: rows ∧ Heads first h ∧
    ∀ row ∈ rows, (row.splitOn ',').length = h.columns.length

/-- A block with one statement for each of its rows, in order, where the header, the row and its
statement are as asked. -/
def EachRow (P : Header → Text → Text → Prop) (lines statements : List Text) : Prop :=
  ∃ first rows h, lines = first :: rows ∧ Heads first h ∧ List.Forall₂ (P h) rows statements

variable {lines statements : List Text}

theorem EachRow.imp {P Q : Header → Text → Text → Prop}
    (himp : ∀ h row statement, P h row statement → Q h row statement)
    (heach : EachRow P lines statements) : EachRow Q lines statements := by
  obtain ⟨first, rows, h, hlines, hfirst, hrows⟩ := heach
  exact ⟨first, rows, h, hlines, hfirst, hrows.imp fun row statement => himp h row statement⟩

/-- **The statements of a block are those of its rows, in order.** -/
theorem inserts_eq_ok : inserts lines = .ok statements ↔ EachRow Inserted lines statements := by
  cases lines with
  | nil =>
      constructor
      · rintro ⟨⟩
      · rintro ⟨first, rows, h, ⟨⟩, -⟩
  | cons first rows =>
      constructor
      · intro hread
        rw [inserts] at hread
        cases hheader : header first with
        | error fault =>
            rw [hheader] at hread
            cases hread
        | ok h =>
            rw [hheader] at hread
            exact ⟨first, rows, h, rfl, header_eq_ok.mp hheader,
              (mapM_eq_ok.mp hread).imp fun _ _ => insert_eq_ok.mp⟩
      · rintro ⟨first', rows', h, ⟨⟩, hheader, hrows⟩
        rw [inserts, header_eq_ok.mpr hheader]
        exact mapM_eq_ok.mpr (hrows.imp fun _ _ => insert_eq_ok.mpr)

/-- Rows stand for statements if each of them has a field for each column. -/
theorem rows_inserted_iff {h : Header} {rows : List Text} :
    (∃ statements, List.Forall₂ (Inserted h) rows statements) ↔
      ∀ row ∈ rows, (row.splitOn ',').length = h.columns.length := by
  induction rows with
  | nil => exact ⟨fun _ row hrow => absurd hrow List.not_mem_nil, fun _ => ⟨[], .nil⟩⟩
  | cons row rows ih =>
      rw [List.forall_mem_cons, ← ih]
      constructor
      · rintro ⟨statements, hall⟩
        cases hall with
        | cons hfirst hrest =>
            obtain ⟨values, hvalues, -⟩ := hfirst
            exact ⟨hvalues.fields, _, hrest⟩
      · rintro ⟨hwidth, statements, hrest⟩
        exact ⟨_, .cons ⟨_, row_iff.mpr ⟨hwidth, rfl⟩, rfl⟩ hrest⟩

/-- A block becomes statements if it is a table, and only then. -/
theorem tabular_iff : (∃ statements, inserts lines = .ok statements) ↔ Tabular lines := by
  constructor
  · rintro ⟨statements, hread⟩
    obtain ⟨first, rows, h, hlines, hfirst, hrows⟩ := inserts_eq_ok.mp hread
    exact ⟨first, rows, h, hlines, hfirst, rows_inserted_iff.mp ⟨statements, hrows⟩⟩
  · rintro ⟨first, rows, h, hlines, hfirst, hwidths⟩
    obtain ⟨statements, hrows⟩ := rows_inserted_iff.mpr hwidths
    exact ⟨statements, inserts_eq_ok.mpr ⟨first, rows, h, hlines, hfirst, hrows⟩⟩

/--
**A verbatim block becomes statements as a whole or not at all.**

It becomes statements if its first line heads a table and every other line has a field for each
column, and then each of these lines is one statement, with a value for each of its fields. A block
with a fault, wherever it is, leaves the console as it was.
-/
theorem block_all_or_nothing (lines : List Text) :
    ((∃ statements, inserts lines = .ok statements) ↔ Tabular lines) ∧
      (∀ statements, inserts lines = .ok statements ↔ EachRow Inserted lines statements) ∧
      ∀ fault, inserts lines = .error fault → ∀ c : Console,
        c.executeVerbatim lines = (.error fault.message, c) := by
  refine ⟨tabular_iff, fun statements => inserts_eq_ok, ?_⟩
  intro fault hfault c
  rw [Console.executeVerbatim, hfault]

/-- Two rows under a header with white space, and a row that is too short after them. -/
def shortRow : List Text :=
  ["@ORDERS, ID [ int ],NOTE".toList, "1 ,isn't".toList, "2,".toList, "3".toList]

/-- A console that has a variable and has sent statements before. -/
def usedConsole : Console := { «variables» := [("term".toList, ";".toList)], executed := 4 }

theorem block_all_or_nothing_shortRow :
    inserts (shortRow.take 3) = .ok
      ["insert into ORDERS (ID, NOTE) values (1, 'isn''t')".toList,
        "insert into ORDERS (ID, NOTE) values (2, NULL)".toList] ∧
    Tabular (shortRow.take 3) ∧
    inserts shortRow = .error (.wrongWidth "3".toList 1 2) ∧ ¬ Tabular shortRow ∧
    usedConsole.executeVerbatim shortRow
      = (.error "row \"3\" has 1 values for 2 columns", usedConsole) := by
  have hgood : inserts (shortRow.take 3) = .ok
      ["insert into ORDERS (ID, NOTE) values (1, 'isn''t')".toList,
        "insert into ORDERS (ID, NOTE) values (2, NULL)".toList] := by decide +kernel
  have hbad : inserts shortRow = .error (.wrongWidth "3".toList 1 2) := by decide +kernel
  have hmessage : (Fault.wrongWidth "3".toList 1 2).message
      = "row \"3\" has 1 values for 2 columns" := by decide +kernel
  obtain ⟨hiff, -, hleft⟩ := block_all_or_nothing shortRow
  refine ⟨hgood, (block_all_or_nothing _).1.mp ⟨_, hgood⟩, hbad, ?_, ?_⟩
  · intro htable
    obtain ⟨statements, hread⟩ := hiff.mpr htable
    rw [hbad] at hread
    cases hread
  · rw [← hmessage]
    exact hleft _ hbad usedConsole

end Verbatim

end MigrationScript
