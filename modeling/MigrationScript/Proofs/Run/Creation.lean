import Mathlib
import MigrationScript.Proofs.Keyword
import MigrationScript.Proofs.Lexeme
import MigrationScript.Proofs.Run.Application
import MigrationScript.Proofs.Run.Progress

/-!
# What a guarded creation asks

A line `$ine create table NAME (COLUMNS)` asks one question before the table is made. It is taken
from all words of the line, and those of the columns count too: the last word for a kind of object
names the kind, and a plain word behind the first `on` is put in front of the name, as if the object
belonged to a table. So the line asks for the table of that name exactly if the last word for a kind
names a table or a column, and no plain word stands between the first `on` and the second.
-/

namespace MigrationScript

open Source

namespace Creation

/-- The name of a table as the line gives it. -/
structure TableName (name : Text) : Prop where
  nonempty : name ≠ []
  word : ∀ c ∈ name, LexemeClass.word.holds c = true
  plain : Keyword.isKeyword name = false
  unqualified : '.' ∉ name

/-- The command that makes a table. -/
def command (name columns : Text) : Text :=
  "create table ".toList ++ name ++ " (".toList ++ columns ++ ")".toList

/-- The line that makes a table unless there is one. -/
def line (name columns : Text) : Text := "$ine ".toList ++ command name columns

/-- The words of the columns, with the brackets around them. -/
def listWords (columns : Text) : List Text := Lexeme.words ('(' :: (columns ++ [')']))

/-! ## The question by the words -/

/-- The words for kinds of schema objects. -/
def objectWords : List (Text × Symbol) :=
  [("table".toList, .table), ("field".toList, .field), ("column".toList, .field),
    ("index".toList, .index), ("procedure".toList, .procedure), ("function".toList, .function),
    ("trigger".toList, .trigger), ("exception".toList, .exception), ("domain".toList, .domain)]

/-- The kind of schema object that a word names, in any case. -/
def objectOf? (word : Text) : Option Symbol := objectWords.lookup (Keyword.folded word)

/-- The last kind that is named, a table if none is. -/
def object (ws : List Text) : Symbol := (ws.reverse.findSome? objectOf?).getD .table

/-- Whether a word is `on`, in any case. -/
def isOn (word : Text) : Bool := Keyword.folded word == "on".toList

/-- The first word between the first `on` and the second that is no keyword. -/
def owner? (ws : List Text) : Option Text :=
  (((ws.dropWhile (!isOn ·)).drop 1).takeWhile (!isOn ·)).find? (!Keyword.isKeyword ·)

/-- The name that the line asks for. -/
def askedName (name : Text) (ws : List Text) : Text :=
  match owner? ws with
  | some owner => owner ++ '.' :: name
  | none => name

/-- What the line asks for. -/
def subject (name columns : Text) : Option SchemaObject × Text :=
  let asked := askedName name (listWords columns)
  (SchemaObject.ofGuard? (object (listWords columns)) asked, asked)

/-! ## Words and symbols -/

/-- The symbol itself, if it stands for a kind of schema object. -/
def objectSymbol? (s : Symbol) : Option Symbol := if s.isSchemaObject then some s else none

theorem objectOf?_eq (word : Text) : objectOf? word = objectSymbol? (Keyword.classify word) := by
  have hspelled : ∀ entry ∈ Keyword.entries,
      objectSymbol? entry.symbol = objectWords.lookup entry.spelling.toList := by decide
  have hwords : ∀ word ∈ objectWords.map Prod.fst,
      ∃ entry ∈ Keyword.entries, entry.spelling.toList = word := by decide
  refine (Keyword.classify_grouped (p := objectSymbol?) (q := fun t => objectWords.lookup t)
    hspelled ?_ word).symm
  intro word hplain
  have hnone := Keyword.not_mem_of_plain hwords hplain
  refine List.lookup_eq_none_iff.mpr fun named hnamed => ?_
  rw [bne_iff_ne]
  exact fun heq => hnone (heq ▸ List.mem_map_of_mem hnamed)

theorem isOn_eq (word : Text) : isOn word = decide (Keyword.classify word = .on) := by
  have hspelled : ∀ entry ∈ Keyword.entries,
      decide (entry.symbol = .on) = (entry.spelling.toList == "on".toList) := by decide
  have hwords : ∀ word ∈ ["on".toList],
      ∃ entry ∈ Keyword.entries, entry.spelling.toList = word := by decide
  refine (Keyword.classify_grouped (p := fun s => decide (s = .on))
    (q := fun t => t == "on".toList) hspelled ?_ word).symm
  intro word hplain
  have hnone := Keyword.not_mem_of_plain hwords hplain
  exact beq_false_of_ne fun heq => hnone (List.mem_singleton.mpr heq)

/-! ## The question by the fields -/

theorem lastSymbol_eq (ws : List Text) (first : List Field) :
    Field.lastSymbol Symbol.isSchemaObject (first ++ ws.map Field.ofWord)
      = (ws.reverse.findSome? objectOf?).getD (Field.lastSymbol Symbol.isSchemaObject first) := by
  have hfind : ∀ l : List Text,
      (l.map Keyword.classify).find? Symbol.isSchemaObject = l.findSome? objectOf? := by
    intro l
    induction l with
    | nil => rfl
    | cons word rest ih =>
        rw [List.map_cons, List.find?_cons, List.findSome?_cons, objectOf?_eq, objectSymbol?]
        cases (Keyword.classify word).isSchemaObject with
        | true => rfl
        | false => exact ih
  have hsymbols : (ws.map Field.ofWord).map Field.symbol = ws.map Keyword.classify := by
    rw [List.map_map]
    rfl
  unfold Field.lastSymbol
  rw [List.map_append, List.reverse_append, List.find?_append, hsymbols, ← List.map_reverse, hfind]
  cases ws.reverse.findSome? objectOf? with
  | none => rfl
  | some s => rfl

/-- Whether a word is `on` can be told from its field. -/
theorem comp_ofWord_on :
    (fun f : Field => decide (f.symbol ≠ .on)) ∘ Field.ofWord = fun word => !isOn word := by
  funext word
  change decide (Keyword.classify word ≠ .on) = _
  rw [isOn_eq, decide_not]

/-- The first name among words is the first that is no keyword. -/
theorem firstName_eq {ws : List Text} (hfilled : ∀ w ∈ ws, w ≠ []) :
    Field.firstName (ws.map Field.ofWord) = (ws.find? (!Keyword.isKeyword ·)).getD [] := by
  unfold Field.firstName
  rw [List.find?_map, Option.map_map]
  induction ws with
  | nil => rfl
  | cons w rest ih =>
      have hw : w.isEmpty = false := by
        simpa using hfilled w List.mem_cons_self
      have hplain : ((fun f : Field => decide (f.symbol = .plain) && !f.text.isEmpty)
          ∘ Field.ofWord) w = !Keyword.isKeyword w := by
        change (decide (Keyword.classify w = .plain) && !w.isEmpty) = _
        rw [hw, Keyword.plain_classify, Bool.not_false, Bool.and_true]
      rw [List.find?_cons, List.find?_cons, hplain]
      cases Keyword.isKeyword w with
      | true => exact ih fun w hw => hfilled w (List.mem_cons_of_mem _ hw)
      | false => rfl

/-- What stands before the first `on` of words, as fields. -/
theorem beforeOn_eq (ws : List Text) :
    (ws.map Field.ofWord).takeWhile (fun f => f.symbol ≠ .on)
      = (ws.takeWhile (!isOn ·)).map Field.ofWord := by
  rw [List.takeWhile_map, comp_ofWord_on]

/-- What stands behind the first `on` of words, as fields. -/
theorem behindOn_eq (ws : List Text) :
    ((ws.map Field.ofWord).dropWhile fun f => f.symbol ≠ .on).drop 1
      = ((ws.dropWhile (!isOn ·)).drop 1).map Field.ofWord := by
  rw [List.dropWhile_map, comp_ofWord_on, List.map_drop]

/-! ## The question of the line -/

/-- The words of the line behind the directive word. -/
def words (name : Text) (ws : List Text) : List Text :=
  ["create".toList, "table".toList, name] ++ ws

theorem TableName.classify {name : Text} (h : TableName name) : Keyword.classify name = .plain :=
  of_decide_eq_true ((Keyword.plain_classify name).trans (congrArg not h.plain))

theorem object_words {name : Text} (hname : TableName name) (ws : List Text) :
    (OneLineGuard.ofFields ((words name ws).map Field.ofWord)).object = object ws := by
  -- the name itself is no word for an object, and `table` stands before it
  have hfirst : Field.lastSymbol Symbol.isSchemaObject
      (["create".toList, "table".toList, name].map Field.ofWord) = .table := by
    unfold Field.lastSymbol
    simp only [List.map_cons, List.map_nil, Field.ofWord, hname.classify]
    decide
  change Field.lastSymbol Symbol.isSchemaObject ((words name ws).map Field.ofWord) = _
  rw [words, List.map_append, lastSymbol_eq, hfirst]
  rfl

theorem name_words {name : Text} (hname : TableName name) {ws : List Text}
    (hfilled : ∀ w ∈ ws, w ≠ []) :
    (OneLineGuard.ofFields ((words name ws).map Field.ofWord)).name = askedName name ws := by
  -- the first `on` can only stand among the columns
  have hon : ∀ w ∈ ["create".toList, "table".toList, name], (!isOn w) = true := by
    have hnot : isOn name = false := by
      rw [isOn_eq, hname.classify]
      rfl
    simp only [List.forall_mem_cons, hnot]
    decide
  have hwords : ∀ w ∈ words name ws, w ≠ [] := by
    refine List.forall_mem_append.mpr ⟨?_, hfilled⟩
    simp [hname.nonempty]
  have hbefore : Field.firstName
      (((words name ws).map Field.ofWord).takeWhile fun f => f.symbol ≠ .on) = name := by
    have hcreate : Keyword.isKeyword "create".toList = true := by decide
    have htable : Keyword.isKeyword "table".toList = true := by decide
    rw [beforeOn_eq, firstName_eq fun w hw => hwords w (List.takeWhile_subset _ hw), words,
      List.takeWhile_append_of_pos hon, List.find?_append]
    simp only [List.find?_cons, hcreate, htable, hname.plain, Bool.not_true, Bool.not_false,
      Option.some_or, Option.getD_some]
  have hbehind : Field.firstName
      ((((words name ws).map Field.ofWord).dropWhile fun f => f.symbol ≠ .on).drop 1
        |>.takeWhile fun f => f.symbol ≠ .on) = (owner? ws).getD [] := by
    rw [behindOn_eq, beforeOn_eq, words, List.dropWhile_append_of_pos hon, firstName_eq]
    · rfl
    · intro w hw
      exact hfilled w
        (List.dropWhile_subset _ (List.drop_subset _ _ (List.takeWhile_subset _ hw)))
  unfold OneLineGuard.ofFields
  dsimp only
  rw [hbefore, hbehind, askedName]
  cases howner : owner? ws with
  | none => rfl
  | some owner =>
      have hne : owner.isEmpty = false := by
        have hmem := List.mem_of_find?_eq_some howner
        simpa using hfilled owner
          (List.dropWhile_subset _ (List.drop_subset _ _ (List.takeWhile_subset _ hmem)))
      rw [Option.getD_some, hne]
      rfl

/-! ## The line as it is read -/

theorem line_eq (name columns : Text) :
    line name columns = "$ine".toList ++ ' ' :: ("create".toList ++ ' ' ::
      ("table".toList ++ ' ' :: (name ++ ' ' :: '(' :: (columns ++ [')'])))) := by
  unfold line command
  simp only [List.append_assoc]
  rfl

/-- The line ends with a bracket. -/
theorem line_concat (name columns : Text) : ∃ front, line name columns = front ++ [')'] := by
  refine ⟨"$ine ".toList ++ ("create table ".toList ++ name ++ " (".toList ++ columns), ?_⟩
  exact (List.append_assoc _ _ _).symm

theorem words_line {name : Text} (hname : TableName name) (columns : Text) :
    Lexeme.words (line name columns) = "$ine".toList :: words name (listWords columns) := by
  have hine : ∀ c ∈ "$ine".toList, LexemeClass.word.holds c = true :=
    List.all_eq_true.mp (by decide)
  have hcreate : ∀ c ∈ "create".toList, LexemeClass.word.holds c = true :=
    List.all_eq_true.mp (by decide)
  have htable : ∀ c ∈ "table".toList, LexemeClass.word.holds c = true :=
    List.all_eq_true.mp (by decide)
  rw [line_eq, Lexeme.words_spaced (by decide) hine, Lexeme.words_spaced (by decide) hcreate,
    Lexeme.words_spaced (by decide) htable, Lexeme.words_spaced hname.nonempty hname.word]
  rfl

/-- The directive that the line stands for. -/
def directive (name columns : Text) : Directive :=
  ⟨.ifMissing, "$ine".toList, (words name (listWords columns)).map Field.ofWord⟩

/-- A line that starts with `$` and ends with a bracket has nothing that could be taken off. -/
theorem trim_line (name columns : Text) : Text.trim (line name columns) = line name columns := by
  obtain ⟨front, hend⟩ := line_concat name columns
  refine Text.trim_of_tight ?_ ?_
  · rintro c ⟨⟩
    decide
  · intro c hc
    rw [hend, List.getLast?_concat] at hc
    cases hc
    decide

theorem splitTerminator_line (name columns : Text) :
    Script.Line.splitTerminator (line name columns) = (line name columns, false) := by
  refine splitTerminator_of_not ?_
  rintro ⟨rest, hrest⟩
  obtain ⟨front, hfront⟩ := line_concat name columns
  have hlast := congrArg List.getLast? (hrest.trans hfront)
  rw [List.getLast?_concat, List.getLast?_append_of_ne_nil _ (by decide)] at hlast
  revert hlast
  decide

theorem ofText_line {name : Text} (hname : TableName name) (columns : Text) :
    Script.Line.ofText (line name columns)
      = .ok (.directive (directive name columns) (command name columns) false) := by
  have hdirective : Directive.ofLine (line name columns) = .ok (directive name columns) := by
    unfold Directive.ofLine
    rw [words_line hname]
    rfl
  unfold Script.Line.ofText
  dsimp only
  rw [trim_line, splitTerminator_line]
  change (Directive.ofLine (line name columns) >>= fun d =>
    pure (Script.Line.ofDirective d (line name columns) false)) = _
  rw [hdirective]
  rfl

/-- The statement that the line stands for. -/
def statement (name columns : Text) : Statement :=
  { symbol := .ifMissing, key := "$ine".toList
    fields := (words name (listWords columns)).map Field.ofWord
    slots := [[command name columns]], line := 1 }

theorem parse_line {name columns : Text} (hname : TableName name) (hline : '\n' ∉ columns) :
    Script.parse (line name columns) = .ok [statement name columns] := by
  have hone : '\n' ∉ line name columns := by
    have hword : '\n' ∉ name := fun h => absurd (hname.word _ h) (by decide)
    unfold line command
    simp only [List.mem_append, not_or]
    exact ⟨by decide, ⟨⟨⟨by decide, hword⟩, by decide⟩, hline⟩, by decide⟩
  unfold Script.parse
  rw [numberedLines_single hone, List.mapM_cons, List.mapM_nil, Script.readLine, ofText_line hname]
  rfl

/-- What the statement does is settled by the words. -/
theorem role_statement {name : Text} (hname : TableName name) (columns : Text) :
    ∃ action, (statement name columns).role = .guardedLine
      ⟨action, object (listWords columns), askedName name (listWords columns)⟩ true := by
  have hfilled : ∀ w ∈ listWords columns, w ≠ [] := fun w hw => (Lexeme.mem_words hw).1
  rw [← object_words hname, ← name_words hname hfilled]
  exact ⟨_, rfl⟩

/-! ## What the line asks for -/

theorem isSchemaObject_object (ws : List Text) : (object ws).isSchemaObject = true := by
  unfold object
  cases hfound : ws.reverse.findSome? objectOf? with
  | none => rfl
  | some s =>
      obtain ⟨word, -, hword⟩ := List.exists_of_findSome?_eq_some hfound
      rw [objectOf?_eq, objectSymbol?] at hword
      split at hword
      · rename_i hobject
        cases hword
        exact hobject
      · cases hword

/-- The database can be asked for everything that a word names. -/
theorem ofGuard?_isSome {s : Symbol} (h : s.isSchemaObject = true) (name : Text) :
    ∃ kind, SchemaObject.ofGuard? s name = some kind := by
  unfold Symbol.isSchemaObject at h
  split at h
  all_goals first | exact ⟨_, rfl⟩ | cases h

theorem ofGuard?_eq_table {s : Symbol} {name : Text} :
    SchemaObject.ofGuard? s name = some .table ↔ (s = .table ∨ s = .field) ∧ '.' ∉ name := by
  unfold SchemaObject.ofGuard?
  split
  · simp
  · simp
  all_goals simp_all

theorem subject_eq_table {name : Text} (hname : TableName name) (columns : Text) :
    subject name columns = (some .table, name) ↔
      owner? (listWords columns) = none ∧
        (object (listWords columns) = .table ∨ object (listWords columns) = .field) := by
  unfold subject askedName
  cases owner? (listWords columns) with
  | none => simp [ofGuard?_eq_table, hname.unqualified]
  | some owner =>
      -- a name with something in front of it is longer
      have hlonger : owner ++ '.' :: name ≠ name := by
        intro heq
        have hlength := congrArg List.length heq
        simp at hlength
        omega
      simp [hlonger]

end Creation

namespace Run

open Creation

variable {σ τ : Type}

/-- A line with a question asks it and nothing else, however the run goes on. -/
theorem step_asks (db : Database σ) {s : Statement} {guard : OneLineGuard} {negated : Bool}
    {kind : SchemaObject} (hrole : s.role = .guardedLine guard negated)
    (hkind : SchemaObject.ofGuard? guard.object guard.name = some kind) (hsplits : Splits s.slots)
    (session : Session (Watched σ)) :
    ∃ found made, (step db.watched s session).2.database.calls
        = session.database.calls ++ .asked kind guard.name found :: made ∧ questions made = [] := by
  obtain ⟨found, made, hcalls, hhands⟩ :=
    executeGuarded_asks db hkind negated (fun _ => guard.action) hsplits session
  unfold step
  rw [hrole]
  exact ⟨found, made, hcalls, hhands.silent⟩

/-- The run of the line asks one question. -/
theorem questions_creation {name columns : Text} (hname : TableName name) (hline : '\n' ∉ columns)
    (db : Database σ) (store : VersionStore τ) (e : Engine σ τ) :
    (questions (e.episode db store [statement name columns]).observed.calls).map Question.subject
      = [subject name columns] := by
  obtain ⟨action, hrole⟩ := role_statement hname columns
  obtain ⟨kind, hkind⟩ := ofGuard?_isSome (isSchemaObject_object (listWords columns))
    (askedName name (listWords columns))
  have hsplits : Splits (statement name columns).slots := fun slot hslot =>
    Script.splitOn_command (parse_line hname hline) (List.mem_singleton_self _) hslot
  obtain ⟨found, made, hcalls, hsilent⟩ := step_asks db hrole hkind hsplits
    (.start e.info ⟨e.database, []⟩)
  rw [(episode_calls db store _ e).1, Engine.walked, walk_single, hcalls, subject, hkind]
  exact congrArg (fun made => List.map Question.subject (⟨kind, _, found⟩ :: made)) hsilent

/--
**A guarded creation asks one question, and it is for the table of the given name exactly if the
columns name no owner and no other kind of object.**

This is so for every name and all columns, whatever the database answers. An owner is a plain word
between the first `on` and the second, and the kind is that of the last word for one.
-/
theorem creation_asks {name columns : Text} (hname : TableName name) (hline : '\n' ∉ columns) :
    Script.parse (line name columns) = .ok [statement name columns] ∧
      (∀ {σ τ : Type} (db : Database σ) (store : VersionStore τ) (e : Engine σ τ),
        (questions (e.episode db store [statement name columns]).observed.calls).map
          Question.subject = [subject name columns]) ∧
      (subject name columns = (some .table, name) ↔
        owner? (listWords columns) = none ∧
          (object (listWords columns) = .table ∨ object (listWords columns) = .field)) :=
  ⟨parse_line hname hline, fun db store e => questions_creation hname hline db store e,
    subject_eq_table hname columns⟩

/-! ## Columns with a foreign key -/

/-- The line asks for the table whatever the columns say. -/
def AsksForTable (name columns : Text) : Prop :=
  ∃ statements, Script.parse (line name columns) = .ok statements ∧
    ∀ {σ τ : Type} (db : Database σ) (store : VersionStore τ) (e : Engine σ τ),
      (questions (e.episode db store statements).observed.calls).map Question.subject
        = [(some .table, name)]

theorem tableName_orders : TableName "orders".toList :=
  ⟨by decide, List.all_eq_true.mp (by decide), by decide, by decide⟩

/-- Columns without other kinds of objects leave the table alone. -/
theorem creation_asks_plain :
    TableName "orders".toList ∧ '\n' ∉ "customer integer, total numeric(9, 2)".toList ∧
      ∀ (found : Bool), (questions ((engineOf "shop".toList).episode (.willing fun _ _ => found)
        keeper [statement "orders".toList "customer integer, total numeric(9, 2)".toList]
          ).observed.calls).map Question.subject = [(some .table, "orders".toList)] := by
  have hline : '\n' ∉ "customer integer, total numeric(9, 2)".toList := by decide
  refine ⟨tableName_orders, hline, ?_⟩
  intro found
  obtain ⟨-, hasks, htable⟩ := creation_asks tableName_orders hline
  rw [hasks]
  refine congrArg (fun asked => [asked]) (htable.mpr ?_)
  cbv

/-- A column that refers to another table, with what is to be done when a row of it is deleted. -/
def keyed : Text := "customer integer references customers on delete cascade".toList

/-- What is to be done with the rows is taken for the table that the object belongs to. -/
theorem not_asksForTable_keyed :
    TableName "orders".toList ∧ '\n' ∉ keyed ∧ ¬ AsksForTable "orders".toList keyed := by
  have hline : '\n' ∉ keyed := by decide
  refine ⟨tableName_orders, hline, ?_⟩
  rintro ⟨statements, hparse, hasks⟩
  obtain rfl : [statement "orders".toList keyed] = statements :=
    Except.ok.inj ((parse_line tableName_orders hline).symm.trans hparse)
  have hsubject : subject "orders".toList keyed = (some .column, "cascade.orders".toList) := by
    cbv
  have hasked := questions_creation tableName_orders hline (.willing fun _ _ => true) keeper
    (engineOf "shop".toList)
  rw [hasks, hsubject] at hasked
  revert hasked
  decide

end Run

end MigrationScript
