import Mathlib
import MigrationScript.Proofs.Run.Application
import MigrationScript.Proofs.Run.Conduct
import MigrationScript.Proofs.Source.Twin

/-!
# Negated guards

A guard and its negation complement each other. They ask the same question, or fail for the same
reason, and on a database that answers by a schema exactly one of them hands over what it guards.

A block is negated by a word in its predicate, a line by the word it begins with. Either way the two
sources differ in the first directive only, and the two directives in nothing but the answer that
they want (`step_block_negated`, `step_line_negated`).
-/

namespace MigrationScript

open Source Script

variable {σ : Type}

namespace Database

/-- A database that answers by a schema, whatever has been done to it, and takes every command. -/
structure Steady (db : Database σ) (schema : SchemaObject → Text → Bool) : Prop where
  has : ∀ kind name d, (db.has kind name d).1 = schema kind name
  execute : ∀ symbol slot command d, (db.execute symbol slot command d).1 = .ok .proceed

theorem steady_willing (schema : SchemaObject → Text → Bool) : (willing schema).Steady schema :=
  ⟨fun _ _ _ => rfl, fun _ _ _ _ => rfl⟩

end Database

namespace Run

variable {db : Database σ} {schema : SchemaObject → Text → Bool}

/-! ## Guards on a steady database -/

/-- Goes on to the next statement after calls in a row. -/
def Session.passed (db : Database σ) (made : List Call) (x : Session (Watched σ)) :
    Signal × Session (Watched σ) :=
  { x with database := x.database.extended db made }.advance 1

theorem executeSlots_steady (hsteady : db.Steady schema) (symbolOf : Slot → Symbol) (i : Nat)
    (slots : List Slot) (d : Watched σ) :
    executeSlots db.watched symbolOf i slots d
      = (.next, d.extended db (commandCalls symbolOf i slots)) := by
  induction slots generalizing i d with
  | nil => exact congrArg (Prod.mk Signal.next) (d.extended_nil db).symm
  | cons slot rest ih =>
      have hcall : db.watched.execute (symbolOf slot) i slot.command d
          = (.ok .proceed, d.extended db [.executed (symbolOf slot) i slot.command]) :=
        Prod.ext (hsteady.execute _ _ _ _) rfl
      have hcalls : commandCalls symbolOf i (slot :: rest)
          = [.executed (symbolOf slot) i slot.command] ++ commandCalls symbolOf (i + 1) rest := rfl
      rw [executeSlots, hcall, hcalls, Watched.extended_append]
      exact ih (i + 1) _

theorem executeCommands_steady (hsteady : db.Steady schema) (symbolOf : Slot → Symbol)
    (slots : List Slot) (x : Session (Watched σ)) :
    executeCommands db.watched symbolOf slots x = x.passed db (commandCalls symbolOf 0 slots) := by
  rw [executeCommands, executeSlots_steady hsteady]
  rfl

/-- The question is answered by the schema, and the commands are handed over or not. -/
theorem executeGuarded_steady (hsteady : db.Steady schema) {object : Symbol} {name : Text}
    {kind : SchemaObject} (hkind : SchemaObject.ofGuard? object name = some kind) (negated : Bool)
    (symbolOf : Slot → Symbol) (slots : List Slot) (x : Session (Watched σ)) :
    executeGuarded db.watched object name negated symbolOf slots x
      = x.passed db (.asked kind name (schema kind name)
          :: if schema kind name != negated then commandCalls symbolOf 0 slots else []) := by
  have hfound := hsteady.has kind name x.database.state
  have hasked : x.database.extended db [.asked kind name (schema kind name)]
      = ⟨(db.has kind name x.database.state).2,
          x.database.calls ++ [.asked kind name (schema kind name)]⟩ := rfl
  rw [executeGuarded_watched db hkind]
  dsimp only
  rw [hfound, ← hasked]
  cases schema kind name != negated with
  | true =>
      have hboth := x.database.extended_append db [.asked kind name (schema kind name)]
        (commandCalls symbolOf 0 slots)
      rw [if_pos rfl, if_pos rfl, executeCommands_steady hsteady]
      exact congrArg (fun d => Session.advance { x with database := d } 1) hboth.symm
  | false => rfl

/-! ## Guards that complement each other -/

/-- What a guarded statement asks for, if that can be asked. -/
def asks? (s : Statement) : Option (SchemaObject × Text) :=
  match s.role with
  | .guardedBlock guard =>
    if guard.operator = .exist then
      (SchemaObject.ofGuard? guard.object guard.name).map fun kind => (kind, guard.name)
    else none
  | .guardedLine guard _ =>
    (SchemaObject.ofGuard? guard.object guard.name).map fun kind => (kind, guard.name)
  | _ => none

/-- Two statements ask for nothing that can be asked, and then they fail for the same reason and
leave the session as it is. Or they ask the same question, and then the first hands over its
commands if there is such an object, and the second hands over its own if there is none. -/
inductive Complementary (db : Database σ) (schema : SchemaObject → Text → Bool)
    (s s' : Statement) (x : Session (Watched σ)) : Prop where
  | refused (hasks : asks? s = none ∧ asks? s' = none) (cause : Failure)
      (h : step db.watched s x = (.fail cause, x)) (h' : step db.watched s' x = (.fail cause, x))
  | asked (kind : SchemaObject) (name : Text)
      (hasks : asks? s = some (kind, name) ∧ asks? s' = some (kind, name))
      (h : step db.watched s x = x.passed db (.asked kind name (schema kind name)
        :: if schema kind name then s.commands else []))
      (h' : step db.watched s' x = x.passed db (.asked kind name (schema kind name)
        :: if schema kind name then [] else s'.commands))

/-- A guarded statement does what its guard says. -/
structure Guards (db : Database σ) (s : Statement) (object : Symbol) (name : Text) (negated : Bool)
    (symbolOf : Slot → Symbol) (x : Session (Watched σ)) : Prop where
  asks : asks? s = (SchemaObject.ofGuard? object name).map fun kind => (kind, name)
  step : step db.watched s x = executeGuarded db.watched object name negated symbolOf s.slots x
  commands : s.commands = commandCalls symbolOf 0 s.slots

/-- **Guards that want opposite answers complement each other.** -/
theorem complementary_guards (hsteady : db.Steady schema) {s s' : Statement} {object : Symbol}
    {name : Text} {symbolOf : Slot → Symbol} {x : Session (Watched σ)}
    (h : Guards db s object name false symbolOf x) (h' : Guards db s' object name true symbolOf x) :
    Complementary db schema s s' x := by
  cases hkind : SchemaObject.ofGuard? object name with
  | none =>
      have hrefused (negated : Bool) (slots : List Slot) :
          executeGuarded db.watched object name negated symbolOf slots x
            = (.fail (.badGuardObject object name), x) := by
        rw [executeGuarded, hkind]
      have hasks := h.asks
      have hasks' := h'.asks
      rw [hkind] at hasks hasks'
      exact .refused ⟨hasks, hasks'⟩ _ (h.step.trans (hrefused _ _)) (h'.step.trans (hrefused _ _))
  | some kind =>
      have hasks := h.asks
      have hasks' := h'.asks
      rw [hkind] at hasks hasks'
      refine .asked kind name ⟨hasks, hasks'⟩ ?_ ?_
      · rw [h.step, executeGuarded_steady hsteady hkind, h.commands]
        cases schema kind name <;> rfl
      · rw [h'.step, executeGuarded_steady hsteady hkind, h'.commands]
        cases schema kind name <;> rfl

variable {fields : List Field} {sign : Field} {s : Statement}

/-- A sign of negation is no part of a question. -/
theorem ofFields_negated (hsign : sign.symbol = .negation) :
    ExistenceGuard.ofFields (sign :: fields)
      = { ExistenceGuard.ofFields fields with negated := true } := by
  have hobject : Field.lastSymbol Symbol.isSchemaObject (sign :: fields)
      = Field.lastSymbol Symbol.isSchemaObject fields := by
    have hnone : [sign.symbol].find? Symbol.isSchemaObject = none := by
      rw [hsign]
      rfl
    rw [Field.lastSymbol, List.map_cons, List.reverse_cons, List.find?_append, hnone,
      Option.or_none]
    rfl
  have hname : Field.firstName (sign :: fields) = Field.firstName fields := by
    rw [Field.firstName, List.find?_cons_of_neg (by simp [hsign])]
    rfl
  have hoperator : Field.mentions .exist (sign :: fields) = Field.mentions .exist fields := by
    simp [Field.mentions, hsign]
  have hnegated : Field.mentions .negation (sign :: fields) = true := by
    simp [Field.mentions, hsign]
  unfold ExistenceGuard.ofFields
  rw [hobject, hname, hoperator, hnegated]

/-- A block is negated by a word of its predicate. -/
theorem step_block_negated (hsteady : db.Steady schema)
    (hplain : ∀ f ∈ fields, f.symbol ≠ .negation) (hsign : sign.symbol = .negation) (key : Text)
    (s : Statement) (x : Session (Watched σ)) :
    Complementary db schema (s.under ⟨.ifBlock, key, fields⟩)
      (s.under ⟨.ifBlock, key, sign :: fields⟩) x := by
  have hnegated : (ExistenceGuard.ofFields fields).negated = false := by
    simpa [ExistenceGuard.ofFields, Field.mentions] using hplain
  have hflipped : ExistenceGuard.ofFields (sign :: fields)
      = { ExistenceGuard.ofFields fields with negated := true } := ofFields_negated hsign
  have hstep (fields : List Field) : step db.watched (s.under ⟨.ifBlock, key, fields⟩) x =
      if (ExistenceGuard.ofFields fields).operator ≠ .exist then
        (.fail (.badGuardOperator key (ExistenceGuard.ofFields fields).operator), x)
      else executeGuarded db.watched (ExistenceGuard.ofFields fields).object
        (ExistenceGuard.ofFields fields).name (ExistenceGuard.ofFields fields).negated Slot.symbol
        s.slots x := rfl
  have hasks (fields : List Field) : asks? (s.under ⟨.ifBlock, key, fields⟩) =
      if (ExistenceGuard.ofFields fields).operator = .exist then
        (SchemaObject.ofGuard? (ExistenceGuard.ofFields fields).object
          (ExistenceGuard.ofFields fields).name).map
            fun kind => (kind, (ExistenceGuard.ofFields fields).name)
      else none := rfl
  by_cases hoperator : (ExistenceGuard.ofFields fields).operator = .exist
  · have hguards : Guards db (s.under ⟨.ifBlock, key, fields⟩)
        (ExistenceGuard.ofFields fields).object (ExistenceGuard.ofFields fields).name false
        Slot.symbol x := by
      refine ⟨by rw [hasks, if_pos hoperator], ?_, rfl⟩
      rw [hstep, if_neg (not_not_intro hoperator), hnegated]
      rfl
    refine complementary_guards hsteady hguards ⟨?_, ?_, rfl⟩
    · rw [hasks, hflipped, if_pos hoperator]
    · rw [hstep, hflipped, if_neg (not_not_intro hoperator)]
      rfl
  · -- without the operator neither asks, and both fail for the same reason
    refine .refused ⟨?_, ?_⟩
      (.badGuardOperator key (ExistenceGuard.ofFields fields).operator) ?_ ?_
    · rw [hasks, if_neg hoperator]
    · rw [hasks, hflipped, if_neg hoperator]
    · rw [hstep, if_pos hoperator]
    · rw [hstep, hflipped, if_pos hoperator]

/-- A line is negated by the word it begins with. -/
theorem step_line_negated (hsteady : db.Steady schema) (key key' : Text) (s : Statement)
    (x : Session (Watched σ)) :
    Complementary db schema (s.under ⟨.ifExists, key, fields⟩)
      (s.under ⟨.ifMissing, key', fields⟩) x :=
  complementary_guards hsteady
    (⟨rfl, rfl, rfl⟩ : Guards db _ (OneLineGuard.ofFields fields).object
      (OneLineGuard.ofFields fields).name false (fun _ => (OneLineGuard.ofFields fields).action) x)
    ⟨rfl, rfl, rfl⟩

/-! ## Sources -/

/-- Two sources are refused for the same reason. Or they are read as the same statements but for the
first, which stands on the first line under one directive or the other, and the two forms of it
complement each other on every database that answers by a schema. -/
inductive Opposed (a b : Directive) :
    Except ParseError (List Statement) → Except ParseError (List Statement) → Prop where
  | refused (e : ParseError) : Opposed a b (.error e) (.error e)
  | read (s : Statement) (hline : s.line = 1) (later : List Statement)
      (h : ∀ {σ : Type} (db : Database σ) (schema : SchemaObject → Text → Bool), db.Steady schema →
        ∀ x, Complementary db schema (s.under a) (s.under b) x) :
      Opposed a b (.ok (s.under a :: later)) (.ok (s.under b :: later))

theorem opposed_of_twin {a b : Directive} {r r' : Except ParseError (List Statement)}
    (htwin : TwinRead a b 1 r r')
    (h : ∀ {σ : Type} (db : Database σ) (schema : SchemaObject → Text → Bool), db.Steady schema →
      ∀ (s : Statement) x, Complementary db schema (s.under a) (s.under b) x) :
    Opposed a b r r' := by
  cases htwin with
  | refused e => exact .refused e
  | read s hline later =>
      exact .read s hline later fun db schema hsteady => h db schema hsteady s

/-- A source whose first line begins with a directive and goes on with a predicate, and the lines
after it. -/
def sourceOf (start predicate : Text) (body : List Text) : Text :=
  start ++ Text.join ['\n'] (predicate :: body)

/-- The fields of a predicate. A directive ends with its line. -/
def fieldsOf (predicate : Text) : List Field :=
  (Lexeme.words (firstLine predicate)).map Field.ofWord

/-- The directive of a guarded block. -/
def blockGuard (fields : List Field) : Directive := ⟨.ifBlock, "$if".toList, fields⟩

/-- The directive of a one-line guard that asks for what is there. -/
def presenceGuard (fields : List Field) : Directive := ⟨.ifExists, "$ie".toList, fields⟩

/-- The directive of a one-line guard that asks for what is missing. -/
def absenceGuard (fields : List Field) : Directive := ⟨.ifMissing, "$ine".toList, fields⟩

theorem ofText_if (t : Text) : Line.ofText ("$if".toList ++ ' ' :: t)
    = .ok (.opener (blockGuard ((Lexeme.words t).map Field.ofWord))) := by
  have hword : ∀ c ∈ "$if".toList, LexemeClass.word.holds c = true :=
    List.all_eq_true.mp (by decide)
  have hsymbol : Keyword.directive? "$if".toList = some .ifBlock := by decide
  rw [ofText_word rfl hword (head_space t) hsymbol, Lexeme.words_dropped (by decide)]
  rfl

/-- A one-line guard reads alike under either word, but for the word. -/
theorem ofText_guard {first : Text} {symbol : Symbol} (hdollar : first.head? = some '$')
    (hword : ∀ c ∈ first, LexemeClass.word.holds c = true)
    (hsymbol : Keyword.directive? first = some symbol) (hguards : symbol.guardsOneLine = true)
    (t : Text) :
    Line.ofText (first ++ ' ' :: t) = .ok (.directive
      ⟨symbol, Keyword.folded first, (Lexeme.words t).map Field.ofWord⟩
      ((kept (' ' :: t)).dropWhile LexemeClass.isSpace) (keptEnded (' ' :: t))) := by
  obtain ⟨hcloses, hopens, hsingle⟩ : symbol.closesBlock = false ∧ symbol.opensBlock = false
      ∧ symbol.isSingleLine = false := by
    revert hguards
    cases symbol <;> decide
  have hbehind := (leadingWord_word hword (head_kept (head_space t))).2
  rw [ofText_word hdollar hword (head_space t) hsymbol, Line.ofDirective]
  dsimp only
  rw [hcloses, hopens, hsingle, hguards, hbehind, Bool.or_false, Lexeme.words_dropped (by decide)]
  rfl

theorem symbol_fieldsOf {p : Text}
    (hplain : ∀ w ∈ Lexeme.words p, Keyword.classify w ≠ .negation) :
    ∀ f ∈ fieldsOf p, f.symbol ≠ .negation := by
  have hline : firstLine p ∈ p.splitOn '\n' := by
    unfold firstLine
    cases hlines : p.splitOn '\n' with
    | nil => exact absurd hlines (List.splitOn_ne_nil _ _)
    | cons line more => exact List.mem_cons_self
  intro f hf
  obtain ⟨w, hw, rfl⟩ := List.mem_map.mp hf
  exact hplain w (mem_words_of_line hline hw)

/-- A block and the block that is negated by a sign before its predicate. -/
theorem opposed_blocks {p sign : Text}
    (hplain : ∀ w ∈ Lexeme.words p, Keyword.classify w ≠ .negation) (body : List Text)
    (hsign : Lexeme.words sign = [sign]) (hnot : Keyword.classify sign = .negation) :
    Opposed (blockGuard (fieldsOf p)) (blockGuard (Field.ofWord sign :: fieldsOf p))
      (parse (sourceOf "$if ".toList p body))
      (parse (sourceOf ("$if ".toList ++ sign ++ " ".toList) p body)) := by
  obtain ⟨rest, hlines⟩ := numberedLines_started p body
  have hfirst : numberedLines (sourceOf "$if ".toList p body)
      = (1, "$if".toList ++ ' ' :: firstLine p) :: rest := hlines "$if ".toList (by decide)
  have hsecond : numberedLines (sourceOf ("$if ".toList ++ sign ++ " ".toList) p body)
      = (1, "$if".toList ++ ' ' :: (sign ++ ' ' :: firstLine p)) :: rest := by
    -- a sign is a word, and a line break belongs to none
    have hfeed : '\n' ∉ sign := by
      intro hmem
      obtain ⟨-, kind, hkind⟩ := Lexeme.mem_words (hsign ▸ List.mem_singleton_self sign)
      have hfeed := hkind _ hmem
      revert hfeed
      cases kind <;> decide
    have hstart : '\n' ∉ "$if ".toList ++ sign ++ " ".toList := by
      simp only [List.mem_append, not_or]
      exact ⟨⟨by decide, hfeed⟩, by decide⟩
    rw [sourceOf, hlines _ hstart]
    simp [firstLine]
  have hread := ofText_if (sign ++ ' ' :: firstLine p)
  rw [Lexeme.words_append (by decide), hsign, List.singleton_append, List.map_cons] at hread
  have halike : Alike (blockGuard (fieldsOf p)) (blockGuard (Field.ofWord sign :: fieldsOf p)) :=
    ⟨rfl, fun _ => rfl, fun _ => rfl⟩
  have htwin := parse_twin halike hfirst hsecond (ofText_if (firstLine p)) hread
    (.opened (.new (blockGuard (fieldsOf p)) 1) rfl)
  have hsymbol : (Field.ofWord sign).symbol = .negation := hnot
  exact opposed_of_twin htwin fun db schema hsteady s x =>
    step_block_negated hsteady (symbol_fieldsOf hplain) hsymbol _ s x

/-- A line under `$ie` and the same line under `$ine`. -/
theorem opposed_lines (p : Text) (body : List Text) :
    Opposed (presenceGuard (fieldsOf p)) (absenceGuard (fieldsOf p))
      (parse (sourceOf "$ie ".toList p body)) (parse (sourceOf "$ine ".toList p body)) := by
  obtain ⟨rest, hlines⟩ := numberedLines_started p body
  have hie : ∀ c ∈ "$ie".toList, LexemeClass.word.holds c = true :=
    List.all_eq_true.mp (by decide)
  have hine : ∀ c ∈ "$ine".toList, LexemeClass.word.holds c = true :=
    List.all_eq_true.mp (by decide)
  have hread := ofText_guard rfl hie (by decide : _ = some .ifExists) rfl (firstLine p)
  have hread' := ofText_guard rfl hine (by decide : _ = some .ifMissing) rfl (firstLine p)
  have halike : Alike (presenceGuard (fieldsOf p)) (absenceGuard (fieldsOf p)) :=
    ⟨rfl, fun _ => rfl, nofun⟩
  have htwin := parse_twin halike (hlines "$ie ".toList (by decide))
    (hlines "$ine ".toList (by decide)) hread hread'
    (twin_pushAndClose halike (d := .new (presenceGuard (fieldsOf p)) 1) rfl _ _)
  exact opposed_of_twin htwin fun db schema hsteady s x => step_line_negated hsteady _ _ s x

/--
**Negation complements a guard.**

Take a block and the same block with a word for negation before its predicate, which has none of its
own, or take a line under `$ie` and the same line under `$ine`. The two ask the same single question,
or it cannot be asked and they fail for the same reason, whatever lines follow. If they ask, exactly
one of them hands over all its slots, in order, and the other none.
-/
theorem negation_complements {p : Text}
    (hplain : ∀ w ∈ Lexeme.words p, Keyword.classify w ≠ .negation) (body : List Text) :
    (∀ sign, Lexeme.words sign = [sign] → Keyword.classify sign = .negation →
      Opposed (blockGuard (fieldsOf p)) (blockGuard (Field.ofWord sign :: fieldsOf p))
        (parse (sourceOf "$if ".toList p body))
        (parse (sourceOf ("$if ".toList ++ sign ++ " ".toList) p body)))
    ∧ Opposed (presenceGuard (fieldsOf p)) (absenceGuard (fieldsOf p))
        (parse (sourceOf "$ie ".toList p body)) (parse (sourceOf "$ine ".toList p body)) :=
  ⟨fun _ => opposed_blocks hplain body, opposed_lines p body⟩

/-- A predicate without a negation. -/
def predicate : Text := "exist table orders".toList

/-- Two commands and a closer, as the lines after a guard. -/
def guardedLines : List Text := ["select 1 &&".toList, "select 2".toList, "$fi".toList]

/-- The block of these lines under the predicate. -/
def ordersBlock : Statement :=
  { symbol := .ifBlock, key := "$if".toList, fields := fieldsOf predicate
    slots := [["select 1".toList], ["select 2".toList]], line := 1 }

/-- On a database with every object the block hands over both slots, and its negation none. -/
theorem negation_complements_orders :
    (∀ w ∈ Lexeme.words predicate, Keyword.classify w ≠ .negation)
    ∧ asks? ordersBlock = some (.table, "orders".toList)
    ∧ (∀ x, Complementary (Database.willing fun _ _ => true) (fun _ _ => true) ordersBlock
        (ordersBlock.under (blockGuard (Field.ofWord "!".toList :: fieldsOf predicate))) x)
    ∧ Opposed (blockGuard (fieldsOf predicate))
        (blockGuard (Field.ofWord "Not".toList :: fieldsOf predicate))
        (parse (sourceOf "$if ".toList predicate guardedLines))
        (parse (sourceOf "$if Not ".toList predicate guardedLines))
    ∧ Opposed (presenceGuard (fieldsOf predicate)) (absenceGuard (fieldsOf predicate))
        (parse (sourceOf "$ie ".toList predicate guardedLines))
        (parse (sourceOf "$ine ".toList predicate guardedLines)) := by
  have hplain : ∀ w ∈ Lexeme.words predicate, Keyword.classify w ≠ .negation := by
    decide +kernel
  have hsign : Lexeme.words "!".toList = ["!".toList] := by decide +kernel
  have hword : Lexeme.words "Not".toList = ["Not".toList] := by decide +kernel
  have hparse : parse (sourceOf "$if ".toList predicate guardedLines) = .ok [ordersBlock] := by
    decide +kernel
  obtain ⟨hblocks, hlines⟩ := negation_complements hplain guardedLines
  refine ⟨hplain, by decide +kernel, fun x => ?_, hblocks "Not".toList hword (by decide), hlines⟩
  have hopposed := hblocks "!".toList hsign (by decide)
  rw [hparse] at hopposed
  generalize hread : Except.ok [ordersBlock] = r at hopposed
  generalize parse (sourceOf ("$if ".toList ++ "!".toList ++ " ".toList) predicate guardedLines)
    = r' at hopposed
  cases hopposed with
  | refused e => cases hread
  | read s hline later h =>
      obtain ⟨hfirst, -⟩ := List.cons.inj (Except.ok.inj hread)
      have hcomplement := h _ _ (Database.steady_willing fun _ _ => true) x
      have hsecond : s.under (blockGuard (Field.ofWord "!".toList :: fieldsOf predicate))
          = (s.under (blockGuard (fieldsOf predicate))).under
              (blockGuard (Field.ofWord "!".toList :: fieldsOf predicate)) := rfl
      rwa [hsecond, ← hfirst] at hcomplement

end Run

end MigrationScript
