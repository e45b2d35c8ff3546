import Mathlib
import MigrationScript.Console
import MigrationScript.Proofs.Catalog
import MigrationScript.Proofs.Run.History
import MigrationScript.Proofs.Run.Trail

/-!
# Runs that look up a catalog

A run whose questions a catalog answers depends on the catalog by its names only. A guard holds by
the one list that its object is looked up in (`step_asking`). So two catalogs with the same names
make no difference to a run, and neither does the case in which its guards spell what they ask for
(`step_recased`, `walk_recased`).
-/

namespace MigrationScript

open Source

variable {σ τ : Type}

/-- A database whose questions a catalog answers. -/
def Catalog.over (catalog : Catalog) (db : Database σ) : Database σ :=
  { db with has := fun kind name d => (catalog.has kind name, d) }

theorem Console.database_eq_over (catalog : Catalog) :
    Console.database catalog = catalog.over (Console.database {}) := rfl

/-- The symbols that a statement hands its commands over with. -/
def Statement.symbolOf (s : Statement) : Slot → Symbol :=
  match s.role with
  | .guardedLine guard _ => fun _ => guard.action
  | _ => Slot.symbol

/-! ## Spelling -/

/-- A field whose word is spelled in another case. -/
structure Field.Recased (f f' : Field) : Prop where
  symbol : f.symbol = f'.symbol
  text : Text.upper f.text = Text.upper f'.text

namespace Field

variable {fields fields' : List Field}

theorem symbols_recased (h : List.Forall₂ Recased fields fields') :
    fields.map Field.symbol = fields'.map Field.symbol := by
  induction h with
  | nil => rfl
  | cons hfield _ ih => rw [List.map_cons, List.map_cons, hfield.symbol, ih]

theorem lastSymbol_recased (h : List.Forall₂ Recased fields fields') (p : Symbol → Bool) :
    lastSymbol p fields = lastSymbol p fields' := by
  rw [lastSymbol, symbols_recased h, lastSymbol]

theorem mentions_recased (h : List.Forall₂ Recased fields fields') (s : Symbol) :
    mentions s fields = mentions s fields' := by
  induction h with
  | nil => rfl
  | cons hfield _ ih =>
      rw [mentions, mentions, List.any_cons, List.any_cons, hfield.symbol]
      exact congrArg (_ || ·) ih

/-- What is a name in one spelling is one in the other. -/
theorem firstName_recased (h : List.Forall₂ Recased fields fields') :
    Text.upper (firstName fields) = Text.upper (firstName fields') := by
  induction h with
  | nil => rfl
  | @cons f f' rest rest' hfield _ ih =>
      rw [firstName, firstName, List.find?_cons, List.find?_cons, hfield.symbol,
        Text.isEmpty_of_upper hfield.text]
      cases decide (f'.symbol = .plain) && !f'.text.isEmpty with
      | true => exact hfield.text
      | false => exact ih

theorem takeWhile_recased (h : List.Forall₂ Recased fields fields') (p : Symbol → Bool) :
    List.Forall₂ Recased (fields.takeWhile fun f => p f.symbol)
      (fields'.takeWhile fun f => p f.symbol) := by
  induction h with
  | nil => exact .nil
  | cons hfield _ ih =>
      rw [List.takeWhile_cons, List.takeWhile_cons, hfield.symbol]
      split
      · exact .cons hfield ih
      · exact .nil

theorem dropWhile_recased (h : List.Forall₂ Recased fields fields') (p : Symbol → Bool) :
    List.Forall₂ Recased (fields.dropWhile fun f => p f.symbol)
      (fields'.dropWhile fun f => p f.symbol) := by
  induction h with
  | nil => exact .nil
  | cons hfield hrest ih =>
      rw [List.dropWhile_cons, List.dropWhile_cons, hfield.symbol]
      split
      · exact ih
      · exact .cons hfield hrest

/-- Words that differ in the case of ASCII letters give such fields. -/
theorem recased_ofWord {word word' : Text} (h : Text.sameIgnoringCase word word' = true) :
    Recased (.ofWord word) (.ofWord word') where
  symbol := Keyword.classify_of_folded (Keyword.folded_of_sameIgnoringCase h)
  text := Text.upper_of_sameIgnoringCase h

/-- The object that some field names is the object of a guard. -/
theorem isSchemaObject_lastSymbol (h : ∃ f ∈ fields, f.symbol.isSchemaObject = true) :
    (lastSymbol Symbol.isSchemaObject fields).isSchemaObject = true := by
  obtain ⟨f, hf, hobject⟩ := h
  have hsome : ((fields.map Field.symbol).reverse.find? Symbol.isSchemaObject).isSome = true :=
    List.find?_isSome.mpr ⟨_, List.mem_reverse.mpr (List.mem_map_of_mem hf), hobject⟩
  obtain ⟨object, hfind⟩ := Option.isSome_iff_exists.mp hsome
  rw [lastSymbol, hfind]
  exact List.find?_some hfind

end Field

/-- A guard whose words are spelled in another case asks for the same object, by a name in another
case. -/
theorem ExistenceGuard.ofFields_recased {fields fields' : List Field}
    (h : List.Forall₂ Field.Recased fields fields') :
    ∃ name, ofFields fields' = { ofFields fields with name }
      ∧ Text.upper (ofFields fields).name = Text.upper name := by
  refine ⟨Field.firstName fields', ?_, Field.firstName_recased h⟩
  unfold ofFields
  rw [Field.mentions_recased h, Field.mentions_recased h, Field.lastSymbol_recased h]

theorem OneLineGuard.ofFields_recased {fields fields' : List Field}
    (h : List.Forall₂ Field.Recased fields fields') :
    ∃ name, ofFields fields' = { ofFields fields with name }
      ∧ Text.upper (ofFields fields).name = Text.upper name := by
  have hname {fs fs' : List Field} (h : List.Forall₂ Field.Recased fs fs') :
      Text.upper (Field.firstName (fs.takeWhile fun f => f.symbol ≠ .on))
        = Text.upper (Field.firstName (fs'.takeWhile fun f => f.symbol ≠ .on)) :=
    Field.firstName_recased (Field.takeWhile_recased h fun s => s ≠ .on)
  have howner := hname (List.forall₂_drop 1 (Field.dropWhile_recased h fun s => s ≠ .on))
  refine ⟨(ofFields fields').name, ?_, ?_⟩
  · unfold ofFields
    rw [Field.lastSymbol_recased h, Field.lastSymbol_recased h]
  · unfold ofFields
    dsimp only
    rw [Text.isEmpty_of_upper howner]
    split
    · exact hname h
    · rw [Text.upper_append, Text.upper_append, Text.upper_cons, Text.upper_cons, howner, hname h]

/-! ## Guards -/

/-- A statement with a question that can be asked. A block asks by the word `exist`. -/
structure Statement.Asks (s : Statement) (g : Guard) : Prop where
  guard : s.guard? = some g
  object : g.object.isSchemaObject = true
  operator : ∀ block, s.role = .guardedBlock block → block.operator = .exist

/-- The same statement, or a guard with the words of its question spelled in another case. -/
inductive Statement.Recased : Statement → Statement → Prop where
  | same (s : Statement) : Recased s s
  | guard {s : Statement} {fields : List Field}
      (hguard : s.symbol = .ifBlock ∨ s.symbol = .ifExists ∨ s.symbol = .ifMissing)
      (hobject : ∃ f ∈ s.fields, f.symbol.isSchemaObject = true)
      (hfields : List.Forall₂ Field.Recased s.fields fields) : Recased s { s with fields }

namespace Run

/-- Commands are none of a catalog's business. -/
theorem executeSlots_over (catalog : Catalog) (db : Database σ) (symbolOf : Slot → Symbol) (i : Nat)
    (slots : List Slot) (d : σ) :
    executeSlots (catalog.over db) symbolOf i slots d = executeSlots db symbolOf i slots d := by
  induction slots generalizing i d with
  | nil => rfl
  | cons slot rest ih =>
      have hexecute : (catalog.over db).execute = db.execute := rfl
      rw [executeSlots, executeSlots, hexecute]
      obtain ⟨answer, d'⟩ := db.execute (symbolOf slot) i slot.command d
      cases answer with
      | error _ => rfl
      | ok flow =>
          cases flow with
          | proceed => exact ih (i + 1) d'
          | stop => rfl

theorem executeCommands_over (catalog : Catalog) (db : Database σ) (symbolOf : Slot → Symbol)
    (slots : List Slot) (x : Session σ) :
    executeCommands (catalog.over db) symbolOf slots x = executeCommands db symbolOf slots x := by
  rw [executeCommands, executeCommands, executeSlots_over]

/-- A guard holds by the names in one list. -/
theorem executeGuarded_over {object : Symbol} (hobject : object.isSchemaObject = true)
    (catalog : Catalog) (db : Database σ) (name : Text) (negated : Bool)
    (symbolOf : Slot → Symbol) (slots : List Slot) (x : Session σ) :
    executeGuarded (catalog.over db) object name negated symbolOf slots x =
      if decide (Listed (catalog.listFor object name) name) != negated then
        executeCommands db symbolOf slots x
      else x.advance 1 := by
  obtain ⟨kind, hkind, hhas⟩ := catalog.has_ofGuard hobject name
  rw [executeGuarded, hkind]
  change (if catalog.has kind name != negated then
    executeCommands (catalog.over db) symbolOf slots x else x.advance 1) = _
  rw [hhas, executeCommands_over]

/-- **A guarded statement hands over its commands if what it asks for is listed**, or if it is not,
as the guard wants it. -/
theorem step_asking {s : Statement} {g : Guard} (h : s.Asks g) (catalog : Catalog)
    (db : Database σ) (x : Session σ) :
    step (catalog.over db) s x =
      if decide (Listed (catalog.listFor g.object g.name) g.name) != g.negated then
        executeCommands db s.symbolOf s.slots x
      else x.advance 1 := by
  obtain ⟨hguard, hobject, hoperator⟩ := h
  unfold Statement.guard? at hguard
  unfold step Statement.symbolOf
  cases hrole : s.role with
  | guardedBlock block =>
      rw [hrole] at hguard
      cases hguard
      dsimp only
      rw [if_neg (not_not_intro (hoperator block hrole))]
      exact executeGuarded_over hobject ..
  | guardedLine guard negated =>
      rw [hrole] at hguard
      cases hguard
      exact executeGuarded_over hobject ..
  | _ =>
      rw [hrole] at hguard
      cases hguard

/-! ## Equivalent catalogs -/

variable {catalog catalog' : Catalog}

/-- The case of a name and of the entries makes no difference to a guard. -/
theorem executeGuarded_recased {object : Symbol} (hobject : object.isSchemaObject = true)
    {name name' : Text} (hname : Text.upper name = Text.upper name')
    (hsame : SameNames (catalog.listFor object name) (catalog'.listFor object name))
    (db : Database σ) (negated : Bool) (symbolOf : Slot → Symbol) (slots : List Slot)
    (x : Session σ) :
    executeGuarded (catalog.over db) object name negated symbolOf slots x
      = executeGuarded (catalog'.over db) object name' negated symbolOf slots x := by
  have hlisted : Listed (catalog.listFor object name) name
      ↔ Listed (catalog'.listFor object name') name' := by
    rw [← catalog'.listFor_congr object hname]
    exact listed_congr hsame hname
  rw [executeGuarded_over hobject, executeGuarded_over hobject, decide_eq_decide.mpr hlisted]

/-- An object that cannot be asked for is refused, whatever is listed. -/
theorem executeGuarded_refused {object : Symbol} (hobject : object.isSchemaObject = false)
    (db : Database σ) (name : Text) (negated : Bool) (symbolOf : Slot → Symbol)
    (slots : List Slot) (x : Session σ) :
    executeGuarded db object name negated symbolOf slots x
      = (.fail (.badGuardObject object name), x) := by
  have hkind : SchemaObject.ofGuard? object name = none := by
    cases object <;> first | rfl | cases hobject
  rw [executeGuarded, hkind]

/-- A guard depends on nothing but the names in its list. -/
theorem executeGuarded_sameNames {object : Symbol} {name : Text}
    (hsame : SameNames (catalog.listFor object name) (catalog'.listFor object name))
    (db : Database σ) (negated : Bool) (symbolOf : Slot → Symbol) (slots : List Slot)
    (x : Session σ) :
    executeGuarded (catalog.over db) object name negated symbolOf slots x
      = executeGuarded (catalog'.over db) object name negated symbolOf slots x := by
  cases hobject : object.isSchemaObject with
  | true => exact executeGuarded_recased hobject rfl hsame ..
  | false => rw [executeGuarded_refused hobject, executeGuarded_refused hobject]

/-- A statement depends on the catalog by the names in the list of its guard alone. -/
theorem step_sameNames {s : Statement}
    (hsame : ∀ g, s.guard? = some g →
      SameNames (catalog.listFor g.object g.name) (catalog'.listFor g.object g.name))
    (db : Database σ) (x : Session σ) :
    step (catalog.over db) s x = step (catalog'.over db) s x := by
  unfold Statement.guard? at hsame
  unfold step
  cases hrole : s.role with
  | guardedBlock block =>
      rw [hrole] at hsame
      dsimp only
      split
      · rfl
      · exact executeGuarded_sameNames (hsame _ rfl) ..
  | guardedLine guard negated =>
      rw [hrole] at hsame
      exact executeGuarded_sameNames (hsame _ rfl) ..
  | commands =>
      dsimp only
      rw [executeCommands_over, executeCommands_over]
  | _ => rfl

/-- **The case in which a guard spells what it asks for makes no difference**, nor does anything of
the catalog but the names in one list. -/
theorem step_recased {s s' : Statement} (h : s.Recased s')
    (hsame : ∀ g, s.guard? = some g →
      SameNames (catalog.listFor g.object g.name) (catalog'.listFor g.object g.name))
    (db : Database σ) (x : Session σ) :
    step (catalog.over db) s x = step (catalog'.over db) s' x := by
  cases h with
  | same => exact step_sameNames hsame db x
  | @guard fields hguard hobject hfields =>
      have hasked := Field.isSchemaObject_lastSymbol hobject
      rcases hguard with hsymbol | hline
      · -- of a block the operator is read from the fields as well
        obtain ⟨name, hblock, hname⟩ := ExistenceGuard.ofFields_recased hfields
        have hrole (fields : List Field) :
            { s with fields }.role = .guardedBlock (.ofFields fields) := by
          rw [Statement.role, hsymbol]
        have hsame := hsame _ (by rw [Statement.guard?, hrole s.fields])
        rw [step, step, hrole s.fields, hrole fields, hblock]
        dsimp only
        split
        · rfl
        · exact executeGuarded_recased hasked hname hsame ..
      · obtain ⟨name, hblock, hname⟩ := OneLineGuard.ofFields_recased hfields
        have hrole : ∃ negated, ∀ fields : List Field,
            { s with fields }.role = .guardedLine (.ofFields fields) negated := by
          rcases hline with hsymbol | hsymbol
          · exact ⟨false, fun fields => by rw [Statement.role, hsymbol]⟩
          · exact ⟨true, fun fields => by rw [Statement.role, hsymbol]⟩
        obtain ⟨negated, hrole⟩ := hrole
        have hsame := hsame _ (by rw [Statement.guard?, hrole s.fields])
        rw [step, step, hrole s.fields, hrole fields, hblock]
        exact executeGuarded_recased hasked hname hsame ..

/-- With the same names in every list, a walk takes the same way. -/
theorem walk_recased {statements statements' : List Statement}
    (h : List.Forall₂ Statement.Recased statements statements')
    (hcatalog : Catalog.Equivalent catalog catalog') (db : Database σ) (x : Session σ) :
    walk (catalog.over db) statements x = walk (catalog'.over db) statements' x := by
  induction h generalizing x with
  | nil => rfl
  | cons hstatement _ ih =>
      rw [walk, walk, step_recased hstatement fun g _ => hcatalog.sameNames_listFor g.object g.name]
      obtain ⟨signal, x'⟩ := step (catalog'.over db) _ x
      cases signal with
      | next => exact ih x'
      | halt => rfl
      | fail _ => rfl

/-! ## Runs on a catalog -/

/-- The calls by which something is handed over. -/
def handed (calls : List Call) : List Call := calls.filter fun call => call.question?.isNone

/-- What a run returns, leaves and hands over, without what it asks. -/
def Observed.unasked (o : Observed σ) : Observed σ := { o with calls := handed o.calls }

/-- What a run comes to, as far as anyone but the catalog can tell. -/
def Episode.effects (ep : Episode σ τ) : Observed σ × τ := (ep.observed.unasked, ep.store)

/-- A watched database without what it was asked. -/
def unasked (d : Watched σ) : Watched σ := ⟨d.state, handed d.calls⟩

/-- A catalog that answers hides the questions from the database behind it. -/
theorem over_hom (catalog : Catalog) (db : Database σ) :
    (catalog.over db).watched.Hom (catalog.over db.watched) unasked where
  has kind name d := by
    have hquestion : handed (d.calls ++ [.asked kind name (catalog.has kind name)])
        = handed d.calls := by
      rw [handed, List.filter_append]
      exact List.append_nil _
    exact Prod.ext rfl (congrArg (Watched.mk d.state) hquestion.symm)
  execute symbol slot command d := by
    have hcall : handed (d.calls ++ [.executed symbol slot command])
        = handed d.calls ++ [.executed symbol slot command] := List.filter_append _ _
    exact Prod.ext rfl (congrArg (Watched.mk _) hcall.symm)
  handlesVerbatim _ := rfl
  executeVerbatim lines d := by
    have hcall : handed (d.calls ++ [.verbatim lines]) = handed d.calls ++ [.verbatim lines] :=
      List.filter_append _ _
    exact Prod.ext rfl (congrArg (Watched.mk _) hcall.symm)

/-- What a run on a catalog comes to is settled by the walk on the database behind it. -/
theorem episode_effects (catalog : Catalog) (db : Database σ) (store : VersionStore τ)
    (statements : List Statement) (e : Engine σ τ) :
    (e.episode (catalog.over db) store statements).effects =
      let (signal, s) := walk (catalog.over db.watched) statements (.start e.info ⟨e.database, []⟩)
      match s.pending with
      | none => (s.observed e.info signal none, e.store)
      | some v =>
        let (answer, kept) := (store.save v).run e.store
        (s.observed e.info signal (some (v, answer)), kept) := by
  have hwalk := walk_hom (over_hom catalog db) statements (.start e.info ⟨e.database, []⟩)
  rw [show (Session.start e.info (⟨e.database, []⟩ : Watched σ)).mapDatabase unasked
    = .start e.info ⟨e.database, []⟩ from rfl] at hwalk
  rw [hwalk, episode_eq, Engine.walked]
  obtain ⟨signal, s⟩ :=
    walk (catalog.over db).watched statements (.start e.info ⟨e.database, []⟩)
  dsimp only [Prod.map, Session.mapDatabase]
  cases s.pending with
  | none => rfl
  | some v => rfl

theorem over_congr (h : Catalog.Equivalent catalog catalog') (db : Database σ) :
    catalog.over db = catalog'.over db := by
  have hhas : (catalog.over db).has = (catalog'.over db).has := by
    funext kind name d
    exact congrArg (·, d) (Catalog.has_congr h kind rfl)
  rw [Catalog.over, Catalog.over]
  exact congrArg (fun has => { db with has }) hhas

/--
**A guard is answered from the names in the list of its object, and nothing else of a catalog or of
the case of names ever matters.**

A guarded statement does what it guards if its name is listed, in whatever case, or if it is not.
Another catalog that has the same names in that one list makes no difference to it, and neither does
another case of its words. So a run on a catalog with the same names in every list is the same, with
every question and answer; and it hands over the same if the guards are spelled in another case.
-/
theorem catalog_lookup (catalog catalog' : Catalog) (db : Database σ) :
    (∀ s g, Statement.Asks s g → ∀ x : Session σ, step (catalog.over db) s x =
      if decide (Listed (catalog.listFor g.object g.name) g.name) != g.negated then
        executeCommands db s.symbolOf s.slots x
      else x.advance 1)
    ∧ (∀ s s', Statement.Recased s s' →
      (∀ g, s.guard? = some g →
        SameNames (catalog.listFor g.object g.name) (catalog'.listFor g.object g.name)) →
      ∀ x : Session σ, step (catalog.over db) s x = step (catalog'.over db) s' x)
    ∧ (Catalog.Equivalent catalog catalog' →
      ∀ (store : VersionStore τ) (statements : List Statement) (e : Engine σ τ),
      e.episode (catalog.over db) store statements = e.episode (catalog'.over db) store statements
      ∧ ∀ statements', List.Forall₂ Statement.Recased statements statements' →
        (e.episode (catalog.over db) store statements).effects
          = (e.episode (catalog'.over db) store statements').effects) := by
  refine ⟨fun s g h x => step_asking h catalog db x,
    fun s s' h hsame x => step_recased h hsame db x, fun hcatalog store statements e => ⟨?_, ?_⟩⟩
  · rw [over_congr hcatalog]
  · intro statements' hstatements
    rw [episode_effects, episode_effects, walk_recased hstatements hcatalog]

/-- A catalog with a name that grows by a letter in capitals. -/
def streets : Catalog where
  tables := ["Ort".toList, "Straße".toList]
  columns := ["STRASSE.Name".toList]
  indexes := ["Ort".toList]

/-- The same names in another case and another order, some of them more than once. -/
def streetsAgain : Catalog where
  tables := ["STRASSE".toList, "ort".toList, "strasse".toList]
  columns := ["straße.name".toList, "Strasse.NAME".toList]
  indexes := ["ORT".toList]

/-- A block for the case that there is such a table, by a name that is listed in another case. -/
def streetBlock (words : List String) : Statement :=
  ⟨.ifBlock, "$if".toList, words.map fun word => .ofWord word.toList, [["select 1".toList]], 1⟩

/-- The name is found in the list of tables, and not in that of indexes. -/
theorem catalog_lookup_streets :
    let db := Console.database {}
    let e : Engine Console Unit := ⟨{}, {}, ()⟩
    let store : VersionStore Unit := ⟨fun _ => pure (.ok ())⟩
    let table := streetBlock ["exist", "table", "strasse"]
    let index := streetBlock ["exist", "index", "strasse"]
    let recased := streetBlock ["EXIST", "Table", "STRASSE"]
    let x := Session.start e.info e.database
    step (streets.over db) table x = executeCommands db Slot.symbol table.slots x
    ∧ step (streets.over db) index x = x.advance 1
    ∧ step (streets.over db) table x = step (streetsAgain.over db) recased x
    ∧ (e.episode (Console.database streets) store [table]).effects
      = (e.episode (Console.database streetsAgain) store [recased]).effects := by
  intro db e store table index recased x
  obtain ⟨hstep, hrecased, hrun⟩ := @catalog_lookup _ Unit streets streetsAgain db
  have hequivalent : Catalog.Equivalent streets streetsAgain := by
    intro kind
    cases kind <;> decide +kernel
  have hfields : List.Forall₂ Field.Recased table.fields recased.fields :=
    .cons (Field.recased_ofWord (by decide)) <|
      .cons (Field.recased_ofWord (by decide)) <|
        .cons (Field.recased_ofWord (by decide)) .nil
  have hspelling : table.Recased recased :=
    .guard (.inl rfl) ⟨_, .tail _ (.head _), by decide⟩ hfields
  refine ⟨?_, ?_, ?_, ?_⟩
  · refine (hstep table ⟨1, .table, "strasse".toList, false⟩ ⟨by decide, rfl, ?_⟩ x).trans ?_
    · rintro block hblock
      cases hblock
      decide
    · rw [if_pos (by decide +kernel)]
      rfl
  · refine (hstep index ⟨1, .index, "strasse".toList, false⟩ ⟨by decide, rfl, ?_⟩ x).trans ?_
    · rintro block hblock
      cases hblock
      decide
    · rw [if_neg (by decide +kernel)]
  · exact hrecased table recased hspelling
      (fun g _ => hequivalent.sameNames_listFor g.object g.name) x
  · rw [Console.database_eq_over, Console.database_eq_over]
    exact (hrun hequivalent store [table] e).2 [recased] (.cons hspelling .nil)

end Run

end MigrationScript
