import Mathlib
import MigrationScript.Proofs.Keyword
import MigrationScript.Proofs.Lexeme
import MigrationScript.Proofs.Run.Progress
import MigrationScript.Proofs.Source.Grouping

/-!
# What the application check compares

A script that begins with a line `$app_version = name` is for the databases of one application. A
name is cut into words like the rest of a directive, and the check compares one word of it: the
first that is no operator. The word is the whole name exactly if the name is one word and no
operator. Then the script runs on the databases of that application and of no other.
-/

namespace MigrationScript

/-- A text that a line can give as the name of an application, with nothing taken off its ends. -/
structure ApplicationName (name : Text) : Prop where
  nonempty : name ≠ []
  oneLine : '\n' ∉ name
  trimmed : Text.trim name = name
  unterminated : ¬ "&&".toList <:+ name

namespace ApplicationName

/-- The line that asks for an application. -/
def line (name : Text) : Text := "$app_version = ".toList ++ name

/-- The word of a name that the check compares: the first that is no operator. -/
def compared (name : Text) : Text :=
  ((Lexeme.words name).find? fun w => !Keyword.operatorWords.contains (Keyword.folded w)).getD []

/-- A name of one word, which is no operator. -/
def IsWord (name : Text) : Prop :=
  (∃ kind : LexemeClass, ∀ c ∈ name, kind.holds c = true) ∧
    Keyword.operatorWords.contains (Keyword.folded name) = false

/-- The name is compared as a whole exactly if it is one word and no operator. -/
theorem compared_eq_self {name : Text} (hne : name ≠ []) :
    compared name = name ↔ IsWord name := by
  constructor
  · intro hword
    unfold compared at hword
    cases hfind : (Lexeme.words name).find?
        fun w => !Keyword.operatorWords.contains (Keyword.folded w) with
    | none =>
        rw [hfind] at hword
        exact absurd hword.symm hne
    | some w =>
        rw [hfind] at hword
        obtain rfl : w = name := hword
        exact ⟨(Lexeme.mem_words (List.mem_of_find?_eq_some hfind)).2,
          by simpa using List.find?_some hfind⟩
  · rintro ⟨⟨kind, hkind⟩, hplain⟩
    rw [compared, Lexeme.words_of_class hne hkind, List.find?_singleton, hplain]
    rfl

/-! ## The line as it is read -/

variable {name : Text}

theorem words_line (name : Text) :
    Lexeme.words (line name) = "$app_version".toList :: "=".toList :: Lexeme.words name := by
  have hletters : ∀ c ∈ "$app_version".toList, LexemeClass.word.holds c = true :=
    List.all_eq_true.mp (by decide)
  have hequal : ∀ c ∈ "=".toList, LexemeClass.operator.holds c = true :=
    List.all_eq_true.mp (by decide)
  have hsign : Lexeme.words ("=".toList ++ ' ' :: name) = "=".toList :: Lexeme.words name :=
    Lexeme.words_spaced (by decide) hequal name
  rw [← hsign]
  exact Lexeme.words_spaced (by decide) hletters ("=".toList ++ ' ' :: name)

theorem leadingWord_line (name : Text) :
    Lexeme.leadingWord (line name) = "$app_version".toList := rfl

/-- There is no terminator at the end of the line. -/
theorem splitTerminator_line (h : ApplicationName name) :
    Script.Line.splitTerminator (line name) = (line name, false) := by
  have hterminator : ¬ "&&".toList <:+ line name := by
    intro hterminator
    rcases List.suffix_or_suffix_of_suffix hterminator (List.suffix_append _ name) with hin | hin
    · exact h.unterminated hin
    · -- a shorter name is one sign of the terminator, and has a space before it
      have hname : name = "&&".toList ∨ name = "&".toList ∨ name = [] := by
        simpa [List.suffix_cons_iff] using hin
      rcases hname with rfl | rfl | rfl
      · exact h.unterminated List.suffix_rfl
      · exact absurd hterminator (by decide)
      · exact h.nonempty rfl
  exact Source.splitTerminator_of_not hterminator

/-- The directive that the line stands for. -/
def directive (name : Text) : Directive :=
  ⟨.appVersion, "$app_version".toList, ("=".toList :: Lexeme.words name).map Field.ofWord⟩

theorem ofText_line {raw : Text} (h : ApplicationName name) (hraw : Text.trim raw = line name) :
    Script.Line.ofText raw = .ok (.directive (directive name) (line name) true) := by
  have hdirective : Directive.ofLine (line name) = .ok (directive name) := by
    unfold Directive.ofLine
    rw [leadingWord_line, words_line]
    rfl
  unfold Script.Line.ofText
  dsimp only
  rw [hraw, splitTerminator_line h]
  change (do return Script.Line.ofDirective (← Directive.ofLine (line name)) (line name) false) = _
  rw [hdirective]
  rfl

/-- The value of a comparison is the first of its words that is no operator. -/
theorem value_words (name : Text) :
    ((((Lexeme.words name).map Field.ofWord).find? fun f => !f.symbol.isOperator).map
      Field.text).getD [] = compared name := by
  rw [List.find?_map, Option.map_map, compared]
  simp only [Function.comp_def, Field.ofWord, Keyword.isOperator_classify, Option.map_id']

/-- What the check asks for. -/
theorem comparison_directive (name : Text) :
    Comparison.ofFields (directive name).fields = ⟨.equal, compared name⟩ :=
  -- the sign is an operator, so the value is looked for behind it
  congrArg (Comparison.mk .equal) (value_words name)

end ApplicationName

/-! ## The first statement of the script -/

namespace Source

/-- The first line of a source. -/
def firstLine (source : Text) : Text := (source.splitOn '\n').headD []

theorem numberedLines_cons (source : Text) :
    ∃ rest, Script.numberedLines source = (1, firstLine source) :: rest := by
  unfold Script.numberedLines firstLine
  cases hlines : source.splitOn '\n' with
  | nil => exact absurd hlines (List.splitOn_ne_nil _ _)
  | cons raw rest => exact ⟨_, rfl⟩

end Source

open ApplicationName Source

namespace Script

/-- The script starts with the check. -/
theorem check_of_parse {name source : Text} {statements : List Statement}
    (hname : ApplicationName name) (hfirst : Text.trim (firstLine source) = line name)
    (hparse : parse source = .ok statements) :
    ∃ s rest, statements = s :: rest ∧ s.role = .checkApplication ⟨.equal, compared name⟩ := by
  obtain ⟨raws, hraws⟩ := numberedLines_cons source
  obtain ⟨lines, hread, hfinish⟩ := parse_ok hparse
  rw [hraws] at hread
  obtain ⟨first, later, hline, -, rfl⟩ := mapM_readLine_cons hread
  rw [readLine, ofText_line hname hfirst] at hline
  cases hline
  refine ⟨_, _, (finish_statements hfinish).trans (statements_group_cons _ _ _ _), ?_⟩
  change Role.checkApplication (Comparison.ofFields (directive name).fields) = _
  rw [comparison_directive]

end Script

namespace Run

variable {σ τ : Type}

/-! ## The run -/

variable {s : Statement} {asked : Text}

theorem step_passes (db : Database σ) (hrole : s.role = .checkApplication ⟨.equal, asked⟩)
    {session : Session σ} (happ : session.info.app = asked) :
    step db s session = session.advance 1 := by
  unfold step
  rw [hrole]
  dsimp only
  rw [Comparison.checkApplication, if_neg (not_not_intro rfl), if_neg (not_not_intro happ.symm)]
  rfl

theorem step_refuses (db : Database σ) (hrole : s.role = .checkApplication ⟨.equal, asked⟩)
    {session : Session σ} (happ : session.info.app ≠ asked) :
    step db s session = (.fail (.wrongApplication session.info.app asked), session) := by
  unfold step
  rw [hrole]
  dsimp only
  rw [Comparison.checkApplication, if_neg (not_not_intro rfl), if_pos happ.symm]
  rfl

/-- A failure tells the count at which the walk ended. -/
theorem statement_of_observed {before : VersionInfo} {signal : Signal}
    {session : Session (Watched σ)} {saved : Option Save} {failure : RunError}
    (h : (session.observed before signal saved).result = .error failure) :
    failure.statement = session.count := by
  unfold Session.observed Session.settle at h
  dsimp only at h
  split at h
  · cases h
    rfl
  · cases h
    rfl
  · cases h

/-- A run that a check ended before anything was done. -/
structure WrongDatabase (e : Engine σ τ) (asked : Text) (o : Observed σ) : Prop where
  result : o.result = .error ⟨0, .wrongApplication e.info.app asked⟩
  calls : o.calls = []
  saves : o.saves = []
  info : o.info = e.info
  database : o.database = e.database

theorem wrongDatabase_of_role {rest : List Statement} (db : Database σ)
    (store : VersionStore τ) {e : Engine σ τ} (hrole : s.role = .checkApplication ⟨.equal, asked⟩)
    (happ : e.info.app ≠ asked) :
    WrongDatabase e asked (e.episode db store (s :: rest)).observed := by
  have hwalked : e.walked db (s :: rest)
      = (.fail (.wrongApplication e.info.app asked), .start e.info ⟨e.database, []⟩) := by
    rw [Engine.walked, walk, step_refuses db.watched hrole happ]
    rfl
  rw [episode_eq, hwalked]
  exact ⟨rfl, rfl, rfl, rfl, rfl⟩

theorem passed_of_role {rest : List Statement} (db : Database σ)
    (store : VersionStore τ) {e : Engine σ τ} (hrole : s.role = .checkApplication ⟨.equal, asked⟩)
    (happ : e.info.app = asked) {failure : RunError}
    (h : (e.episode db store (s :: rest)).observed.result = .error failure) :
    0 < failure.statement := by
  obtain ⟨saved, hobserved⟩ := episode_observed db store (s :: rest) e
  rw [hobserved] at h
  rw [statement_of_observed h]
  -- the check has been counted before the rest is walked
  obtain ⟨begun, hwalked⟩ := walk_walked db rest
    ((Session.start e.info ⟨e.database, []⟩).advance 1).2
  rw [Engine.walked, walk, step_passes db.watched hrole happ]
  refine Nat.lt_of_lt_of_eq ?_ hwalked.count.symm
  exact Nat.lt_of_lt_of_le Nat.one_pos (Nat.le_add_right 1 _)

/--
**A script runs on the databases of the application whose name is the compared word, and on no
other.** On another database it fails at its first statement, before it has made any call.
-/
theorem application_checked {name source : Text} {statements : List Statement}
    (hname : ApplicationName name) (hfirst : Text.trim (firstLine source) = line name)
    (hparse : Script.parse source = .ok statements) (db : Database σ) (store : VersionStore τ)
    (e : Engine σ τ) :
    (e.info.app ≠ compared name →
        WrongDatabase e (compared name) (e.episode db store statements).observed) ∧
      (e.info.app = compared name →
        ∀ cause, (e.episode db store statements).observed.result ≠ .error ⟨0, cause⟩) ∧
      (compared name = name ↔ IsWord name) := by
  obtain ⟨s, rest, rfl, hrole⟩ := Script.check_of_parse hname hfirst hparse
  refine ⟨wrongDatabase_of_role db store hrole, ?_, compared_eq_self hname.nonempty⟩
  intro happ cause hresult
  exact absurd (passed_of_role db store hrole happ hresult) (Nat.lt_irrefl 0)

/-! ## A name of two words -/

/-- A name is compared as a whole if every other database refuses the scripts that ask for it. -/
def RefusesOthers (name : Text) : Prop :=
  ∀ (σ τ : Type) (db : Database σ) (store : VersionStore τ) (e : Engine σ τ) (source : Text)
    (statements : List Statement), Text.trim (firstLine source) = line name →
    Script.parse source = .ok statements → e.info.app ≠ name →
    (∃ cause, (e.episode db store statements).observed.result = .error ⟨0, cause⟩) ∧
      (e.episode db store statements).observed.calls = []

/-- A script for an application with a hyphen in its name, which drops a table. -/
def shopDrop : Text := "$app_version = my-shop\ndrop table customer&&".toList

/-- The statements of that script. The name has become two fields. -/
def shopDropStatements : List Statement :=
  [{ symbol := .appVersion, key := "$app_version".toList
     fields := [⟨"=".toList, .equal⟩, ⟨"my".toList, .plain⟩, ⟨"shop".toList, .plain⟩]
     slots := [["$app_version = my-shop".toList]], line := 1 },
   { symbol := .sql, key := "sql".toList, fields := [], slots := [["drop table customer".toList]]
     line := 2 }]

/-- A store that keeps every version. -/
def keeper : VersionStore Unit := ⟨fun _ => pure (.ok ())⟩

/-- An engine of an application. -/
def engineOf (app : Text) : Engine Unit Unit := ⟨{ app }, (), ()⟩

theorem applicationName_shop : ApplicationName "my-shop".toList :=
  ⟨by decide, by decide, by decide, by decide⟩

theorem parse_shopDrop : Script.parse shopDrop = .ok shopDropStatements := by cbv

/-- The application of the whole name is refused. -/
theorem application_checked_shop :
    ApplicationName "my-shop".toList ∧ Text.trim (firstLine shopDrop) = line "my-shop".toList ∧
      Script.parse shopDrop = .ok shopDropStatements ∧
      WrongDatabase (engineOf "my-shop".toList) "my".toList ((engineOf "my-shop".toList).episode
        (.willing fun _ _ => false) keeper shopDropStatements).observed := by
  have hfirst : Text.trim (firstLine shopDrop) = line "my-shop".toList := by decide
  have hcompared : compared "my-shop".toList = "my".toList := by cbv
  refine ⟨applicationName_shop, hfirst, parse_shopDrop, ?_⟩
  have hchecked := application_checked applicationName_shop hfirst parse_shopDrop
    (.willing fun _ _ => false) keeper (engineOf "my-shop".toList)
  rw [hcompared] at hchecked
  exact hchecked.1 (by decide)

/-- The database of an application with the first word as its name carries the script out. -/
theorem not_refusesOthers_shop :
    ApplicationName "my-shop".toList ∧ ¬ RefusesOthers "my-shop".toList := by
  refine ⟨applicationName_shop, ?_⟩
  intro hrefuses
  obtain ⟨-, hcalls⟩ := hrefuses Unit Unit (.willing fun _ _ => false) keeper
    (engineOf "my".toList) shopDrop shopDropStatements (by decide) parse_shopDrop (by decide)
  revert hcalls
  decide

end Run

end MigrationScript
