import MigrationScript.Script
import MigrationScript.Proofs.Source.Line

/-!
# Where the lines of a source stand

What becomes of a content line is settled by where it stands: in a block, in the statement of a
one-line guard, or in neither. This is read off the raw lines from top to bottom, with nothing kept
but the scope: no draft, no slot, no statement. Blocks do not nest. An opener inside a block says
nothing, and the first closer ends the block.
-/

namespace MigrationScript.Source

/-- What decides whether a content line goes to the database. -/
inductive Standing where
  /-- Nothing: it goes there. -/
  | free
  /-- The run obeys the line itself. -/
  | control
  /-- The line is in a data block. -/
  | data
  /-- The guard that stands on a line of the source. -/
  | under (line : Nat)
  deriving DecidableEq

/-- A content line: where it stands, and what is stored of it. -/
structure Placed where
  place : Standing
  text : Text
  deriving DecidableEq

/-- What a line stands in. -/
inductive Scope where
  /-- Neither a block nor a one-line guard. -/
  | outside
  /-- The statement of the one-line guard on a line. -/
  | guarded (line : Nat)
  /-- The guarded block opened on a line. -/
  | block (line : Nat)
  /-- A data block. -/
  | data
  deriving DecidableEq

namespace Scope

/-- Whether a scope is a block, with a guard or for data. -/
def isBlock : Scope → Bool
  | block _ | data => true
  | _ => false

/-- Where a line stands that belongs to a scope. -/
def place : Scope → Standing
  | outside => .free
  | guarded line | block line => .under line
  | data => .data

/-- A terminator ends the statement of a one-line guard. -/
def ended : Scope → Scope
  | guarded _ => outside
  | scope => scope

/-- What the next line stands in. -/
def after (number : Nat) (raw : Text) (scope : Scope) : Scope :=
  match kind raw with
  | .remark => scope
  | .terminator => scope.ended
  | .guardOpener => if scope.isBlock then scope else block number
  | .dataOpener => if scope.isBlock then scope else data
  | .closer => outside
  | .directive =>
    if scope.isBlock then scope
    else if guardsLine raw && !isEnded raw then guarded number
    else outside
  | .command => if isEnded raw then scope.ended else scope

end Scope

/-- Where a content line stands. Outside blocks a directive stands for itself. -/
def placeAt (number : Nat) (raw : Text) (scope : Scope) : Standing :=
  if scope.isBlock || kind raw = .command then scope.place
  else if guardsLine raw then .under number
  else if controlWords.contains (word raw) then .control
  else .free

theorem placeAt_scope {number : Nat} {raw : Text} {scope : Scope}
    (h : scope.isBlock = true ∨ kind raw = .command) : placeAt number raw scope = scope.place := by
  unfold placeAt
  rw [if_pos (by simpa using h)]

theorem placeAt_outside {raw : Text} {scope : Scope} (hblock : scope.isBlock = false)
    (hkind : kind raw = .directive) (number : Nat) :
    placeAt number raw scope =
      if guardsLine raw then .under number
      else if controlWords.contains (word raw) then .control
      else .free := by
  unfold placeAt
  rw [if_neg (by simp [hblock, hkind])]

/-- What a line adds to the layout. -/
def placedAt (number : Nat) (raw : Text) (scope : Scope) : List Placed :=
  match kind raw with
  | .directive | .command => [⟨placeAt number raw scope, stored raw⟩]
  | _ => []

/-- The question that stands on a line: whether there is such an object, or none if negated. -/
structure Guard where
  line : Nat
  object : Symbol
  name : Text
  negated : Bool
  deriving DecidableEq

/-- The question that a line adds. Inside a block it adds none. -/
def guardAt (number : Nat) (raw : Text) (scope : Scope) : List Guard :=
  let block := ExistenceGuard.ofFields (fields raw)
  let line := OneLineGuard.ofFields (fields raw)
  if scope.isBlock then []
  else if kind raw = .guardOpener then [⟨number, block.object, block.name, block.negated⟩]
  else if guardsLine raw then [⟨number, line.object, line.name, word raw = "$ine".toList⟩]
  else []

/-- What numbered lines add, each in the scope that the lines before it leave. -/
def along {α : Type} (add : Nat → Text → Scope → List α) : List (Nat × Text) → Scope → List α
  | [], _ => []
  | (number, raw) :: rest, scope =>
    add number raw scope ++ along add rest (scope.after number raw)

/-- The content lines of a source, from top to bottom. -/
def layout (source : Text) : List Placed := along placedAt (Script.numberedLines source) .outside

/-- The questions of a source, from top to bottom. -/
def guards (source : Text) : List Guard := along guardAt (Script.numberedLines source) .outside

/-! ## Lines and their numbers -/

theorem mem_along {α : Type} {add : Nat → Text → Scope → List α} {raws : List (Nat × Text)}
    {scope : Scope} {a : α} (h : a ∈ along add raws scope) :
    ∃ raw ∈ raws, ∃ scope, a ∈ add raw.1 raw.2 scope := by
  induction raws generalizing scope with
  | nil => cases h
  | cons raw rest ih =>
      rcases List.mem_append.mp h with hfirst | hrest
      · exact ⟨raw, List.mem_cons_self, scope, hfirst⟩
      · obtain ⟨raw', hraw', hadd⟩ := ih hrest
        exact ⟨raw', List.mem_cons_of_mem _ hraw', hadd⟩

theorem guardAt_lines (number : Nat) (raw : Text) (scope : Scope) :
    (guardAt number raw scope).map Guard.line = []
      ∨ (guardAt number raw scope).map Guard.line = [number] := by
  unfold guardAt
  dsimp only
  split
  · exact .inl rfl
  split
  · exact .inr rfl
  split
  · exact .inr rfl
  · exact .inl rfl

theorem along_guardAt_lines (raws : List (Nat × Text)) (scope : Scope) :
    ((along guardAt raws scope).map Guard.line).Sublist (raws.map Prod.fst) := by
  induction raws generalizing scope with
  | nil => exact .slnil
  | cons raw rest ih =>
      obtain ⟨number, raw⟩ := raw
      rw [along, List.map_append, List.map_cons]
      -- a line that asks nothing is passed over
      rcases guardAt_lines number raw scope with hnone | hone
      · rw [hnone]
        exact (ih _).cons _
      · rw [hone]
        exact (ih _).cons_cons _

/-- Lines are numbered from 1 on, without gaps. -/
theorem numbers_numberedLines (source : Text) :
    (Script.numberedLines source).map Prod.fst
      = List.range' 1 (source.splitOn '\n').length := by
  rw [Script.numberedLines, List.map_map, ← List.zipIdx_map_snd 1]
  rfl

/-- **No line asks two questions.** -/
theorem guards_nodup (source : Text) : ((guards source).map Guard.line).Nodup := by
  refine List.Pairwise.sublist (along_guardAt_lines _ _) ?_
  rw [numbers_numberedLines]
  exact List.nodup_range'

theorem not_mem_of_mem_splitOn {a : Char} {t line : Text} (h : line ∈ t.splitOn a) :
    a ∉ line := by
  induction t generalizing line with
  | nil =>
      rw [List.splitOn_nil, List.mem_singleton] at h
      rw [h]
      exact List.not_mem_nil
  | cons c t ih =>
      rw [List.splitOn_cons_eq_if_modifyHead] at h
      split at h
      · rcases List.mem_cons.mp h with rfl | h
        · exact List.not_mem_nil
        · exact ih h
      · -- the character goes to the first part, and is not the one we cut at
        rename_i hne
        have hne : a ≠ c := fun heq => hne (by rw [heq]; exact beq_self_eq_true c)
        cases hcut : t.splitOn a with
        | nil => exact absurd hcut (List.splitOn_ne_nil a t)
        | cons first rest =>
            rw [hcut, List.modifyHead_cons] at h
            rw [hcut] at ih
            rcases List.mem_cons.mp h with rfl | h
            · exact List.not_mem_cons_of_ne_of_not_mem hne (ih List.mem_cons_self)
            · exact ih (List.mem_cons_of_mem _ h)

/-- A text without a line feed is a source of one line. -/
theorem numberedLines_single {line : Text} (h : '\n' ∉ line) :
    Script.numberedLines line = [(1, line)] := by
  rw [Script.numberedLines, List.splitOn_eq_singleton h]
  rfl

/-- A content line is stored without a line feed. -/
theorem layout_line {source : Text} {p : Placed} (h : p ∈ layout source) : '\n' ∉ p.text := by
  obtain ⟨⟨number, raw⟩, hraw, scope, hadd⟩ := mem_along h
  have htext : p.text = stored raw := by
    unfold placedAt at hadd
    split at hadd
    · rw [List.mem_singleton.mp hadd]
    · rw [List.mem_singleton.mp hadd]
    · cases hadd
  rw [htext]
  intro hmem
  obtain ⟨⟨line, n⟩, hline, heq⟩ := List.mem_map.mp hraw
  cases heq
  exact not_mem_of_mem_splitOn (List.fst_mem_of_mem_zipIdx hline) ((stored_sublist line).mem hmem)

end MigrationScript.Source
