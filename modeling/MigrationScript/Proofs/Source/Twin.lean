import Mathlib
import MigrationScript.Proofs.Source.FirstWord

/-!
# Sources that differ in their first directive

The grouping asks of a directive whether it opens a block, and whether a terminator completes its
statement. Two sources that begin with directives alike in that, and go on with the same lines, are
refused for the same reason, or they are read as the same statements but for the first, which has
the same slots under either directive (`parse_twin`).

The statement is open for some lines and completed by one of them, or by its own, and what comes
after that does not depend on it. One line takes two drafts of this kind to two such drafts, or
completes both (`twin_step`).
-/

namespace MigrationScript

/-- The statement under another directive. -/
def Statement.under (head : Directive) (s : Statement) : Statement :=
  { s with symbol := head.symbol, key := head.key, fields := head.fields }

namespace Script

/-- The draft under another directive. -/
def Draft.under (head : Directive) (d : Draft) : Draft := { d with head }

/-- Directives that the grouping treats alike. -/
structure Alike (a b : Directive) : Prop where
  opens : b.symbol.opensBlock = a.symbol.opensBlock
  ends : ∀ d : Draft, (d.under b).endsAtTerminator = (d.under a).endsAtTerminator
  /-- A block that is never closed is reported by its word. -/
  key : a.symbol.opensBlock = true → b.key = a.key

/-- Steps that differ in the directive of the first statement, which stands on a line. -/
inductive Twin (a b : Directive) (line : Nat) : Step → Step → Prop where
  /-- The first statement is still open. -/
  | opened (d : Draft) (hline : d.line = line) :
      Twin a b line ([], some (d.under a)) ([], some (d.under b))
  /-- The first statement is completed, and the rest is the same. -/
  | completed (s : Statement) (hline : s.line = line) (later : List Statement)
      (last : Option Draft) : Twin a b line (s.under a :: later, last) (s.under b :: later, last)

variable {a b : Directive} {line : Nat}

/-! ## Grouping -/

theorem twin_closeIf (complete : Bool) {d : Draft} (hline : d.line = line) :
    Twin a b line (closeIf complete (d.under a)) (closeIf complete (d.under b)) := by
  cases complete with
  | false => exact .opened d hline
  | true => exact .completed d.statement hline [] none

theorem pushLine_under (head : Directive) (d : Draft) (text : Text) (ended : Bool) :
    (d.under head).pushLine text ended = (d.pushLine text ended).under head := by
  cases ended <;> rfl

theorem twin_pushAndClose (halike : Alike a b) {d : Draft} (hline : d.line = line) (text : Text)
    (ended : Bool) :
    Twin a b line (pushAndClose (d.under a) text ended) (pushAndClose (d.under b) text ended) := by
  rw [pushAndClose, pushAndClose, halike.ends, pushLine_under, pushLine_under]
  exact twin_closeIf _ ((d.line_pushLine text ended).trans hline)

/-- A line completes both drafts, or it leaves both open. -/
theorem twin_step (halike : Alike a b) {d : Draft} (hline : d.line = line) (number : Nat)
    (l : Line) :
    Twin a b line (step number l (some (d.under a))) (step number l (some (d.under b))) := by
  have hblock : (d.under b).isBlock = (d.under a).isBlock := halike.opens
  cases l with
  | blank => exact .opened d hline
  | terminator =>
      rw [step, step, halike.ends]
      exact twin_closeIf _ (d := d.endSlot) hline
  | closer => exact .completed d.statement hline [] none
  | opener head =>
      rw [step, step, Option.filter_some, Option.filter_some, hblock]
      cases (d.under a).isBlock with
      | true => exact .opened d hline
      | false => exact .completed d.statement hline [] _
  | directive head text ended =>
      rw [step, step, Option.filter_some, Option.filter_some, hblock]
      cases (d.under a).isBlock with
      | true =>
          change Twin a b line ([], some ((d.under a).pushLine text ended))
            ([], some ((d.under b).pushLine text ended))
          rw [pushLine_under, pushLine_under]
          exact .opened _ ((d.line_pushLine text ended).trans hline)
      | false => exact .completed d.statement hline _ _
  | command text ended => exact twin_pushAndClose halike hline text ended

/-- The statements of further lines. -/
def Step.along (lines : List (Nat × Line)) (st : Step) : Step :=
  (st.1 ++ (group lines st.2).1, (group lines st.2).2)

theorem twin_along (halike : Alike a b) (lines : List (Nat × Line)) {st st' : Step}
    (h : Twin a b line st st') : Twin a b line (st.along lines) (st'.along lines) := by
  cases h with
  | completed s hline later last => exact .completed s hline _ _
  | opened d hline =>
      induction lines generalizing d with
      | nil => exact .opened d hline
      | cons first rest ih =>
          obtain ⟨number, l⟩ := first
          have hstep := twin_step halike hline number l
          change Twin a b line ((step number l (some (d.under a))).along rest)
            ((step number l (some (d.under b))).along rest)
          -- after the line both are still open, or the rest is the same
          generalize step number l (some (d.under a)) = st at hstep ⊢
          generalize step number l (some (d.under b)) = st' at hstep ⊢
          cases hstep with
          | opened d hline => exact ih d hline
          | completed s hline later last => exact .completed s hline _ _

/-- What two sources are read as that differ in their first directive. -/
inductive TwinRead (a b : Directive) (line : Nat) :
    Except ParseError (List Statement) → Except ParseError (List Statement) → Prop where
  | refused (e : ParseError) : TwinRead a b line (.error e) (.error e)
  | read (s : Statement) (hline : s.line = line) (later : List Statement) :
      TwinRead a b line (.ok (s.under a :: later)) (.ok (s.under b :: later))

theorem twin_finish (halike : Alike a b) {st st' : Step} (h : Twin a b line st st') :
    TwinRead a b line (finish st) (finish st') := by
  cases h with
  | completed s hline later last =>
      cases last with
      | none => exact .read s hline later
      | some d =>
          rw [finish, finish]
          cases d.isBlock with
          | true => exact .refused _
          | false => exact .read s hline _
  | opened d hline =>
      have hblock : (d.under b).isBlock = (d.under a).isBlock := halike.opens
      rw [finish, finish, hblock]
      cases hopens : (d.under a).isBlock with
      | true =>
          have hkey : (d.under b).head.key = (d.under a).head.key := halike.key hopens
          rw [hkey]
          exact .refused _
      | false => exact .read d.statement hline []

/-! ## Sources -/

theorem parse_cons {source first : Text} {rest : List (Nat × Text)}
    (hlines : numberedLines source = (1, first) :: rest) {l : Line}
    (hfirst : Line.ofText first = .ok l) :
    parse source = (rest.mapM readLine >>= fun lines => finish ((step 1 l none).along lines)) := by
  rw [parse, hlines, List.mapM_cons, readLine, hfirst]
  cases rest.mapM readLine <;> rfl

/-- **Sources that differ in the first directive are read alike**, but for the directive. -/
theorem parse_twin (halike : Alike a b) {source source' first first' : Text}
    {rest : List (Nat × Text)} {l l' : Line}
    (hlines : numberedLines source = (1, first) :: rest)
    (hlines' : numberedLines source' = (1, first') :: rest)
    (hfirst : Line.ofText first = .ok l) (hfirst' : Line.ofText first' = .ok l')
    (htwin : Twin a b line (step 1 l none) (step 1 l' none)) :
    TwinRead a b line (parse source) (parse source') := by
  rw [parse_cons hlines hfirst, parse_cons hlines' hfirst']
  cases rest.mapM readLine with
  | error e => exact .refused e
  | ok lines => exact twin_finish halike (twin_along halike lines htwin)

/-! ## Sources with another beginning -/

theorem splitOn_join (first : Text) (rest : List Text) :
    (Text.join ['\n'] (first :: rest)).splitOn '\n'
      = (first :: rest).flatMap (List.splitOn '\n') := by
  induction rest generalizing first with
  | nil => simp [Text.join]
  | cons next rest ih =>
      rw [Text.join_cons (List.cons_ne_nil _ _), List.splitOn_append_cons_self, ih]
      rfl

/-- What stands before a text goes to its first line. -/
theorem splitOn_append_left {start t line : Text} {rest : List Text} (hstart : '\n' ∉ start)
    (ht : t.splitOn '\n' = line :: rest) :
    (start ++ t).splitOn '\n' = (start ++ line) :: rest := by
  induction start with
  | nil => exact ht
  | cons c start ih =>
      obtain ⟨hc, hstart⟩ := not_or.mp (mt List.mem_cons.mpr hstart)
      have hcut : (c == '\n') = false := beq_false_of_ne (Ne.symm hc)
      rw [List.cons_append, List.splitOn_cons_eq_if_modifyHead, hcut,
        if_neg Bool.false_ne_true, ih hstart]
      rfl

/-- Sources with the same lines but for how the first begins. -/
theorem numberedLines_started (p : Text) (body : List Text) :
    ∃ rest, ∀ start, '\n' ∉ start → numberedLines (start ++ Text.join ['\n'] (p :: body))
      = (1, start ++ (p.splitOn '\n').headD []) :: rest := by
  cases hlines : p.splitOn '\n' with
  | nil => exact absurd hlines (List.splitOn_ne_nil _ _)
  | cons line more =>
      have hsplit : (Text.join ['\n'] (p :: body)).splitOn '\n'
          = line :: (more ++ body.flatMap (List.splitOn '\n')) := by
        rw [splitOn_join, List.flatMap_cons, hlines]
        rfl
      refine ⟨((more ++ body.flatMap (List.splitOn '\n')).zipIdx 2).map Prod.swap, ?_⟩
      intro start hstart
      rw [numberedLines, splitOn_append_left hstart hsplit]
      rfl

/-- The words of a text are those of its lines. -/
theorem mem_words_of_line {t line w : Text} (hline : line ∈ t.splitOn '\n')
    (hw : w ∈ Lexeme.words line) : w ∈ Lexeme.words t := by
  have hjoin : ∀ lines : List Text, line ∈ lines → w ∈ Lexeme.words (Text.join ['\n'] lines) := by
    intro lines hmem
    induction lines with
    | nil => cases hmem
    | cons first rest ih =>
        cases rest with
        | nil =>
            obtain rfl := List.mem_singleton.mp hmem
            rwa [Text.join, List.intercalate_singleton]
        | cons next rest =>
            rw [Text.join_cons (List.cons_ne_nil _ _), Lexeme.words_append (by decide)]
            rcases List.mem_cons.mp hmem with rfl | hmem
            · exact List.mem_append_left _ hw
            · exact List.mem_append_right _ (ih hmem)
  have hself := hjoin _ hline
  rwa [Text.join, List.intercalate_splitOn] at hself

end Script

end MigrationScript
