import Mathlib
import MigrationScript.Proofs.Source.Acceptance
import MigrationScript.Proofs.Source.Concatenation

/-!
# How a source is spaced

Blank lines and comments between the lines of a source, white space at the ends of a line or before
its terminator, and the kind of line end say nothing. An edit adds one of them, and each line of the
source is found again in a new place. However many edits are made one after another, the source is
read as before, with the new line numbers (`parse_relaid`).

Two things are needed for that. White space in a line says nothing whatever the line is
(`ofText_padded`). And every line of the source stands in the edited one at its new number, with
nothing in between that says anything (`kept_relaid`).
-/

namespace MigrationScript.Source

/-! ## White space in a line -/

/-- White space without a line feed. -/
def Spaces (space : Text) : Prop := ∀ c ∈ space, Text.isBlank c = true ∧ c ≠ '\n'

/-- A line with more white space in it. -/
inductive Padded : Text → Text → Prop where
  /-- At the start of the line. -/
  | start {space : Text} (hspace : Spaces space) (line : Text) : Padded line (space ++ line)
  /-- At the end of the line. -/
  | finish {space : Text} (hspace : Spaces space) (line : Text) : Padded line (line ++ space)
  /-- Before a terminator, which white space may follow. -/
  | terminator {space behind : Text} (hspace : Spaces space) (hbehind : Spaces behind)
      (front : Text) :
      Padded (front ++ "&&".toList ++ behind) (front ++ space ++ "&&".toList ++ behind)

/-- A line with more white space in several places. -/
abbrev Respaced : Text → Text → Prop := Relation.ReflTransGen Padded

theorem ofText_of_trim {line line' : Text} (h : Text.trim line' = Text.trim line) :
    Script.Line.ofText line' = Script.Line.ofText line := by
  unfold Script.Line.ofText
  rw [h]

/-- Of the text before a terminator only what is left when it is trimmed says something. -/
theorem ofText_terminated {front front' behind : Text} (h : Text.trim front' = Text.trim front)
    (hbehind : ∀ c ∈ behind, Text.isBlank c = true) :
    Script.Line.ofText (front' ++ "&&".toList ++ behind)
      = Script.Line.ofText (front ++ "&&".toList ++ behind) := by
  have hsign : ∀ c ∈ "&&".toList, Text.isBlank c = false := by
    intro c hc
    obtain rfl : c = '&' := by simpa using hc
    decide
  have htrim : ∀ t, Text.trim (t ++ "&&".toList ++ behind) = Text.trimStart t ++ "&&".toList :=
    Text.trim_before (by decide) (fun c hc => hsign c (List.mem_of_mem_head? hc))
      (fun c hc => hsign c (List.mem_of_mem_getLast? hc)) hbehind
  have hempty : ∀ t, (Text.trimStart t ++ "&&".toList).isEmpty = false := by
    intro t
    cases Text.trimStart t <;> rfl
  have hhead : ∀ t, (Text.trimStart t ++ "&&".toList).head?
      = (Text.trim t ++ "&&".toList).head? := by
    intro t
    rw [List.head?_append, List.head?_append, Text.head?_trim]
  have hsplit : ∀ t, Script.Line.splitTerminator (Text.trimStart t ++ "&&".toList)
      = (Text.trim t, true) := fun t => splitTerminator_ended _
  unfold Script.Line.ofText
  simp only [htrim, hempty, hhead, hsplit, h]

/-- **White space that is added to a line says nothing.** -/
theorem ofText_padded {line line' : Text} (h : Padded line line') :
    Script.Line.ofText line' = Script.Line.ofText line := by
  have hnothing : ∀ c ∈ ([] : Text), Text.isBlank c = true := List.forall_mem_nil _
  cases h with
  | start hspace line =>
      have htrim := Text.trim_around (fun c hc => (hspace c hc).1) hnothing line
      rw [List.append_nil] at htrim
      exact ofText_of_trim htrim
  | finish hspace line =>
      exact ofText_of_trim (Text.trim_around hnothing (fun c hc => (hspace c hc).1) line)
  | terminator hspace hbehind front =>
      exact ofText_terminated (Text.trim_around hnothing (fun c hc => (hspace c hc).1) front)
        fun c hc => (hbehind c hc).1

theorem ofText_respaced {line line' : Text} (h : Respaced line line') :
    Script.Line.ofText line' = Script.Line.ofText line := by
  induction h with
  | refl => rfl
  | tail _ hpadded ih => rw [ofText_padded hpadded, ih]

theorem not_mem_padded {line line' : Text} (h : Padded line line') (hline : '\n' ∉ line) :
    '\n' ∉ line' := by
  have hfree : ∀ {space : Text}, Spaces space → '\n' ∉ space := fun hspace hmem =>
    (hspace _ hmem).2 rfl
  cases h with
  | start hspace line => simp [hfree hspace, hline]
  | finish hspace line => simp [hfree hspace, hline]
  | terminator hspace hbehind front =>
      simp at hline
      simp [hfree hspace, hline]

/-! ## Edits -/

/-- The source with a carriage return before every line feed. -/
def withReturns (source : Text) : Text :=
  source.flatMap fun c => if c = '\n' then ['\r', '\n'] else [c]

/-- Where a line stands after another has been put in below some text. -/
def movedBelow (above : Text) (number : Nat) : Nat :=
  if number ≤ above.count '\n' then number else number + 1

/-- One edit of the spacing of a source, and where each of its lines stands after it. -/
inductive Edit : (Nat → Nat) → Text → Text → Prop where
  /-- A blank line or a comment above another line. -/
  | between {above remark : Text} (below : Text) (habove : ∀ c ∈ above.getLast?, c = '\n')
      (hremark : Text.trim remark = [] ∨ (Text.trim remark).head? = some '#')
      (hline : '\n' ∉ remark) :
      Edit (movedBelow above) (above ++ below) (above ++ (remark ++ '\n' :: below))
  /-- White space in a line. -/
  | within {above line line' below : Text} (habove : ∀ c ∈ above.getLast?, c = '\n')
      (hbelow : ∀ c ∈ below.head?, c = '\n') (hline : '\n' ∉ line) (hpadded : Padded line line') :
      Edit id (above ++ (line ++ below)) (above ++ (line' ++ below))
  /-- Other line ends. -/
  | returns (source : Text) : Edit id source (withReturns source)

/-- Edits one after another, and where each line stands after all of them. -/
inductive Relaid : (Nat → Nat) → Text → Text → Prop where
  | same (source : Text) : Relaid id source source
  | edit {place move : Nat → Nat} {source between source' : Text}
      (h : Relaid place source between) (hedit : Edit move between source') :
      Relaid (move ∘ place) source source'

end Source

namespace Script

open Source

/-! ## Lines found again -/

section Kept

variable {same : Text → Text → Prop} {place move : Nat → Nat}

/-- Lines numbered from a number on. -/
def numbered (first : Nat) (lines : List Text) : List (Nat × Text) :=
  (lines.zipIdx first).map Prod.swap

theorem numbered_append (first : Nat) (lines later : List Text) :
    numbered first (lines ++ later)
      = numbered first lines ++ numbered (first + lines.length) later := by
  rw [numbered, List.zipIdx_append, List.map_append]
  rfl

theorem texts_numbered (first : Nat) (lines : List Text) :
    (numbered first lines).map Prod.snd = lines := by
  rw [numbered, List.map_map]
  exact List.zipIdx_map_fst first lines

theorem mem_of_mem_numbered {first : Nat} {lines : List Text} {raw : Nat × Text}
    (h : raw ∈ numbered first lines) : raw.2 ∈ lines := by
  rw [← texts_numbered first lines]
  exact List.mem_map_of_mem h

/-- Lines that are the same one by one are kept if every number goes to the one in its place. -/
theorem kept_numbered {lines lines' : List Text} (h : List.Forall₂ same lines lines')
    (first first' : Nat) (hplace : ∀ i < lines.length, place (first + i) = first' + i) :
    Kept same place (numbered first lines) (numbered first' lines') := by
  induction h generalizing first first' with
  | nil => exact .done
  | @cons line line' lines lines' hline hrest ih =>
      have hfirst : place first = first' := hplace 0 (by simp)
      have hlater : ∀ i < lines.length, place (first + 1 + i) = first' + 1 + i := by
        intro i hi
        have hnext := hplace (i + 1) (by simpa using hi)
        have hnumber : first + 1 + i = first + (i + 1) := by omega
        rw [hnumber]
        omega
      have hkept := Kept.line first hline (ih (first + 1) (first' + 1) hlater)
      rwa [hfirst] at hkept

theorem kept_append {a a' b b' : List (Nat × Text)} (h : Kept same place a a')
    (h' : Kept same place b b') : Kept same place (a ++ b) (a' ++ b') := by
  induction h with
  | done => exact h'
  | between number hblank _ ih => exact .between number hblank ih
  | line number hsame _ ih => exact .line number hsame ih

/-- What is found again, and then again, is found again. -/
theorem kept_trans {a b c : List (Nat × Text)} (h : Kept Respaced place a b)
    (h' : Kept Respaced move b c) : Kept Respaced (move ∘ place) a c := by
  induction h' generalizing a with
  | done =>
      cases h
      exact .done
  | between number hblank _ ih => exact .between number hblank (ih h)
  | @line number raw raw' hsame raws raws' _ ih =>
      cases h with
      | between _ hblank hrest =>
          exact .between _ ((ofText_respaced hsame).trans hblank) (ih hrest)
      | line number hfirst hrest => exact .line number (hfirst.trans hsame) (ih hrest)

theorem mem_kept {raws raws' : List (Nat × Text)} (h : Kept same place raws raws')
    {raw : Nat × Text} (hmem : raw ∈ raws) :
    ∃ raw', (place raw.1, raw') ∈ raws' ∧ same raw.2 raw' := by
  induction h with
  | done => cases hmem
  | between number hblank _ ih =>
      obtain ⟨raw', hraw', hsame⟩ := ih hmem
      exact ⟨raw', List.mem_cons_of_mem _ hraw', hsame⟩
  | line number hsame _ ih =>
      rcases List.mem_cons.mp hmem with rfl | hmem
      · exact ⟨_, List.mem_cons_self, hsame⟩
      · obtain ⟨raw', hraw', hsame⟩ := ih hmem
        exact ⟨raw', List.mem_cons_of_mem _ hraw', hsame⟩

end Kept

/-! ## The lines of a source after an edit -/

/-- Lines above some text have their numbers, whatever the text is. -/
theorem numberedLines_above {above : Text} (habove : ∀ c ∈ above.getLast?, c = '\n') :
    ∃ lines : List Text, lines.length = above.count '\n' ∧ ∀ below, numberedLines (above ++ below)
      = numbered 1 lines ++ numbered (1 + above.count '\n') (below.splitOn '\n') := by
  rcases List.eq_nil_or_concat above with rfl | ⟨earlier, c, rfl⟩
  · exact ⟨[], rfl, fun below => rfl⟩
  · obtain rfl : c = '\n' := habove c (by simp)
    have hcount : (earlier.splitOn '\n').length = (earlier.concat '\n').count '\n' := by
      rw [length_splitOn]
      simp
    refine ⟨earlier.splitOn '\n', hcount, fun below => ?_⟩
    have hsplit : (earlier.concat '\n' ++ below).splitOn '\n'
        = earlier.splitOn '\n' ++ below.splitOn '\n' := by
      rw [List.concat_eq_append, List.append_assoc]
      exact List.splitOn_append_cons_self _ _
    rw [← hcount, ← numbered_append, ← hsplit]
    rfl

/-- Nothing but the line itself is changed in front of a line end. -/
theorem splitOn_within {below : Text} (hbelow : ∀ c ∈ below.head?, c = '\n') :
    ∃ later : List Text, ∀ line, '\n' ∉ line → (line ++ below).splitOn '\n' = line :: later := by
  cases below with
  | nil =>
      refine ⟨[], fun line hline => ?_⟩
      rw [List.append_nil, List.splitOn_eq_singleton hline]
  | cons c rest =>
      obtain rfl : c = '\n' := hbelow c rfl
      refine ⟨rest.splitOn '\n', fun line hline => ?_⟩
      rw [List.splitOn_append_cons_self, List.splitOn_eq_singleton hline]
      rfl

/-- A line has a carriage return more at its end, or it is the last and has not. -/
theorem splitOn_withReturns (source : Text) :
    List.Forall₂ (fun line line' => line' = line ∨ line' = line ++ ['\r'])
      (source.splitOn '\n') ((withReturns source).splitOn '\n') := by
  induction source with
  | nil => exact .cons (.inl rfl) .nil
  | cons c rest ih =>
      by_cases hc : c = '\n'
      · have hwith : withReturns (c :: rest) = ['\r'] ++ '\n' :: withReturns rest := by
          rw [hc]
          rfl
        rw [hwith, List.splitOn_append_cons_self, hc, List.splitOn_cons_eq_if_modifyHead,
          if_pos (beq_self_eq_true _)]
        exact .cons (.inr rfl) ih
      · have hwith : withReturns (c :: rest) = c :: withReturns rest := by
          rw [withReturns, List.flatMap_cons, if_neg hc]
          rfl
        rw [hwith, List.splitOn_cons_eq_if_modifyHead, List.splitOn_cons_eq_if_modifyHead,
          if_neg (by simpa using hc), if_neg (by simpa using hc)]
        generalize rest.splitOn '\n' = lines at ih ⊢
        generalize (withReturns rest).splitOn '\n' = lines' at ih ⊢
        cases ih with
        | nil => exact .nil
        | cons hline hlater =>
            exact .cons (hline.imp (congrArg (c :: ·)) (congrArg (c :: ·))) hlater

theorem kept_between {above remark : Text} (habove : ∀ c ∈ above.getLast?, c = '\n')
    (hblank : Line.ofText remark = .ok .blank) (hline : '\n' ∉ remark) (below : Text) :
    Kept Respaced (movedBelow above) (numberedLines (above ++ below))
      (numberedLines (above ++ (remark ++ '\n' :: below))) := by
  obtain ⟨lines, hlength, hlines⟩ := numberedLines_above habove
  have hsplit : (remark ++ '\n' :: below).splitOn '\n' = remark :: below.splitOn '\n' := by
    rw [List.splitOn_append_cons_self, List.splitOn_eq_singleton hline]
    rfl
  rw [hlines, hlines, hsplit]
  refine kept_append (kept_numbered (List.forall₂_refl lines) 1 1 ?_)
    (.between _ hblank (kept_numbered (List.forall₂_refl _) _ (1 + above.count '\n' + 1) ?_))
  · intro i hi
    exact if_pos (by omega)
  · intro i _
    have hmoved : movedBelow above (1 + above.count '\n' + i) = 1 + above.count '\n' + i + 1 :=
      if_neg (by omega)
    omega

theorem kept_within {above line line' below : Text} (habove : ∀ c ∈ above.getLast?, c = '\n')
    (hbelow : ∀ c ∈ below.head?, c = '\n') (hline : '\n' ∉ line) (hpadded : Padded line line') :
    Kept Respaced id (numberedLines (above ++ (line ++ below)))
      (numberedLines (above ++ (line' ++ below))) := by
  obtain ⟨lines, -, hlines⟩ := numberedLines_above habove
  obtain ⟨later, hlater⟩ := splitOn_within hbelow
  rw [hlines, hlines, hlater line hline, hlater line' (not_mem_padded hpadded hline)]
  refine kept_append (kept_numbered (List.forall₂_refl lines) 1 1 fun i _ => rfl) ?_
  exact kept_numbered (.cons (.single hpadded) (List.forall₂_refl later)) _ _ fun i _ => rfl

theorem kept_edit {move : Nat → Nat} {source source' : Text} (h : Edit move source source') :
    Kept Respaced move (numberedLines source) (numberedLines source') := by
  cases h with
  | between below habove hremark hline =>
      refine kept_between habove ?_ hline below
      unfold Line.ofText
      rcases hremark with hremark | hremark <;> simp [hremark]
  | within habove hbelow hline hpadded => exact kept_within habove hbelow hline hpadded
  | returns source =>
      have hreturn : Spaces ['\r'] := by
        intro c hc
        obtain rfl := List.mem_singleton.mp hc
        decide
      refine kept_numbered ((splitOn_withReturns source).imp ?_) 1 1 fun i _ => rfl
      rintro line line' (rfl | rfl)
      · exact .refl
      · exact .single (.finish hreturn line)

/-- **Every line of the source is found again after the edits**, and the others say nothing. -/
theorem kept_relaid {place : Nat → Nat} {source source' : Text} (h : Relaid place source source') :
    Kept Respaced place (numberedLines source) (numberedLines source') := by
  induction h with
  | same source => exact kept_numbered (List.forall₂_refl _) 1 1 fun i _ => rfl
  | edit _ hedit ih => exact kept_trans ih (kept_edit hedit)

/--
**How a source is spaced has no bearing on what it says.**

After any edits the source is read as the same statements, or refused for the same reason. Only the
lines that are pointed to have other numbers: each stands at its new number, with more white space
in it at most.
-/
theorem parse_relaid {place : Nat → Nat} {source source' : Text}
    (h : Relaid place source source') :
    (parse source' =
      match parse source with
      | .ok statements => .ok (statements.map (Statement.renumbered place))
      | .error e => .error (e.renumbered place))
    ∧ ∀ number ∈ reported (parse source), ∃ text text', (number, text) ∈ numberedLines source
      ∧ (place number, text') ∈ numberedLines source' ∧ Respaced text text' := by
  have hkept := kept_relaid h
  have hread : parse source' = renumberedAnswer place (parse source) :=
    parseFrom_kept (fun raw raw' hsame => ofText_respaced hsame) hkept none
  constructor
  · rw [hread]
    cases parse source <;> rfl
  · intro number hnumber
    obtain ⟨text, htext⟩ := mem_reported hnumber
    obtain ⟨text', htext', hsame⟩ := mem_kept hkept htext
    exact ⟨text, text', htext, htext', hsame⟩

/-- A block with a command of two lines. -/
def denseSource : Text := "$if\nselect 1\nfrom T&&\n$fi\nselect 2".toList

/-- The block with a comment in the middle of its command. -/
def commentedSource : Text := "$if\nselect 1\n # why &&\nfrom T&&\n$fi\nselect 2".toList

/-- The same with white space before the terminator. -/
def paddedSource : Text := "$if\nselect 1\n # why &&\nfrom T\t&&\n$fi\nselect 2".toList

/-- The statements of all these sources, which differ in the line of the last one. -/
def denseStatements (last : Nat) : List Statement :=
  [⟨.ifBlock, "$if".toList, [], [["select 1".toList, "from T".toList]], 1⟩,
    ⟨.sql, "sql".toList, [], [["select 2".toList]], last⟩]

theorem relaid_dense :
    Relaid (movedBelow "$if\nselect 1\n".toList) denseSource (withReturns paddedSource) := by
  have hbetween : Edit (movedBelow "$if\nselect 1\n".toList) denseSource commentedSource := by
    have hdense : denseSource
        = "$if\nselect 1\n".toList ++ "from T&&\n$fi\nselect 2".toList := by cbv
    have hcommented : commentedSource = "$if\nselect 1\n".toList
        ++ (" # why &&".toList ++ '\n' :: "from T&&\n$fi\nselect 2".toList) := by cbv
    rw [hdense, hcommented]
    refine .between _ ?_ (.inr (by decide)) (by decide)
    rintro c ⟨⟩
    rfl
  have hwithin : Edit id commentedSource paddedSource := by
    have hcommented : commentedSource = "$if\nselect 1\n # why &&\n".toList
        ++ ("from T".toList ++ "&&".toList ++ [] ++ "\n$fi\nselect 2".toList) := by cbv
    have hpadded : paddedSource = "$if\nselect 1\n # why &&\n".toList
        ++ ("from T".toList ++ ['\t'] ++ "&&".toList ++ [] ++ "\n$fi\nselect 2".toList) := by cbv
    have htab : Spaces ['\t'] := by
      intro c hc
      obtain rfl := List.mem_singleton.mp hc
      decide
    rw [hcommented, hpadded]
    refine .within ?_ ?_ (by decide) (.terminator htab (by intro c hc; cases hc) _)
    · rintro c ⟨⟩
      rfl
    · rintro c ⟨⟩
      rfl
  exact (((Relaid.same denseSource).edit hbetween).edit hwithin).edit (.returns paddedSource)

/-- A source that is refused, under a line of white space. -/
theorem relaid_open : Relaid (movedBelow []) "$if".toList "\u3000\n$if".toList := by
  have hbetween : Edit (movedBelow []) ([] ++ "$if".toList)
      ([] ++ (['\u3000'] ++ '\n' :: "$if".toList)) := by
    refine .between _ ?_ (.inl (by decide)) (by decide)
    intro c hc
    cases hc
  exact (Relaid.same _).edit hbetween

theorem parse_relaid_dense :
    Relaid (movedBelow "$if\nselect 1\n".toList) denseSource (withReturns paddedSource)
    ∧ parse denseSource = .ok (denseStatements 5)
    ∧ parse (withReturns paddedSource) = .ok (denseStatements 6)
    ∧ Relaid (movedBelow []) "$if".toList "\u3000\n$if".toList
    ∧ parse "\u3000\n$if".toList = .error (.unterminatedBlock 2 "$if".toList) := by
  have hdense : parse denseSource = .ok (denseStatements 5) := by cbv
  have hopen : parse "$if".toList = .error (.unterminatedBlock 1 "$if".toList) := by cbv
  refine ⟨relaid_dense, hdense, ?_, relaid_open, ?_⟩
  · rw [(parse_relaid relaid_dense).1, hdense]
    rfl
  · rw [(parse_relaid relaid_open).1, hopen]
    rfl

end Script

end MigrationScript
