import Mathlib
import MigrationScript.Proofs.Lexeme
import MigrationScript.Proofs.Text

/-!
# The spans of a line

A lexeme takes a span of its line, from one byte to another. The spans of a line are determined by
the line: each is a longest run of one class, they follow each other from left to right, and no
character of a class is left out (`Lexed`). The scan finds them (`scan_scanned`), and since two
longest runs with a character in common are one (`Span.Longest.eq_of_common`) there is nothing else
to find.

Bytes are counted, and characters are looked at. Between the two stand the places of a text: a byte
is a place if some beginning of the text ends there. Of two places the piece between them is a text
(`exists_between`), and it has a first and a last character.
-/

namespace MigrationScript

namespace Text

/-! ## Places in a text -/

/-- Whether a byte lies between two characters, or at an end of the text. -/
def Boundary (t : Text) (i : Nat) : Prop :=
  ∃ before after, before ++ after = t ∧ utf8Length before = i

/-- Whether a character starts at a byte. -/
def At (t : Text) (i : Nat) (c : Char) : Prop :=
  ∃ before after, before ++ c :: after = t ∧ utf8Length before = i

/-- Whether a text stands between two bytes. -/
def Between (t : Text) (i j : Nat) (piece : Text) : Prop :=
  ∃ before after, before ++ piece ++ after = t ∧ utf8Length before = i
    ∧ utf8Length (before ++ piece) = j

theorem utf8Length_append (s t : Text) :
    utf8Length (s ++ t) = utf8Length s + utf8Length t := by
  induction s with
  | nil => exact (Nat.zero_add _).symm
  | cons c s ih =>
      change c.utf8Size + utf8Length (s ++ t) = c.utf8Size + utf8Length s + utf8Length t
      rw [ih, Nat.add_assoc]

theorem utf8Length_cons (c : Char) (t : Text) :
    utf8Length (c :: t) = c.utf8Size + utf8Length t := rfl

theorem utf8Length_pos {t : Text} (h : t ≠ []) : 0 < utf8Length t := by
  obtain ⟨c, rest, rfl⟩ := List.exists_cons_of_ne_nil h
  have hc : 0 < c.utf8Size := c.utf8Size_pos
  rw [utf8Length_cons]
  omega

/-- Of two places in a text the one with fewer bytes before it comes first. -/
theorem exists_between {a b c d : Text} (h : a ++ b = c ++ d)
    (hle : utf8Length a ≤ utf8Length c) : ∃ mid, c = a ++ mid ∧ b = mid ++ d := by
  rcases List.append_eq_append_iff.mp h with hfirst | ⟨mid, ha, hd⟩
  · exact hfirst
  · have hnil : mid = [] := by
      by_contra hne
      have hpos := utf8Length_pos hne
      rw [ha, utf8Length_append] at hle
      omega
    subst hnil
    rw [List.append_nil] at ha
    exact ⟨[], by rw [ha, List.append_nil], hd.symm⟩

/-- A place is known by the number of bytes before it. -/
theorem append_inj_of_utf8Length {a b c d : Text} (h : a ++ b = c ++ d)
    (hlength : utf8Length a = utf8Length c) : a = c ∧ b = d := by
  obtain ⟨mid, hc, hb⟩ := exists_between h hlength.le
  have hnil : mid = [] := by
    by_contra hne
    have hpos := utf8Length_pos hne
    rw [hc, utf8Length_append] at hlength
    omega
  subst hnil
  exact ⟨by rw [hc, List.append_nil], hb⟩

variable {t : Text} {i j : Nat} {c d : Char}

theorem At.boundary (h : At t i c) : Boundary t i := by
  obtain ⟨before, after, ht, hi⟩ := h
  exact ⟨before, c :: after, ht, hi⟩

theorem At.unique (hc : At t i c) (hd : At t i d) : c = d := by
  obtain ⟨before, after, rfl, rfl⟩ := hc
  obtain ⟨before', after', ht, hi⟩ := hd
  exact (List.cons.inj (append_inj_of_utf8Length ht hi).2).1.symm

/-- There is a character just after a place, if another place comes later. -/
theorem exists_at_first (hi : Boundary t i) (hj : Boundary t j) (hlt : i < j) :
    ∃ c, At t i c ∧ i + c.utf8Size ≤ j := by
  obtain ⟨before, after, rfl, rfl⟩ := hi
  obtain ⟨before', after', ht, rfl⟩ := hj
  obtain ⟨mid, rfl, rfl⟩ := exists_between ht.symm hlt.le
  cases mid with
  | nil =>
      rw [List.append_nil] at hlt
      exact absurd hlt (lt_irrefl _)
  | cons c rest =>
      refine ⟨c, ⟨before, rest ++ after', rfl, rfl⟩, ?_⟩
      rw [utf8Length_append, utf8Length_cons]
      omega

/-- There is a character just before a place, if another place comes earlier. -/
theorem exists_at_last (hi : Boundary t i) (hj : Boundary t j) (hlt : i < j) :
    ∃ k c, At t k c ∧ i ≤ k ∧ k + c.utf8Size = j := by
  obtain ⟨before, after, rfl, rfl⟩ := hi
  obtain ⟨before', after', ht, rfl⟩ := hj
  obtain ⟨mid, rfl, rfl⟩ := exists_between ht.symm hlt.le
  rcases List.eq_nil_or_concat mid with rfl | ⟨rest, c, rfl⟩
  · rw [List.append_nil] at hlt
    exact absurd hlt (lt_irrefl _)
  · refine ⟨utf8Length (before ++ rest), c, ⟨before ++ rest, after', ?_, rfl⟩, ?_, ?_⟩
    · simp
    · rw [utf8Length_append]
      omega
    · rw [List.concat_eq_append, ← List.append_assoc, utf8Length_append (before ++ rest)]
      rfl

/-- A character ends at or before every later place. -/
theorem At.end_le (hc : At t i c) (hj : Boundary t j) (hlt : i < j) : i + c.utf8Size ≤ j := by
  obtain ⟨d, hd, hle⟩ := exists_at_first hc.boundary hj hlt
  rwa [hc.unique hd]

end Text

/-! ## Longest runs -/

/-- A part of a line, by its first byte and the byte just past it, with a class. -/
structure Span where
  start : Nat
  stop : Nat
  kind : LexemeClass
  deriving DecidableEq, Repr

namespace Span

/-- Whether a character that starts at a byte lies in a span. -/
def Holds (s : Span) (i : Nat) (c : Char) : Prop := s.start ≤ i ∧ i + c.utf8Size ≤ s.stop

/-- A longest run of characters of one class. -/
structure Longest (line : Text) (s : Span) : Prop where
  /-- There is something in the span. -/
  nonempty : s.start < s.stop
  /-- It starts and stops between two characters, or at an end of the line. -/
  starts : Text.Boundary line s.start
  stops : Text.Boundary line s.stop
  /-- All characters in the span are of its class. -/
  pure : ∀ i c, Text.At line i c → s.Holds i c → s.kind.holds c = true
  /-- The character that ends where the span starts is not of its class. -/
  before : ∀ i c, Text.At line i c → i + c.utf8Size = s.start → s.kind.holds c = false
  /-- The character that starts where the span ends is not of its class. -/
  after : ∀ c, Text.At line s.stop c → s.kind.holds c = false

variable {line : Text} {s s' : Span} {i : Nat} {c : Char}

/-- A character that starts in a longest run lies in it as a whole. -/
theorem Longest.holds (h : s.Longest line) (hc : Text.At line i c) (hstart : s.start ≤ i)
    (hstop : i < s.stop) : s.Holds i c :=
  ⟨hstart, hc.end_le h.stops hstop⟩

/-- A longest run does not start inside another of its class. -/
theorem Longest.start_le (h : s.Longest line) (h' : s'.Longest line) (hkind : s.kind = s'.kind)
    (hs : s.Holds i c) (hs' : s'.Holds i c) : s.start ≤ s'.start := by
  by_contra hlt
  rw [Nat.not_le] at hlt
  have hpos := c.utf8Size_pos
  obtain ⟨hstart, -⟩ := hs
  obtain ⟨-, hstop⟩ := hs'
  -- the character just before the one run is inside the other
  obtain ⟨k, d, hd, hk, hend⟩ := Text.exists_at_last h'.starts h.starts hlt
  have hin : s'.kind.holds d = true := h'.pure k d hd ⟨hk, by omega⟩
  rw [← hkind, h.before k d hd hend] at hin
  cases hin

/-- A longest run does not end inside another of its class. -/
theorem Longest.stop_le (h : s.Longest line) (h' : s'.Longest line) (hkind : s.kind = s'.kind)
    (hs : s.Holds i c) (hs' : s'.Holds i c) : s'.stop ≤ s.stop := by
  by_contra hlt
  rw [Nat.not_le] at hlt
  have hpos := c.utf8Size_pos
  obtain ⟨-, hstop⟩ := hs
  obtain ⟨hstart, -⟩ := hs'
  obtain ⟨d, hd, hend⟩ := Text.exists_at_first h.stops h'.stops hlt
  have hin : s'.kind.holds d = true := h'.pure s.stop d hd ⟨by omega, hend⟩
  rw [← hkind, h.after d hd] at hin
  cases hin

/-- **Longest runs with a character in common are one.** -/
theorem Longest.eq_of_common (h : s.Longest line) (h' : s'.Longest line) (hc : Text.At line i c)
    (hs : s.Holds i c) (hs' : s'.Holds i c) : s = s' := by
  have hclass : some s.kind = some s'.kind :=
    (LexemeClass.of?_eq_some_iff.mpr (h.pure i c hc hs)).symm.trans
      (LexemeClass.of?_eq_some_iff.mpr (h'.pure i c hc hs'))
  have hkind : s.kind = s'.kind := Option.some.inj hclass
  have hstart : s.start = s'.start :=
    (h.start_le h' hkind hs hs').antisymm (h'.start_le h hkind.symm hs' hs)
  have hstop : s.stop = s'.stop :=
    (h'.stop_le h hkind.symm hs' hs).antisymm (h.stop_le h' hkind hs hs')
  cases s
  cases s'
  cases hstart
  cases hstop
  cases hkind
  rfl

/-- A run of one class is a longest run, if its neighbours are not of the class. -/
theorem longest_of_run {kind : LexemeClass} {before run after : Text} (hne : run ≠ [])
    (hrun : ∀ c ∈ run, kind.holds c = true) (hbefore : ∀ c ∈ before.getLast?, kind.holds c = false)
    (hafter : ∀ c ∈ after.head?, kind.holds c = false) :
    Longest (before ++ run ++ after)
      ⟨Text.utf8Length before, Text.utf8Length before + Text.utf8Length run, kind⟩ where
  nonempty := Nat.lt_add_of_pos_right (Text.utf8Length_pos hne)
  starts := ⟨before, run ++ after, (List.append_assoc _ _ _).symm, rfl⟩
  stops := ⟨before ++ run, after, rfl, Text.utf8Length_append before run⟩
  pure := by
    rintro _ c ⟨front, rest, hline, rfl⟩ ⟨hstart, hstop⟩
    have hstart : Text.utf8Length before ≤ Text.utf8Length front := hstart
    have hstop : Text.utf8Length front + c.utf8Size
      ≤ Text.utf8Length before + Text.utf8Length run := hstop
    -- the character is cut off from the run, at its start and at its end
    rw [List.append_assoc] at hline
    obtain ⟨mid, rfl, hmid⟩ := Text.exists_between hline.symm hstart
    have hsplit : (mid ++ [c]) ++ rest = run ++ after := by
      rw [hmid, List.append_assoc]
      rfl
    obtain ⟨more, rfl, -⟩ := Text.exists_between hsplit (by
      rw [Text.utf8Length_append] at hstop ⊢
      change _ + (c.utf8Size + 0) ≤ _
      omega)
    exact hrun c (by simp)
  before := by
    rintro _ c ⟨front, rest, hline, rfl⟩ hend
    have hsplit : (front ++ [c]) ++ rest = before ++ (run ++ after) := by
      rw [← List.append_assoc, ← hline, List.append_assoc]
      rfl
    have hlast := (Text.append_inj_of_utf8Length hsplit (by
      rw [Text.utf8Length_append]
      exact hend)).1
    exact hbefore c (by simp [← hlast])
  after := by
    rintro c ⟨front, rest, hline, hfront⟩
    have hhead := (Text.append_inj_of_utf8Length hline (by
      rw [hfront, Text.utf8Length_append])).2
    exact hafter c (by simp [← hhead])

end Span

/-! ## The spans of a line -/

/-- The spans of a line: longest runs from left to right, and every character of a class in exactly
one of them. -/
structure Lexed (line : Text) (spans : List Span) : Prop where
  longest : ∀ s ∈ spans, s.Longest line
  ordered : spans.Pairwise fun s s' => s.stop ≤ s'.start
  covered : ∀ i c, Text.At line i c → ∀ kind : LexemeClass, kind.holds c = true →
    ∃! s, s ∈ spans ∧ s.Holds i c

namespace Lexed

variable {line : Text} {spans spans' : List Span}

theorem subset (h : Lexed line spans) (h' : Lexed line spans') : spans ⊆ spans' := by
  intro s hs
  have hlongest := h.longest s hs
  -- the first character of the span is in some span of the others, and that is the same
  obtain ⟨c, hc, hend⟩ := Text.exists_at_first hlongest.starts hlongest.stops hlongest.nonempty
  have hholds : s.Holds s.start c := ⟨le_rfl, hend⟩
  obtain ⟨s', ⟨hs', hholds'⟩, -⟩ := h'.covered s.start c hc s.kind (hlongest.pure _ c hc hholds)
  rwa [hlongest.eq_of_common (h'.longest s' hs') hc hholds hholds']

theorem increasing (h : Lexed line spans) : spans.Pairwise fun s s' => s.start < s'.start :=
  h.ordered.imp_of_mem fun hs _ hle => lt_of_lt_of_le (h.longest _ hs).nonempty hle

/-- **A line has no two lists of spans.** -/
theorem unique (h : Lexed line spans) (h' : Lexed line spans') : spans = spans' := by
  have hantisymm : Std.Antisymm fun s s' : Span => s.start < s'.start :=
    ⟨fun _ _ hlt hgt => absurd hgt (lt_asymm hlt)⟩
  have hirrefl : Std.Irrefl fun s s' : Span => s.start < s'.start := ⟨fun _ => lt_irrefl _⟩
  exact h.increasing.eq_of_mem_iff h'.increasing fun s => ⟨(h.subset h' ·), (h'.subset h ·)⟩

end Lexed

namespace Lexeme

open LexemeClass

/-- The part of a line that a lexeme takes. -/
def span (l : Lexeme) : Span := ⟨l.start, l.stop, l.kind⟩

/-- What a scan finds in a line from a byte on. -/
structure Scanned (line : Text) (offset : Nat) (lexemes : List Lexeme) : Prop where
  /-- Every lexeme is a longest run of the line. -/
  longest : ∀ l ∈ lexemes, l.span.Longest line
  /-- It has the text that stands there. -/
  texts : ∀ l ∈ lexemes, Text.Between line l.start l.stop l.text
  /-- It starts at the byte or after it. -/
  later : ∀ l ∈ lexemes, offset ≤ l.start
  /-- The lexemes follow each other. -/
  ordered : lexemes.Pairwise fun l l' => l.stop ≤ l'.start
  /-- No character of a class is left out. -/
  covered : ∀ i c, Text.At line i c → offset ≤ i → ∀ kind : LexemeClass, kind.holds c = true →
    ∃ l ∈ lexemes, l.span.Holds i c

variable {line : Text} {lexemes : List Lexeme}

/-- At the end of a line there is nothing left to find. -/
theorem scanned_end (line : Text) : Scanned line (Text.utf8Length line) [] where
  longest := List.forall_mem_nil _
  texts := List.forall_mem_nil _
  later := List.forall_mem_nil _
  ordered := .nil
  covered := by
    rintro i c ⟨before, after, rfl, rfl⟩ hlate
    have hpos := c.utf8Size_pos
    rw [Text.utf8Length_append, Text.utf8Length_cons] at hlate
    omega

/-- A character of no class can be passed over. -/
theorem Scanned.dropped {offset : Nat} {c : Char} (hc : Text.At line offset c)
    (hclass : of? c = none) (h : Scanned line (offset + c.utf8Size) lexemes) :
    Scanned line offset lexemes where
  longest := h.longest
  texts := h.texts
  later l hl := Nat.le_of_add_right_le (h.later l hl)
  ordered := h.ordered
  covered i d hd hi kind hkind := by
    rcases hi.eq_or_lt with rfl | hlt
    · rw [← of?_eq_some_iff, hd.unique hc, hclass] at hkind
      cases hkind
    · exact h.covered i d hd (hc.end_le hd.boundary hlt) kind hkind

/-- A longest run comes before what is found behind it. -/
theorem Scanned.run {kind : LexemeClass} {before run after : Text}
    (hline : before ++ run ++ after = line) (hne : run ≠ [])
    (hrun : ∀ c ∈ run, kind.holds c = true) (hbefore : ∀ c ∈ before.getLast?, kind.holds c = false)
    (hafter : ∀ c ∈ after.head?, kind.holds c = false)
    (h : Scanned line (Text.utf8Length before + Text.utf8Length run) lexemes) :
    Scanned line (Text.utf8Length before) (⟨Text.utf8Length before, run, kind⟩ :: lexemes) := by
  have hlongest : Span.Longest line
      ⟨Text.utf8Length before, Text.utf8Length before + Text.utf8Length run, kind⟩ :=
    hline ▸ Span.longest_of_run hne hrun hbefore hafter
  have htext : Text.Between line (Text.utf8Length before)
      (Text.utf8Length before + Text.utf8Length run) run :=
    ⟨before, after, hline, rfl, Text.utf8Length_append _ _⟩
  constructor
  · exact List.forall_mem_cons.mpr ⟨hlongest, h.longest⟩
  · exact List.forall_mem_cons.mpr ⟨htext, h.texts⟩
  · exact List.forall_mem_cons.mpr ⟨le_rfl, fun l hl => Nat.le_of_add_right_le (h.later l hl)⟩
  · exact List.pairwise_cons.mpr ⟨h.later, h.ordered⟩
  · intro i c hc hi kind' hkind'
    by_cases hin : i < Text.utf8Length before + Text.utf8Length run
    · exact ⟨_, List.mem_cons_self, hlongest.holds hc hi hin⟩
    · obtain ⟨l, hl, hholds⟩ := h.covered i c hc (Nat.le_of_not_lt hin) kind' hkind'
      exact ⟨l, List.mem_cons_of_mem _ hl, hholds⟩

/-- Whether a text does not go on with the run that the text before it ends with. -/
def Apart (before after : Text) : Prop :=
  ∀ d ∈ before.getLast?, ∀ kind, of? d = some kind → ∀ c ∈ after.head?, kind.holds c = false

/-- **A scan finds what there is from its place on**, if that is not in the middle of a run. -/
theorem scan_scanned (offset : Nat) (t : Text) :
    ∀ before, before ++ t = line → Text.utf8Length before = offset → Apart before t →
      Scanned line offset (scan offset t) := by
  fun_induction scan offset t with
  | case1 offset =>
      intro before hline hoffset _
      rw [List.append_nil] at hline
      rw [← hoffset, hline]
      exact scanned_end line
  | case2 offset c rest hclass ih =>
      intro before hline hoffset _
      refine .dropped ⟨before, rest, hline, hoffset⟩ hclass (ih (before ++ [c]) ?_ ?_ ?_)
      · rw [List.append_assoc]
        exact hline
      · rw [Text.utf8Length_append, hoffset]
        rfl
      · intro d hd kind hkind
        rw [List.getLast?_concat] at hd
        cases hd
        rw [hclass] at hkind
        cases hkind
  | case3 offset c rest kind hclass run ih =>
      intro before hline hoffset hapart
      have hrun : ∀ d ∈ run, kind.holds d = true := by
        intro d hd
        rcases List.mem_cons.mp hd with rfl | hd
        · exact of?_eq_some_iff.mp hclass
        · exact List.all_eq_true.mp List.all_takeWhile d hd
      have hafter : ∀ d ∈ (rest.dropWhile kind.holds).head?, kind.holds d = false := by
        intro d hd
        have hnot := List.head?_dropWhile_not kind.holds rest
        rw [hd] at hnot
        exact hnot
      have hbefore : ∀ d ∈ before.getLast?, kind.holds d = false := by
        intro d hd
        by_contra hholds
        rw [Bool.not_eq_false, ← of?_eq_some_iff] at hholds
        have hnot := hapart d hd kind hholds c rfl
        rw [of?_eq_some_iff.mp hclass] at hnot
        cases hnot
      have hsplit : before ++ run ++ rest.dropWhile kind.holds = line := by
        rw [← hline, List.append_assoc, List.cons_append, List.takeWhile_append_dropWhile]
      subst hoffset
      refine .run hsplit (List.cons_ne_nil _ _) hrun hbefore hafter
        (ih _ hsplit (Text.utf8Length_append _ _) ?_)
      -- the run has been taken to its end
      intro d hd kind' hkind' e he
      rw [List.getLast?_append_of_ne_nil _ (List.cons_ne_nil _ _)] at hd
      have hlast : of? d = some kind := of?_eq_some_iff.mpr (hrun d (List.mem_of_getLast? hd))
      obtain rfl := Option.some.inj (hlast.symm.trans hkind')
      exact hafter e he

theorem scanned_line (line : Text) : Scanned line 0 (ofLine line) :=
  scan_scanned 0 line [] rfl rfl (by rintro d ⟨⟩)

/-- The lexemes of a line stand at its spans. -/
theorem lexed_line (line : Text) : Lexed line ((ofLine line).map span) := by
  have hscan := scanned_line line
  constructor
  · exact List.forall_mem_map.mpr hscan.longest
  · exact List.pairwise_map.mpr hscan.ordered
  · intro i c hc kind hkind
    obtain ⟨l, hl, hholds⟩ := hscan.covered i c hc (Nat.zero_le i) kind hkind
    refine ⟨l.span, ⟨List.mem_map_of_mem hl, hholds⟩, ?_⟩
    rintro s ⟨hs, hs'⟩
    obtain ⟨l', hl', rfl⟩ := List.mem_map.mp hs
    exact (hscan.longest l' hl').eq_of_common (hscan.longest l hl) hc hs' hholds

theorem words_between (line : Text) :
    List.Forall₂ (fun s w => Text.Between line s.start s.stop w) ((ofLine line).map span)
      (words line) := by
  rw [words, List.forall₂_map_left_iff, List.forall₂_map_right_iff, List.forall₂_same]
  exact (scanned_line line).texts

/-- Words of one class each are told from each other by the spaces between them. -/
theorem words_join {ws : List Text}
    (h : ∀ w ∈ ws, w ≠ [] ∧ ∃ kind : LexemeClass, ∀ c ∈ w, kind.holds c = true) :
    words (Text.join [' '] ws) = ws := by
  induction ws with
  | nil => exact words_nil
  | cons w rest ih =>
      obtain ⟨⟨hne, kind, hkind⟩, hrest⟩ := List.forall_mem_cons.mp h
      cases rest with
      | nil =>
          rw [Text.join, List.intercalate_singleton]
          exact words_of_class hne hkind
      | cons next rest =>
          rw [Text.join_cons (List.cons_ne_nil _ _)]
          exact (words_spaced hne hkind _).trans (congrArg (List.cons w) (ih hrest))

/--
**The spans of a line are its longest runs, and it has no others.**

Whatever a line holds, its lexemes stand at the spans of the line: each is a longest run of
characters of one class, from one boundary between characters to another, they follow each other,
and every character of a class is in exactly one. No other list of spans is like that. The words are
the texts at the spans, and with single spaces between them they are read as the same words again.
-/
theorem spans_of_line (line : Text) :
    (∀ spans, Lexed line spans ↔ spans = (ofLine line).map span)
    ∧ List.Forall₂ (fun s w => Text.Between line s.start s.stop w) ((ofLine line).map span)
        (words line)
    ∧ words (Text.join [' '] (words line)) = words line := by
  refine ⟨fun spans => ⟨fun h => h.unique (lexed_line line), ?_⟩, words_between line,
    words_join fun w => mem_words⟩
  rintro rfl
  exact lexed_line line

/-- Bytes are counted: the letters that belong to no word take two bytes each. -/
example : (ofLine "größe>=(y)".toList).map span
    = [⟨0, 2, .word⟩, ⟨6, 7, .word⟩, ⟨7, 9, .operator⟩, ⟨9, 10, .bracket⟩, ⟨10, 11, .word⟩,
        ⟨11, 12, .bracket⟩] := by cbv

end Lexeme

end MigrationScript
