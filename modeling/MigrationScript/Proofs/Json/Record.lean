import MigrationScript.Proofs.Json.Scalar

/-!
# Reading written records

A record is written with each member on a line of its own. It is read back as it was
(`document_written`), and what breaks off inside it is no record at all, wherever it breaks off
(`document_torn`): the closing brace comes last, and nothing else ends an object.
-/

namespace MigrationScript.Json

/-- Members that a record of a shape can have: each has its name and kind in the shape, and no name
comes twice. -/
structure Fits (shape : Shape) (ms : Members) : Prop where
  kind : ∀ m ∈ ms, ∃ kind, shape.lookup m.1 = some kind ∧ kind.Holds m.2
  distinct : (ms.map Prod.fst).Nodup

/-! ## White space -/

theorem dropSpace_append {blank : Text} (h : ∀ c ∈ blank, isSpace c = true) (t : Text) :
    dropSpace (blank ++ t) = dropSpace t := List.dropWhile_append_of_pos h

theorem dropSpace_blank {blank : Text} (h : ∀ c ∈ blank, isSpace c = true) :
    dropSpace blank = [] := by
  rw [← List.append_nil blank, dropSpace_append h]
  rfl

theorem isSpace_lineBreak (level : Nat) : ∀ c ∈ lineBreak level, isSpace c = true := by
  intro c hc
  rcases List.mem_cons.mp hc with rfl | hc
  · rfl
  · rw [(List.mem_replicate.mp hc).2]
    rfl

/-! ## A member -/

/-- A member after the opening quote of its name. -/
def bodyText (m : Text × Value) : Text :=
  m.1.flatMap escapedChar ++ '"' :: ':' :: ' ' :: m.2.writtenAt 1

/-- A member on a line of its own. -/
def memberText (m : Text × Value) : Text := lineBreak 1 ++ '"' :: bodyText m

theorem namedValue_eq {shape : Shape} {name : Text} {kind : Kind}
    (h : shape.lookup name = some kind) (found : Members) (t : Text) :
    (namedValue shape found name).read t =
      (kind.reader.read t).map fun r => (found ++ [(name, r.1)], r.2) := by
  unfold namedValue
  rw [h]
  rfl

/-- A written member is read as that member, whatever comes after it. -/
theorem memberBody_written {shape : Shape} {m : Text × Value} {kind : Kind}
    (hname : shape.lookup m.1 = some kind) (hkind : kind.Holds m.2) {found : Members}
    (hnew : found.lookup m.1 = none) {c : Char} (hc : Closing c) (rest : Text) :
    memberBody shape found (bodyText m ++ c :: rest) = .ok (found ++ [m], c :: rest) := by
  have hbody : bodyText m ++ c :: rest = m.1.flatMap escapedChar ++
      '"' :: (':' :: ' ' :: (m.2.writtenAt 1 ++ c :: rest)) := by
    simp [bodyText]
  have hcolon : ∀ t : Text, colon (':' :: t) = .ok t := fun t => by
    simp [colon, dropSpace_of_not (c := ':') rfl]
  simp only [memberBody, hbody, stringBody_written, hnew, hcolon, namedValue_eq hname,
    read_space hkind, kind_read_written hkind 1 hc, Except.map]
  rfl

/-- From a member that breaks off, or ends the text, nothing is left. -/
theorem memberBody_torn {shape : Shape} {m : Text × Value} {kind : Kind}
    (hname : shape.lookup m.1 = some kind) (hkind : kind.Holds m.2) {found all : Members}
    {cut rest : Text} (hcut : cut <+: bodyText m)
    (hread : memberBody shape found cut = .ok (all, rest)) : rest = [] := by
  rcases prefix_append_cons hcut with hbreak | ⟨cut, rfl, hcut'⟩
  · -- the name breaks off
    have htorn : Beginning cut (m.1.flatMap escapedChar ++ ['"']) := by
      refine ⟨hbreak.trans (List.prefix_append _ _), ?_⟩
      rintro rfl
      have := hbreak.length_le
      rw [List.length_append, List.length_singleton] at this
      omega
    obtain ⟨fault, hf⟩ := stringBody_torn htorn
    simp [memberBody, hf] at hread
  · -- the name is whole, and what is read after it is the value
    simp only [memberBody, stringBody_written] at hread
    split at hread
    · simp at hread
    · cases cut with
      | nil => simp [colon, dropSpace] at hread
      | cons c cut =>
          obtain ⟨rfl, hvalue⟩ := List.cons_prefix_cons.mp hcut'
          have hcolon : colon (':' :: cut) = .ok cut := by
            simp [colon, dropSpace_of_not (c := ':') rfl]
          simp only [hcolon, namedValue_eq hname] at hread
          cases hv : kind.reader.read cut with
          | error fault => simp [hv, Except.map] at hread
          | ok r =>
              simp only [hv, Except.map, Except.ok.injEq, Prod.mk.injEq] at hread
              rw [← hread.2]
              cases cut with
              | nil =>
                  have := kind.reader.shrinks hv
                  simp at this
              | cons d cut =>
                  obtain ⟨rfl, hvalue'⟩ := List.cons_prefix_cons.mp hvalue
                  rw [read_space hkind] at hv
                  exact kind_read_torn hkind hvalue' hv

/-! ## The members of an object -/

theorem members_eq {shape : Shape} {t body : Text} (h : dropSpace t = '"' :: body)
    (found : Members) :
    members shape found t =
      match memberBody shape found body with
      | .error fault => .error fault
      | .ok (found, left) =>
        match dropSpace left with
        | [] => .error .ended
        | c :: rest =>
          if c = '\x7d' then .ok (found, rest)
          else if c = ',' then members shape found rest
          else .error .malformed := by
  rw [members]
  split
  · rename_i hspace
    rw [h] at hspace
    cases hspace
  · rename_i hspace
    rw [h] at hspace
    cases hspace
    split
    · rename_i hbody
      rw [hbody]
    · rename_i hbody
      rw [hbody]
      dsimp only
      split
      · rename_i hleft
        rw [hleft]
      · rename_i hleft
        rw [hleft]
  · rename_i hspace
    exact absurd h (hspace _)

/-- What comes after the first member of an object. -/
def restText : Members → Text
  | [] => ['\n', '\x7d']
  | m :: ms => ',' :: (memberText m ++ restText ms)

theorem dropSpace_memberText (m : Text × Value) (rest : Text) :
    dropSpace (memberText m ++ rest) = '"' :: (bodyText m ++ rest) := by
  rw [memberText, List.append_assoc, dropSpace_append (isSpace_lineBreak 1), List.cons_append,
    dropSpace_of_not rfl]

theorem lookup_eq_none {found : Members} {name : Text} (h : name ∉ found.map Prod.fst) :
    found.lookup name = none := by
  rw [List.lookup_eq_none_iff]
  intro p hp
  rw [bne_iff_ne]
  rintro rfl
  exact h (List.mem_map_of_mem hp)

theorem Fits.head {shape : Shape} {found ms : Members} {m : Text × Value}
    (h : Fits shape (found ++ m :: ms)) :
    ∃ kind, shape.lookup m.1 = some kind ∧ kind.Holds m.2 :=
  h.kind m (by simp)

theorem Fits.new {shape : Shape} {found ms : Members} {m : Text × Value}
    (h : Fits shape (found ++ m :: ms)) : found.lookup m.1 = none := by
  apply lookup_eq_none
  have hdistinct := h.distinct
  rw [List.map_append, List.map_cons] at hdistinct
  intro hmem
  exact (List.nodup_append.mp hdistinct).2.2 m.1 hmem m.1 List.mem_cons_self rfl

/-- **Written members are read as they were.** -/
theorem members_written {shape : Shape} (found : Members) (m : Text × Value) (ms : Members)
    (h : Fits shape (found ++ m :: ms)) :
    members shape found (memberText m ++ restText ms) = .ok (found ++ m :: ms, []) := by
  induction ms generalizing found m with
  | nil =>
      obtain ⟨kind, hname, hkind⟩ := h.head
      have hbody := memberBody_written hname hkind h.new (c := '\n') (.inr rfl) ['\x7d']
      rw [members_eq (dropSpace_memberText m _), restText, hbody]
      rfl
  | cons m' ms ih =>
      obtain ⟨kind, hname, hkind⟩ := h.head
      have hbody := memberBody_written hname hkind h.new (c := ',') (.inl rfl)
        (memberText m' ++ restText ms)
      rw [List.append_cons] at h
      have hrest := ih (found ++ [m]) m' h
      rw [members_eq (dropSpace_memberText m _), restText, hbody]
      simp only [dropSpace_of_not (c := ',') rfl]
      rw [if_neg (by decide), if_pos trivial, hrest, ← List.append_cons]

theorem members_blank {shape : Shape} {found : Members} {t : Text} (h : dropSpace t = []) :
    members shape found t = .error .ended := by
  rw [members]
  split
  · rfl
  · rename_i hspace
    rw [h] at hspace
    cases hspace
  · rename_i hspace _
    exact absurd h hspace

/-- A text that breaks off inside a member is an error. -/
theorem members_torn_member {shape : Shape} {found : Members} {m : Text × Value} {kind : Kind}
    (hname : shape.lookup m.1 = some kind) (hkind : kind.Holds m.2) {cut : Text}
    (hcut : cut <+: memberText m) : ∃ fault, members shape found cut = .error fault := by
  rcases prefix_append_cons hcut with hblank | ⟨cut, rfl, hbody⟩
  · have hspace : ∀ c ∈ cut, isSpace c = true := fun c hc =>
      isSpace_lineBreak 1 c (hblank.subset hc)
    exact ⟨.ended, members_blank (dropSpace_blank hspace)⟩
  · have hquote : dropSpace (lineBreak 1 ++ '"' :: cut) = '"' :: cut := by
      rw [dropSpace_append (isSpace_lineBreak 1), dropSpace_of_not rfl]
    rw [members_eq hquote]
    cases hread : memberBody shape found cut with
    | error fault => exact ⟨fault, rfl⟩
    | ok r =>
        obtain ⟨all, rest⟩ := r
        obtain rfl := memberBody_torn hname hkind hbody hread
        exact ⟨.ended, rfl⟩

/-- **Members that break off are no members.** -/
theorem members_torn {shape : Shape} (found : Members) (m : Text × Value) (ms : Members)
    (h : Fits shape (found ++ m :: ms)) {cut : Text}
    (hcut : Beginning cut (memberText m ++ restText ms)) :
    ∃ fault, members shape found cut = .error fault := by
  induction ms generalizing found m cut with
  | nil =>
      obtain ⟨kind, hname, hkind⟩ := h.head
      rcases hcut.append_cons with hm | ⟨cut, rfl, hrest⟩
      · exact members_torn_member hname hkind hm
      · -- only the closing brace is missing
        have hbody := memberBody_written hname hkind h.new (c := '\n') (.inr rfl) cut
        rw [members_eq (dropSpace_memberText m _), hbody]
        rcases hrest.cons with rfl | ⟨cut, -, hnil⟩
        · exact ⟨_, rfl⟩
        · exact absurd hnil not_beginning_nil
  | cons m' ms ih =>
      obtain ⟨kind, hname, hkind⟩ := h.head
      rcases hcut.append_cons with hm | ⟨cut, rfl, hrest⟩
      · exact members_torn_member hname hkind hm
      · have hbody := memberBody_written hname hkind h.new (c := ',') (.inl rfl) cut
        rw [List.append_cons] at h
        obtain ⟨fault, hf⟩ := ih (found ++ [m]) m' h hrest
        refine ⟨fault, ?_⟩
        rw [members_eq (dropSpace_memberText m _), hbody]
        simp only [dropSpace_of_not (c := ',') rfl]
        rw [if_neg (by decide), if_pos trivial, hf]

/-! ## Documents -/

/-- The start of an object that has members, as far as it goes. -/
theorem dropSpace_cut {m : Text × Value} {ms : Members} {cut : Text}
    (h : cut <+: memberText m ++ restText ms) :
    dropSpace cut = [] ∨ ∃ body, dropSpace cut = '"' :: body := by
  rw [memberText, List.append_assoc, List.cons_append] at h
  rcases prefix_append_cons h with hblank | ⟨body, rfl, -⟩
  · exact .inl (dropSpace_blank fun c hc => isSpace_lineBreak 1 c (hblank.subset hc))
  · refine .inr ⟨body, ?_⟩
    rw [dropSpace_append (isSpace_lineBreak 1), dropSpace_of_not rfl]

theorem record_members {shape : Shape} {m : Text × Value} {ms : Members} {cut : Text}
    (h : cut <+: memberText m ++ restText ms) :
    record shape ('\x7b' :: cut) = members shape [] cut := by
  simp only [record, dropSpace_of_not (c := '\x7b') rfl]
  rcases dropSpace_cut h with hd | ⟨body, hd⟩
  · rw [hd]
  · rw [hd]
    rfl

theorem writtenMembers_eq (ms : Members) :
    writtenMembers 1 ms ++ lineBreak 0 ++ ['\x7d'] = restText ms := by
  induction ms with
  | nil => rfl
  | cons m ms ih =>
      rw [restText, ← ih]
      simp [writtenMembers, memberText, bodyText, writtenString]

theorem written_object (m : Text × Value) (ms : Members) :
    (Value.object (m :: ms)).written = '\x7b' :: (memberText m ++ restText ms) := by
  rw [← writtenMembers_eq]
  simp [Value.written, Value.writtenAt, memberText, bodyText, writtenString]

/-- **A written record is read as it was.** -/
theorem document_written {shape : Shape} {m : Text × Value} {ms : Members}
    (h : Fits shape (m :: ms)) :
    document shape (Value.object (m :: ms)).written = .ok (m :: ms) := by
  have hmembers := members_written [] m ms h
  rw [written_object, document, record_members (List.prefix_refl _), hmembers]
  rfl

/-- **What breaks off inside a written record is no record.** -/
theorem document_torn {shape : Shape} {m : Text × Value} {ms : Members}
    (h : Fits shape (m :: ms)) {cut : Text}
    (hcut : Beginning cut (Value.object (m :: ms)).written) :
    ∃ fault, document shape cut = .error fault := by
  rw [written_object] at hcut
  rcases hcut.cons with rfl | ⟨cut, rfl, hcut'⟩
  · exact ⟨_, rfl⟩
  · obtain ⟨fault, hf⟩ := members_torn [] m ms h hcut'
    refine ⟨fault, ?_⟩
    rw [document, record_members hcut'.1, hf]
    rfl

end MigrationScript.Json
