import MigrationScript.Proofs.FileSystem

/-!
# Texts that could not be written

When a text cannot be put into a file, a part of it may have been written all the same. A candid
file system does not pass that part off for the text: what is read from a new file then is less than
what was to be written (`FileSystem.Candid`).

A file tree leaves nothing to be read there at all (`FileTree.candid`). It refuses a text for the
way to the file or for what lies at the end of it, and then the way leads to no file either.
-/

namespace MigrationScript

namespace FileSystem

/-- **A file system that takes no part of a text for the whole.** -/
structure Candid (ω : Type) [FileSystem (StateM ω)] (path : Text) : Prop where
  /-- What can be read of a text that could not be put into a new file is less than the text. -/
  less : ∀ t w w' fault left, ((exists? path : StateM ω Bool).run w).1 = false →
    (putText path t : StateM ω _).run w = (.error fault, w') →
    ((readText path : StateM ω _).run w').1 = .ok left → left <+: t ∧ left ≠ t

end FileSystem

namespace FileTree

variable {tree tree' : FileTree}

/-- What the first part of a path does, if the path can be followed. -/
theorem follow_cons {part : Text} {rest : List Text} {place last : Place}
    (h : tree.follow (part :: rest) place = .ok last) :
    tree.entry? place = some .directory ∧ ∃ move, move? part = .ok move ∧
      tree.follow rest (match move with
        | .stay => place
        | .up => place.dropLast
        | .down name => place ++ [name]) = .ok last := by
  rw [follow] at h
  cases hd : tree.requireDirectory place with
  | error fault => simp [hd, bind, Except.bind] at h
  | ok u =>
      refine ⟨requireDirectory_ok hd, ?_⟩
      simp only [hd, bind, Except.bind] at h
      cases hm : move? part with
      | error fault => simp [hm] at h
      | ok move =>
          simp only [hm] at h
          refine ⟨move, rfl, ?_⟩
          cases move with
          | stay => exact h
          | up => exact h
          | down name =>
              dsimp only at h ⊢
              split at h
              · exact h
              · cases h

/-- Where directories could not be made, no directory is at the end of the way. -/
theorem createAlong_refused {parts : List Text} {place last : Place} {fault : FileFault}
    (h : tree.createAlong parts place = (.error fault, tree'))
    (hfollow : tree'.follow parts place = .ok last) : tree'.entry? last ≠ some .directory := by
  induction parts generalizing tree place with
  | nil =>
      obtain ⟨hd, rfl⟩ := Prod.mk.inj h
      cases hfollow
      intro hentry
      rw [requireDirectory_of_directory hentry] at hd
      cases hd
  | cons part rest ih =>
      obtain ⟨hentry, move, hmove, hfollow⟩ := follow_cons hfollow
      rw [createAlong, hmove] at h
      cases hd : tree.requireDirectory place with
      | error fault' =>
          rw [hd] at h
          obtain ⟨-, rfl⟩ := Prod.mk.inj h
          rw [requireDirectory_of_directory hentry] at hd
          cases hd
      | ok u =>
          rw [hd] at h
          cases move with
          | stay => exact ih h hfollow
          | up => exact ih h hfollow
          | down name =>
              dsimp only at h
              split at h
              · exact ih h hfollow
              · exact ih h hfollow

/-- A file that is found can be written. -/
theorem write_of_find {path name : Text} {way : List Text} {place : Place} {old : Content}
    (hparts : path.splitOn Path.separator = way ++ [name])
    (hname : move? name = .ok (.down name))
    (h : tree.find path = .ok (place, .file old)) (c : Content) :
    ∃ tree', tree.write path c = .ok tree' := by
  obtain ⟨hcheck, hfollow, hentry⟩ := find_eq.mp h
  rw [hparts, follow_append] at hfollow
  cases hway : tree.follow way (tree.start path) with
  | error fault =>
      rw [hway] at hfollow
      cases hfollow
  | ok directory =>
      rw [hway] at hfollow
      obtain ⟨hdirectory, move, hmove, hlast⟩ := follow_cons hfollow
      obtain rfl : .down name = move := Except.ok.inj (hname.symm.trans hmove)
      obtain rfl : directory ++ [name] = place := Except.ok.inj hlast
      have hne : name.isEmpty = false := by
        cases name with
        | nil => cases hname
        | cons c rest => rfl
      have hnames : ((way ++ [name]).reverse.dropWhile List.isEmpty).reverse = way ++ [name] := by
        rw [List.reverse_append, List.reverse_singleton, List.singleton_append,
          List.dropWhile_cons_of_neg (by simp [hne])]
        simp
      refine ⟨tree.put (directory ++ [name]) (.file c), ?_⟩
      simp only [write, hcheck, hparts, hnames, bind, Except.bind, List.dropLast_concat, hway,
        requireDirectory_of_directory hdirectory, Nat.lt_irrefl, if_false, hname, hentry,
        List.getLastD_concat]
      rfl

/-- A text that is read stands in a file at the end of the path. -/
theorem find_of_readText {path t : Text} (h : tree.readText path = .ok t) :
    ∃ place, tree.find path = .ok (place, .file (.text t)) := by
  rw [readText] at h
  cases hfound : tree.find path with
  | error fault =>
      rw [hfound] at h
      cases h
  | ok found =>
      rw [hfound] at h
      obtain ⟨place, entry⟩ := found
      cases entry with
      | directory => cases h
      | file content =>
          cases content with
          | bytes _ => cases h
          | text read =>
              obtain rfl : read = t := Except.ok.inj h
              exact ⟨place, rfl⟩

/-- If a file is found although its directory could not be made, the tree is as it was. -/
theorem unchanged_of_refused {path directory name : Text} {fault : FileFault} {found : Place × Entry}
    (hne : directory ≠ []) (hstart : Path.isAbsolute directory = Path.isAbsolute path)
    (hparts : path.splitOn Path.separator = directory.splitOn Path.separator ++ [name])
    (h : tree.createDirectories directory = (.error fault, tree'))
    (hfind : tree'.find path = .ok found) : tree' = tree := by
  obtain ⟨place, entry⟩ := found
  obtain ⟨-, hfollow, -⟩ := find_eq.mp hfind
  have hgrows := (createDirectories_grows tree directory).1
  rw [h] at hgrows
  rw [createDirectories, if_neg (mt List.isEmpty_iff.mp hne)] at h
  cases hcheck : FileSystem.checkPath directory with
  | error fault' =>
      rw [hcheck] at h
      exact (Prod.mk.inj h).2.symm
  | ok u =>
      rw [hcheck] at h
      rw [hparts, follow_append, start, hgrows.workingDirectory, ← hstart, ← start] at hfollow
      cases hway : tree'.follow (directory.splitOn Path.separator) (tree.start directory) with
      | error fault' =>
          rw [hway] at hfollow
          cases hfollow
      | ok last =>
          rw [hway] at hfollow
          exact absurd (follow_cons hfollow).1 (createAlong_refused h hway)

/-- **A file tree is candid**, for a path that consists of the path of a directory and a name. -/
theorem candid {path : Text} (directory name : Text)
    (hparent : Path.parent? path = some directory)
    (hne : directory ≠ []) (hstart : Path.isAbsolute directory = Path.isAbsolute path)
    (hparts : path.splitOn Path.separator = directory.splitOn Path.separator ++ [name])
    (hname : move? name = .ok (.down name)) : FileSystem.Candid FileTree path where
  less t w w' fault left hnew hput hread := by
    -- nothing is read at all: what is found could have been written, or was there before
    exfalso
    obtain ⟨place, hfind⟩ : ∃ place, w'.find path = .ok (place, .file (.text left)) :=
      find_of_readText hread
    unfold FileSystem.putText at hput
    rw [hparent] at hput
    have hmake : (FileSystem.createDirectories directory : StateM FileTree _).run w
        = w.createDirectories directory := rfl
    rcases hmade : w.createDirectories directory with ⟨answer, w₁⟩
    simp only [StateT.run_bind, hmake, hmade] at hput
    cases answer with
    | error fault' =>
        obtain ⟨-, rfl⟩ := Prod.mk.inj hput
        rw [unchanged_of_refused hne hstart hparts hmade hfind] at hfind
        have hfile := (lasts path).found w _ (content_eq.mpr ⟨place, _, hfind, rfl⟩)
        change (((FileSystem.isFile path : StateM FileTree Bool).run w).1 || _) = false at hnew
        rw [hfile] at hnew
        cases hnew
    | ok u =>
        have hput : (FileSystem.writeText path t : StateM FileTree _).run w₁ = (.error fault, w') :=
          hput
        rw [writeText_run] at hput
        cases hwrite : w₁.write path (.text t) with
        | ok w₂ =>
            rw [hwrite] at hput
            cases hput
        | error fault' =>
            rw [hwrite] at hput
            obtain ⟨-, rfl⟩ := Prod.mk.inj hput
            obtain ⟨w₂, hwritten⟩ := write_of_find hparts hname hfind (.text t)
            rw [hwrite] at hwritten
            cases hwritten

end FileTree

end MigrationScript
