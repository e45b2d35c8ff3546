import Mathlib
import MigrationScript.FileSystem.Tree

/-!
# Files that last

What one file holds, as long as nobody but the program writes it. A file system need not be kind for
that: reading may fail at any time, and a write that fails may break off anywhere and leave a
beginning of what was to be written. It only has to keep what it has taken (`FileSystem.Lasts`), and
a file tree does (`FileTree.lasts`).

More is asked of a file system for what was written to be read (`FileSystem.Faithful`): it changes
by writing only, and a file that has just been written is there and can be read. A file tree does
that too (`FileTree.faithful`).
-/

namespace MigrationScript.FileSystem

variable {ω : Type}

/-- An operation leaves a file that is there as it is. -/
def Leaves (content : ω → Option (List UInt8)) {α : Type} (operation : StateM ω α) : Prop :=
  ∀ w bytes, content w = some bytes → content (operation.run w).2 = some bytes

/-- **What a file system does for a file**, seen by the bytes that the file holds, if it is there. -/
structure Lasts [FileSystem (StateM ω)] (path : Text) (content : ω → Option (List UInt8)) :
    Prop where
  /-- A file that is there is found. -/
  found : ∀ w bytes, content w = some bytes → ((isFile path : StateM ω Bool).run w).1 = true
  /-- Looking leaves the file as it is, and so does making directories. -/
  isFile : Leaves content (isFile path : StateM ω Bool)
  isDirectory : Leaves content (isDirectory path : StateM ω Bool)
  readText : Leaves content (readText path : StateM ω _)
  createDirectories : ∀ directory, Leaves content (createDirectories directory : StateM ω _)
  /-- What is read is what the file holds. -/
  read : ∀ w t, ((FileSystem.readText path : StateM ω _).run w).1 = .ok t →
    content w = some (Text.utf8 t)
  /-- What is written is what the file holds then. -/
  written : ∀ w t, ((writeText path t : StateM ω _).run w).1 = .ok () →
    content ((writeText path t : StateM ω _).run w).2 = some (Text.utf8 t)
  /-- A write that fails leaves the file as it was, or breaks off. -/
  torn : ∀ w t bytes fault, content w = some bytes →
    ((writeText path t : StateM ω _).run w).1 = .error fault →
    ∃ left, content ((writeText path t : StateM ω _).run w).2 = some left
      ∧ (left = bytes ∨ left <+: Text.utf8 t)

/-- An operation that only looks leaves everything as it is. -/
def Looks {α : Type} (operation : StateM ω α) : Prop := ∀ w, (operation.run w).2 = w

theorem Looks.run {α : Type} {operation : StateM ω α} (h : Looks operation) (w : ω) :
    operation.run w = ((operation.run w).1, w) := Prod.ext rfl (h w)

theorem looks_pure {α : Type} (a : α) : Looks (pure a : StateM ω α) := fun _ => rfl

theorem looks_bind {α β : Type} {first : StateM ω α} {next : α → StateM ω β} (h : Looks first)
    (hnext : ∀ a, Looks (next a)) : Looks (first >>= next) := by
  intro w
  exact (hnext (first.run w).1 (first.run w).2).trans (h w)

/-- **A file system that gives back what it has taken.** -/
structure Faithful (ω : Type) [FileSystem (StateM ω)] : Prop where
  /-- Looking changes nothing. -/
  isFile : ∀ path, Looks (isFile path : StateM ω Bool)
  isDirectory : ∀ path, Looks (isDirectory path : StateM ω Bool)
  readText : ∀ path, Looks (readText path : StateM ω _)
  /-- A file that has been written is there. -/
  found : ∀ path t w w', (writeText path t : StateM ω _).run w = (.ok (), w') →
    ((FileSystem.isFile path : StateM ω Bool).run w').1 = true
  /-- What is read is what was written. -/
  read : ∀ path t w w', (writeText path t : StateM ω _).run w = (.ok (), w') →
    ((FileSystem.readText path : StateM ω _).run w').1 = .ok t

namespace Faithful

variable [FileSystem (StateM ω)] (hfs : Faithful ω)

include hfs

theorem exists? (path : Text) : Looks (exists? path : StateM ω Bool) :=
  looks_bind (hfs.isFile path) fun _ => looks_bind (hfs.isDirectory path) fun _ => looks_pure _

/-- A text that has been put into a file is found there. -/
theorem putText_found {path t : Text} {w w' : ω}
    (h : (putText path t : StateM ω _).run w = (.ok (), w')) :
    ((FileSystem.exists? path : StateM ω Bool).run w').1 = true
      ∧ (FileSystem.readText path : StateM ω _).run w' = (.ok t, w') := by
  have hwritten : ∃ w₁, (writeText path t : StateM ω _).run w₁ = (.ok (), w') := by
    unfold putText at h
    cases hparent : Path.parent? path with
    | none =>
        rw [hparent] at h
        exact ⟨w, h⟩
    | some directory =>
        -- the text is written once the directories are there
        rw [hparent] at h
        cases hd : (createDirectories directory : StateM ω _).run w with
        | mk answer w₁ =>
            simp only [StateT.run_bind, hd] at h
            cases answer with
            | ok u => exact ⟨w₁, h⟩
            | error fault => cases h
  obtain ⟨w₁, hwritten⟩ := hwritten
  constructor
  · change (((FileSystem.isFile path : StateM ω Bool).run w').1 || _) = true
    rw [hfs.found path t w₁ w' hwritten, Bool.true_or]
  · rw [(hfs.readText path).run, hfs.read path t w₁ w' hwritten]

end Faithful

end MigrationScript.FileSystem

/-! ## File trees -/

namespace MigrationScript

/-- The bytes that a content is stored as. -/
def Content.stored : Content → List UInt8
  | .text t => Text.utf8 t
  | .bytes b => b

namespace FileTree

variable {tree tree' : FileTree}

/-- The bytes of a file at the end of a path, if a file is there. -/
def content (path : Text) (tree : FileTree) : Option (List UInt8) :=
  match tree.find path with
  | .ok (_, .file c) => some c.stored
  | _ => none

/-- A tree with at least what another one has: its directories are directories, and where something
lay something lies. -/
structure Grows (tree tree' : FileTree) : Prop where
  workingDirectory : tree'.workingDirectory = tree.workingDirectory
  directory : ∀ place, tree.entry? place = some .directory → tree'.entry? place = some .directory
  entry : ∀ place, (tree.entry? place).isSome → (tree'.entry? place).isSome

theorem Grows.refl (tree : FileTree) : tree.Grows tree := ⟨rfl, fun _ h => h, fun _ h => h⟩

theorem Grows.trans {tree'' : FileTree} (h : tree.Grows tree') (h' : tree'.Grows tree'') :
    tree.Grows tree'' :=
  ⟨h'.workingDirectory.trans h.workingDirectory, fun p hp => h'.directory p (h.directory p hp),
    fun p hp => h'.entry p (h.entry p hp)⟩

theorem requireDirectory_ok {place : Place} (h : tree.requireDirectory place = .ok ()) :
    tree.entry? place = some .directory := by
  unfold requireDirectory at h
  split at h
  · assumption
  · simp at h
  · simp at h

theorem requireDirectory_of_directory {place : Place}
    (h : tree.entry? place = some .directory) : tree.requireDirectory place = .ok () := by
  rw [requireDirectory, h]

/-- Where a path leads in a tree it leads in a tree that has more. -/
theorem Grows.follow (h : tree.Grows tree') {parts : List Text} {place last : Place}
    (hf : tree.follow parts place = .ok last) : tree'.follow parts place = .ok last := by
  induction parts generalizing place with
  | nil => exact hf
  | cons part rest ih =>
      rw [FileTree.follow] at hf ⊢
      cases hd : tree.requireDirectory place with
      | error fault => simp [hd, bind, Except.bind] at hf
      | ok u =>
          have hd' := requireDirectory_of_directory (h.directory _ (requireDirectory_ok hd))
          simp only [hd, hd', bind, Except.bind] at hf ⊢
          cases hm : move? part with
          | error fault => simp [hm] at hf
          | ok move =>
              simp only [hm] at hf ⊢
              cases move with
              | stay => exact ih hf
              | up => exact ih hf
              | down name =>
                  dsimp only at hf ⊢
                  split at hf
                  · -- something lies there, and still does
                    rename_i hsome
                    rw [if_pos (h.entry _ hsome)]
                    exact ih hf
                  · simp at hf

theorem follow_append (tree : FileTree) (parts rest : List Text) (place : Place) :
    tree.follow (parts ++ rest) place = (tree.follow parts place >>= tree.follow rest) := by
  induction parts generalizing place with
  | nil => rfl
  | cons part parts ih =>
      rw [List.cons_append, FileTree.follow, FileTree.follow]
      cases tree.requireDirectory place with
      | error fault => rfl
      | ok u =>
          cases hm : move? part with
          | error fault => rfl
          | ok move =>
              cases move with
              | stay => exact ih _
              | up => exact ih _
              | down name =>
                  simp only [bind, Except.bind]
                  split
                  · exact ih _
                  · rfl

/-! ## Changing one entry -/

theorem lookup_filter_ne {place p : Place} (hp : p ≠ place) (entries : List (Place × Entry)) :
    (entries.filter fun e => e.1 ≠ place).lookup p = entries.lookup p := by
  induction entries with
  | nil => rfl
  | cons e rest ih =>
      obtain ⟨q, entry⟩ := e
      by_cases hq : q = place
      · -- an entry that is filtered out was not the one looked for
        rw [List.filter_cons_of_neg (by simp [hq]), ih, List.lookup_cons]
        have hpq : (p == q) = false := by
          rw [hq]
          exact beq_false_of_ne hp
        rw [hpq]
      · rw [List.filter_cons_of_pos (by simp [hq]), List.lookup_cons, List.lookup_cons, ih]

/-- What lies in a tree after something was put at a place. -/
theorem put_entry {place : Place} (hplace : place ≠ []) (entry : Entry) (p : Place) :
    entry? (tree.put place entry) p = if p = place then some entry else tree.entry? p := by
  unfold entry? put
  by_cases hp : p = place
  · subst hp
    simp [hplace]
  · rw [if_neg hp, List.lookup_cons, beq_false_of_ne hp, lookup_filter_ne hp]

/-- A tree grows by what is put at a place, unless that was a directory. -/
theorem grows_put {place : Place} (hplace : place ≠ []) (entry : Entry)
    (h : tree.entry? place ≠ some .directory) : tree.Grows (tree.put place entry) := by
  refine ⟨rfl, ?_, ?_⟩
  · intro p hp
    have hne : p ≠ place := by
      rintro rfl
      exact h hp
    rw [put_entry hplace, if_neg hne, hp]
  · intro p hp
    rw [put_entry hplace]
    split
    · rfl
    · exact hp

/-- A tree with all the files that another one has, and with the same content. -/
def KeepsFiles (tree tree' : FileTree) : Prop :=
  ∀ place c, tree.entry? place = some (.file c) → tree'.entry? place = some (.file c)

theorem createAlong_grows (parts : List Text) (tree : FileTree) (place : Place) :
    tree.Grows (tree.createAlong parts place).2
      ∧ tree.KeepsFiles (tree.createAlong parts place).2 := by
  induction parts generalizing tree place with
  | nil => exact ⟨.refl tree, fun _ _ h => h⟩
  | cons part rest ih =>
      rw [createAlong]
      split
      · exact ⟨.refl tree, fun _ _ h => h⟩
      · exact ⟨.refl tree, fun _ _ h => h⟩
      · exact ih tree place
      · exact ih tree place.dropLast
      · rename_i name _ _
        dsimp only
        split
        · exact ih tree _
        · -- a directory is made where nothing was, so no file is lost
          rename_i hnone
          have hne : place ++ [name] ≠ [] := by simp
          have habsent : tree.entry? (place ++ [name]) = none := by simpa using hnone
          obtain ⟨hgrows, hkeeps⟩ := ih (tree.put (place ++ [name]) .directory) (place ++ [name])
          refine ⟨.trans (grows_put hne _ (by simp [habsent])) hgrows, ?_⟩
          intro p c hp
          apply hkeeps
          rw [put_entry hne, if_neg (fun he => by simp [he, habsent] at hp), hp]

theorem createDirectories_grows (tree : FileTree) (path : Text) :
    tree.Grows (tree.createDirectories path).2
      ∧ tree.KeepsFiles (tree.createDirectories path).2 := by
  unfold createDirectories
  split
  · exact ⟨.refl tree, fun _ _ h => h⟩
  · split
    · exact ⟨.refl tree, fun _ _ h => h⟩
    · exact createAlong_grows _ tree _

/-! ## Reading and writing a file -/

/-- What a path leads to. -/
theorem find_eq {path : Text} {place : Place} {entry : Entry} :
    tree.find path = .ok (place, entry) ↔
      FileSystem.checkPath path = .ok () ∧
        tree.follow (path.splitOn Path.separator) (tree.start path) = .ok place ∧
        tree.entry? place = some entry := by
  unfold find
  cases FileSystem.checkPath path with
  | error fault => simp [bind, Except.bind]
  | ok u =>
      cases tree.follow (path.splitOn Path.separator) (tree.start path) with
      | error fault => simp [bind, Except.bind]
      | ok last =>
          simp only [bind, Except.bind, pure, Except.pure, true_and, Except.ok.injEq]
          cases he : tree.entry? last with
          | none =>
              -- the way is there, but nothing lies at its end
              refine ⟨fun h => by simp at h, ?_⟩
              rintro ⟨rfl, h⟩
              rw [he] at h
              cases h
          | some entry' =>
              simp only [Except.ok.injEq, Prod.mk.injEq]
              constructor
              · rintro ⟨rfl, rfl⟩
                exact ⟨rfl, he⟩
              · rintro ⟨rfl, h⟩
                rw [he] at h
                exact ⟨rfl, Option.some.inj h⟩

theorem content_eq {path : Text} {bytes : List UInt8} :
    content path tree = some bytes ↔
      ∃ place c, tree.find path = .ok (place, .file c) ∧ c.stored = bytes := by
  unfold content
  split
  · rename_i place c hf
    constructor
    · intro h
      exact ⟨place, c, hf, Option.some.inj h⟩
    · rintro ⟨place', c', hf', rfl⟩
      rw [hf] at hf'
      cases hf'
      rfl
  · rename_i hno
    refine ⟨fun h => by simp at h, ?_⟩
    rintro ⟨place, c, hf, -⟩
    exact absurd hf (hno place c)

theorem Grows.content (h : tree.Grows tree') (hfiles : tree.KeepsFiles tree') {path : Text}
    {bytes : List UInt8} (hc : content path tree = some bytes) :
    content path tree' = some bytes := by
  obtain ⟨place, c, hf, hbytes⟩ := content_eq.mp hc
  obtain ⟨hcheck, hfollow, hentry⟩ := find_eq.mp hf
  refine content_eq.mpr ⟨place, c, find_eq.mpr ⟨hcheck, ?_, hfiles place c hentry⟩, hbytes⟩
  rw [start, h.workingDirectory]
  exact h.follow hfollow

theorem move?_down {part name : Text} (h : move? part = .ok (.down name)) : name = part := by
  unfold move? at h
  split at h
  · simp at h
  · split at h
    · simp at h
    · split at h
      · simp at h
      · simpa using h.symm

theorem dropEmptyEnd_prefix (parts : List Text) :
    (parts.reverse.dropWhile List.isEmpty).reverse <+: parts := by
  rw [← List.reverse_suffix, List.reverse_reverse]
  exact List.dropWhile_suffix _

/-- The parts of a path that a file can be written to: the way to its directory, and its name. -/
theorem write_eq {path : Text} {c : Content} (h : tree.write path c = .ok tree') :
    ∃ way name directory, path.splitOn Path.separator = way ++ [name]
      ∧ FileSystem.checkPath path = .ok ()
      ∧ tree.follow way (tree.start path) = .ok directory
      ∧ tree.entry? directory = some .directory
      ∧ move? name = .ok (.down name)
      ∧ tree.entry? (directory ++ [name]) ≠ some .directory
      ∧ tree' = tree.put (directory ++ [name]) (.file c) := by
  have hwhole := dropEmptyEnd_prefix (path.splitOn Path.separator)
  unfold write at h
  dsimp only at h
  generalize path.splitOn Path.separator = parts at h hwhole ⊢
  generalize (parts.reverse.dropWhile List.isEmpty).reverse = names at h hwhole
  cases hcheck : FileSystem.checkPath path with
  | error fault => simp [hcheck, bind, Except.bind] at h
  | ok u =>
      cases hway : tree.follow names.dropLast (tree.start path) with
      | error fault => simp [hcheck, hway, bind, Except.bind] at h
      | ok directory =>
          cases hdir : tree.requireDirectory directory with
          | error fault => simp [hcheck, hway, hdir, bind, Except.bind] at h
          | ok u' =>
              simp only [hcheck, hway, hdir, bind, Except.bind] at h
              split at h
              · simp at h
              · -- no empty part at the end: the path ends in the name
                rename_i hlength
                obtain rfl := hwhole.eq_of_length_le (Nat.le_of_not_lt hlength)
                split at h
                · simp at h
                · rename_i move hmove
                  split at h
                  · rename_i name
                    obtain rfl := move?_down hmove
                    split at h
                    · simp at h
                    · rename_i hfree
                      have hne : names ≠ [] := by
                        rintro rfl
                        simp [move?, Path.isIdle] at hmove
                      rw [List.getLastD_eq_getLast?, List.getLast?_eq_some_getLast hne,
                        Option.getD_some] at h hmove hfree
                      refine ⟨names.dropLast, names.getLast hne, directory,
                        (List.dropLast_concat_getLast hne).symm, rfl, hway,
                        requireDirectory_ok hdir, hmove, ?_, (Except.ok.inj h).symm⟩
                      exact fun he => hfree he
                  · simp at h

/-- A path that was written to leads to what was written. -/
theorem find_write {path : Text} {c : Content} (h : tree.write path c = .ok tree') :
    ∃ place, tree'.find path = .ok (place, .file c) := by
  obtain ⟨way, name, directory, hparts, hcheck, hway, hdirectory, hname, hfree, rfl⟩ := write_eq h
  have hne : directory ++ [name] ≠ [] := by simp
  have hgrows := grows_put hne (.file c) hfree
  have hentry : entry? (tree.put (directory ++ [name]) (.file c)) (directory ++ [name])
      = some (.file c) := by
    rw [put_entry hne, if_pos rfl]
  refine ⟨directory ++ [name], find_eq.mpr ⟨hcheck, ?_, hentry⟩⟩
  rw [hparts, follow_append, start, hgrows.workingDirectory]
  have hway' := hgrows.follow hway
  rw [start] at hway'
  rw [hway']
  change (tree.put (directory ++ [name]) (.file c)).follow [name] directory = _
  rw [FileTree.follow, requireDirectory_of_directory (hgrows.directory _ hdirectory), hname]
  simp only [bind, Except.bind, hentry, Option.isSome_some, if_true]
  rfl

/-- A path that can be written to is read as what was written. -/
theorem content_write {path : Text} {c : Content} (h : tree.write path c = .ok tree') :
    content path tree' = some c.stored := by
  obtain ⟨place, hfind⟩ := find_write h
  exact content_eq.mpr ⟨place, c, hfind, rfl⟩

theorem writeText_run (tree : FileTree) (path t : Text) :
    (FileSystem.writeText path t : StateM FileTree _).run tree =
      match tree.write path (.text t) with
      | .ok tree' => (.ok (), tree')
      | .error fault => (.error fault, tree) := by
  change (match tree.write path (.text t) with
    | .ok tree' => (do set tree'; return .ok () : StateM FileTree (Except FileFault Unit))
    | .error fault => return .error fault).run tree = _
  cases tree.write path (.text t) with
  | ok tree' => rfl
  | error fault => rfl

/-- **A file in a file tree lasts.** -/
theorem lasts (path : Text) : FileSystem.Lasts path (content path) where
  found w bytes h := by
    obtain ⟨place, c, hf, -⟩ := content_eq.mp h
    change (match w.find path with | .ok (_, .file _) => true | _ => false) = true
    rw [hf]
  isFile w bytes h := h
  isDirectory w bytes h := h
  readText w bytes h := h
  createDirectories directory w bytes h :=
    (createDirectories_grows w directory).1.content (createDirectories_grows w directory).2 h
  read w t h := by
    change w.readText path = .ok t at h
    unfold readText at h
    cases hf : w.find path with
    | error fault => simp [hf, bind, Except.bind] at h
    | ok r =>
        obtain ⟨place, entry⟩ := r
        simp only [hf, bind, Except.bind] at h
        match entry, h with
        | .file (.text t'), h =>
            obtain rfl : t' = t := Except.ok.inj h
            exact content_eq.mpr ⟨place, _, hf, rfl⟩
        | .file (.bytes _), h => cases h
        | .directory, h => cases h
  written w t h := by
    cases hw : w.write path (.text t) with
    | error fault =>
        rw [writeText_run, hw] at h
        cases h
    | ok w' =>
        rw [writeText_run, hw]
        exact content_write hw
  torn w t bytes fault h hfail := by
    cases hw : w.write path (.text t) with
    | error fault' =>
        -- a write that fails puts nothing into the tree
        rw [writeText_run, hw]
        exact ⟨bytes, h, .inl rfl⟩
    | ok w' =>
        rw [writeText_run, hw] at hfail
        cases hfail

/-- **A file tree gives back what it has taken.** -/
theorem faithful : FileSystem.Faithful FileTree := by
  have hfind : ∀ (path t : Text) (w w' : FileTree),
      (FileSystem.writeText path t : StateM FileTree _).run w = (.ok (), w') →
      ∃ place, w'.find path = .ok (place, .file (.text t)) := by
    intro path t w w' h
    rw [writeText_run] at h
    cases hw : w.write path (.text t) with
    | error fault =>
        rw [hw] at h
        cases h
    | ok tree' =>
        rw [hw] at h
        cases h
        exact find_write hw
  constructor
  · exact fun _ _ => rfl
  · exact fun _ _ => rfl
  · exact fun _ _ => rfl
  · intro path t w w' h
    obtain ⟨place, hplace⟩ := hfind path t w w' h
    change (match w'.find path with | .ok (_, .file _) => true | _ => false) = true
    rw [hplace]
  · intro path t w w' h
    obtain ⟨place, hplace⟩ := hfind path t w w' h
    change w'.readText path = .ok t
    rw [readText, hplace]
    rfl

end FileTree

end MigrationScript
