import MigrationScript.Proofs.FileSystem
import MigrationScript.Proofs.Json.Record
import MigrationScript.Proofs.Text
import MigrationScript.StateFile

/-!
# What a state file remembers

A state file that is written again and again holds the last state that was written, or what is left
of one if the write broke off. From the first the state is read as it was, and from the second none
is read at all. So a version that was once saved is a floor (`Sealed`): whoever opens the file later
finds a version that is no lower, or no state.
-/

namespace MigrationScript

open Json

namespace VersionInfo

/-! ## Version information in a file -/

theorem fits_toMembers (info : VersionInfo) : Fits shape info.toMembers where
  kind := by
    intro m hm
    simp only [toMembers, List.mem_cons, List.not_mem_nil, or_false] at hm
    rcases hm with rfl | rfl | rfl | rfl | rfl
    · exact ⟨.natural, rfl, .natural info.version⟩
    · exact ⟨.string, rfl, .string info.app⟩
    · exact ⟨.string, rfl, .string info.change⟩
    · exact ⟨.boolean, rfl, .boolean info.shown⟩
    · exact ⟨.boolean, rfl, .boolean info.hidden⟩
  distinct := by
    simp only [toMembers, List.map_cons, List.map_nil]
    decide

/-- Version information is read from a file as it was written. -/
theorem ofJson_toJson (info : VersionInfo) : ofJson info.toJson = .ok info := by
  have h := document_written info.fits_toMembers
  rw [ofJson, toJson, toMembers, h]
  change Except.ok (ofMembers info.toMembers) = .ok info
  have hversion : info.toMembers.number? "version" = some info.version.toNat := rfl
  have happ : info.toMembers.text? "app" = some info.app := rfl
  have hchange : info.toMembers.text? "change" = some info.change := rfl
  have hshown : info.toMembers.bool? "show" = some info.shown := rfl
  have hhidden : info.toMembers.bool? "hide" = some info.hidden := rfl
  simp [ofMembers, hversion, happ, hchange, hshown, hhidden]

/-- From a file that breaks off nothing is read. -/
theorem ofJson_torn {info : VersionInfo} {cut : Text} (h : Beginning cut info.toJson) :
    ∃ fault, ofJson cut = .error fault := by
  obtain ⟨fault, hf⟩ := document_torn info.fits_toMembers h
  exact ⟨fault, by rw [ofJson, hf]; rfl⟩

end VersionInfo

namespace StateFile

variable {ω : Type} {path : Text} {content : ω → Option (List UInt8)} {version : UInt32}

/-! ## A version as a floor -/

/-- Bytes of a state at a version or a later one. -/
def Whole (version : UInt32) (bytes : List UInt8) : Prop :=
  ∃ info : VersionInfo, version ≤ info.version ∧ bytes = Text.utf8 info.toJson

/-- Bytes that begin those of a state at a version or a later one. -/
def Sealed (version : UInt32) (bytes : List UInt8) : Prop :=
  ∃ info : VersionInfo, version ≤ info.version ∧ bytes <+: Text.utf8 info.toJson

theorem Whole.sealed {bytes : List UInt8} (h : Whole version bytes) : Sealed version bytes := by
  obtain ⟨info, hversion, rfl⟩ := h
  exact ⟨info, hversion, List.prefix_refl _⟩

/-- **No lower version is read from a sealed file.** -/
theorem Sealed.read {t : Text} {found : VersionInfo} (h : Sealed version (Text.utf8 t))
    (hfound : VersionInfo.ofJson t = .ok found) : version ≤ found.version := by
  obtain ⟨info, hversion, hbytes⟩ := h
  have hbegins := Text.prefix_of_utf8_prefix hbytes
  by_cases hwhole : t = info.toJson
  · -- the state was written to its end, and reads as it was
    rw [hwhole, VersionInfo.ofJson_toJson] at hfound
    obtain rfl := Except.ok.inj hfound
    exact hversion
  · -- it broke off, and does not read at all
    obtain ⟨fault, hf⟩ := VersionInfo.ofJson_torn ⟨hbegins, hwhole⟩
    rw [hf] at hfound
    cases hfound

theorem Whole.read {t : Text} (h : Whole version (Text.utf8 t)) :
    ∃ found, VersionInfo.ofJson t = .ok found := by
  obtain ⟨info, -, hbytes⟩ := h
  have hle : t <+: info.toJson := Text.prefix_of_utf8_prefix (hbytes ▸ List.prefix_refl _)
  have hge : info.toJson <+: t := Text.prefix_of_utf8_prefix (hbytes ▸ List.prefix_refl _)
  obtain rfl := hle.eq_of_length_le hge.length_le
  exact ⟨info, VersionInfo.ofJson_toJson info⟩

/-- What two operations leave in a row. -/
theorem run_bind {α β : Type} (x : StateM ω α) (f : α → StateM ω β) (w : ω) :
    (x >>= f).run w = (f (x.run w).1).run (x.run w).2 := rfl

/-- The file is there, and its bytes have a property. -/
def Holds (content : ω → Option (List UInt8)) (p : List UInt8 → Prop) (w : ω) : Prop :=
  ∃ bytes, content w = some bytes ∧ p bytes

/-- An operation that leaves a state at a version or a later one if it succeeds, and breaks no seal
of the version if it fails. -/
structure Seals (content : ω → Option (List UInt8)) (version : UInt32) {ε : Type}
    (operation : StateM ω (Except ε Unit)) : Prop where
  succeeds : ∀ w, (operation.run w).1 = .ok () → Holds content (Whole version) (operation.run w).2
  keeps : ∀ w, Holds content (Sealed version) w →
    Holds content (Sealed version) (operation.run w).2

/-! ## Loading -/

variable [FileSystem (StateM ω)]

/-- Loading from a file that is there reads what the file holds, and leaves it as it is. -/
theorem load_there (hlasts : FileSystem.Lasts path content) {w : ω} {bytes : List UInt8}
    (h : content w = some bytes) (app : Text) :
    content ((load path app : StateM ω _).run w).2 = some bytes ∧
      ((∃ fault, ((load path app : StateM ω _).run w).1 = .error (.file fault)) ∨
        ∃ t, Text.utf8 t = bytes ∧ ((load path app : StateM ω _).run w).1 =
          match VersionInfo.ofJson t with
          | .error fault => .error (.record fault)
          | .ok info => .ok ⟨path, info⟩) := by
  have hfound := hlasts.found w bytes h
  have hfile := hlasts.isFile w bytes h
  have hdirectory := hlasts.isDirectory _ bytes hfile
  have hread := hlasts.readText _ bytes hdirectory
  unfold load FileSystem.exists? Json.load
  simp only [run_bind, hfound, Bool.true_or]
  rw [show (pure true : StateM ω Bool).run = fun w => (true, w) from rfl]
  dsimp only
  rw [if_pos rfl]
  simp only [run_bind]
  generalize ((FileSystem.isDirectory path : StateM ω Bool).run _).2 = w' at hdirectory hread ⊢
  cases hr : ((FileSystem.readText path : StateM ω _).run w').1 with
  | error fault => exact ⟨hread, .inl ⟨fault, rfl⟩⟩
  | ok t =>
      have ht : Text.utf8 t = bytes := by
        rw [hlasts.read w' t hr] at hdirectory
        exact Option.some.inj hdirectory
      dsimp only
      cases hj : VersionInfo.ofJson t with
      | error fault => exact ⟨hread, .inr ⟨t, ht, by rw [hj]; rfl⟩⟩
      | ok info => exact ⟨hread, .inr ⟨t, ht, by rw [hj]; rfl⟩⟩

/-- A state that is loaded from a path stays at that path. -/
theorem load_path {app : Text} {w : ω} {state : StateFile}
    (h : ((load path app : StateM ω _).run w).1 = .ok state) : state.path = path := by
  unfold load at h
  rw [run_bind] at h
  split at h
  · rw [run_bind] at h
    split at h
    · cases h
      rfl
    · cases h
  · cases h
    rfl

/-- **Whoever loads a state from a sealed file finds a version that is no lower.** -/
theorem load_sealed (hlasts : FileSystem.Lasts path content) {w : ω}
    (h : Holds content (Sealed version) w) {app : Text} {state : StateFile}
    (hload : ((load path app : StateM ω _).run w).1 = .ok state) :
    version ≤ state.info.version := by
  obtain ⟨bytes, hcontent, hsealed⟩ := h
  rcases (load_there hlasts hcontent app).2 with ⟨fault, hf⟩ | ⟨t, rfl, ht⟩
  · rw [hf] at hload
    cases hload
  · rw [hload] at ht
    cases hj : VersionInfo.ofJson t with
    | error fault =>
        rw [hj] at ht
        cases ht
    | ok info =>
        rw [hj] at ht
        cases ht
        exact hsealed.read hj

/-- A file that holds a state can be loaded, unless it cannot be read. -/
theorem load_whole (hlasts : FileSystem.Lasts path content) {w : ω}
    (h : Holds content (Whole version) w) (app : Text) :
    (∃ fault, ((load path app : StateM ω _).run w).1 = .error (.file fault)) ∨
      ∃ state, ((load path app : StateM ω _).run w).1 = .ok state := by
  obtain ⟨bytes, hcontent, hwhole⟩ := h
  rcases (load_there hlasts hcontent app).2 with hf | ⟨t, rfl, ht⟩
  · exact .inl hf
  · obtain ⟨info, hj⟩ := hwhole.read
    rw [hj] at ht
    exact .inr ⟨_, ht⟩

/-! ## Saving -/

theorem writeText_seals (hlasts : FileSystem.Lasts path content) {info : VersionInfo}
    (h : version ≤ info.version) :
    Seals content version (FileSystem.writeText path info.toJson : StateM ω _) where
  succeeds w hw := ⟨_, hlasts.written w _ hw, info, h, rfl⟩
  keeps w hsealed := by
    cases hw : ((FileSystem.writeText path info.toJson : StateM ω _).run w).1 with
    | ok u => exact ⟨_, hlasts.written w _ hw, info, h, List.prefix_refl _⟩
    | error fault =>
        obtain ⟨bytes, hbytes, hold⟩ := hsealed
        -- the old bytes are left, or a beginning of the new ones
        obtain ⟨left, hleft, rfl | hnew⟩ := hlasts.torn w _ bytes fault hbytes hw
        · exact ⟨_, hleft, hold⟩
        · exact ⟨_, hleft, info, h, hnew⟩

/-- Writing a state seals its version, or any version that is no greater. -/
theorem write_seals (state : StateFile) (hlasts : FileSystem.Lasts state.path content)
    (h : version ≤ state.info.version) : Seals content version (state.write : StateM ω _) := by
  have htext := writeText_seals hlasts h
  unfold write FileSystem.putText
  cases Path.parent? state.path with
  | none => exact htext
  | some directory =>
      -- the directories on the way are made first, which leaves the file alone
      have hleaves := hlasts.createDirectories directory
      constructor
      · intro w hw
        simp only [run_bind] at hw ⊢
        cases hd : ((FileSystem.createDirectories directory : StateM ω _).run w).1 with
        | ok u =>
            rw [hd] at hw
            exact htext.succeeds _ hw
        | error fault =>
            rw [hd] at hw
            cases hw
      · rintro w ⟨bytes, hbytes, hsealed⟩
        have hafter : Holds content (Sealed version)
            ((FileSystem.createDirectories directory : StateM ω _).run w).2 :=
          ⟨bytes, hleaves w bytes hbytes, hsealed⟩
        simp only [run_bind]
        cases ((FileSystem.createDirectories directory : StateM ω _).run w).1 with
        | ok u => exact htext.keeps _ hafter
        | error fault => exact hafter

/-- Saves a version, as a run asks for it. -/
def saver (state : StateFile) (version : UInt32) : StateM ω (Except String Unit) := do
  let (answer, _) ← state.save version
  return answer

/-- **A version that is saved is sealed**, and so are those below it. -/
theorem saver_seals {state : StateFile} (hlasts : FileSystem.Lasts state.path content)
    {saved : UInt32} (h : version ≤ saved) :
    Seals content version (state.saver saved : StateM ω _) := by
  have hwrite : Seals content version ((state.withVersion saved).write : StateM ω _) :=
    write_seals (state.withVersion saved) hlasts h
  unfold saver save
  constructor
  · intro w hw
    simp only [run_bind] at hw ⊢
    cases hd : (((state.withVersion saved).write : StateM ω _).run w).1 with
    | ok u =>
        rw [hd] at hw
        exact hwrite.succeeds w hd
    | error fault =>
        rw [hd] at hw
        cases hw
  · intro w hsealed
    simp only [run_bind]
    cases (((state.withVersion saved).write : StateM ω _).run w).1 with
    | ok u => exact hwrite.keeps w hsealed
    | error fault => exact hwrite.keeps w hsealed

end StateFile

end MigrationScript
