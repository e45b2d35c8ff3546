import Mathlib
import MigrationScript.Catalog
import MigrationScript.Proofs.Case

/-!
# What a catalog answers

A catalog answers a question from one of its lists. Which one follows from the kind of object and
from whether the name has a point (`Catalog.listFor`). Of that list only the set of names counts,
each in its upper case (`Catalog.has_ofGuard`). The upper case of a name has a point exactly if the
name has one, so the case of a name does not decide where it is looked up.
-/

namespace MigrationScript

/-! ## Lists of names -/

/-- Whether a name is listed, in any case. -/
def Listed (listed : List Text) (name : Text) : Prop :=
  ∃ entry ∈ listed, Text.upper entry = Text.upper name

instance (listed : List Text) (name : Text) : Decidable (Listed listed name) :=
  List.decidableBEx _ _

/-- Two lists have the same names, whatever their order, their repetitions and their case. -/
def SameNames (listed listed' : List Text) : Prop :=
  ∀ t, t ∈ listed.map Text.upper ↔ t ∈ listed'.map Text.upper

instance (listed listed' : List Text) : Decidable (SameNames listed listed') :=
  decidable_of_iff
    (listed.map Text.upper ⊆ listed'.map Text.upper
      ∧ listed'.map Text.upper ⊆ listed.map Text.upper)
    ⟨fun h t => ⟨@h.1 t, @h.2 t⟩, fun h => ⟨fun t => (h t).mp, fun t => (h t).mpr⟩⟩

theorem listed_iff_mem {listed : List Text} {name : Text} :
    Listed listed name ↔ Text.upper name ∈ listed.map Text.upper := List.mem_map.symm

theorem listed_congr {listed listed' : List Text} (h : SameNames listed listed') {name name' : Text}
    (hname : Text.upper name = Text.upper name') : Listed listed name ↔ Listed listed' name' := by
  rw [listed_iff_mem, listed_iff_mem, hname]
  exact h _

namespace Catalog

/-- The list that answers for an object that a guard names. -/
def listFor (catalog : Catalog) (object : Symbol) (name : Text) : List Text :=
  match object with
  | .table | .field => if '.' ∈ name then catalog.columns else catalog.tables
  | .index => catalog.indexes
  | .procedure => catalog.procedures
  | .function => catalog.functions
  | .trigger => catalog.triggers
  | .domain => catalog.domains
  | .exception => catalog.exceptions
  | _ => []

/-- The case of a name does not decide where it is looked up. -/
theorem listFor_congr (catalog : Catalog) (object : Symbol) {name name' : Text}
    (h : Text.upper name = Text.upper name') :
    catalog.listFor object name = catalog.listFor object name' := by
  have hdot : '.' ∈ name ↔ '.' ∈ name' := by
    rw [← Text.dot_mem_upper, h, Text.dot_mem_upper]
  unfold listFor
  simp only [hdot]

theorem has_eq (catalog : Catalog) (kind : SchemaObject) (name : Text) :
    catalog.has kind name = decide (Listed (catalog.names kind) name) := by
  rw [Bool.eq_iff_iff, has, List.any_eq_true, decide_eq_true_iff]
  exact exists_congr fun entry => and_congr_right fun _ => beq_iff_eq

/-- **A question is answered from the list for its object.** -/
theorem has_ofGuard (catalog : Catalog) {object : Symbol} (h : object.isSchemaObject = true)
    (name : Text) :
    ∃ kind, SchemaObject.ofGuard? object name = some kind
      ∧ catalog.has kind name = decide (Listed (catalog.listFor object name) name) := by
  have hpoint (kind : SchemaObject)
      (hkind : kind = if name.contains '.' then .column else .table) :
      catalog.names kind = if '.' ∈ name then catalog.columns else catalog.tables := by
    subst hkind
    by_cases hdot : '.' ∈ name
    · rw [if_pos hdot, if_pos (List.contains_iff_mem.mpr hdot)]
      rfl
    · rw [if_neg hdot, if_neg (mt List.contains_iff_mem.mp hdot)]
      rfl
  cases object with
  | table => exact ⟨_, rfl, by rw [has_eq, hpoint _ rfl]; rfl⟩
  | field => exact ⟨_, rfl, by rw [has_eq, hpoint _ rfl]; rfl⟩
  | index => exact ⟨_, rfl, has_eq ..⟩
  | function => exact ⟨_, rfl, has_eq ..⟩
  | procedure => exact ⟨_, rfl, has_eq ..⟩
  | trigger => exact ⟨_, rfl, has_eq ..⟩
  | exception => exact ⟨_, rfl, has_eq ..⟩
  | domain => exact ⟨_, rfl, has_eq ..⟩
  | _ => cases h

/-- Two catalogs with the same names in each list. -/
def Equivalent (catalog catalog' : Catalog) : Prop :=
  ∀ kind, SameNames (catalog.names kind) (catalog'.names kind)

theorem Equivalent.sameNames_listFor {catalog catalog' : Catalog}
    (h : Equivalent catalog catalog') (object : Symbol) (name : Text) :
    SameNames (catalog.listFor object name) (catalog'.listFor object name) := by
  have hpoint : SameNames (if '.' ∈ name then catalog.columns else catalog.tables)
      (if '.' ∈ name then catalog'.columns else catalog'.tables) := by
    split
    · exact h .column
    · exact h .table
  cases object with
  | table => exact hpoint
  | field => exact hpoint
  | index => exact h .index
  | procedure => exact h .procedure
  | function => exact h .function
  | trigger => exact h .trigger
  | domain => exact h .domain
  | exception => exact h .exception
  | _ => exact fun _ => Iff.rfl

theorem has_congr {catalog catalog' : Catalog} (h : Equivalent catalog catalog')
    (kind : SchemaObject) {name name' : Text} (hname : Text.upper name = Text.upper name') :
    catalog.has kind name = catalog'.has kind name' := by
  rw [has_eq, has_eq]
  exact decide_eq_decide.mpr (listed_congr (h kind) hname)

end Catalog

end MigrationScript
