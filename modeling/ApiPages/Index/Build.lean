import ApiPages.Index.Basic
import ApiPages.Metadata.Decode

/-!
Building the index. The first record of every name counts; later ones are duplicates whatever
becomes of the first. Records whose metadata decodes become entries, and each companion that a
class names is linked to the class entry of that name, or dropped if there is none.
-/

namespace ApiPages

def firstsBy {α κ : Type} [DecidableEq κ] (key : α → κ) : List α → List α
  | [] => []
  | item :: rest => item :: (firstsBy key rest).filter fun other => key other ≠ key item

section

variable {α κ : Type} [DecidableEq κ] (key : α → κ)

theorem firstsBy_sublist (items : List α) : (firstsBy key items).Sublist items := by
  induction items with
  | nil => exact .slnil
  | cons item rest ih => exact (List.filter_sublist.trans ih).cons_cons item

theorem length_firstsBy_le (items : List α) : (firstsBy key items).length ≤ items.length :=
  (firstsBy_sublist key items).length_le

theorem firstsBy_keys_nodup (items : List α) : ((firstsBy key items).map key).Nodup := by
  induction items with
  | nil => exact List.nodup_nil
  | cons item rest ih =>
    rw [firstsBy, List.map_cons, List.nodup_cons]
    constructor
    · simp only [List.mem_map, List.mem_filter, not_exists, not_and]
      rintro other ⟨_, different⟩ same
      simp [same] at different
    · exact ih.sublist (List.filter_sublist.map key)

theorem exists_mem_firstsBy {items : List α} {item : α} (member : item ∈ items) :
    ∃ first ∈ firstsBy key items, key first = key item := by
  induction items with
  | nil => simp at member
  | cons head rest ih =>
    by_cases same : key head = key item
    · exact ⟨head, by simp [firstsBy], same⟩
    · rcases List.mem_cons.1 member with rfl | later
      · exact absurd rfl same
      · obtain ⟨first, among, equal⟩ := ih later
        refine ⟨first, ?_, equal⟩
        rw [firstsBy]
        refine List.mem_cons_of_mem _ (List.mem_filter.2 ⟨among, ?_⟩)
        rw [decide_eq_true_eq, equal]
        exact Ne.symm same

end

inductive Outcome where
  | bare
  | failed (error : MetadataError)
  | kept (entry : Entry String)

namespace Outcome

def ofRecord (record : Record) : Outcome :=
  match record.metadata with
  | none => .bare
  | some blob =>
    match decode blob with
    | .error error => .failed error
    | .ok declared => .kept ⟨record.name, declared⟩

def isBare : Outcome → Bool
  | .bare => true
  | _ => false

def isFailed : Outcome → Bool
  | .failed _ => true
  | _ => false

def entry? : Outcome → Option (Entry String)
  | .kept entry => some entry
  | _ => none

end Outcome

namespace Index

def classTable (entries : List (Entry String)) : NameTable :=
  .ofList (entries.zipIdx.filterMap fun (entry, position) =>
    if entry.declared.isClass then some (entry.name.text, position) else none)

/-- The link from the class called `owner` to a companion that it names. -/
def link? (classes : NameTable) (owner : BinaryName) (companion : String) : Option Companion := do
  let position ← (classes.find (owner.inner companion).text).head?
  some ⟨companion, ← EntryId.ofPosition? position⟩

def linkEntry (classes : NameTable) (entry : Entry String) : Entry Companion :=
  ⟨entry.name, entry.declared.refer (link? classes entry.name)⟩

def linkAll (entries : List (Entry String)) : List (Entry Companion) :=
  entries.map (linkEntry (classTable entries))

/-- Whether a class names a companion that is not indexed. -/
def dropsCompanion (classes : NameTable) (entry : Entry String) : Bool :=
  match entry.declared.companion? with
  | some companion => (link? classes entry.name companion).isNone
  | none => false

def nestedNames (entries : List (Entry Companion)) : List (String × Nat) :=
  entries.zipIdx.map fun (entry, position) => (entry.name.nestedName, position)

def ofRecords (scanned : List Record) : Index :=
  let outcomes := (firstsBy Record.name scanned).map Outcome.ofRecord
  let decoded := outcomes.filterMap Outcome.entry?
  let kept := decoded.take EntryId.capacity
  let linked := linkAll kept
  { entries := linked
    byNestedName := .ofList (nestedNames linked)
    statistics := {
      scanned := scanned.length
      withoutMetadata := outcomes.countP Outcome.isBare
      duplicates := scanned.length - outcomes.length
      failed := outcomes.countP Outcome.isFailed + (decoded.length - kept.length)
      classes := kept.countP fun entry => entry.declared.isClass
      facades := kept.countP fun entry => entry.declared.isFacade
      others := kept.countP fun entry => entry.declared.isNothing
      droppedCompanions := kept.countP (dropsCompanion (classTable kept)) } }

def build (filter : PackageFilter) (records : List Record) : Index :=
  ofRecords (filter.select records)

def empty : Index := ofRecords []

end Index

end ApiPages
