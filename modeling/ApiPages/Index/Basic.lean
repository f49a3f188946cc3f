import ApiPages.Declaration.Declared
import ApiPages.Record
import Std.Data.TreeMap

/-!
The index of everything documented: the entries in the order they were found, a table of their
nested names, and how the records were counted. It is built once and then only read. The table leads
from a name to the positions that bear it, in ascending order.
-/

namespace ApiPages

structure NameTable where
  positions : Std.TreeMap String (List Nat)

namespace NameTable

def ofList (named : List (String × Nat)) : NameTable :=
  ⟨named.foldr (fun (name, position) table =>
    table.alter name fun known => some (position :: known.getD [])) ∅⟩

def find (table : NameTable) (name : String) : List Nat := (table.positions[name]?).getD []

theorem find_ofList (named : List (String × Nat)) (name : String) :
    (ofList named).find name = (named.filter fun item => item.1 = name).map Prod.snd := by
  simp only [ofList, find]
  induction named with
  | nil => simp
  | cons item rest ih =>
    simp only [List.foldr_cons, Std.TreeMap.getElem?_alter]
    by_cases same : item.1 = name
    · subst same
      simp [ih]
    · simp [same, ih]

end NameTable

/-- The position of an entry, a 32-bit number. -/
structure EntryId where
  value : UInt32
deriving DecidableEq, Repr

namespace EntryId

/-- How many entries an index can hold. -/
def capacity : Nat := UInt32.size

def ofPosition? (position : Nat) : Option EntryId :=
  if position < capacity then some ⟨UInt32.ofNat position⟩ else none

def position (id : EntryId) : Nat := id.value.toNat

theorem position_ofPosition? {position : Nat} {id : EntryId}
    (found : ofPosition? position = some id) : id.position = position := by
  unfold ofPosition? at found
  split at found
  · next fits =>
    obtain rfl := Option.some.inj found
    exact UInt32.toNat_ofNat_of_lt' fits
  · simp at found

end EntryId

/-- A companion that is in the index, by the name its class gives it. -/
structure Companion where
  name : String
  id : EntryId
deriving DecidableEq, Repr

structure Entry (Ref : Type) where
  name : BinaryName
  declared : Declared Ref

structure IndexedClass where
  name : BinaryName
  declared : ClassDeclaration Companion

structure IndexedFacade where
  package : String
  declared : Facade

namespace Entry

def class? (entry : Entry Companion) : Option IndexedClass :=
  entry.declared.class?.map fun declared => ⟨entry.name, declared⟩

def facade? (entry : Entry Companion) : Option IndexedFacade :=
  entry.declared.facade?.map fun declared => ⟨entry.name.package, declared⟩

end Entry

structure Statistics where
  scanned : Nat
  withoutMetadata : Nat
  duplicates : Nat
  failed : Nat
  classes : Nat
  facades : Nat
  others : Nat
  droppedCompanions : Nat
deriving DecidableEq, Repr

def Statistics.indexed (statistics : Statistics) : Nat :=
  statistics.classes + statistics.facades + statistics.others

structure Index where
  entries : List (Entry Companion)
  byNestedName : NameTable
  statistics : Statistics

namespace Index

def size (index : Index) : Nat := index.entries.length

/-- The entries with a nested name, in their order. A dollar sign stands for a dot. -/
def find (index : Index) (name : String) : List (Entry Companion) :=
  (index.byNestedName.find (dottedName name)).filterMap fun position => index.entries[position]?

def facades (index : Index) : List IndexedFacade := index.entries.filterMap Entry.facade?

def entry? (index : Index) (id : EntryId) : Option (Entry Companion) :=
  index.entries[id.position]?

def companionOf (index : Index) (indexed : IndexedClass) : Option IndexedClass := do
  let companion ← indexed.declared.companion
  (← index.entry? companion.id).class?

/-- A class, its companion, the companion of that, and so on, for at most `steps` classes. -/
def chainWithin (index : Index) : Nat → IndexedClass → List IndexedClass
  | 0, _ => []
  | steps + 1, indexed =>
    indexed :: ((index.companionOf indexed).map (index.chainWithin steps)).getD []

/-- A class and its companions. Each has a longer name than the one before it, so there are no
more of them than entries. -/
def chain (index : Index) (indexed : IndexedClass) : List IndexedClass :=
  index.chainWithin index.size indexed

end Index

end ApiPages
