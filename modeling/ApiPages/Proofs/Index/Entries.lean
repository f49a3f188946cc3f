import ApiPages.Proofs.Firsts

/-!
What an index holds. Its entries are what the first records of their names declare, in the order of
these records, each name once; and looking a nested name up is a search through the entries. The
names of companions stand in the declared entries, the links in those of the index.
-/

namespace ApiPages

def Record.declared? (record : Record) : Option (Declared String) :=
  record.metadata.bind fun blob => (decode blob).toOption

/-- The entry of a record with its companion by name. -/
def Record.kept? (record : Record) : Option (Entry String) :=
  record.declared?.map fun declared => ⟨record.name, declared⟩

/-- The record of a class that declares one function and perhaps names a companion. -/
def Record.ofClass (name function : String) (companion : Option String) : Record where
  name := ⟨name⟩
  metadata := some (Metadata.toJson {
    version := supportedVersion
    kind := .classFile
    moduleName := "module"
    classKind := some .regular
    functions := [⟨function, none, []⟩]
    properties := []
    enumEntries := []
    companion := companion })

def Record.ofFile (name : String) (functions properties : List Member) : Record where
  name := ⟨name⟩
  metadata := some (Metadata.toJson {
    version := supportedVersion
    kind := .fileFacade
    moduleName := "module"
    classKind := none
    functions := functions
    properties := properties
    enumEntries := []
    companion := none })

/-- What the first record of a name declares, by a search from the front. -/
def declaredBy? (records : List Record) (name : BinaryName) : Option (Declared String) :=
  (records.find? fun record => record.name = name).bind Record.declared?

theorem Outcome.entry?_ofRecord (record : Record) :
    Outcome.entry? (Outcome.ofRecord record) = record.kept? := by
  unfold Outcome.ofRecord Record.kept? Record.declared?
  cases record.metadata with
  | none => rfl
  | some blob =>
    cases result : decode blob with
    | error error => simp [result, Except.toOption, Outcome.entry?]
    | ok declared => simp [result, Except.toOption, Outcome.entry?]

theorem Record.name_of_kept? {record : Record} {entry : Entry String}
    (found : record.kept? = some entry) : entry.name = record.name := by
  obtain ⟨declared, _, rfl⟩ := Option.map_eq_some_iff.1 found
  rfl

theorem declaredBy?_select (filter : PackageFilter) (records : List Record) (name : BinaryName) :
    declaredBy? (filter.select records) name =
      if filter.accepts name.package then declaredBy? records name else none := by
  rw [declaredBy?, PackageFilter.select, List.find?_filter]
  by_cases accepted : filter.accepts name.package
  · have same : (fun record : Record => decide ((filter.accepts record.package = true) ∧
        decide (record.name = name) = true)) = fun record => decide (record.name = name) := by
      funext record
      by_cases named : record.name = name
      · simp [named, Record.package, accepted]
      · simp [named]
    rw [same, if_pos accepted, declaredBy?]
  · rw [if_neg accepted]
    have absent : (records.find? fun record => decide ((filter.accepts record.package = true) ∧
        decide (record.name = name) = true)) = none := by
      rw [List.find?_eq_none]
      intro record _
      rw [decide_eq_true_eq, decide_eq_true_eq]
      rintro ⟨acceptedHere, rfl⟩
      exact accepted acceptedHere
    rw [absent, Option.bind_none]

theorem firstsBy_select (filter : PackageFilter) (records : List Record) :
    firstsBy Record.name (filter.select records) = filter.select (firstsBy Record.name records) :=
  firstsBy_filter Record.name (fun name => filter.accepts name.package) records

namespace Index

/-- The entries of some records with the companions still by name, as many as there are ids. -/
def declaredEntries (scanned : List Record) : List (Entry String) :=
  ((firstsBy Record.name scanned).filterMap Record.kept?).take EntryId.capacity

theorem declaredBy?_of_mem {scanned : List Record} {entry : Entry String}
    (member : entry ∈ declaredEntries scanned) :
    declaredBy? scanned entry.name = some entry.declared := by
  obtain ⟨record, first, found⟩ := List.mem_filterMap.1 (List.mem_of_mem_take member)
  have here := (mem_firstsBy_iff Record.name).1 first
  obtain ⟨declared, decoded, rfl⟩ := Option.map_eq_some_iff.1 found
  rw [declaredBy?, here, Option.bind_some, decoded]

theorem declaredBy?_of_mem_select {filter : PackageFilter} {records : List Record}
    {entry : Entry String} (member : entry ∈ declaredEntries (filter.select records)) :
    declaredBy? records entry.name = some entry.declared := by
  have selected := declaredBy?_of_mem member
  rw [declaredBy?_select] at selected
  split at selected
  · exact selected
  · cases selected

theorem declaredEntries_names_nodup (scanned : List Record) :
    ((declaredEntries scanned).map Entry.name).Nodup := by
  have names : ((firstsBy Record.name scanned).filterMap Record.kept?).Pairwise
      fun a b => a.name ≠ b.name := by
    have distinct := List.pairwise_map.1 (firstsBy_keys_nodup Record.name scanned)
    apply distinct.filterMap
    intro a b different x fromA y fromB
    rwa [Record.name_of_kept? fromA, Record.name_of_kept? fromB]
  exact List.pairwise_map.2 (names.sublist (List.take_sublist _ _))

theorem length_declaredEntries_le (scanned : List Record) :
    (declaredEntries scanned).length ≤ EntryId.capacity :=
  List.length_take_le _ _

theorem declaredEntries_eq_of_few {scanned : List Record}
    (few : scanned.length ≤ EntryId.capacity) :
    declaredEntries scanned = (firstsBy Record.name scanned).filterMap Record.kept? := by
  apply List.take_of_length_le
  calc
    _ ≤ (firstsBy Record.name scanned).length := List.length_filterMap_le _ _
    _ ≤ scanned.length := length_firstsBy_le _ _
    _ ≤ EntryId.capacity := few

theorem mem_declaredEntries_iff {scanned : List Record} (few : scanned.length ≤ EntryId.capacity)
    {entry : Entry String} :
    entry ∈ declaredEntries scanned ↔ declaredBy? scanned entry.name = some entry.declared := by
  constructor
  · exact declaredBy?_of_mem
  · intro declared
    obtain ⟨record, first, decoded⟩ := Option.bind_eq_some_iff.1 declared
    have named : record.name = entry.name := by simpa using List.find?_some first
    rw [declaredEntries_eq_of_few few, List.mem_filterMap]
    refine ⟨record, (mem_firstsBy_iff Record.name).2 ?_, ?_⟩
    · rwa [named]
    · rw [Record.kept?, decoded, named]
      rfl

theorem mem_declaredEntries_select_iff {filter : PackageFilter} {records : List Record}
    (few : records.length ≤ EntryId.capacity) {entry : Entry String} :
    entry ∈ declaredEntries (filter.select records) ↔
      filter.accepts entry.name.package ∧ declaredBy? records entry.name = some entry.declared := by
  have selectedFew : (filter.select records).length ≤ EntryId.capacity :=
    Nat.le_trans (List.length_filter_le _ _) few
  rw [mem_declaredEntries_iff selectedFew, declaredBy?_select]
  by_cases accepted : filter.accepts entry.name.package <;> simp [accepted]

/-- An index that holds some declared entries: linked, found by their nested names, and with a
name and an id for each. -/
structure Holds (index : Index) (declared : List (Entry String)) : Prop where
  entries_eq : index.entries = linkAll declared
  byNestedName_eq : index.byNestedName = .ofList (nestedNames index.entries)
  names_nodup : (declared.map Entry.name).Nodup
  length_le : declared.length ≤ EntryId.capacity

theorem holds_ofRecords (scanned : List Record) :
    (ofRecords scanned).Holds (declaredEntries scanned) where
  entries_eq := by
    have decoded : ((firstsBy Record.name scanned).map Outcome.ofRecord).filterMap Outcome.entry? =
        (firstsBy Record.name scanned).filterMap Record.kept? := by
      rw [List.filterMap_map]
      exact congrArg (List.filterMap · _) (funext Outcome.entry?_ofRecord)
    rw [ofRecords, decoded]
    rfl
  byNestedName_eq := rfl
  names_nodup := declaredEntries_names_nodup scanned
  length_le := length_declaredEntries_le scanned

theorem holds_build (filter : PackageFilter) (records : List Record) :
    (build filter records).Holds (declaredEntries (filter.select records)) :=
  holds_ofRecords _

theorem mem_find_nestedNames {entries : List (Entry Companion)} {name : String} {position : Nat} :
    position ∈ (NameTable.ofList (nestedNames entries)).find name ↔
      ∃ entry, entries[position]? = some entry ∧ entry.name.nestedName = name := by
  simp only [NameTable.find_ofList, nestedNames, List.mem_map, List.mem_filter, Prod.exists,
    List.mk_mem_zipIdx_iff_getElem?, decide_eq_true_eq]
  constructor
  · rintro ⟨nested, _, ⟨⟨entry, place, here, pair⟩, named⟩, rfl⟩
    obtain ⟨rfl, rfl⟩ := Prod.mk.inj pair
    exact ⟨entry, here, named⟩
  · rintro ⟨entry, here, named⟩
    exact ⟨name, position, ⟨⟨entry, position, here, by rw [named]⟩, rfl⟩, rfl⟩

theorem find_nestedNames (entries : List (Entry Companion)) (name : String) :
    (((NameTable.ofList (nestedNames entries)).find name).filterMap fun position =>
        entries[position]?) =
      entries.filter fun entry => entry.name.nestedName = name := by
  rw [NameTable.find_ofList, nestedNames, List.filter_map, List.map_map, List.filterMap_map]
  calc
    _ = (entries.zipIdx.filter fun item => item.1.name.nestedName = name).filterMap fun item =>
          some item.1 := by
      apply List.filterMap_congr
      rintro ⟨entry, position⟩ member
      exact List.mk_mem_zipIdx_iff_getElem?.1 (List.mem_filter.1 member).1
    _ = (entries.zipIdx.map Prod.fst).filter fun entry => entry.name.nestedName = name := by
      rw [List.filterMap_eq_map', List.filter_map]
      rfl
    _ = entries.filter fun entry => entry.name.nestedName = name := by
      rw [List.zipIdx_map_fst]

section

variable {index : Index} {declared : List (Entry String)} (holds : index.Holds declared)
include holds

theorem Holds.find_eq_filter (name : String) :
    index.find name =
      index.entries.filter fun entry => entry.name.nestedName = dottedName name := by
  rw [find, holds.byNestedName_eq, find_nestedNames]

theorem Holds.find_eq_map (name : String) :
    index.find name =
      (declared.filter fun entry => entry.name.nestedName = dottedName name).map
        (linkEntry (classTable declared)) := by
  rw [holds.find_eq_filter, holds.entries_eq, linkAll, List.filter_map]
  rfl

theorem Holds.size_eq : index.size = declared.length := by
  rw [size, holds.entries_eq, linkAll, List.length_map]

theorem Holds.getElem?_entries (position : Nat) :
    index.entries[position]? = declared[position]?.map (linkEntry (classTable declared)) := by
  rw [holds.entries_eq, linkAll, List.getElem?_map]

theorem Holds.mem_entries_iff {entry : Entry Companion} :
    entry ∈ index.entries ↔
      ∃ source ∈ declared, linkEntry (classTable declared) source = entry := by
  rw [holds.entries_eq, linkAll, List.mem_map]

theorem Holds.entries_names_nodup : (index.entries.map Entry.name).Nodup := by
  rw [holds.entries_eq, linkAll, List.map_map]
  exact holds.names_nodup

theorem Holds.position_lt_size {name : String} {position : Nat}
    (listed : position ∈ index.byNestedName.find name) : position < index.size := by
  rw [holds.byNestedName_eq, mem_find_nestedNames] at listed
  obtain ⟨entry, here, _⟩ := listed
  exact (List.getElem?_eq_some_iff.1 here).1

end

end Index

end ApiPages
