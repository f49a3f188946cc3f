import ApiPages.Proofs.Index.Entries

/-!
What an index takes from records. A name has an entry exactly if a filter accepts its package and
its first record decodes; what later records of the name hold is never looked at. The entries stand
in the order of these first records, the facades among them in the same order, and a nested name is
found wherever a search through the entries finds it.
-/

namespace ApiPages

def firstPosition (records : List Record) (name : BinaryName) : Nat :=
  (records.map Record.name).idxOf name

def statedKind? (records : List Record) (name : BinaryName) : Option MetadataKind := do
  let record ← records.find? fun record => record.name = name
  let metadata ← Metadata.ofJson? (← record.metadata)
  some metadata.kind

theorem exists_of_map_eq_ok {ε α β : Type} {f : α → β} {result : Except ε α} {value : β}
    (mapped : result.map f = .ok value) : ∃ found, result = .ok found ∧ f found = value := by
  cases result with
  | error _ => cases mapped
  | ok found => exact ⟨found, rfl, Except.ok.inj mapped⟩

theorem exists_of_bind_eq_ok {ε α β : Type} {result : Except ε α} {next : α → Except ε β}
    {value : β} (bound : result >>= next = .ok value) :
    ∃ found, result = .ok found ∧ next found = .ok value := by
  cases result with
  | error _ => cases bound
  | ok found => exact ⟨found, rfl, bound⟩

def Declared.metadataKind {Ref : Type} : Declared Ref → MetadataKind
  | .ofClass _ => .classFile
  | .ofPackage facade => facade.kind
  | .nothing kind => kind

theorem Declared.metadataKind_refer {Ref Other : Type} (link? : Ref → Option Other)
    (declared : Declared Ref) : (declared.refer link?).metadataKind = declared.metadataKind := by
  cases declared <;> rfl

theorem Metadata.kind_of_declaredFacade {metadata : Metadata} {facade : Facade}
    (accepted : metadata.declaredFacade = .ok facade) : facade.kind = metadata.kind := by
  obtain ⟨_, _, withModule⟩ := exists_of_bind_eq_ok accepted
  obtain ⟨_, _, withFunctions⟩ := exists_of_bind_eq_ok withModule
  obtain ⟨_, _, withProperties⟩ := exists_of_bind_eq_ok withFunctions
  exact congrArg Facade.kind (Except.ok.inj withProperties).symm

theorem Metadata.kinds_of_declared {metadata : Metadata} {declared : Declared String}
    (accepted : metadata.declared = .ok declared) :
    declared.metadataKind = metadata.kind ∧
      (declared.isFacade ↔ metadata.kind = .fileFacade ∨ metadata.kind = .multiFilePart) ∧
      (declared.isNothing ↔ metadata.kind = .multiFileFacade ∨ metadata.kind = .synthetic) := by
  unfold Metadata.declared at accepted
  split at accepted
  · cases accepted
  · cases kind : metadata.kind
    all_goals
      rw [kind] at accepted
      dsimp only at accepted
    case classFile =>
      obtain ⟨_, _, rfl⟩ := exists_of_map_eq_ok accepted
      simp [Declared.metadataKind, Declared.isFacade, Declared.facade?, Declared.isNothing]
    case fileFacade | multiFilePart =>
      obtain ⟨facade, decoded, rfl⟩ := exists_of_map_eq_ok accepted
      have sameKind := kind_of_declaredFacade decoded
      simp [Declared.metadataKind, Declared.isFacade, Declared.facade?, Declared.isNothing,
        sameKind, kind]
    case multiFileFacade | synthetic =>
      obtain rfl := Except.ok.inj accepted
      simp [Declared.metadataKind, Declared.isFacade, Declared.facade?, Declared.isNothing]

theorem Record.exists_metadata {record : Record} {declared : Declared String}
    (decodes : record.declared? = some declared) :
    ∃ blob metadata, record.metadata = some blob ∧ Metadata.ofJson? blob = some metadata ∧
      metadata.declared = .ok declared := by
  obtain ⟨blob, stored, decoded⟩ := Option.bind_eq_some_iff.1 decodes
  unfold decode at decoded
  cases read : Metadata.ofJson? blob with
  | none =>
    rw [read] at decoded
    cases decoded
  | some metadata =>
    rw [read] at decoded
    dsimp only at decoded
    cases accepted : metadata.declared with
    | error _ =>
      rw [accepted] at decoded
      cases decoded
    | ok content =>
      rw [accepted] at decoded
      obtain rfl : content = declared := Option.some.inj decoded
      exact ⟨blob, metadata, stored, read, accepted⟩

theorem isFacade_iff_statedKind? {records : List Record} {name : BinaryName}
    {declared : Declared String} (first : declaredBy? records name = some declared) :
    declared.isFacade ↔ statedKind? records name = some .fileFacade ∨
      statedKind? records name = some .multiFilePart := by
  obtain ⟨record, found, decodes⟩ := Option.bind_eq_some_iff.1 first
  obtain ⟨blob, metadata, stored, read, accepted⟩ := Record.exists_metadata decodes
  have kind : statedKind? records name = some metadata.kind := by
    simp [statedKind?, found, stored, read]
  rw [(Metadata.kinds_of_declared accepted).2.1, kind, Option.some.injEq, Option.some.injEq]

namespace Index

/-- The first records of the names that a filter accepts, in an index. -/
structure Represents (index : Index) (filter : PackageFilter) (records : List Record) : Prop where
  entry_iff : ∀ name, (∃ entry ∈ index.entries, entry.name = name) ↔
    filter.accepts name.package ∧ (declaredBy? records name).isSome
  names_nodup : (index.entries.map Entry.name).Nodup
  /-- An entry declares what the first record of its name does, with a link for the name. -/
  declared : ∀ entry ∈ index.entries, ∃ declared link?,
    declaredBy? records entry.name = some declared ∧ entry.declared = declared.refer link?
  ordered : index.entries.Pairwise fun one other =>
    firstPosition records one.name < firstPosition records other.name
  facades_eq : index.facades.map some = (index.entries.filter fun entry =>
    statedKind? records entry.name = some .fileFacade ∨
      statedKind? records entry.name = some .multiFilePart).map Entry.facade?
  find_eq : ∀ name, index.find name =
    index.entries.filter fun entry => entry.name.nestedName = dottedName name

theorem declaredEntries_pairwise (filter : PackageFilter) (records : List Record) :
    (declaredEntries (filter.select records)).Pairwise fun one other =>
      firstPosition records one.name < firstPosition records other.name := by
  have ordered : (firstsBy Record.name (filter.select records)).Pairwise fun one other =>
      firstPosition records one.name < firstPosition records other.name := by
    rw [firstsBy_select, PackageFilter.select]
    exact (firstsBy_pairwise_idxOf Record.name records).filter _
  rw [declaredEntries]
  apply List.Pairwise.sublist (List.take_sublist _ _)
  apply ordered.filterMap
  intro one other before entry kept otherEntry otherKept
  rwa [Record.name_of_kept? kept, Record.name_of_kept? otherKept]

theorem map_some_facades (index : Index) :
    index.facades.map some =
      (index.entries.filter fun entry => entry.declared.isFacade).map Entry.facade? := by
  rw [facades, List.map_filterMap_some_eq_filter_map_isSome, List.filter_map]
  congr 2
  funext entry
  rw [Function.comp_apply, Entry.facade?, Option.isSome_map, Declared.isFacade]

theorem build_represents (filter : PackageFilter) {records : List Record}
    (few : records.length < EntryId.capacity) :
    (build filter records).Represents filter records := by
  have holds := holds_build filter records
  have selected : ∀ source, source ∈ declaredEntries (filter.select records) ↔
      filter.accepts source.name.package ∧ declaredBy? records source.name = some source.declared :=
    fun _ => mem_declaredEntries_select_iff (Nat.le_of_lt few)
  constructor
  case entry_iff =>
    intro name
    constructor
    · rintro ⟨entry, member, rfl⟩
      obtain ⟨source, among, rfl⟩ := holds.mem_entries_iff.1 member
      obtain ⟨accepted, first⟩ := (selected source).1 among
      exact ⟨accepted, by rw [linkEntry, first, Option.isSome_some]⟩
    · rintro ⟨accepted, decodes⟩
      obtain ⟨declared, first⟩ := Option.isSome_iff_exists.1 decodes
      have among := (selected ⟨name, declared⟩).2 ⟨accepted, first⟩
      exact ⟨_, holds.mem_entries_iff.2 ⟨_, among, rfl⟩, rfl⟩
  case names_nodup => exact holds.entries_names_nodup
  case declared =>
    intro entry member
    obtain ⟨source, among, rfl⟩ := holds.mem_entries_iff.1 member
    exact ⟨source.declared, _, ((selected source).1 among).2, rfl⟩
  case ordered =>
    rw [holds.entries_eq, linkAll, List.pairwise_map]
    exact declaredEntries_pairwise filter records
  case facades_eq =>
    rw [map_some_facades]
    congr 1
    apply List.filter_congr
    intro entry member
    obtain ⟨source, among, rfl⟩ := holds.mem_entries_iff.1 member
    have stated := isFacade_iff_statedKind? ((selected source).1 among).2
    rw [Bool.eq_iff_iff, decide_eq_true_eq, linkEntry, Declared.isFacade, Declared.facade?_refer]
    exact stated
  case find_eq =>
    exact holds.find_eq_filter

theorem build_insert (filter : PackageFilter) {front : List Record} {again : Record}
    (known : again.name ∈ front.map Record.name) (back : List Record) :
    (build filter (front ++ again :: back)).entries = (build filter (front ++ back)).entries ∧
      (build filter (front ++ again :: back)).byNestedName =
        (build filter (front ++ back)).byNestedName := by
  have firsts : firstsBy Record.name (filter.select (front ++ again :: back)) =
      firstsBy Record.name (filter.select (front ++ back)) := by
    rw [firstsBy_select, firstsBy_select, firstsBy_insert Record.name known]
  have declared : declaredEntries (filter.select (front ++ again :: back)) =
      declaredEntries (filter.select (front ++ back)) := by
    rw [declaredEntries, firsts, declaredEntries]
  have grown := holds_build filter (front ++ again :: back)
  have holds := holds_build filter (front ++ back)
  have entries := (grown.entries_eq.trans (declared ▸ rfl)).trans holds.entries_eq.symm
  exact ⟨entries, by rw [grown.byNestedName_eq, entries, holds.byNestedName_eq]⟩

end Index

end ApiPages
