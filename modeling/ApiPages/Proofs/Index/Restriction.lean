import ApiPages.Proofs.Index.Chain
import ApiPages.Proofs.Name.Binary

/-!
Restriction of an index to packages. A filter decides by the package, which all records of a name
and, without slashes in the names of companions, a class and its companion have in common. So the
index of the accepted records is the accepted part of the whole index. Only positions move; links
are therefore compared by the name of the entry that they lead to.
-/

namespace ApiPages

theorem Declared.refer_refer {Ref Other Third : Type} (link? : Ref → Option Other)
    (next? : Other → Option Third) (declared : Declared Ref) :
    (declared.refer link?).refer next? = declared.refer fun ref => (link? ref).bind next? := by
  cases declared with
  | ofClass content =>
    rw [refer, refer, refer, ClassDeclaration.refer, ClassDeclaration.refer, ClassDeclaration.refer,
      Option.bind_assoc]
  | ofPackage _ => rfl
  | nothing _ => rfl

theorem Declared.refer_congr {Ref Other : Type} {link? next? : Ref → Option Other}
    {declared : Declared Ref}
    (same : ∀ ref, declared.companion? = some ref → link? ref = next? ref) :
    declared.refer link? = declared.refer next? := by
  cases declared with
  | ofClass content =>
    have companions : content.companion.bind link? = content.companion.bind next? :=
      Option.bind_congr same
    rw [refer, refer, ClassDeclaration.refer, ClassDeclaration.refer, companions]
  | ofPackage _ => rfl
  | nothing _ => rfl

def Record.companion? (record : Record) : Option String :=
  record.declared?.bind Declared.companion?

namespace Index

/-- An entry of an index with its link as the name that the class gives to its companion and the
name of the entry that the link leads to. -/
def byNames (index : Index) (entry : Entry Companion) : Entry (String × Option BinaryName) :=
  ⟨entry.name, entry.declared.refer fun link =>
    some (link.name, (index.entry? link.id).map Entry.name)⟩

/-- The part of an index in the packages that a filter accepts. -/
structure IsRestriction (part whole : Index) (filter : PackageFilter) : Prop where
  /-- The accepted entries, with what they declare and the entries that they are linked to. -/
  entries_eq : part.entries.map part.byNames =
    (whole.entries.filter fun entry => filter.accepts entry.name.package).map whole.byNames
  facades_eq : part.facades = whole.facades.filter fun facade => filter.accepts facade.package
  find_eq : ∀ name, (part.find name).map part.byNames =
    ((whole.find name).filter fun entry => filter.accepts entry.name.package).map whole.byNames
  /-- A class and its companion are both accepted or both left out. -/
  together : ∀ owner ∈ whole.classes, ∀ companion, whole.companionOf owner = some companion →
    filter.accepts companion.name.package = filter.accepts owner.name.package

def companionName? (declared : List (Entry String)) (owner : BinaryName) (companion : String) :
    Option (String × Option BinaryName) :=
  if declared.any fun target => target.declared.isClass && target.name == owner.inner companion then
    some (companion, some (owner.inner companion))
  else none

theorem any_companion_iff {declared : List (Entry String)} {name : BinaryName} :
    (declared.any fun target => target.declared.isClass && target.name == name) = true ↔
      ∃ target ∈ declared, target.declared.isClass ∧ target.name = name := by
  simp

section

variable {index : Index} {declared : List (Entry String)} (holds : index.Holds declared)
include holds

theorem Holds.byNames_linkEntry (source : Entry String) :
    index.byNames (linkEntry (classTable declared) source) =
      ⟨source.name, source.declared.refer (companionName? declared source.name)⟩ := by
  have links : ∀ companion, ((link? (classTable declared) source.name companion).bind fun link =>
      some (link.name, (index.entry? link.id).map Entry.name)) =
        companionName? declared source.name companion := by
    intro companion
    have found : (link? (classTable declared) source.name companion).isSome ↔ _ :=
      link?_isSome_iff holds.names_nodup holds.length_le
    rw [← any_companion_iff] at found
    rw [companionName?]
    cases linked : link? (classTable declared) source.name companion with
    | none =>
      rw [linked, Option.isSome_none] at found
      rw [if_neg (fun any => Bool.noConfusion (found.2 any))]
      rfl
    | some link =>
      obtain ⟨rfl, target, here, _, inner⟩ := (link?_eq_some_iff holds.names_nodup).1 linked
      rw [linked, Option.isSome_some] at found
      rw [if_pos (found.1 rfl), Option.bind_some, entry?_eq_getElem?, holds.getElem?_entries, here,
        Option.map_some, Option.map_some, linkEntry, inner]
  rw [byNames, linkEntry, Declared.refer_refer, funext links]

end

theorem declaredEntries_select (filter : PackageFilter) {records : List Record}
    (few : records.length ≤ EntryId.capacity) :
    declaredEntries (filter.select records) =
      (declaredEntries records).filter fun entry => filter.accepts entry.name.package := by
  have selectedFew : (filter.select records).length ≤ EntryId.capacity :=
    Nat.le_trans (List.length_filter_le _ _) few
  rw [declaredEntries_eq_of_few selectedFew, declaredEntries_eq_of_few few, firstsBy_select,
    PackageFilter.select, List.filterMap_filter, List.filter_filterMap]
  apply List.filterMap_congr
  intro record _
  cases kept : record.kept? with
  | none => simp
  | some entry =>
    have named := Record.name_of_kept? kept
    by_cases accepted : filter.accepts record.name.package <;>
      simp [Option.filter, named, Record.package, accepted]

theorem companionName?_filter {filter : PackageFilter} {declared : List (Entry String)}
    {owner : BinaryName} {companion : String} (accepted : filter.accepts owner.package)
    (plain : '/' ∉ companion.toList) :
    companionName? (declared.filter fun entry => filter.accepts entry.name.package) owner
      companion = companionName? declared owner companion := by
  have package := owner.package_inner plain
  have same : ((declared.filter fun entry => filter.accepts entry.name.package).any fun target =>
      target.declared.isClass && target.name == owner.inner companion) =
        declared.any fun target =>
          target.declared.isClass && target.name == owner.inner companion := by
    rw [Bool.eq_iff_iff, any_companion_iff, any_companion_iff]
    constructor
    · rintro ⟨target, member, isClass, inner⟩
      exact ⟨target, (List.mem_filter.1 member).1, isClass, inner⟩
    · rintro ⟨target, member, isClass, inner⟩
      have targetAccepted : filter.accepts target.name.package := by rwa [inner, package]
      exact ⟨target, List.mem_filter.2 ⟨member, targetAccepted⟩, isClass, inner⟩
  rw [companionName?, companionName?, same]

section

variable {part whole : Index} {accepted : List (Entry Companion)}
  (entries : part.entries.map part.byNames = accepted.map whole.byNames)
include entries

theorem facades_eq_of_byNames : part.facades = accepted.filterMap Entry.facade? := by
  let view := fun entry : Entry (String × Option BinaryName) =>
    entry.declared.facade?.map fun declared => (⟨entry.name.package, declared⟩ : IndexedFacade)
  have sameView : ∀ index : Index, view ∘ index.byNames = Entry.facade? := by
    intro index
    funext entry
    simp only [view, Function.comp_apply, byNames, Declared.facade?_refer, Entry.facade?]
  have views := congrArg (List.filterMap view) entries
  rwa [List.filterMap_map, List.filterMap_map, sameView, sameView] at views

theorem map_filter_of_byNames (chosen : BinaryName → Bool) :
    (part.entries.filter fun entry => chosen entry.name).map part.byNames =
      (accepted.filter fun entry => chosen entry.name).map whole.byNames := by
  have views := congrArg (List.filter fun entry => chosen entry.name) entries
  rwa [List.filter_map, List.filter_map] at views

end

theorem Holds.isRestriction {part whole : Index} {declared : List (Entry String)}
    {filter : PackageFilter}
    (partHolds : part.Holds (declared.filter fun entry => filter.accepts entry.name.package))
    (holds : whole.Holds declared)
    (plain : ∀ entry ∈ declared, ∀ companion, entry.declared.companion? = some companion →
      '/' ∉ companion.toList) : IsRestriction part whole filter := by
  have entries : part.entries.map part.byNames =
      (whole.entries.filter fun entry => filter.accepts entry.name.package).map whole.byNames := by
    rw [partHolds.entries_eq, holds.entries_eq, linkAll, linkAll, List.filter_map, List.map_map,
      List.map_map]
    apply List.map_congr_left
    intro source member
    obtain ⟨among, accepted⟩ := List.mem_filter.1 member
    -- both sides are now the source with its companion by name; the positions are gone
    rw [Function.comp_apply, Function.comp_apply, partHolds.byNames_linkEntry,
      holds.byNames_linkEntry]
    exact congrArg (Entry.mk source.name) (Declared.refer_congr fun companion asked =>
      companionName?_filter accepted (plain source among companion asked))
  constructor
  case entries_eq => exact entries
  case facades_eq =>
    rw [facades_eq_of_byNames entries, List.filterMap_filter, facades, List.filter_filterMap]
    apply List.filterMap_congr
    intro entry _
    cases found : entry.facade? with
    | none => simp
    | some facade =>
      obtain ⟨_, _, rfl⟩ := Option.map_eq_some_iff.1 found
      by_cases accepted : filter.accepts entry.name.package <;> simp [Option.filter, accepted]
  case find_eq =>
    intro name
    have found := map_filter_of_byNames entries fun owner =>
      decide (owner.nestedName = dottedName name)
    rw [partHolds.find_eq_filter, holds.find_eq_filter]
    refine found.trans ?_
    rw [List.filter_filter, List.filter_filter]
    simp only [Bool.and_comm]
  case together =>
    intro owner member companion next
    obtain ⟨source, declares, rfl⟩ := holds.exists_declaredClass member
    obtain ⟨target, ⟨_, name, asked, inner⟩, rfl⟩ := (holds.companionOf_linked source).1 next
    obtain ⟨entry, among, isDeclared⟩ := List.mem_filterMap.1 declares
    obtain ⟨content, isOfClass, rfl⟩ := Option.map_eq_some_iff.1 isDeclared
    have named : entry.declared.companion? = some name := by
      rw [Declared.companion?, isOfClass, Option.bind_some, asked]
    have package := entry.name.package_inner (plain entry among name named)
    simp only [DeclaredClass.linked, inner, package]

/-- Building an index of the accepted records and restricting the index of all records come to the
same, and the filter leaves the first record of every accepted name the first. -/
theorem build_isRestriction (filter : PackageFilter) {records : List Record}
    (few : records.length < EntryId.capacity)
    (plain : ∀ record ∈ records, ∀ companion, record.companion? = some companion →
      '/' ∉ companion.toList) :
    IsRestriction (build filter records) (build .all records) filter ∧
      firstsBy Record.name (filter.select records) =
        filter.select (firstsBy Record.name records) := by
  have part := holds_build filter records
  have whole := holds_build .all records
  rw [declaredEntries_select filter (Nat.le_of_lt few)] at part
  rw [PackageFilter.select_all] at whole
  refine ⟨part.isRestriction whole ?_, firstsBy_select filter records⟩
  intro entry member companion asked
  obtain ⟨record, first, decoded⟩ := Option.bind_eq_some_iff.1 (declaredBy?_of_mem member)
  have names : record.companion? = some companion := by
    rw [Record.companion?, decoded, Option.bind_some, asked]
  exact plain record (List.mem_of_find?_eq_some first) companion names

theorem build_isRestriction_companion :
    let records : List Record := [.ofClass "b/Other" "create" none,
      .ofClass "a/Outer$Factory" "create" none, .ofClass "a/Outer" "create" (some "Factory"),
      .ofClass "a/Outer" "destroy" none]
    let part := build (.ofList ["a"]) records
    records.length < EntryId.capacity ∧
      (∀ record ∈ records, ∀ companion, record.companion? = some companion →
        '/' ∉ companion.toList) ∧
      (build .all records).entries.map Entry.name =
        [⟨"b/Other"⟩, ⟨"a/Outer$Factory"⟩, ⟨"a/Outer"⟩] ∧
      part.entries.map Entry.name = [⟨"a/Outer$Factory"⟩, ⟨"a/Outer"⟩] ∧
      part.classes.map (fun owner => (part.companionOf owner).map IndexedClass.name) =
        [none, some ⟨"a/Outer$Factory"⟩] ∧
      IsRestriction part (build .all records) (.ofList ["a"]) ∧
      firstsBy Record.name ((PackageFilter.ofList ["a"]).select records) =
        (PackageFilter.ofList ["a"]).select (firstsBy Record.name records) := by
  -- A left-out package in front of a class with its companion, and a repeated record behind.
  intro records part
  have few : records.length < EntryId.capacity := by decide
  have names : records.map Record.companion? = [none, none, some "Factory", none] := by
    decide +kernel
  have plain : ∀ record ∈ records, ∀ companion, record.companion? = some companion →
      '/' ∉ companion.toList := by
    intro record member companion asked
    have among := List.mem_map_of_mem (f := Record.companion?) member
    rw [names, asked] at among
    obtain rfl : companion = "Factory" := by simpa using among
    decide
  exact ⟨few, plain, by decide +kernel, by decide +kernel, by decide +kernel,
    build_isRestriction (.ofList ["a"]) few plain⟩

end Index

end ApiPages
