import ApiPages.Proofs.Resolution.Answers
import Mathlib.Data.List.Perm.Subperm

/-!
Scan order. Records of distinct names declare the same entries in whatever order they are found, so
the statistics agree and a query finds the same keys. What may differ is the order of contested
candidates and, among overloads of a top-level name, which one came first and gives the label.
-/

namespace ApiPages

namespace Index

theorem declaredEntries_eq_filterMap {scanned : List Record}
    (distinct : (scanned.map Record.name).Nodup) (fits : scanned.length ≤ EntryId.capacity) :
    declaredEntries scanned = scanned.filterMap Record.kept? := by
  rw [declaredEntries_eq_of_few fits, firstsBy_eq_self Record.name distinct]

theorem declaredEntries_perm {scanned others : List Record} (permuted : scanned.Perm others)
    (distinct : (scanned.map Record.name).Nodup) (fits : scanned.length ≤ EntryId.capacity) :
    (declaredEntries scanned).Perm (declaredEntries others) := by
  have othersDistinct : (others.map Record.name).Nodup := (permuted.map _).nodup_iff.1 distinct
  have othersFit : others.length ≤ EntryId.capacity := permuted.length_eq ▸ fits
  rw [declaredEntries_eq_filterMap distinct fits,
    declaredEntries_eq_filterMap othersDistinct othersFit]
  exact permuted.filterMap _

theorem statistics_ofRecords {scanned : List Record}
    (distinct : (scanned.map Record.name).Nodup) (fits : scanned.length ≤ EntryId.capacity) :
    (ofRecords scanned).statistics =
      { scanned := scanned.length
        withoutMetadata := (scanned.map Outcome.ofRecord).countP Outcome.isBare
        duplicates := 0
        failed := (scanned.map Outcome.ofRecord).countP Outcome.isFailed
        classes := (declaredEntries scanned).countP fun entry => entry.declared.isClass
        facades := (declaredEntries scanned).countP fun entry => entry.declared.isFacade
        others := (declaredEntries scanned).countP fun entry => entry.declared.isNothing
        droppedCompanions := (declaredEntries scanned).countP
          (dropsCompanion (classTable (declaredEntries scanned))) } := by
  have decoded : (scanned.map Outcome.ofRecord).filterMap Outcome.entry? =
      declaredEntries scanned := by
    rw [declaredEntries_eq_filterMap distinct fits, List.filterMap_map]
    exact congrArg (List.filterMap · _) (funext Outcome.entry?_ofRecord)
  have all : (declaredEntries scanned).take EntryId.capacity = declaredEntries scanned :=
    List.take_of_length_le (length_declaredEntries_le scanned)
  simp only [ofRecords, firstsBy_eq_self Record.name distinct, decoded, all, List.length_map,
    Nat.sub_self, Nat.add_zero]

theorem dropsCompanion_perm {declared others : List (Entry String)}
    (permuted : declared.Perm others)
    (distinct : (declared.map Entry.name).Nodup) (fits : declared.length ≤ EntryId.capacity)
    (entry : Entry String) :
    dropsCompanion (classTable declared) entry = dropsCompanion (classTable others) entry := by
  have othersDistinct : (others.map Entry.name).Nodup := (permuted.map _).nodup_iff.1 distinct
  have othersFit : others.length ≤ EntryId.capacity := permuted.length_eq ▸ fits
  rw [dropsCompanion, dropsCompanion]
  cases entry.declared.companion? with
  | none => rfl
  | some companion =>
    have linked : (link? (classTable declared) entry.name companion).isSome =
        (link? (classTable others) entry.name companion).isSome := by
      rw [Bool.eq_iff_iff, link?_isSome_iff distinct fits,
        link?_isSome_iff othersDistinct othersFit]
      simp only [permuted.mem_iff]
    dsimp only
    rw [← Option.not_isSome, ← Option.not_isSome, linked]

theorem statistics_ofRecords_perm {scanned others : List Record} (permuted : scanned.Perm others)
    (distinct : (scanned.map Record.name).Nodup) (fits : scanned.length ≤ EntryId.capacity) :
    (ofRecords scanned).statistics = (ofRecords others).statistics := by
  have othersDistinct : (others.map Record.name).Nodup := (permuted.map _).nodup_iff.1 distinct
  have othersFit : others.length ≤ EntryId.capacity := permuted.length_eq ▸ fits
  have outcomes := permuted.map Outcome.ofRecord
  have entries := declaredEntries_perm permuted distinct fits
  have dropped : dropsCompanion (classTable (declaredEntries scanned)) =
      dropsCompanion (classTable (declaredEntries others)) :=
    funext (dropsCompanion_perm entries (declaredEntries_names_nodup scanned)
      (length_declaredEntries_le scanned))
  rw [statistics_ofRecords distinct fits, statistics_ofRecords othersDistinct othersFit, dropped,
    permuted.length_eq]
  simp only [outcomes.countP_eq, entries.countP_eq]

end Index

/-- Answers that agree but for the order of contested candidates, and for labels that are not asked
to agree. -/
inductive Alike (labelled : Prop) : Except ResolutionError Link → Except ResolutionError Link → Prop
  | found {one other : Link} (sameUrl : one.url = other.url)
      (sameLabel : labelled → one.label = other.label) : Alike labelled (.ok one) (.ok other)
  | notFound (reason : String) :
      Alike labelled (.error (.notFound reason)) (.error (.notFound reason))
  | ambiguous (identifier : String) {candidates others : List String}
      (permuted : candidates.Perm others) :
      Alike labelled (.error (.ambiguous identifier candidates))
        (.error (.ambiguous identifier others))
  | faulty {error : ResolutionError} (user : error.isUserError) :
      Alike labelled (.error error) (.error error)

theorem Alike.refl (labelled : Prop) (answer : Except ResolutionError Link) :
    Alike labelled answer answer := by
  match answer with
  | .ok _ => exact .found rfl fun _ => rfl
  | .error (.notFound reason) => exact .notFound reason
  | .error (.ambiguous identifier candidates) => exact .ambiguous identifier (List.Perm.refl _)
  | .error .emptyIdentifier => exact .faulty rfl
  | .error (.unknownKind _) => exact .faulty rfl
  | .error (.malformedMember _) => exact .faulty rfl

theorem Candidates.single_alike {labelled : Prop} {offered others : List Candidate}
    (identifier notFound : String)
    (sameKeys : ∀ key, key ∈ offered.map Candidate.key ↔ key ∈ others.map Candidate.key)
    (sameLabel : labelled → ∀ one ∈ offered, ∀ other ∈ others, one.link.label = other.link.label) :
    Alike labelled ((ofList offered).single identifier notFound)
      ((ofList others).single identifier notFound) := by
  have keys := firstsBy_keys_perm Candidate.key (fun key => (sameKeys key).1)
    (fun key => (sameKeys key).2)
  have inOffered := (firstsBy_sublist Candidate.key offered).subset
  have inOthers := (firstsBy_sublist Candidate.key others).subset
  cases found : firstsBy Candidate.key offered with
  | nil =>
    rw [found, List.map_nil, List.nil_perm, List.map_eq_nil_iff] at keys
    rw [single_ofList, single_ofList, found, keys]
    exact .notFound notFound
  | cons one rest =>
    cases rest with
    | nil =>
      rw [found, List.map_singleton, List.singleton_perm] at keys
      obtain ⟨other, otherFound, sameKey⟩ := List.map_eq_singleton_iff.1 keys.symm
      rw [single_of_one _ _ found, single_of_one _ _ otherFound]
      apply Alike.found
      · exact (congrArg Prod.snd sameKey).symm
      · intro asked
        have oneMember := inOffered (found ▸ List.mem_singleton_self one)
        have otherMember := inOthers (otherFound ▸ List.mem_singleton_self other)
        exact sameLabel asked one oneMember other otherMember
    | cons second rest =>
      have several : 1 < (firstsBy Candidate.key offered).length := by simp [found]
      have othersSeveral : 1 < (firstsBy Candidate.key others).length := by
        have lengths := keys.length_eq
        rw [List.length_map, List.length_map] at lengths
        rwa [← lengths]
      rw [single_of_several _ _ several, single_of_several _ _ othersSeveral]
      exact .ambiguous identifier (keys.map Prod.snd)

namespace Documentation

section

variable {documentation reordered : Documentation} {declared others : List (Entry String)}
  (holds : documentation.index.Holds declared) (reorderedHolds : reordered.index.Holds others)
  (permuted : declared.Perm others) (sameSite : documentation.site = reordered.site)
include holds reorderedHolds permuted sameSite

theorem resolveClass_alike (labelled : Prop) (name : String) :
    Alike labelled (documentation.resolveClass name) (reordered.resolveClass name) := by
  have same := permuted.filter fun entry => entry.name.nestedName = dottedName name
  rw [resolveClass_eq_classAnswer holds, resolveClass_eq_classAnswer reorderedHolds, ← sameSite]
  match declared.filter _, others.filter _, same with
  | [], found, same =>
    rw [List.nil_perm.1 same]
    exact .refl labelled _
  | [entry], found, same =>
    rw [List.singleton_perm.1 same]
    exact .refl labelled _
  | _ :: _ :: _, [], same => cases same.length_eq
  | _ :: _ :: _, [_], same => cases same.length_eq
  | _ :: _ :: _, _ :: _ :: _, same => exact .ambiguous name (same.map _)

theorem resolveTopLevel_alike {labelled : Prop} (unlabelled : ¬labelled) (request : Request) :
    Alike labelled (documentation.resolveTopLevel request)
      (reordered.resolveTopLevel request) := by
  have facades : (declaredFacades declared).Perm (declaredFacades others) := permuted.filterMap _
  rw [resolveTopLevel, resolveTopLevel, topLevelCandidates_eq_flatMap holds,
    topLevelCandidates_eq_flatMap reorderedHolds, facadeCandidates_eq_of_site sameSite]
  apply Candidates.single_alike
  · intro key
    exact ((facades.flatMap_right _).map Candidate.key).mem_iff
  · exact fun asked => absurd asked unlabelled

theorem resolveMember_alike (labelled : Prop) (request : Request) :
    Alike labelled (documentation.resolveMember request) (reordered.resolveMember request) := by
  cases split : splitMember? request.identifier with
  | none =>
    rw [resolveMember, resolveMember, split]
    exact .refl labelled _
  | some names =>
    obtain ⟨className, name⟩ := names
    have missing : documentation.index.find className = [] ↔
        reordered.index.find className = [] := by
      simp only [find_eq_nil_iff holds, find_eq_nil_iff reorderedHolds, permuted.mem_iff]
    have offered : ∀ candidate,
        candidate ∈ documentation.memberCandidates request.kinds name
            (documentation.index.find className) ↔
          candidate ∈ reordered.memberCandidates request.kinds name
            (reordered.index.find className) := by
      intro candidate
      rw [mem_memberCandidates_iff holds, mem_memberCandidates_iff reorderedHolds, sameSite]
      exact ⟨.mono permuted.subset, .mono permuted.symm.subset⟩
    rw [resolveMember_of_split _ split, resolveMember_of_split _ split]
    by_cases unknown : documentation.index.find className = []
    · rw [if_pos unknown, if_pos (missing.1 unknown)]
      exact .refl labelled _
    · rw [if_neg unknown, if_neg (missing.not.1 unknown)]
      apply Candidates.single_alike
      · intro key
        simp only [List.mem_map, offered]
      · intro _ one oneOffered other otherOffered
        rw [label_of_mem_memberCandidates holds oneOffered,
          label_of_mem_memberCandidates reorderedHolds otherOffered]

theorem resolve_alike {labelled : Prop} (request : Request)
    (unlabelled : Target.ofIdentifier request.identifier = .topLevel → ¬labelled) :
    Alike labelled (documentation.resolve request) (reordered.resolve request) := by
  rw [resolve, resolve]
  cases target : Target.ofIdentifier request.identifier with
  | topLevel =>
    exact resolveTopLevel_alike holds reorderedHolds permuted sameSite (unlabelled target) request
  | classMember => exact resolveMember_alike holds reorderedHolds permuted sameSite _ request
  | classPage =>
    exact resolveClass_alike holds reorderedHolds permuted sameSite _ request.identifier

theorem answer_alike (query : String) :
    Alike (((Query.cut query.toList).1.head?.any Text.isLower) = false)
      (documentation.answer query) (reordered.answer query) := by
  rw [answer, answer]
  cases parsed : Request.parse query with
  | error error => exact .refl _ (.error error)
  | ok request =>
    apply resolve_alike holds reorderedHolds permuted sameSite
    intro target
    rw [Target.ofIdentifier_eq_topLevel_iff, Request.identifier_of_parse parsed,
      String.toList_ofList] at target
    rw [target]
    exact Bool.noConfusion

end

/-- Neither the answers nor the statistics depend on the order of the records, except that a
top-level function may be labelled as another one of its overloads. -/
theorem answer_perm (filter : PackageFilter) {records others : List Record} (site : Site)
    (query : String) (permuted : records.Perm others)
    (distinct : (records.map Record.name).Nodup) (fits : records.length < EntryId.capacity) :
    let documentation := Documentation.ofRecords filter records site
    let reordered := Documentation.ofRecords filter others site
    Alike (((Query.cut query.toList).1.head?.any Text.isLower) = false)
        (documentation.answer query) (reordered.answer query) ∧
      documentation.index.statistics = reordered.index.statistics := by
  intro documentation reordered
  have selected : (filter.select records).Perm (filter.select others) := permuted.filter _
  have among : (filter.select records).Sublist records := List.filter_sublist
  have selectedDistinct := distinct.sublist (among.map Record.name)
  have selectedFit := Nat.le_trans among.length_le (Nat.le_of_lt fits)
  have entries := Index.declaredEntries_perm selected selectedDistinct selectedFit
  have holds : documentation.index.Holds _ := Index.holds_build filter records
  have reorderedHolds : reordered.index.Holds _ := Index.holds_build filter others
  constructor
  · exact answer_alike holds reorderedHolds entries (Eq.refl site) query
  · exact Index.statistics_ofRecords_perm selected selectedDistinct selectedFit

theorem answer_perm_companion :
    let records : List Record := [.ofClass "a/Outer" "create" (some "Factory"),
      .ofClass "a/Outer$Factory" "create" none, .ofClass "b/Outer" "create" (some "Absent")]
    records.Perm records.reverse ∧ (records.map Record.name).Nodup ∧
      records.length < EntryId.capacity ∧
      Alike (((Query.cut "Outer#create".toList).1.head?.any Text.isLower) = false)
        ((Documentation.ofRecords .all records .default).answer "Outer#create")
        ((Documentation.ofRecords .all records.reverse .default).answer "Outer#create") ∧
      (Documentation.ofRecords .all records .default).index.statistics =
        (Documentation.ofRecords .all records.reverse .default).index.statistics := by
  intro records
  have permuted : records.Perm records.reverse := records.reverse_perm.symm
  have distinct : (records.map Record.name).Nodup := by decide
  have fits : records.length < EntryId.capacity := by decide
  exact ⟨permuted, distinct, fits, answer_perm .all .default "Outer#create" permuted distinct fits⟩

end Documentation

end ApiPages
