import ApiPages.Proofs.Index.Records
import ApiPages.Resolution.Resolve

/-!
Duplicate records. Answers are read off the entries of an index and the table of their names, so a
record behind another one of its name has no part in them, whatever either of the two holds.
-/

namespace ApiPages

section

variable {index other : Index} (sameEntries : index.entries = other.entries)
include sameEntries

theorem Index.companionOf_congr : index.companionOf = other.companionOf := by
  funext owner
  rw [companionOf, companionOf]
  simp only [sameEntries, entry?]

theorem Index.chain_congr : index.chain = other.chain := by
  have within : ∀ steps owner, index.chainWithin steps owner = other.chainWithin steps owner := by
    intro steps
    induction steps with
    | zero => exact fun _ => rfl
    | succ steps ih =>
      intro owner
      rw [chainWithin, chainWithin, companionOf_congr sameEntries, funext ih]
  funext owner
  rw [chain, chain, size, size, sameEntries, within]

end

namespace Documentation

theorem answer_congr {index other : Index} (sameEntries : index.entries = other.entries)
    (sameNames : index.byNestedName = other.byNestedName) (site : Site) (query : String) :
    (Documentation.mk index site).answer query = (Documentation.mk other site).answer query := by
  have find : index.find = other.find := by
    funext name
    rw [Index.find, Index.find, sameEntries, sameNames]
  have facades : index.facades = other.facades := by
    rw [Index.facades, Index.facades, sameEntries]
  have topLevel : (Documentation.mk index site).resolveTopLevel =
      (Documentation.mk other site).resolveTopLevel := by
    funext request
    rw [resolveTopLevel, resolveTopLevel, topLevelCandidates, topLevelCandidates]
    dsimp only
    rw [facades]
    rfl
  have member : (Documentation.mk index site).resolveMember =
      (Documentation.mk other site).resolveMember := by
    have offers : (Documentation.mk index site).classCandidates =
        (Documentation.mk other site).classCandidates := by
      funext kinds name owner
      rw [classCandidates, classCandidates]
      dsimp only
      rw [Index.chain_congr sameEntries]
      rfl
    funext request
    simp only [resolveMember, memberCandidates, find, offers]
  have classPage : (Documentation.mk index site).resolveClass =
      (Documentation.mk other site).resolveClass := by
    funext name
    simp only [resolveClass, find]
    rfl
  have resolved : (Documentation.mk index site).resolve =
      (Documentation.mk other site).resolve := by
    funext request
    rw [resolve, resolve]
    cases Target.ofIdentifier request.identifier with
    | topLevel => exact congrFun topLevel request
    | classMember => exact congrFun member request
    | classPage => exact congrFun classPage request.identifier
  rw [answer, answer, resolved]

/-- An index holds the first decodable record of every name, and a record inserted behind another
one of its name leaves its entries, facades and look-ups and all answers alone. -/
theorem ofRecords_firstRecords (filter : PackageFilter) {records : List Record}
    (few : records.length < EntryId.capacity) :
    (Index.build filter records).Represents filter records ∧
    ∀ front back again, records = front ++ back → again.name ∈ front.map Record.name →
      let index := Index.build filter records
      let grown := Index.build filter (front ++ again :: back)
      grown.entries = index.entries ∧ grown.facades = index.facades ∧
        (∀ name, grown.find name = index.find name) ∧
        ∀ site query, (Documentation.ofRecords filter (front ++ again :: back) site).answer query =
          (Documentation.ofRecords filter records site).answer query := by
  refine ⟨Index.build_represents filter few, ?_⟩
  rintro front back again rfl known index grown
  obtain ⟨entries, names⟩ := Index.build_insert filter known back
  refine ⟨entries, ?facades, ?find, ?answers⟩
  case facades => rw [Index.facades, Index.facades, entries]
  case find =>
    intro name
    rw [Index.find, Index.find, entries, names]
  case answers => exact answer_congr entries names

theorem ofRecords_firstRecords_bare :
    let front : List Record := [⟨⟨"a/Bare"⟩, none⟩, .ofFile "a/UtilsKt" [⟨"run", none, []⟩] []]
    let back : List Record := [.ofClass "a/Outer" "create" none]
    let again : Record := .ofClass "a/Bare" "create" none
    (front ++ back).length < EntryId.capacity ∧ again.name ∈ front.map Record.name ∧
      (Index.build .all (front ++ back)).Represents .all (front ++ back) ∧
      (Index.build .all (front ++ again :: back)).entries.map Entry.name =
        [⟨"a/UtilsKt"⟩, ⟨"a/Outer"⟩] ∧
      (Documentation.ofRecords .all (front ++ again :: back) .default).answer "Bare" =
        .error (.notFound "'Bare' was not found") := by
  intro front back again
  have few : (front ++ back).length < EntryId.capacity := by decide
  have known : again.name ∈ front.map Record.name := by decide
  obtain ⟨represents, inert⟩ := ofRecords_firstRecords .all few
  obtain ⟨entries, _, _, answers⟩ := inert front back again rfl known
  have names : (Index.build .all (front ++ back)).entries.map Entry.name =
      [⟨"a/UtilsKt"⟩, ⟨"a/Outer"⟩] := by
    decide +kernel
  have answer : (Documentation.ofRecords .all (front ++ back) .default).answer "Bare" =
      .error (.notFound "'Bare' was not found") := by
    decide +kernel
  exact ⟨few, known, represents, entries ▸ names, (answers .default "Bare").trans answer⟩

end Documentation

end ApiPages
