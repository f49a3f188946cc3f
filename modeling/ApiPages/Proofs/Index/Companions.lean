import ApiPages.Proofs.Index.Links

/-!
Companion links. A link is made exactly if the class entry that metadata asks for is in the index,
wherever its record stood; it leads to that entry and to no other. No class is its own companion,
because its companion has a longer name, and no link or looked-up position leads out of the index.
-/

namespace ApiPages

def namedCompanion? (records : List Record) (name : BinaryName) : Option String :=
  (declaredBy? records name).bind Declared.companion?

namespace Index

/-- The links of an index are those that the records ask for and the index can give. -/
structure CompanionsLinked (index : Index) (records : List Record) : Prop where
  /-- An entry declares what the first record of its name does, with a link for the name. -/
  declared : ∀ entry ∈ index.entries, ∃ declared link?,
    declaredBy? records entry.name = some declared ∧ entry.declared = declared.refer link?
  unnamed : ∀ entry ∈ index.entries, namedCompanion? records entry.name = none →
    entry.declared.companion? = none
  linked_iff : ∀ entry ∈ index.entries, ∀ companion,
    namedCompanion? records entry.name = some companion →
      (entry.declared.companion?.isSome ↔ ∃ target ∈ index.entries,
        target.declared.isClass ∧ target.name.text = entry.name.text ++ "$" ++ companion)
  link_eq : ∀ entry ∈ index.entries, ∀ companion,
    namedCompanion? records entry.name = some companion →
      ∀ link, entry.declared.companion? = some link → link.name = companion ∧
        ∀ position, link.id.position = position ↔ ∃ target, index.entries[position]? = some target ∧
          target.declared.isClass ∧ target.name.text = entry.name.text ++ "$" ++ companion
  not_self : ∀ (position : Nat) (entry : Entry Companion), index.entries[position]? = some entry →
    ∀ link, entry.declared.companion? = some link → link.id.position ≠ position
  link_valid : ∀ entry ∈ index.entries, ∀ link, entry.declared.companion? = some link →
    ∃ target, index.entry? link.id = some target
  lookup_valid : ∀ name, ∀ position ∈ index.byNestedName.find name,
    ∃ id, EntryId.ofPosition? position = some id ∧ ∃ target, index.entry? id = some target
  companionOf_isSome : ∀ entry ∈ index.entries, ∀ indexed, entry.class? = some indexed →
    indexed.declared.companion.isSome → (index.companionOf indexed).isSome

section

variable {index : Index} {declared : List (Entry String)} (holds : index.Holds declared)
include holds

theorem Holds.link_iff {source : Entry String} {link : Companion} :
    (linkEntry (classTable declared) source).declared.companion? = some link ↔
      source.declared.companion? = some link.name ∧
        ∃ target, index.entries[link.id.position]? = some target ∧ target.declared.isClass ∧
          target.name = source.name.inner link.name := by
  rw [linkEntry, Declared.companion?_refer, Option.bind_eq_some_iff]
  simp only [link?_eq_some_iff holds.names_nodup, holds.getElem?_entries, Option.map_eq_some_iff]
  constructor
  · rintro ⟨name, named, rfl, target, here, isClass, inner⟩
    refine ⟨named, _, ⟨target, here, rfl⟩, ?_, inner⟩
    rw [linkEntry, Declared.isClass_refer, isClass]
  · rintro ⟨named, _, ⟨target, here, rfl⟩, isClass, inner⟩
    rw [linkEntry, Declared.isClass_refer] at isClass
    exact ⟨link.name, named, rfl, target, here, isClass, inner⟩

theorem Holds.linked_iff {source : Entry String} :
    (linkEntry (classTable declared) source).declared.companion?.isSome ↔
      ∃ companion, source.declared.companion? = some companion ∧ ∃ target ∈ index.entries,
        target.declared.isClass ∧ target.name = source.name.inner companion := by
  rw [linkEntry, Declared.companion?_refer, Option.isSome_bind, Option.any_eq_true]
  simp only [link?_isSome_iff holds.names_nodup holds.length_le, holds.mem_entries_iff]
  constructor
  · rintro ⟨companion, named, target, member, isClass, inner⟩
    refine ⟨companion, named, _, ⟨target, member, rfl⟩, ?_, inner⟩
    rw [linkEntry, Declared.isClass_refer, isClass]
  · rintro ⟨companion, named, _, ⟨target, member, rfl⟩, isClass, inner⟩
    rw [linkEntry, Declared.isClass_refer] at isClass
    exact ⟨companion, named, target, member, isClass, inner⟩

theorem Holds.position_eq_of_name {a b : Nat} {first second : Entry Companion}
    (atA : index.entries[a]? = some first) (atB : index.entries[b]? = some second)
    (same : first.name = second.name) : a = b := by
  rw [holds.getElem?_entries, Option.map_eq_some_iff] at atA atB
  obtain ⟨firstSource, hereA, rfl⟩ := atA
  obtain ⟨secondSource, hereB, rfl⟩ := atB
  exact Index.position_eq_of_name holds.names_nodup hereA hereB same

end

theorem companionOf_eq_class? {index : Index} {owner : IndexedClass} {link : Companion}
    {target : Entry Companion} (linked : owner.declared.companion = some link)
    (here : index.entries[link.id.position]? = some target) :
    index.companionOf owner = target.class? := by
  simp [companionOf, linked, entry?_eq_getElem?, here]

theorem companion?_of_class? {entry : Entry Companion} {indexed : IndexedClass}
    (found : entry.class? = some indexed) :
    entry.declared.companion? = indexed.declared.companion := by
  obtain ⟨declared, isOfClass, rfl⟩ := Option.map_eq_some_iff.1 found
  rw [Declared.companion?, isOfClass, Option.bind_some]

section

variable {index : Index} {declared : List (Entry String)} (holds : index.Holds declared)
include holds

theorem Holds.link_not_self {position : Nat} {entry : Entry Companion}
    (here : index.entries[position]? = some entry) {link : Companion}
    (linked : entry.declared.companion? = some link) : link.id.position ≠ position := by
  intro same
  obtain ⟨source, _, rfl⟩ := holds.mem_entries_iff.1 (List.mem_of_getElem? here)
  obtain ⟨_, target, atLink, _, inner⟩ := holds.link_iff.1 linked
  rw [same, here] at atLink
  obtain rfl := Option.some.inj atLink
  exact BinaryName.ne_inner _ _ inner

theorem Holds.exists_id {name : String} {position : Nat}
    (listed : position ∈ index.byNestedName.find name) :
    ∃ id, EntryId.ofPosition? position = some id ∧ ∃ target, index.entry? id = some target := by
  have inRange := holds.position_lt_size listed
  have fits : position < EntryId.capacity := by
    have size := holds.size_eq
    have bound := holds.length_le
    omega
  have someId : EntryId.ofPosition? position = some ⟨UInt32.ofNat position⟩ := if_pos fits
  have placed := EntryId.position_ofPosition? someId
  exact ⟨_, someId, _, by rw [entry?_eq_getElem?, placed, List.getElem?_eq_getElem inRange]⟩

theorem Holds.companionOf_isSome {entry : Entry Companion} (member : entry ∈ index.entries)
    {indexed : IndexedClass} (found : entry.class? = some indexed)
    (hasLink : indexed.declared.companion.isSome) : (index.companionOf indexed).isSome := by
  obtain ⟨source, _, rfl⟩ := holds.mem_entries_iff.1 member
  obtain ⟨link, linked⟩ := Option.isSome_iff_exists.1 hasLink
  have asked := (companion?_of_class? found).trans linked
  obtain ⟨_, target, here, isClass, _⟩ := holds.link_iff.1 asked
  rw [companionOf_eq_class? linked here, Entry.class?, Option.isSome_map]
  exact isClass

end

/-- Every build links companions as its records ask for. -/
theorem build_companionsLinked (filter : PackageFilter) (records : List Record) :
    (build filter records).CompanionsLinked records := by
  have holds := holds_build filter records
  have named : ∀ source ∈ declaredEntries (filter.select records),
      namedCompanion? records source.name = source.declared.companion? := by
    intro source member
    rw [namedCompanion?, declaredBy?_of_mem_select member, Option.bind_some]
  constructor
  case declared =>
    intro entry member
    obtain ⟨source, among, rfl⟩ := holds.mem_entries_iff.1 member
    exact ⟨source.declared, _, declaredBy?_of_mem_select among, rfl⟩
  case unnamed =>
    intro entry member absent
    obtain ⟨source, among, rfl⟩ := holds.mem_entries_iff.1 member
    rw [linkEntry, named source among] at absent
    rw [linkEntry, Declared.companion?_refer, absent, Option.bind_none]
  case linked_iff =>
    intro entry member companion asked
    obtain ⟨source, among, rfl⟩ := holds.mem_entries_iff.1 member
    rw [linkEntry, named source among] at asked
    rw [holds.linked_iff]
    simp only [asked, Option.some.injEq, exists_eq_left', BinaryName.eq_inner_iff, linkEntry]
  case link_eq =>
    intro entry member companion asked link linked
    obtain ⟨source, among, rfl⟩ := holds.mem_entries_iff.1 member
    rw [linkEntry, named source among] at asked
    obtain ⟨askedLink, target, here, isClass, inner⟩ := holds.link_iff.1 linked
    obtain rfl := Option.some.inj (asked.symm.trans askedLink)
    refine ⟨rfl, fun position => ⟨?_, ?_⟩⟩
    · rintro rfl
      exact ⟨target, here, isClass, BinaryName.eq_inner_iff.1 inner⟩
    · rintro ⟨other, atPosition, _, otherInner⟩
      exact holds.position_eq_of_name here atPosition
        (inner.trans (BinaryName.eq_inner_iff.2 otherInner).symm)
  case not_self =>
    intro position entry here link linked
    exact holds.link_not_self here linked
  case link_valid =>
    intro entry member link linked
    obtain ⟨source, _, rfl⟩ := holds.mem_entries_iff.1 member
    obtain ⟨_, target, here, _⟩ := holds.link_iff.1 linked
    exact ⟨target, here⟩
  case lookup_valid =>
    intro name position listed
    exact holds.exists_id listed
  case companionOf_isSome =>
    intro entry member indexed found hasLink
    exact holds.companionOf_isSome member found hasLink

end Index

end ApiPages
