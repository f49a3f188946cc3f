import ApiPages.Proofs.Index.Entries

/-!
Links between classes as a relation of names. A link of the index leads to the class entry that is
called as the owner asks, and there is one whenever such an entry exists. Which class is whose
companion is thereby a matter of the declared entries alone, not of their positions.
-/

namespace ApiPages

theorem EntryId.ofPosition?_eq_some_iff {position : Nat} {id : EntryId} :
    ofPosition? position = some id ↔ id.position = position := by
  constructor
  · exact position_ofPosition?
  · rintro rfl
    have fits : id.position < capacity := id.value.toNat_lt
    rw [ofPosition?, if_pos fits, position, UInt32.ofNat_toNat]

theorem BinaryName.ne_inner (name : BinaryName) (inner : String) : name ≠ name.inner inner := by
  intro same
  have longer := name.length_lt_inner inner
  rw [← same] at longer
  exact Nat.lt_irrefl _ longer

theorem BinaryName.eq_inner_iff {name other : BinaryName} {inner : String} :
    other = name.inner inner ↔ other.text = name.text ++ "$" ++ inner := by
  rcases other with ⟨text⟩
  exact BinaryName.mk.injEq _ _ ▸ Iff.rfl

namespace Index

theorem mem_find_classTable {declared : List (Entry String)} {name : BinaryName} {position : Nat} :
    position ∈ (classTable declared).find name.text ↔
      ∃ target, declared[position]? = some target ∧ target.declared.isClass ∧
        target.name = name := by
  simp only [classTable, NameTable.find_ofList, List.mem_map, List.mem_filter, List.mem_filterMap,
    Prod.exists, List.mk_mem_zipIdx_iff_getElem?, decide_eq_true_eq]
  constructor
  · rintro ⟨text, _, ⟨⟨target, place, here, listed⟩, named⟩, rfl⟩
    split at listed
    · next isClass =>
      obtain ⟨rfl, rfl⟩ := Prod.mk.inj (Option.some.inj listed)
      exact ⟨target, here, isClass, congrArg BinaryName.mk named⟩
    · cases listed
  · rintro ⟨target, here, isClass, rfl⟩
    exact ⟨target.name.text, position, ⟨⟨target, position, here, by rw [if_pos isClass]⟩, rfl⟩,
      rfl⟩

section

variable {declared : List (Entry String)} (distinct : (declared.map Entry.name).Nodup)
include distinct

theorem position_eq_of_name {a b : Nat} {first second : Entry String}
    (atA : declared[a]? = some first) (atB : declared[b]? = some second)
    (same : first.name = second.name) : a = b := by
  have inRange : a < (declared.map Entry.name).length := by
    rw [List.length_map]
    exact (List.getElem?_eq_some_iff.1 atA).1
  apply (List.getElem?_inj inRange distinct).1
  rw [List.getElem?_map, List.getElem?_map, atA, atB, Option.map_some, Option.map_some, same]

theorem head?_find_classTable {name : BinaryName} {position : Nat} :
    ((classTable declared).find name.text).head? = some position ↔
      position ∈ (classTable declared).find name.text := by
  constructor
  · exact List.mem_of_mem_head?
  · intro member
    obtain ⟨first, rest, listed⟩ := List.exists_cons_of_ne_nil (List.ne_nil_of_mem member)
    have firstMember : first ∈ (classTable declared).find name.text := by
      rw [listed]
      exact List.mem_cons_self
    obtain ⟨target, atFirst, _, named⟩ := mem_find_classTable.1 firstMember
    obtain ⟨other, atPosition, _, sameName⟩ := mem_find_classTable.1 member
    have same := position_eq_of_name distinct atFirst atPosition (named.trans sameName.symm)
    rw [listed, List.head?_cons, same]

theorem link?_eq_some_iff {owner : BinaryName} {companion : String} {link : Companion} :
    link? (classTable declared) owner companion = some link ↔
      link.name = companion ∧ ∃ target, declared[link.id.position]? = some target ∧
        target.declared.isClass ∧ target.name = owner.inner companion := by
  rw [← mem_find_classTable, ← head?_find_classTable distinct]
  rcases link with ⟨name, id⟩
  simp only [link?, Option.bind_eq_bind, Option.bind_eq_some_iff, Option.some.injEq,
    Companion.mk.injEq, EntryId.ofPosition?_eq_some_iff]
  constructor
  · rintro ⟨position, first, found, placed, rfl, rfl⟩
    exact ⟨rfl, placed ▸ first⟩
  · rintro ⟨rfl, first⟩
    exact ⟨id.position, first, id, rfl, rfl, rfl⟩

theorem link?_isSome_iff (fits : declared.length ≤ EntryId.capacity) {owner : BinaryName}
    {companion : String} :
    (link? (classTable declared) owner companion).isSome ↔
      ∃ target ∈ declared, target.declared.isClass ∧ target.name = owner.inner companion := by
  rw [Option.isSome_iff_exists]
  constructor
  · rintro ⟨link, linked⟩
    obtain ⟨_, target, here, isClass, named⟩ := (link?_eq_some_iff distinct).1 linked
    exact ⟨target, List.mem_of_getElem? here, isClass, named⟩
  · rintro ⟨target, member, isClass, named⟩
    obtain ⟨position, inRange, here⟩ := List.getElem_of_mem member
    have someId : EntryId.ofPosition? position = some ⟨UInt32.ofNat position⟩ :=
      if_pos (Nat.lt_of_lt_of_le inRange fits)
    refine ⟨⟨companion, ⟨UInt32.ofNat position⟩⟩, (link?_eq_some_iff distinct).2 ⟨rfl, target, ?_⟩⟩
    rw [EntryId.position_ofPosition? someId, List.getElem?_eq_getElem inRange, here]
    exact ⟨rfl, isClass, named⟩

end

/-- A class as its record declares it, with its companion by name. -/
structure DeclaredClass where
  name : BinaryName
  declared : ClassDeclaration String

def DeclaredClass.linked (classes : NameTable) (owner : DeclaredClass) : IndexedClass :=
  ⟨owner.name, owner.declared.refer (link? classes owner.name)⟩

def declaredClass? (entry : Entry String) : Option DeclaredClass :=
  entry.declared.class?.map fun declared => ⟨entry.name, declared⟩

def declaredClasses (declared : List (Entry String)) : List DeclaredClass :=
  declared.filterMap declaredClass?

theorem class?_linkEntry (classes : NameTable) (entry : Entry String) :
    (linkEntry classes entry).class? =
      (declaredClass? entry).map (DeclaredClass.linked classes) := by
  rcases entry with ⟨name, _ | _ | _⟩ <;> rfl

/-- Whether `companion` is the class that `owner` names as its companion. This is said of names
alone: neither the order of the classes nor their positions matter. -/
def IsCompanion (declared : List (Entry String)) (owner companion : DeclaredClass) : Prop :=
  companion ∈ declaredClasses declared ∧
    ∃ name, owner.declared.companion = some name ∧ companion.name = owner.name.inner name

theorem IsCompanion.mono {declared more : List (Entry String)} (within : declared ⊆ more)
    {owner companion : DeclaredClass} (is : IsCompanion declared owner companion) :
    IsCompanion more owner companion :=
  ⟨List.filterMap_subset _ within is.1, is.2⟩

theorem entry?_eq_getElem? (index : Index) (id : EntryId) :
    index.entry? id = index.entries[id.position]? := rfl

theorem Holds.companionOf_linked {index : Index} {declared : List (Entry String)}
    (holds : index.Holds declared) (owner : DeclaredClass) {companion : IndexedClass} :
    index.companionOf (owner.linked (classTable declared)) = some companion ↔
      ∃ target, IsCompanion declared owner target ∧
        companion = target.linked (classTable declared) := by
  simp only [companionOf, DeclaredClass.linked, ClassDeclaration.refer, Option.bind_eq_bind,
    Option.bind_eq_some_iff, entry?_eq_getElem?, holds.getElem?_entries, Option.map_eq_some_iff]
  constructor
  · rintro ⟨link, ⟨name, named, linked⟩, _, ⟨entry, here, rfl⟩, found⟩
    obtain ⟨rfl, target, atLink, isClass, inner⟩ := (link?_eq_some_iff holds.names_nodup).1 linked
    obtain rfl := Option.some.inj (here.symm.trans atLink)
    rw [class?_linkEntry, Option.map_eq_some_iff] at found
    obtain ⟨declaredClass, isDeclared, rfl⟩ := found
    obtain ⟨_, _, rfl⟩ := Option.map_eq_some_iff.1 isDeclared
    refine ⟨_, ⟨List.mem_filterMap.2 ⟨entry, List.mem_of_getElem? here, isDeclared⟩, ?_⟩, rfl⟩
    exact ⟨link.name, named, inner⟩
  · rintro ⟨target, ⟨member, name, named, inner⟩, rfl⟩
    obtain ⟨entry, among, isDeclared⟩ := List.mem_filterMap.1 member
    obtain ⟨content, isOfClass, rfl⟩ := Option.map_eq_some_iff.1 isDeclared
    have isClass : entry.declared.isClass := by simp [Declared.isClass, isOfClass]
    have linked := (link?_isSome_iff holds.names_nodup holds.length_le).2
      ⟨entry, among, isClass, inner⟩
    obtain ⟨link, isLink⟩ := Option.isSome_iff_exists.1 linked
    obtain ⟨_, other, here, _, sameName⟩ := (link?_eq_some_iff holds.names_nodup).1 isLink
    have same : other = entry := List.inj_on_of_nodup_map holds.names_nodup
      (List.mem_of_getElem? here) among (sameName.trans inner.symm)
    subst same
    refine ⟨link, ⟨name, named, isLink⟩, _, ⟨other, here, rfl⟩, ?_⟩
    rw [class?_linkEntry, isDeclared]
    rfl

end Index

end ApiPages
