import ApiPages.Proofs.Index.Links
import Mathlib.Data.List.Count
import Mathlib.Logic.Relation

/-!
Chains of companions. Every companion has a longer name than its owner, so fewer and fewer entries
are left for the rest of a chain and following the links comes to an end within the size of the
index. A chain is then exactly the classes that lead on from one companion to the next, and has
none of them twice.
-/

namespace ApiPages.Index

def classes (index : Index) : List IndexedClass := index.entries.filterMap Entry.class?

/-- A class, its companion, the companion of that, and so on up to a class without one. -/
inductive CompanionChain (index : Index) : IndexedClass → List IndexedClass → Prop
  | last {owner : IndexedClass} (alone : index.companionOf owner = none) :
      CompanionChain index owner [owner]
  | step {owner companion : IndexedClass} {rest : List IndexedClass}
      (next : index.companionOf owner = some companion)
      (chain : CompanionChain index companion rest) : CompanionChain index owner (owner :: rest)

theorem CompanionChain.mem_iff {index : Index} {owner other : IndexedClass}
    {chain : List IndexedClass} (isChain : CompanionChain index owner chain) :
    other ∈ chain ↔ Relation.ReflTransGen
      (fun one companion => index.companionOf one = some companion) owner other := by
  induction isChain with
  | last alone =>
    rw [List.mem_singleton]
    constructor
    · rintro rfl
      exact .refl
    · intro reached
      rcases reached.cases_head with same | ⟨companion, next, _⟩
      · exact same.symm
      · rw [alone] at next
        cases next
  | @step owner companion rest next _ ih =>
    rw [List.mem_cons, ih]
    constructor
    · rintro (rfl | reached)
      · exact .refl
      · exact reached.head next
    · intro reached
      rcases reached.cases_head with same | ⟨second, toSecond, reached⟩
      · exact .inl same.symm
      · rw [next] at toSecond
        obtain rfl := Option.some.inj toSecond
        exact .inr reached

theorem mem_classes_of_companionOf {index : Index} {owner companion : IndexedClass}
    (next : index.companionOf owner = some companion) : companion ∈ index.classes := by
  simp only [companionOf, Option.bind_eq_bind, Option.bind_eq_some_iff] at next
  obtain ⟨link, _, entry, here, found⟩ := next
  exact List.mem_filterMap.2 ⟨entry, List.mem_of_getElem? here, found⟩

theorem CompanionChain.acc {index : Index} {owner : IndexedClass} {chain : List IndexedClass}
    (isChain : CompanionChain index owner chain) :
    Acc (fun companion owner => index.companionOf owner = some companion) owner := by
  induction isChain with
  | last alone =>
    constructor
    intro companion next
    rw [alone] at next
    cases next
  | step next _ ih =>
    constructor
    intro other toOther
    rw [next] at toOther
    obtain rfl := Option.some.inj toOther
    exact ih

/-- The entries that may still be on a chain, by the length of their names. -/
def remaining (declared : List (Entry String)) (name : BinaryName) : Nat :=
  declared.countP fun entry => name.text.length ≤ entry.name.text.length

theorem remaining_le_length (declared : List (Entry String)) (name : BinaryName) :
    remaining declared name ≤ declared.length :=
  List.countP_le_length

theorem exists_entry_of_mem {declared : List (Entry String)} {owner : DeclaredClass}
    (member : owner ∈ declaredClasses declared) : ∃ entry ∈ declared, entry.name = owner.name := by
  obtain ⟨entry, among, isDeclared⟩ := List.mem_filterMap.1 member
  obtain ⟨_, _, rfl⟩ := Option.map_eq_some_iff.1 isDeclared
  exact ⟨entry, among, rfl⟩

theorem remaining_pos {declared : List (Entry String)} {owner : DeclaredClass}
    (member : owner ∈ declaredClasses declared) : 0 < remaining declared owner.name := by
  obtain ⟨entry, among, same⟩ := exists_entry_of_mem member
  apply List.countP_pos_iff.2
  exact ⟨entry, among, by simp [same]⟩

theorem remaining_lt {declared : List (Entry String)} {owner companion : DeclaredClass}
    (member : owner ∈ declaredClasses declared) (is : IsCompanion declared owner companion) :
    remaining declared companion.name < remaining declared owner.name := by
  -- Going on to a companion uses up at least the entry of its owner.
  obtain ⟨entry, among, same⟩ := exists_entry_of_mem member
  obtain ⟨_, name, _, inner⟩ := is
  have longer : owner.name.text.length < companion.name.text.length := by
    rw [inner]
    exact owner.name.length_lt_inner name
  -- the longer names are filtered out of the names that are long enough, without the owner's
  have within : declared.filter (fun entry => companion.name.text.length ≤ entry.name.text.length) =
      (declared.filter fun entry => owner.name.text.length ≤ entry.name.text.length).filter
        fun entry => companion.name.text.length ≤ entry.name.text.length := by
    rw [List.filter_filter]
    apply List.filter_congr
    intro other _
    rw [Bool.eq_iff_iff, Bool.and_eq_true, decide_eq_true_eq, decide_eq_true_eq]
    omega
  rw [remaining, remaining, List.countP_eq_length_filter, List.countP_eq_length_filter, within]
  apply List.length_filter_lt_length_iff_exists.2
  refine ⟨entry, List.mem_filter.2 ⟨among, ?_⟩, ?_⟩
  · simp [same]
  · rw [same, decide_eq_true_eq]
    omega

section

variable {index : Index} {declared : List (Entry String)} (holds : index.Holds declared)
include holds

theorem Holds.companionChain_chainWithin {steps : Nat} {owner : DeclaredClass}
    (member : owner ∈ declaredClasses declared) (enough : remaining declared owner.name ≤ steps) :
    CompanionChain index (owner.linked (classTable declared))
      (index.chainWithin steps (owner.linked (classTable declared))) := by
  induction steps generalizing owner with
  | zero =>
    have some := remaining_pos member
    omega
  | succ steps ih =>
    rw [chainWithin]
    cases next : index.companionOf (owner.linked (classTable declared)) with
    | none => exact .last next
    | some companion =>
      obtain ⟨target, is, rfl⟩ := (holds.companionOf_linked owner).1 next
      have fewer := remaining_lt member is
      exact .step next (ih is.1 (by omega))

theorem Holds.companionChain_chain {owner : DeclaredClass}
    (member : owner ∈ declaredClasses declared) :
    CompanionChain index (owner.linked (classTable declared))
      (index.chain (owner.linked (classTable declared))) := by
  apply holds.companionChain_chainWithin member
  rw [holds.size_eq]
  exact remaining_le_length declared owner.name

theorem Holds.exists_declaredClass {owner : IndexedClass} (member : owner ∈ index.classes) :
    ∃ source ∈ declaredClasses declared, owner = source.linked (classTable declared) := by
  obtain ⟨entry, among, found⟩ := List.mem_filterMap.1 member
  obtain ⟨source, isSource, rfl⟩ := holds.mem_entries_iff.1 among
  rw [class?_linkEntry, Option.map_eq_some_iff] at found
  obtain ⟨declaredClass, isDeclared, rfl⟩ := found
  exact ⟨declaredClass, List.mem_filterMap.2 ⟨source, isSource, isDeclared⟩, rfl⟩

theorem Holds.class_eq_of_name_eq {one other : IndexedClass} (member : one ∈ index.classes)
    (otherMember : other ∈ index.classes) (same : one.name = other.name) : one = other := by
  obtain ⟨entry, among, found⟩ := List.mem_filterMap.1 member
  obtain ⟨otherEntry, otherAmong, otherFound⟩ := List.mem_filterMap.1 otherMember
  obtain ⟨_, _, rfl⟩ := Option.map_eq_some_iff.1 found
  obtain ⟨_, _, rfl⟩ := Option.map_eq_some_iff.1 otherFound
  have entries : entry = otherEntry :=
    List.inj_on_of_nodup_map holds.entries_names_nodup among otherAmong same
  subst entries
  exact Option.some.inj (found.symm.trans otherFound)

theorem Holds.companionChain_of_mem_classes {owner : IndexedClass}
    (member : owner ∈ index.classes) :
    CompanionChain index owner (index.chain owner) := by
  obtain ⟨source, declares, rfl⟩ := holds.exists_declaredClass member
  exact holds.companionChain_chain declares

theorem Holds.companionChain_of_mem {entry : Entry Companion} (member : entry ∈ index.entries)
    {owner : IndexedClass} (found : entry.class? = some owner) :
    CompanionChain index owner (index.chain owner) :=
  holds.companionChain_of_mem_classes (List.mem_filterMap.2 ⟨entry, member, found⟩)

theorem Holds.mem_chain_iff {owner : DeclaredClass} (member : owner ∈ declaredClasses declared)
    {other : IndexedClass} :
    other ∈ index.chain (owner.linked (classTable declared)) ↔
      ∃ target, Relation.ReflTransGen (IsCompanion declared) owner target ∧
        other = target.linked (classTable declared) := by
  rw [(holds.companionChain_chain member).mem_iff]
  constructor
  · intro reached
    induction reached with
    | refl => exact ⟨owner, .refl, rfl⟩
    | tail _ next ih =>
      obtain ⟨middle, reached, rfl⟩ := ih
      obtain ⟨target, is, rfl⟩ := (holds.companionOf_linked middle).1 next
      exact ⟨target, reached.tail is, rfl⟩
  · rintro ⟨target, reached, rfl⟩
    induction reached with
    | refl => exact .refl
    | tail _ is ih => exact ih.tail ((holds.companionOf_linked _).2 ⟨_, is, rfl⟩)

theorem Holds.wellFounded_companionOf :
    WellFounded fun companion owner => index.companionOf owner = some companion := by
  constructor
  intro owner
  constructor
  intro companion next
  exact (holds.companionChain_of_mem_classes (mem_classes_of_companionOf next)).acc

theorem Holds.length_lt_of_companionOf {owner companion : IndexedClass}
    (member : owner ∈ index.classes) (next : index.companionOf owner = some companion) :
    owner.name.text.length < companion.name.text.length := by
  obtain ⟨source, _, rfl⟩ := holds.exists_declaredClass member
  obtain ⟨target, ⟨_, name, _, inner⟩, rfl⟩ := (holds.companionOf_linked source).1 next
  have longer := source.name.length_lt_inner name
  rwa [← inner] at longer

theorem Holds.companionChain_mem {owner : IndexedClass} {chain : List IndexedClass}
    (isChain : CompanionChain index owner chain) (member : owner ∈ index.classes) :
    ∀ visited ∈ chain, visited ∈ index.classes ∧
      owner.name.text.length ≤ visited.name.text.length := by
  induction isChain with
  | last _ =>
    intro visited among
    obtain rfl := List.mem_singleton.1 among
    exact ⟨member, Nat.le_refl _⟩
  | step next _ ih =>
    intro visited among
    rcases List.mem_cons.1 among with rfl | later
    · exact ⟨member, Nat.le_refl _⟩
    · obtain ⟨isClass, longer⟩ := ih (mem_classes_of_companionOf next) visited later
      have step := holds.length_lt_of_companionOf member next
      exact ⟨isClass, Nat.le_trans (Nat.le_of_lt step) longer⟩

theorem Holds.companionChain_names_nodup {owner : IndexedClass} {chain : List IndexedClass}
    (isChain : CompanionChain index owner chain) (member : owner ∈ index.classes) :
    (chain.map IndexedClass.name).Nodup := by
  induction isChain with
  | last _ => exact List.nodup_singleton _
  | @step owner companion rest next isRest ih =>
    have isClass := mem_classes_of_companionOf next
    rw [List.map_cons, List.nodup_cons]
    refine ⟨?_, ih isClass⟩
    intro again
    obtain ⟨visited, later, same⟩ := List.mem_map.1 again
    have step := holds.length_lt_of_companionOf member next
    have further := (holds.companionChain_mem isRest isClass visited later).2
    rw [same] at further
    exact Nat.not_lt_of_le further step

theorem Holds.companionChain_length_le {owner : IndexedClass} {chain : List IndexedClass}
    (isChain : CompanionChain index owner chain) (member : owner ∈ index.classes) :
    chain.length ≤ index.size := by
  have distinct := holds.companionChain_names_nodup isChain member
  have among : chain.map IndexedClass.name ⊆ index.entries.map Entry.name := by
    intro name named
    obtain ⟨visited, onChain, rfl⟩ := List.mem_map.1 named
    obtain ⟨entry, isEntry, found⟩ :=
      List.mem_filterMap.1 (holds.companionChain_mem isChain member visited onChain).1
    obtain ⟨_, _, rfl⟩ := Option.map_eq_some_iff.1 found
    exact List.mem_map_of_mem isEntry
  have short := (List.subperm_of_subset distinct among).length_le
  rwa [List.length_map, List.length_map] at short

end

end ApiPages.Index
