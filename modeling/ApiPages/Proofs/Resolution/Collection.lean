import ApiPages.Proofs.Index.Chain
import ApiPages.Resolution.Resolve

/-!
Collection of members along companions, with no bound on the number of steps. Whatever names the
records give to companions, a link always leads to a longer name, so no class is met twice, a chain
is no longer than the index, and collecting comes to an end with what the bounded search returns.
-/

namespace ApiPages

namespace Documentation

/-- What collecting from a class comes to: what the class offers itself and, if it has a companion,
what collecting from that comes to. No number of steps is given. -/
inductive Collected (documentation : Documentation) (kinds : KindSet) (label name : String) :
    IndexedClass → List Candidate → Prop
  | last {owner : IndexedClass} (alone : documentation.index.companionOf owner = none) :
      Collected documentation kinds label name owner
        (documentation.ownCandidates kinds label name owner)
  | onward {owner companion : IndexedClass} {links : List Candidate}
      (next : documentation.index.companionOf owner = some companion)
      (rest : Collected documentation kinds label name companion links) :
      Collected documentation kinds label name owner
        (documentation.ownCandidates kinds label name owner ++ links)

section

variable {documentation : Documentation} {kinds : KindSet} {label name : String}
  {owner : IndexedClass}

theorem Collected.unique {links others : List Candidate}
    (collected : Collected documentation kinds label name owner links)
    (again : Collected documentation kinds label name owner others) : links = others := by
  induction collected generalizing others with
  | last alone =>
    cases again with
    | last _ => rfl
    | onward next _ => rw [alone] at next; cases next
  | onward next _ ih =>
    cases again with
    | last alone => rw [alone] at next; cases next
    | onward toOther rest =>
      rw [next] at toOther
      obtain rfl := Option.some.inj toOther
      rw [ih rest]

theorem collected_of_companionChain {chain : List IndexedClass}
    (isChain : documentation.index.CompanionChain owner chain) :
    Collected documentation kinds label name owner
      (chain.flatMap (documentation.ownCandidates kinds label name)) := by
  induction isChain with
  | last alone =>
    rw [List.flatMap_singleton]
    exact .last alone
  | step next _ ih =>
    rw [List.flatMap_cons]
    exact .onward next ih

theorem exists_collected {declared : List (Entry String)}
    (holds : documentation.index.Holds declared) :
    ∃ links, Collected documentation kinds label name owner links := by
  cases next : documentation.index.companionOf owner with
  | none => exact ⟨_, .last next⟩
  | some companion =>
    have isClass := Index.mem_classes_of_companionOf next
    have isChain := holds.companionChain_of_mem_classes isClass
    exact ⟨_, .onward next (collected_of_companionChain isChain)⟩

end

/-- From every class of an index the links lead through distinct classes to an end, and the search
within the size of the index returns what following them without a bound comes to. -/
theorem classCandidates_collected (filter : PackageFilter) (records : List Record) (site : Site) :
    let documentation := Documentation.ofRecords filter records site
    let index := documentation.index
    (WellFounded fun companion owner => index.companionOf owner = some companion) ∧
    (∀ owner kinds label name, ∃! links, Collected documentation kinds label name owner links) ∧
    ∀ owner ∈ index.classes,
      (∃ chain, index.CompanionChain owner chain ∧ (chain.map IndexedClass.name).Nodup ∧
        chain.length ≤ index.size) ∧
      ∀ kinds name, Collected documentation kinds (memberLabel owner name) name owner
        (documentation.classCandidates kinds name owner) := by
  intro documentation index
  have holds : index.Holds _ := Index.holds_build filter records
  refine ⟨holds.wellFounded_companionOf, ?_, ?_⟩
  · intro owner kinds label name
    obtain ⟨links, collected⟩ := exists_collected holds
    exact ⟨links, collected, fun others again => again.unique collected⟩
  · intro owner member
    have isChain := holds.companionChain_of_mem_classes member
    constructor
    · exact ⟨_, isChain, holds.companionChain_names_nodup isChain member,
        holds.companionChain_length_le isChain member⟩
    · intro kinds name
      exact collected_of_companionChain isChain

theorem classCandidates_collected_unnamed :
    let documentation := Documentation.ofRecords .all
      [.ofClass "a/Outer$" "create" (some "a/Outer"), .ofClass "a/Outer" "create" (some ""),
        .ofClass "a/Outer$$a/Outer" "create" none] .default
    ∃ owner ∈ documentation.index.classes, owner.name = ⟨"a/Outer"⟩ ∧
      (∃ chain, documentation.index.CompanionChain owner chain ∧
        (chain.map IndexedClass.name).Nodup ∧ chain.length ≤ documentation.index.size) ∧
      (documentation.index.chain owner).map IndexedClass.name =
        [⟨"a/Outer"⟩, ⟨"a/Outer$"⟩, ⟨"a/Outer$$a/Outer"⟩] ∧
      Collected documentation .all "Outer.create" "create" owner
        (documentation.classCandidates .all "create" owner) := by
  intro documentation
  have names : (documentation.index.classes[1]?.map fun owner =>
      (owner.name, (documentation.index.chain owner).map IndexedClass.name)) =
      some (⟨"a/Outer"⟩, [⟨"a/Outer"⟩, ⟨"a/Outer$"⟩, ⟨"a/Outer$$a/Outer"⟩]) := by
    decide +kernel
  obtain ⟨owner, second, found⟩ := Option.map_eq_some_iff.1 names
  have member := List.mem_of_getElem? second
  obtain ⟨named, chained⟩ := Prod.mk.inj found
  have ends := (classCandidates_collected .all _ .default).2.2 owner member
  have label : memberLabel owner "create" = "Outer.create" := by
    rw [memberLabel, named]
    decide
  exact ⟨owner, member, named, ends.1, chained, label ▸ ends.2 .all "create"⟩

end Documentation

end ApiPages
