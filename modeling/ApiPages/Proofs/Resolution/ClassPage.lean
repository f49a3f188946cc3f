import ApiPages.Proofs.Index.Chain
import ApiPages.Proofs.Name.Binary
import ApiPages.Resolution.Resolve

/-!
Names with one class declaration. Entries that are no classes count among those that bear a name,
so the page of the class is found exactly if nothing else bears its name. Otherwise the query is
contested, though only one of the candidates has a page.
-/

namespace ApiPages

namespace Index

def bearers (index : Index) (name : String) : List (Entry Companion) :=
  index.entries.filter fun entry => entry.name.nestedName = name

def classesNamed (index : Index) (name : String) : List IndexedClass :=
  index.classes.filter fun indexed => indexed.name.nestedName = name

theorem filterMap_class?_bearers (index : Index) (name : String) :
    (index.bearers name).filterMap Entry.class? = index.classesNamed name := by
  rw [bearers, classesNamed, classes, List.filterMap_filter, List.filter_filterMap]
  apply List.filterMap_congr
  intro entry _
  cases found : entry.class? with
  | none => simp
  | some indexed =>
    obtain ⟨_, _, rfl⟩ := Option.map_eq_some_iff.1 found
    simp [Option.filter]

section

variable {index : Index} {name : String} {indexed : IndexedClass}
  (one : index.classesNamed name = [indexed])
include one

theorem nestedName_of_one_class : indexed.name.nestedName = name := by
  have member : indexed ∈ index.classesNamed name := one ▸ List.mem_singleton_self indexed
  exact of_decide_eq_true (List.mem_filter.1 member).2

theorem bearers_length_eq_one_iff :
    (index.bearers name).length = 1 ↔
      (index.bearers name).all fun entry => entry.declared.isClass := by
  have classes := List.filterMap_length_eq_length (f := Entry.class?) (l := index.bearers name)
  rw [filterMap_class?_bearers, one, List.length_singleton, eq_comm] at classes
  simp only [classes, List.all_eq_true, Entry.class?, Option.isSome_map, Declared.isClass]

theorem bearers_length_pos : 0 < (index.bearers name).length := by
  have fewer := List.length_filterMap_le Entry.class? (index.bearers name)
  rw [filterMap_class?_bearers, one, List.length_singleton] at fewer
  exact fewer

theorem bearers_eq_singleton
    (alone : (index.bearers name).all fun entry => entry.declared.isClass) :
    ∃ entry, index.bearers name = [entry] ∧ entry.class? = some indexed := by
  obtain ⟨entry, only⟩ := List.length_eq_one_iff.1 ((bearers_length_eq_one_iff one).2 alone)
  have classes := filterMap_class?_bearers index name
  rw [only, one, List.filterMap_cons, List.filterMap_nil] at classes
  cases found : entry.class? with
  | none =>
    rw [found] at classes
    cases classes
  | some other =>
    rw [found] at classes
    obtain ⟨rfl, _⟩ := List.cons.inj classes
    exact ⟨entry, only, found⟩

end

theorem Holds.find_eq_bearers {index : Index} {declared : List (Entry String)}
    (holds : index.Holds declared) {name : String} {indexed : IndexedClass}
    (one : index.classesNamed name = [indexed]) : index.find name = index.bearers name := by
  have nested := nestedName_of_one_class one
  rw [holds.find_eq_filter, bearers, ← nested, dottedName_nestedName]

end Index

namespace Documentation

theorem resolveClass_of_several {documentation : Documentation} {name : String}
    (several : 1 < (documentation.index.find name).length) :
    documentation.resolveClass name = .error (.ambiguous name
      ((documentation.index.find name).map fun entry => entry.name.displayName)) := by
  rw [resolveClass]
  match documentation.index.find name, several with
  | _ :: _ :: _, _ => rfl

theorem resolveClass_eq_ite {documentation : Documentation} {declared : List (Entry String)}
    (holds : documentation.index.Holds declared) {name : String} {indexed : IndexedClass}
    (one : documentation.index.classesNamed name = [indexed]) :
    documentation.resolveClass name =
      if (documentation.index.bearers name).all fun entry => entry.declared.isClass then
        .ok ⟨classLabel indexed.declared name, documentation.classPage indexed⟩
      else .error (.ambiguous name
        ((documentation.index.bearers name).map fun entry => entry.name.displayName)) := by
  have found := holds.find_eq_bearers one
  by_cases alone : (documentation.index.bearers name).all fun entry => entry.declared.isClass
  · obtain ⟨entry, only, isClass⟩ := Index.bearers_eq_singleton one alone
    rw [if_pos alone, resolveClass, found, only]
    dsimp only
    rw [isClass]
  · have notOne := (Index.bearers_length_eq_one_iff one).not.2 alone
    have some := Index.bearers_length_pos one
    have several : 1 < (documentation.index.find name).length := by
      rw [found]
      omega
    rw [if_neg alone, resolveClass_of_several several, found]

/-- A name with one class declaration leads to its page, unless an entry of another kind bears the
name too. -/
theorem resolveClass_of_one_class (filter : PackageFilter) (records : List Record) (site : Site)
    {name : String} {indexed : IndexedClass} (unbroken : ¬name.toList.any Text.isBlank)
    (plain : '#' ∉ name.toList) (capital : ¬name.toList.head?.any Text.isLower)
    (one : (Index.build filter records).classesNamed name = [indexed]) :
    let documentation := Documentation.ofRecords filter records site
    let bearers := documentation.index.bearers name
    documentation.resolveClass name =
      (if bearers.all fun entry => entry.declared.isClass then
        .ok ⟨classLabel indexed.declared name,
          site.base indexed.declared.moduleName indexed.name.package name ++ "/index.html"⟩
      else .error (.ambiguous name (bearers.map fun entry => entry.name.displayName))) ∧
    documentation.answer name =
      if name = "" then .error .emptyIdentifier else documentation.resolveClass name := by
  intro documentation bearers
  have holds : documentation.index.Holds _ := Index.holds_build filter records
  constructor
  · have page : documentation.classPage indexed =
        site.base indexed.declared.moduleName indexed.name.package name ++ "/index.html" := by
      rw [classPage, classBase, Index.nestedName_of_one_class one]
      rfl
    rw [resolveClass_eq_ite holds one, page]
  · have target : Target.ofIdentifier name = .classPage := by
      rw [Target.ofIdentifier, if_neg capital, if_neg plain]
    rw [answer_of_no_blank documentation unbroken, resolve, target]
    rfl

theorem resolveClass_of_one_class_nested :
    let records : List Record := [.ofFile "a/Outer" [⟨"run", none, []⟩] [],
      .ofClass "a/Outer$InnerClass" "create" none, .ofClass "b/Other" "create" none]
    let documentation := Documentation.ofRecords .all records .default
    (¬"Outer.InnerClass".toList.any Text.isBlank) ∧ '#' ∉ "Outer.InnerClass".toList ∧
      (¬"Outer.InnerClass".toList.head?.any Text.isLower) ∧
      (∃ indexed, documentation.index.classesNamed "Outer.InnerClass" = [indexed]) ∧
      documentation.resolveClass "Outer.InnerClass" =
        .ok ⟨"Outer.InnerClass", "https://docs.example/module/a/outer/inner-class/index.html"⟩ ∧
      documentation.answer "Outer.InnerClass" =
        .ok ⟨"Outer.InnerClass", "https://docs.example/module/a/outer/inner-class/index.html"⟩ := by
  intro records documentation
  have unbroken : ¬"Outer.InnerClass".toList.any Text.isBlank := by decide +kernel
  have plain : '#' ∉ "Outer.InnerClass".toList := by decide
  have capital : ¬"Outer.InnerClass".toList.head?.any Text.isLower := by decide +kernel
  have pages : (documentation.index.classesNamed "Outer.InnerClass").map (fun indexed =>
      (⟨classLabel indexed.declared "Outer.InnerClass", Site.default.base
        indexed.declared.moduleName indexed.name.package "Outer.InnerClass" ++ "/index.html"⟩ :
          Link)) =
      [⟨"Outer.InnerClass", "https://docs.example/module/a/outer/inner-class/index.html"⟩] := by
    decide +kernel
  have alone : (documentation.index.bearers "Outer.InnerClass").all fun entry =>
      entry.declared.isClass := by
    decide +kernel
  obtain ⟨indexed, one, page⟩ := List.map_eq_singleton_iff.1 pages
  obtain ⟨resolved, answered⟩ :=
    resolveClass_of_one_class .all records .default unbroken plain capital one
  have found := (resolved.trans (if_pos alone)).trans (congrArg Except.ok page)
  exact ⟨unbroken, plain, capital, ⟨indexed, one⟩, found,
    (answered.trans (if_neg (by decide))).trans found⟩

/-- A facade that bears the name of a class hides the page of that class. -/
theorem resolveClass_shared_name :
    let documentation := Documentation.ofRecords .all
      [.ofFile "a/Utils" [⟨"run", none, []⟩] [], .ofClass "b/Utils" "run" none] .default
    (¬"Utils".toList.any Text.isBlank) ∧ '#' ∉ "Utils".toList ∧
      (¬"Utils".toList.head?.any Text.isLower) ∧
      (documentation.index.classesNamed "Utils").length = 1 ∧
      documentation.resolveClass "Utils" = .error (.ambiguous "Utils" ["a.Utils", "b.Utils"]) ∧
      documentation.answer "Utils" = .error (.ambiguous "Utils" ["a.Utils", "b.Utils"]) := by
  decide +kernel

end Documentation

end ApiPages
