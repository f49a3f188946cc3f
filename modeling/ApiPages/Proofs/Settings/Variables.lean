import ApiPages.Proofs.Settings.Leaf
import Mathlib.Data.List.Induction

/-!
Variables of the environment, one setting each. A variable for a setting in a table opens the table
or adds to it. Main statement: the layer of such variables holds the value of each of them where its
setting is, and no other value.
-/

namespace ApiPages.Settings

open Named (find?)

namespace Environment

/-- What the environment says of a setting. -/
def given? (environment : List (String × String)) (leaf : Leaf) : Option Toml :=
  (environment.find? fun (name, _) => setting? name = some leaf.path).map
    fun (_, text) => value text

def reaches (environment : List (String × String)) (table : String) : Bool :=
  environment.any fun (name, _) => (setting? name).any fun path => path.head? = some table

/-- An environment in which every variable for the settings is for one of them, and no two are for
the same one. -/
structure Canonical (environment : List (String × String)) : Prop where
  named : ∀ entry ∈ environment, ∀ path, setting? entry.1 = some path →
    ∃ leaf : Leaf, leaf.path = path
  once : (environment.filterMap fun (name, _) => setting? name).Nodup

def TableSpelled (environment : List (String × String)) (fields : List (String × Toml))
    (table : String) : Prop :=
  if reaches environment table then
    ∃ inner, find? table fields = some (.table inner) ∧
      ∀ leaf : Leaf, leaf.table? = some table → find? leaf.key inner = given? environment leaf
  else find? table fields = none

structure Spelled (environment : List (String × String)) (fields : List (String × Toml)) :
    Prop where
  top : ∀ leaf : Leaf, leaf.table? = none → find? leaf.key fields = given? environment leaf
  table : ∀ (leaf : Leaf) (table : String), leaf.table? = some table →
    TableSpelled environment fields table

theorem given?_concat (environment : List (String × String)) (name text : String) (leaf : Leaf) :
    given? (environment ++ [(name, text)]) leaf =
      (given? environment leaf).or
        (if setting? name = some leaf.path then some (value text) else none) := by
  rw [given?, given?, List.find?_append]
  cases environment.find? fun (name, _) => decide (setting? name = some leaf.path) with
  | some found => rfl
  | none =>
    by_cases own : setting? name = some leaf.path <;> simp [own]

theorem reaches_concat (environment : List (String × String)) (name text table : String) :
    reaches (environment ++ [(name, text)]) table =
      (reaches environment table || (setting? name).any fun path => path.head? = some table) := by
  simp [reaches]

theorem given?_eq_none_of_not_mem {environment : List (String × String)} {leaf : Leaf}
    (absent : leaf.path ∉ environment.filterMap fun (name, _) => setting? name) :
    given? environment leaf = none := by
  rw [given?, Option.map_eq_none_iff, List.find?_eq_none]
  intro entry member same
  exact absent (List.mem_filterMap.2 ⟨entry, member, by simpa using same⟩)

theorem given?_eq_none_of_not_reached {environment : List (String × String)} {leaf : Leaf}
    {name : String} (inside : leaf.table? = some name)
    (unreached : reaches environment name = false) : given? environment leaf = none := by
  rw [given?, Option.map_eq_none_iff, List.find?_eq_none]
  intro entry member same
  rw [reaches, List.any_eq_false] at unreached
  have path : setting? entry.1 = some leaf.path := by simpa using same
  have led := unreached entry member
  simp [path, Leaf.head?_path inside] at led

theorem spelled_nil : Spelled [] [] where
  top _ _ := rfl
  table _ _ _ := by
    simp [TableSpelled, reaches, find?]

theorem Canonical.front {environment : List (String × String)} {last : String × String}
    (canonical : Canonical (environment ++ [last])) : Canonical environment where
  named entry member := canonical.named entry (List.mem_append_left _ member)
  once := by
    have once := canonical.once
    rw [List.filterMap_append] at once
    exact (List.nodup_append.1 once).1

section

variable {environment : List (String × String)} {name text : String}

theorem given?_concat_of_named {own : Leaf} (named : setting? name = some own.path)
    (free : given? environment own = none) (leaf : Leaf) :
    given? (environment ++ [(name, text)]) leaf =
      if leaf = own then some (value text) else given? environment leaf := by
  rw [given?_concat, named]
  by_cases same : leaf = own
  · simp [same, free]
  · have paths : own.path ≠ leaf.path := fun equal => same (Leaf.path_injective equal).symm
    simp [same, paths]

theorem Canonical.free (canonical : Canonical (environment ++ [(name, text)])) {own : Leaf}
    (named : setting? name = some own.path) : given? environment own = none := by
  have once := canonical.once
  rw [List.filterMap_append, List.nodup_append] at once
  apply given?_eq_none_of_not_mem
  intro member
  exact once.2.2 _ member own.path (by simp [named]) rfl

theorem layerOf_of_named {own : Leaf} (named : setting? name = some own.path) :
    layerOf name text =
      match own.table? with
      | none => [(own.key, value text)]
      | some table => [(table, .table [(own.key, value text)])] := by
  rw [layerOf, named, Leaf.path]
  cases own.table? <;> rfl

theorem find?_overlayFields_single (known : List (String × Toml)) (key other : String)
    (above : Toml) : find? other (overlayFields known [(key, above)]) =
      if key = other then laid (find? other known) (some above) else find? other known := by
  rw [find?_overlayFields known (by simp), find?]
  split <;> rfl

variable {fields : List (String × Toml)} (spelled : Spelled environment fields)
include spelled

theorem Spelled.elsewhere {own : Leaf} (named : setting? name = some own.path)
    (free : given? environment own = none) {key : String} (head : own.path.head? = some key)
    (above : Toml) {leaf : Leaf} {table : String} (inside : leaf.table? = some table)
    (apart : key ≠ table) :
    TableSpelled (environment ++ [(name, text)]) (overlayFields fields [(key, above)]) table := by
  have unled : reaches (environment ++ [(name, text)]) table = reaches environment table := by
    simp [reaches_concat, named, head, apart]
  have known := spelled.table leaf table inside
  rw [TableSpelled, unled, find?_overlayFields_single, if_neg apart]
  rw [TableSpelled] at known
  split
  · next reached =>
    rw [if_pos reached] at known
    obtain ⟨inner, standing, each⟩ := known
    refine ⟨inner, standing, fun other within => ?_⟩
    have different : other ≠ own := by
      rintro rfl
      rw [Leaf.head?_path within] at head
      exact apart (Option.some.inj head).symm
    rw [given?_concat_of_named named free, if_neg different, each other within]
  · next unreached =>
    rwa [if_neg unreached] at known

theorem Spelled.concat_top {own : Leaf} (named : setting? name = some own.path)
    (free : given? environment own = none) (ownTop : own.table? = none) :
    Spelled (environment ++ [(name, text)]) (overlayFields fields (layerOf name text)) := by
  rw [layerOf_of_named named, ownTop]
  constructor
  · intro leaf top
    rw [find?_overlayFields_single, given?_concat_of_named named free, spelled.top leaf top]
    by_cases same : leaf = own
    · simp [same, free, laid]
    · have keys : own.key ≠ leaf.key := fun equal => same (Leaf.key_injective equal).symm
      simp [same, keys]
  · intro leaf table inside
    have head : own.path.head? = some own.key := by rw [Leaf.path, ownTop]; rfl
    exact spelled.elsewhere named free head _ inside (Leaf.key_ne_table ownTop inside)

theorem Spelled.sameTable {own : Leaf} (named : setting? name = some own.path)
    (free : given? environment own = none) {table : String} (inTable : own.table? = some table) :
    TableSpelled (environment ++ [(name, text)])
      (overlayFields fields [(table, .table [(own.key, value text)])]) table := by
  -- One more variable adds to the table it leads into, or opens it.
  have led : reaches (environment ++ [(name, text)]) table = true := by
    simp [reaches_concat, named, Leaf.head?_path inTable]
  have known := spelled.table own table inTable
  rw [TableSpelled] at known
  rw [TableSpelled, if_pos led, find?_overlayFields_single, if_pos rfl]
  split at known
  · obtain ⟨inner, standing, each⟩ := known
    rw [standing]
    refine ⟨_, rfl, fun other within => ?_⟩
    rw [find?_overlayFields inner (by simp), Leaf.find?_key_single,
      given?_concat_of_named named free, each other within]
    by_cases same : other = own <;> simp [same, free, laid]
  · next unreached =>
    rw [known]
    refine ⟨_, rfl, fun other within => ?_⟩
    have unset := given?_eq_none_of_not_reached within (by simpa using unreached)
    rw [Leaf.find?_key_single, given?_concat_of_named named free, unset]

theorem Spelled.concat_table {own : Leaf} (named : setting? name = some own.path)
    (free : given? environment own = none) {ownTable : String}
    (inTable : own.table? = some ownTable) :
    Spelled (environment ++ [(name, text)]) (overlayFields fields (layerOf name text)) := by
  rw [layerOf_of_named named, inTable]
  constructor
  · intro leaf top
    have apart : ownTable ≠ leaf.key := (Leaf.key_ne_table top inTable).symm
    have different : leaf ≠ own := by
      rintro rfl
      rw [top] at inTable
      cases inTable
    rw [find?_overlayFields_single, if_neg apart, given?_concat_of_named named free,
      if_neg different, spelled.top leaf top]
  · intro leaf table inside
    by_cases same : ownTable = table
    · subst same
      exact spelled.sameTable named free inTable
    · exact spelled.elsewhere named free (Leaf.head?_path inTable) _ inside same

end

theorem Spelled.concat {environment : List (String × String)} {fields : List (String × Toml)}
    (spelled : Spelled environment fields) {name text : String}
    (canonical : Canonical (environment ++ [(name, text)])) :
    Spelled (environment ++ [(name, text)]) (overlayFields fields (layerOf name text)) := by
  cases named : setting? name with
  | none =>
    have layer : layerOf name text = [] := by rw [layerOf, named]
    rw [layer, overlayFields]
    constructor
    · intro leaf top
      rw [given?_concat, named, spelled.top leaf top]
      simp
    · intro leaf table inside
      have known := spelled.table leaf table inside
      simpa [TableSpelled, reaches_concat, given?_concat, named] using known
  | some path =>
    obtain ⟨own, rfl⟩ := canonical.named (name, text) (by simp) path named
    cases ownTable : own.table? with
    | none => exact spelled.concat_top named (canonical.free named) ownTable
    | some table => exact spelled.concat_table named (canonical.free named) ownTable

theorem spelled_layer {environment : List (String × String)} (canonical : Canonical environment) :
    Spelled environment (layer environment) := by
  induction environment using List.reverseRecOn with
  | nil => exact spelled_nil
  | append_singleton front last ih =>
    have whole : layer (front ++ [last]) = overlayFields (layer front) (layerOf last.1 last.2) := by
      simp [layer, merged]
    rw [whole]
    exact (ih canonical.front).concat canonical

def reached (environment : List (String × String)) (leaf : Leaf) : Bool :=
  leaf.table?.any (reaches environment)

theorem Canonical.reaches_iff {environment : List (String × String)}
    (canonical : Canonical environment) {other : Leaf} {name : String}
    (inside : other.table? = some name) :
    reaches environment name = true ↔
      ∃ leaf : Leaf, leaf.table? = some name ∧ (given? environment leaf).isSome := by
  constructor
  · intro led
    obtain ⟨entry, member, led⟩ := List.any_eq_true.1 led
    obtain ⟨path, named, head⟩ := (Option.any_eq_true _ _).1 led
    obtain ⟨leaf, rfl⟩ := canonical.named entry member path named
    have set : (given? environment leaf).isSome := by
      rw [given?, Option.isSome_map, List.find?_isSome]
      exact ⟨entry, member, by simp [named]⟩
    refine ⟨leaf, ?_, set⟩
    cases within : leaf.table? with
    | none =>
      have key : leaf.key = name := by simpa [Leaf.path, within] using head
      exact absurd key (Leaf.key_ne_table within inside)
    | some table => simpa [Leaf.head?_path within] using head
  · rintro ⟨leaf, within, set⟩
    by_contra unled
    rw [given?_eq_none_of_not_reached within (by simpa using unled)] at set
    cases set

theorem Canonical.reaches_congr {first second : List (String × String)}
    (firstCanonical : Canonical first) (secondCanonical : Canonical second) {changed : Leaf}
    (same : ∀ leaf ≠ changed, given? first leaf = given? second leaf) {leaf : Leaf} {name : String}
    (inside : leaf.table? = some name) (apart : leaf.table? ≠ changed.table?) :
    reaches first name = reaches second name := by
  have each (other : Leaf) (within : other.table? = some name) :
      given? first other = given? second other := by
    apply same
    rintro rfl
    exact apart (inside.trans within.symm)
  rw [Bool.eq_iff_iff, firstCanonical.reaches_iff inside, secondCanonical.reaches_iff inside]
  exact exists_congr fun other => and_congr_right fun within => by rw [each other within]

theorem canonical_of_leaves {environment : List (String × String)} (leaves : List Leaf)
    (names : (environment.filterMap fun (name, _) => setting? name) = leaves.map Leaf.path)
    (distinct : leaves.Nodup) : Canonical environment where
  named entry member path named := by
    have among : path ∈ environment.filterMap fun (name, _) => setting? name :=
      List.mem_filterMap.2 ⟨entry, member, named⟩
    rw [names] at among
    obtain ⟨leaf, -, same⟩ := List.mem_map.1 among
    exact ⟨leaf, same⟩
  once := by
    rw [names]
    exact List.Pairwise.map Leaf.path (fun _ _ apart same => apart (Leaf.path_injective same))
      distinct

end Environment

end ApiPages.Settings
