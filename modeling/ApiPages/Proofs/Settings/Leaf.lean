import ApiPages.Proofs.Files.Parent
import ApiPages.Proofs.Settings.Reload

/-!
The settings one by one. Each has a key, at the top or in one of three tables, and a reader that
accepts exactly what the setting is written as. Main statement: what is read of some layers under a
key of a setting is what they hold there, and where they hold nothing it is the default.
-/

namespace ApiPages.Settings

open Named (find?)

inductive Leaf where
  | version
  | workspace
  | debug
  | docRoot
  | artifactRoots
  | packages
  | threads
  | bind
deriving DecidableEq, Repr

namespace Leaf

def table? : Leaf → Option String
  | .version | .workspace | .debug => none
  | .docRoot => some "docs"
  | .artifactRoots | .packages | .threads => some "index"
  | .bind => some "server"

def key : Leaf → String
  | .version => "version"
  | .workspace => "workspace_root"
  | .debug => "debug"
  | .docRoot => "root_url"
  | .artifactRoots => "artifact_roots"
  | .packages => "package_prefixes"
  | .threads => "parallel_threads"
  | .bind => "bind"

/-- The place of a setting in a table that is written as an array. -/
def position : Leaf → Nat
  | .packages => 1
  | .threads => 2
  | _ => 0

def path (leaf : Leaf) : List String := leaf.table?.toList ++ [leaf.key]

theorem key_injective : Function.Injective key := by
  intro leaf other same
  cases leaf <;> cases other <;> first | rfl | simp [key] at same

theorem path_injective : Function.Injective path := by
  intro leaf other same
  have last := congrArg List.getLast? same
  rw [path, path, List.getLast?_concat, List.getLast?_concat] at last
  exact key_injective (Option.some.inj last)

theorem head?_path {leaf : Leaf} {name : String} (inside : leaf.table? = some name) :
    leaf.path.head? = some name := by
  rw [path, inside]
  rfl

theorem key_ne_table {leaf other : Leaf} (top : leaf.table? = none) {name : String}
    (inside : other.table? = some name) : leaf.key ≠ name := by
  rintro rfl
  cases leaf <;> cases other <;> simp [table?, key] at top inside

def value? (settings : Settings) : Leaf → Option Toml
  | .version => some (.integer settings.version.toNat)
  | .workspace => settings.workspace.map fun path => .string path.display
  | .debug => some (.bool settings.debug)
  | .docRoot => some (.string settings.docRoot)
  | .artifactRoots => some (.array (settings.artifactRoots.map .string))
  | .packages => some (.array (settings.packages.map .string))
  | .threads => some (.integer settings.threads.toNat)
  | .bind => some (.string settings.bind)

/-- What the value of a table says of a setting in it, by key or by place. -/
def inTable? (leaf : Leaf) : Toml → Option Toml
  | .array items => items[leaf.position]?
  | table => (fields? table).bind (find? leaf.key)

def lookup? (leaf : Leaf) (fields : List (String × Toml)) : Option Toml :=
  match leaf.table? with
  | none => find? leaf.key fields
  | some name => (find? name fields).bind leaf.inTable?

theorem find?_key_single (leaf other : Leaf) (value : Toml) :
    find? other.key [(leaf.key, value)] = if other = leaf then some value else none := by
  by_cases same : other = leaf
  · simp [find?, same]
  · have keys : leaf.key ≠ other.key := fun equal => same (key_injective equal).symm
    simp [find?, same, keys]

theorem lookup?_of_top {leaf : Leaf} (top : leaf.table? = none) (fields : List (String × Toml)) :
    leaf.lookup? fields = find? leaf.key fields := by
  rw [lookup?, top]

theorem lookup?_of_inside {leaf : Leaf} {name : String} (inside : leaf.table? = some name)
    (fields : List (String × Toml)) :
    leaf.lookup? fields = (find? name fields).bind leaf.inTable? := by
  rw [lookup?, inside]

theorem find?_toFields (settings : Settings) {leaf : Leaf} (top : leaf.table? = none) :
    find? leaf.key settings.toFields = leaf.value? settings := by
  cases leaf with
  | workspace =>
    rw [toFields, plainFields, sections, value?]
    cases settings.workspace <;> rfl
  | debug => exact settings.find?_debug
  | version => rfl
  | _ => cases top

theorem find?_table_toFields (settings : Settings) {leaf : Leaf} {name : String}
    (inside : leaf.table? = some name) : ∃ fields, (fields.map Prod.fst).Nodup ∧
      find? name settings.toFields = some (.table fields) ∧
      ∀ other : Leaf, other.table? = some name →
        find? other.key fields = other.value? settings := by
  cases leaf with
  | version | workspace | debug => cases inside
  | docRoot =>
    obtain rfl := Option.some.inj inside
    refine ⟨_, by simp, settings.find?_docs, fun other within => ?_⟩
    cases other <;> first | rfl | simp [table?] at within
  | artifactRoots | packages | threads =>
    obtain rfl := Option.some.inj inside
    refine ⟨_, by simp, settings.find?_index, fun other within => ?_⟩
    cases other <;> first | rfl | simp [table?] at within
  | bind =>
    obtain rfl := Option.some.inj inside
    refine ⟨_, by simp, settings.find?_server, fun other within => ?_⟩
    cases other <;> first | rfl | simp [table?] at within

end Leaf

/-! Readers. -/

structure Reads {α : Type} (read : Toml → Option α) (write : α → Toml) : Prop where
  exact : ∀ value found, read value = some found → value = write found
  leaf : ∀ found, fields? (write found) = none

theorem reads_text? : Reads text? .string where
  exact value found read := by
    cases value with
    | string text => exact congrArg Toml.string (Option.some.inj read)
    | _ => cases read
  leaf _ := rfl

theorem reads_texts? : Reads texts? fun texts => .array (texts.map .string) where
  exact value found read := by
    cases value with
    | array items =>
      congr 1
      rw [texts?] at read
      induction items generalizing found with
      | nil =>
        obtain rfl := Option.some.inj read
        rfl
      | cons item rest ih =>
        rw [List.mapM_cons] at read
        obtain ⟨text, first, read⟩ := Option.bind_eq_some_iff.1 read
        obtain ⟨texts, others, same⟩ := Option.bind_eq_some_iff.1 read
        obtain rfl := Option.some.inj same
        rw [reads_text?.exact item text first, ih texts others, List.map_cons]
    | _ => cases read
  leaf _ := rfl

theorem reads_switch? : Reads switch? .bool where
  exact value found read := by
    cases value with
    | bool switch => exact congrArg Toml.bool (Option.some.inj read)
    | _ => cases read
  leaf _ := rfl

theorem reads_word? : Reads word? fun word => .integer word.toNat where
  exact value found read := by
    cases value with
    | integer number =>
      obtain ⟨fits, same⟩ := Option.ite_none_right_eq_some.1 read
      obtain rfl := Option.some.inj same
      have size : UInt32.size = 4294967296 := rfl
      rw [UInt32.toNat_ofNat']
      congr 1
      omega
    | _ => cases read
  leaf _ := rfl

theorem reads_count? : Reads count? fun count => .integer count.toNat where
  exact value found read := by
    cases value with
    | integer number =>
      obtain ⟨fits, same⟩ := Option.ite_none_right_eq_some.1 read
      obtain rfl := Option.some.inj same
      have size : UInt64.size = 18446744073709551616 := rfl
      rw [UInt64.toNat_ofNat']
      congr 1
      omega
    | _ => cases read
  leaf _ := rfl

/-- How a value came about: it is what stands there, which is then no table, or the fallback. -/
structure Found (standing fallback value : Option Toml) : Prop where
  leaf : ∀ other, standing = some other → fields? other = none
  value : value = standing.or fallback

theorem Found.absent (fallback : Option Toml) : Found none fallback fallback := ⟨by simp, rfl⟩

theorem Reads.found {α : Type} {read : Toml → Option α} {write : α → Toml}
    (reads : Reads read write) {standing : Option Toml} {fallback found : α}
    (done : withDefault fallback read standing = some found) :
    Found standing (some (write fallback)) (some (write found)) := by
  cases standing with
  | none =>
    obtain rfl := Option.some.inj done
    exact .absent _
  | some value =>
    obtain rfl := reads.exact value found done
    refine ⟨fun other same => ?_, rfl⟩
    obtain rfl := Option.some.inj same
    exact reads.leaf found

theorem slots?_position {names : List String} {table : Toml} {slots : List (Option Toml)}
    (read : slots? names table = some slots) (leaf : Leaf)
    (named : names[leaf.position]? = some leaf.key) :
    slots[leaf.position]? = some (leaf.inTable? table) := by
  have within : leaf.position < names.length := (List.getElem?_eq_some_iff.1 named).1
  cases table with
  | array items =>
    obtain rfl := Option.some.inj read
    rw [List.getElem?_take_of_lt within, Leaf.inTable?, List.getElem?_append, List.length_map]
    by_cases written : leaf.position < items.length
    · simp [written]
    · have padded : leaf.position - items.length < names.length := by omega
      simp [written, padded]
  | table fields | moment =>
    obtain rfl := Option.some.inj read
    rw [List.getElem?_map, named]
    rfl
  | _ => cases read

theorem found_of_onlyField? {leaf : Leaf} (first : leaf.position = 0) {fallback found : String}
    {table : Option Toml} (done : onlyField? fallback leaf.key table = some found) :
    Found (table.bind leaf.inTable?) (some (.string fallback)) (some (.string found)) := by
  cases table with
  | none =>
    obtain rfl := Option.some.inj done
    exact .absent _
  | some table =>
    obtain ⟨slots, read, done⟩ := Option.bind_eq_some_iff.1 done
    have stands := slots?_position read leaf (by rw [first]; rfl)
    split at done
    · next value =>
      rw [first] at stands
      obtain rfl := Option.some.inj stands
      exact reads_text?.found done
    · cases done

theorem found_of_indexFields? {defaults : Settings} {index : IndexFields} {table : Option Toml}
    (done : indexFields? defaults table = some index) :
    Found (table.bind (Leaf.inTable? .artifactRoots)) (Leaf.value? defaults .artifactRoots)
      (some (.array (index.artifactRoots.map .string))) ∧
    Found (table.bind (Leaf.inTable? .packages)) (Leaf.value? defaults .packages)
      (some (.array (index.packages.map .string))) ∧
    Found (table.bind (Leaf.inTable? .threads)) (Leaf.value? defaults .threads)
      (some (.integer index.threads.toNat)) := by
  cases table with
  | none =>
    obtain rfl := Option.some.inj done
    exact ⟨.absent _, .absent _, .absent _⟩
  | some table =>
    obtain ⟨slots, read, done⟩ := Option.bind_eq_some_iff.1 done
    have roots := slots?_position read .artifactRoots rfl
    have packages := slots?_position read .packages rfl
    have threads := slots?_position read .threads rfl
    split at done
    · obtain ⟨_, rootsRead, done⟩ := Option.bind_eq_some_iff.1 done
      obtain ⟨_, packagesRead, done⟩ := Option.bind_eq_some_iff.1 done
      obtain ⟨_, threadsRead, done⟩ := Option.bind_eq_some_iff.1 done
      obtain rfl := Option.some.inj done
      obtain rfl := Option.some.inj roots
      obtain rfl := Option.some.inj packages
      obtain rfl := Option.some.inj threads
      exact ⟨reads_texts?.found rootsRead, reads_texts?.found packagesRead,
        reads_count?.found threadsRead⟩
    · cases done

theorem found_of_path? {standing : Option Toml} {found : Option Path}
    (done : withDefault none path? standing = some found) :
    Found standing none (found.map fun path => .string path.display) := by
  cases standing with
  | none =>
    obtain rfl := Option.some.inj done
    exact .absent _
  | some value =>
    obtain ⟨text, read, rfl⟩ := Option.map_eq_some_iff.1 done
    have found : withDefault "" text? (some value) = some text := read
    rw [Option.map_some, Path.display_encode]
    exact ⟨(reads_text?.found found).leaf, (reads_text?.found found).value⟩

theorem ReadFrom.found {defaults settings : Settings} {fields : List (String × Toml)}
    (alone : defaults.workspace = none) (read : ReadFrom defaults fields settings) (leaf : Leaf) :
    Found (leaf.lookup? fields) (leaf.value? defaults) (leaf.value? settings) := by
  cases leaf with
  | version => exact reads_word?.found read.version
  | workspace =>
    rw [Leaf.value?, alone]
    exact found_of_path? read.workspace
  | debug => exact reads_switch?.found read.debug
  | docRoot => exact found_of_onlyField? rfl read.docs
  | artifactRoots => exact (found_of_indexFields? read.index).1
  | packages => exact (found_of_indexFields? read.index).2.1
  | threads => exact (found_of_indexFields? read.index).2.2
  | bind => exact found_of_onlyField? rfl read.server

end ApiPages.Settings
