import ApiPages.Proofs.Settings.Saved
import ApiPages.Proofs.Settings.Variables

/-!
Settings layer by layer. A table keeps the fields that no upper layer replaces. Main statement: each
of the settings is what its variable says, or else the file, or else the default.
-/

namespace ApiPages.Settings

open Named (find?)
open Toml (AreTidy)

open Environment (given? reaches reached TableSpelled Spelled Canonical)

/-! One layer over another. -/

theorem laid_eq_or {below above : Option Toml}
    (leaf : ∀ value, laid below above = some value → fields? value = none) :
    laid below above = above.or below := by
  cases above with
  | none => rfl
  | some above =>
    cases nested : fields? above with
    | none => exact laid_leaf below nested
    | some fields =>
      cases below with
      | none => rfl
      | some below =>
        have table : (fields? (overlay below above)).isSome :=
          fields?_overlay below (by simp [nested])
        rw [leaf _ rfl] at table
        cases table

theorem laid_laid_eq_or {lowest below above : Option Toml}
    (leaf : ∀ value, laid (laid lowest below) above = some value → fields? value = none) :
    laid (laid lowest below) above = (above.or below).or lowest := by
  rw [laid_eq_or leaf, Option.or_assoc]
  cases above with
  | some above => rfl
  | none => exact laid_eq_or leaf

/-- The fields of a value that counts as a table, as nothing does. -/
def tableFields? : Option Toml → Option (List (String × Toml))
  | none => some []
  | some value => fields? value

theorem exists_plain_of_tableFields? {standing : Option Toml}
    (none : tableFields? standing = none) :
    ∃ value, standing = some value ∧ fields? value = Option.none := by
  cases standing with
  | none => cases none
  | some value => exact ⟨value, rfl, none⟩

theorem laid_fields {below above : Option Toml} {known fields : List (String × Toml)}
    (lower : tableFields? below = some known) (upper : tableFields? above = some fields)
    (tidy : ∀ value, above = some value → value.IsTidy) :
    ∃ after, tableFields? (laid below above) = some after ∧
      ∀ key, find? key after = laid (find? key known) (find? key fields) := by
  cases above with
  | none =>
    obtain rfl := Option.some.inj upper
    exact ⟨known, by rwa [laid], fun _ => rfl⟩
  | some above =>
    cases below with
    | none =>
      obtain rfl := Option.some.inj lower
      exact ⟨fields, upper, fun _ => (laid_none_left _).symm⟩
    | some below =>
      rw [tableFields?] at lower
      cases above with
      | table inner =>
        obtain rfl := Option.some.inj upper
        refine ⟨_, by rw [laid, overlay, lower]; rfl, ?_⟩
        exact find?_overlayFields known (tidy _ rfl)
      | moment literal =>
        obtain rfl := Option.some.inj upper
        exact ⟨known, by rw [laid, overlay, lower]; rfl, fun _ => rfl⟩
      | _ => cases upper

theorem find?_layers (defaults : Settings) {file above : List (String × Toml)} (tidy : AreTidy file)
    (aboveTidy : AreTidy above) (key : String) :
    find? key (merged ([defaults.toFields, file] ++ [above])) =
      laid (laid (find? key defaults.toFields) (find? key file)) (find? key above) := by
  have alone : find? key (merged [defaults.toFields]) = find? key defaults.toFields :=
    (find?_overlayFields [] defaults.keys_toFields key).trans (laid_none_left _)
  rw [find?_merged_append _ aboveTidy.keys, ← List.singleton_append,
    find?_merged_append _ tidy.keys, alone]

def isArray : Toml → Bool
  | .array _ => true
  | _ => false

namespace Leaf

def isPlaced (leaf : Leaf) (file : List (String × Toml)) : Bool :=
  leaf.table?.any fun name => (find? name file).any isArray

/-- What a file says of a setting below an environment. A table that is written as an array of its
leading fields gives way as a whole to the variables that lead into it. -/
def inFile? (leaf : Leaf) (file : List (String × Toml)) (environment : List (String × String)) :
    Option Toml :=
  if leaf.isPlaced file && reached environment leaf then none else leaf.lookup? file

section

variable {environment : List (String × String)} {above file : List (String × Toml)}

theorem laid_tableSpelled {leaf : Leaf} {name : String} (inside : leaf.table? = some name)
    (tidy : AreTidy above) (spelled : TableSpelled environment above name) {below : Option Toml}
    {known : List (String × Toml)} (standing : tableFields? below = some known) :
    ∃ after, tableFields? (laid below (find? name above)) = some after ∧
      find? leaf.key after = laid (find? leaf.key known) (given? environment leaf) := by
  rw [TableSpelled] at spelled
  split at spelled
  · obtain ⟨inner, found, each⟩ := spelled
    have innerTidy (value : Toml) (same : some (.table inner) = some value) : value.IsTidy :=
      tidy.values _ (Named.mem_of_find? (found.trans same))
    obtain ⟨after, laidOver, fields⟩ := laid_fields standing rfl innerTidy
    rw [found, ← each leaf inside]
    exact ⟨after, laidOver, fields leaf.key⟩
  · next unreached =>
    have unset := Environment.given?_eq_none_of_not_reached inside (by simpa using unreached)
    rw [spelled, unset]
    exact ⟨known, by rwa [laid], rfl⟩

theorem inFile?_of_inside {leaf : Leaf} {name : String} (inside : leaf.table? = some name) :
    leaf.inFile? file environment =
      if (find? name file).any isArray && reaches environment name then none
      else (find? name file).bind leaf.inTable? := by
  rw [inFile?, isPlaced, reached, lookup?_of_inside inside, inside]
  rfl

theorem inFile?_of_plain {leaf : Leaf} {name : String} (inside : leaf.table? = some name)
    {value : Toml} (written : find? name file = some value) (plain : fields? value = none) :
    leaf.inFile? file environment =
      if reaches environment name then none else leaf.inTable? value := by
  rw [inFile?_of_inside inside, written, Option.any_some, Option.bind_some]
  cases value with
  | array items => rw [isArray, Bool.true_and]
  | table | moment => cases plain
  | _ => exact (ite_self none).symm

theorem bind_inTable?_of_fields (leaf : Leaf) {standing : Option Toml}
    {fields : List (String × Toml)} (nested : tableFields? standing = some fields) :
    standing.bind leaf.inTable? = find? leaf.key fields ∧ standing.any isArray = false := by
  cases standing with
  | none =>
    obtain rfl := Option.some.inj nested
    exact ⟨rfl, rfl⟩
  | some value =>
    cases value with
    | table | moment =>
      obtain rfl := Option.some.inj nested
      exact ⟨rfl, rfl⟩
    | _ => cases nested

theorem inFile?_of_fields {leaf : Leaf} {name : String} (inside : leaf.table? = some name)
    {fields : List (String × Toml)} (nested : tableFields? (find? name file) = some fields) :
    leaf.inFile? file environment = find? leaf.key fields := by
  obtain ⟨said, form⟩ := leaf.bind_inTable?_of_fields nested
  rw [inFile?_of_inside inside, said, form, Bool.false_and]
  rfl

variable (processors : UInt64) (leaf : Leaf) (tidy : AreTidy file) (aboveTidy : AreTidy above)
  (spelled : Spelled environment above)
include tidy aboveTidy spelled

theorem lookup?_layers_of_top (top : leaf.table? = none) :
    leaf.lookup? (merged ([(default processors).toFields, file] ++ [above])) =
      laid (laid (leaf.value? (default processors)) (leaf.inFile? file environment))
        (given? environment leaf) := by
  have said : leaf.inFile? file environment = find? leaf.key file := by
    rw [inFile?, isPlaced, lookup?_of_top top, top]
    rfl
  rw [lookup?_of_top top, find?_layers _ tidy aboveTidy, spelled.top leaf top, find?_toFields _ top,
    said]

theorem lookup?_layers_of_fields {name : String} (inside : leaf.table? = some name)
    {fields : List (String × Toml)} (nested : tableFields? (find? name file) = some fields) :
    leaf.lookup? (merged ([(default processors).toFields, file] ++ [above])) =
      laid (laid (leaf.value? (default processors)) (leaf.inFile? file environment))
        (given? environment leaf) := by
  have fileTidy (value : Toml) (found : find? name file = some value) : value.IsTidy :=
    tidy.values _ (Named.mem_of_find? found)
  obtain ⟨known, -, standing, each⟩ := find?_table_toFields (default processors) inside
  have bottom : tableFields? (find? name (default processors).toFields) = some known := by
    rw [standing]
    rfl
  obtain ⟨lower, lowerLaid, lowerEach⟩ := laid_fields bottom nested fileTidy
  obtain ⟨upper, upperLaid, upperEach⟩ :=
    laid_tableSpelled inside aboveTidy (spelled.table leaf name inside) lowerLaid
  rw [lookup?_of_inside inside, find?_layers _ tidy aboveTidy,
    (leaf.bind_inTable?_of_fields upperLaid).1, upperEach, lowerEach, each leaf inside,
    inFile?_of_fields inside nested]

theorem lookup?_layers_of_plain {name : String} (inside : leaf.table? = some name) {value : Toml}
    (written : find? name file = some value) (plain : fields? value = none) :
    leaf.lookup? (merged ([(default processors).toFields, file] ++ [above])) =
      (given? environment leaf).or (leaf.inFile? file environment) := by
  have inLayer := spelled.table leaf name inside
  rw [lookup?_of_inside inside, find?_layers _ tidy aboveTidy, written,
    inFile?_of_plain inside written plain, laid_leaf _ plain]
  rw [TableSpelled] at inLayer
  split at inLayer
  · next led =>
    obtain ⟨inner, found, each⟩ := inLayer
    have replaced : laid (some value) (some (.table inner)) = some (.table inner) := by
      rw [laid, overlay, plain]
    rw [found, replaced, if_pos led, Option.or_none, ← each leaf inside]
    rfl
  · next unled =>
    have unset := Environment.given?_eq_none_of_not_reached inside (by simpa using unled)
    rw [inLayer, if_neg unled, unset]
    rfl

theorem lookup?_layers
    (read : ∀ value, leaf.lookup? (merged ([(default processors).toFields, file] ++ [above])) =
      some value → fields? value = none) :
    (leaf.lookup? (merged ([(default processors).toFields, file] ++ [above]))).or
        (leaf.value? (default processors)) =
      ((given? environment leaf).or (leaf.inFile? file environment)).or
        (leaf.value? (default processors)) := by
  have layered (whole : leaf.lookup? (merged ([(default processors).toFields, file] ++ [above])) =
      laid (laid (leaf.value? (default processors)) (leaf.inFile? file environment))
        (given? environment leaf)) :
      leaf.lookup? (merged ([(default processors).toFields, file] ++ [above])) =
        ((given? environment leaf).or (leaf.inFile? file environment)).or
          (leaf.value? (default processors)) := by
    rw [whole] at read ⊢
    exact laid_laid_eq_or read
  -- The layers hold the default unless the file has a plain value in place of the table.
  cases inside : leaf.table? with
  | none =>
    rw [layered (lookup?_layers_of_top processors leaf tidy aboveTidy spelled inside),
      Option.or_assoc, Option.or_self]
  | some name =>
    cases nested : tableFields? (find? name file) with
    | some fields =>
      rw [layered (lookup?_layers_of_fields processors leaf tidy aboveTidy spelled inside nested),
        Option.or_assoc, Option.or_self]
    | none =>
      obtain ⟨value, written, plain⟩ := exists_plain_of_tableFields? nested
      rw [lookup?_layers_of_plain processors leaf tidy aboveTidy spelled inside written plain]

end

theorem value?_within {defaults : Settings} (alone : defaults.workspace = none)
    (workspace : Option Path) (settings : Settings) (leaf : Leaf) :
    leaf.value? (within workspace settings) =
      (leaf.value? settings).or (leaf.value? (within workspace defaults)) := by
  cases leaf with
  | workspace =>
    simp only [value?, within, alone]
    cases settings.workspace <;> rfl
  | _ => rfl

end Leaf

theorem tidy_of_fileLayer? {files : FileTree} {here : Place} {path : Path}
    {file : List (String × Toml)} (held : fileLayer? files here path = some file) :
    AreTidy file := by
  rw [fileLayer?] at held
  split at held
  · obtain rfl := Option.some.inj held
    exact ⟨List.nodup_nil, by simp⟩
  · obtain ⟨text, -, read⟩ := Option.bind_eq_some_iff.1 held
    exact Toml.tidy_of_read? read

theorem value?_of_loadFrom? (around : Surroundings) {path : Path} {file : List (String × Toml)}
    {settings : Settings} (canonical : Canonical around.environment)
    (held : fileLayer? around.files around.here path = some file)
    (loaded : loadFrom? around path = some settings) (leaf : Leaf) :
    leaf.value? settings =
      ((given? around.environment leaf).or (leaf.inFile? file around.environment)).or
        (leaf.value? (within (workspaceOf path) (default around.processors))) := by
  obtain ⟨base, layered, rfl⟩ := Option.map_eq_some_iff.1 loaded
  obtain ⟨layer, found, read⟩ := layered?_eq_some_iff.1 layered
  obtain rfl := Option.some.inj (held.symm.trans found)
  have known := read.found rfl leaf
  have said := Leaf.lookup?_layers around.processors leaf (tidy_of_fileLayer? held)
    (Environment.tidy_layer _) (Environment.spelled_layer canonical) known.leaf
  rw [Leaf.value?_within (rfl : (default around.processors).workspace = none), known.value, said,
    Option.or_assoc, ← Leaf.value?_within rfl]

theorem eq_of_path? {standing : Option Toml} {found : Option Path}
    (done : withDefault none path? standing = some found) :
    found = (standing.bind text?).map fun (text : String) => (text : Path) := by
  cases standing with
  | none => exact (Option.some.inj done).symm
  | some value =>
    obtain ⟨text, read, rfl⟩ := Option.map_eq_some_iff.1 done
    rw [Option.bind_some, read]
    rfl

theorem workspace_of_layers (around : Surroundings) {path : Path} {file : List (String × Toml)}
    {settings : Settings} (canonical : Canonical around.environment)
    (held : fileLayer? around.files around.here path = some file)
    (loaded : loadFrom? around path = some settings) :
    settings.workspace =
      ((((given? around.environment .workspace).or
        (Leaf.workspace.inFile? file around.environment)).bind text?).map
          fun (text : String) => (text : Path)).or (workspaceOf path) := by
  obtain ⟨base, layered, rfl⟩ := Option.map_eq_some_iff.1 loaded
  obtain ⟨layer, found, read⟩ := layered?_eq_some_iff.1 layered
  obtain rfl := Option.some.inj (held.symm.trans found)
  have said := Leaf.lookup?_layers around.processors .workspace (tidy_of_fileLayer? held)
    (Environment.tidy_layer _) (Environment.spelled_layer canonical)
    (read.found rfl .workspace).leaf
  have nothing : Leaf.workspace.value? (default around.processors) = none := rfl
  rw [nothing, Option.or_none, Option.or_none, Leaf.lookup?_of_top rfl] at said
  rw [within, eq_of_path? read.workspace, ← said]
  exact Option.orElse_eq_or ..

end ApiPages.Settings
