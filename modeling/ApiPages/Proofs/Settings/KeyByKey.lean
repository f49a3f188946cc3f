import ApiPages.Proofs.Settings.Layered

/-!
Settings key by key. Fields of other names do not matter, and where the file writes a table as one,
neither do the other settings of this table. Main statement: a change to one variable or one key
leaves the other settings as they are.
-/

namespace ApiPages.Settings

open Named (find?)
open Toml (AreTidy)

open Environment (given? reached Canonical)

/-! Fields of other names. -/

/-- What may stand under the name of a table: one value, or two tables that differ in nothing but
fields of other names. Nothing at all counts as a table without fields. -/
inductive Alike (name : String) : Option Toml → Option Toml → Prop where
  | same (value : Option Toml) : Alike name value value
  | tables {first second : Option Toml} {before after : List (String × Toml)}
      (firstTable : tableFields? first = some before)
      (secondTable : tableFields? second = some after)
      (each : ∀ leaf : Leaf, leaf.table? = some name →
        find? leaf.key before = find? leaf.key after) :
      Alike name first second

/-- Fields that say the same of every setting, and are written alike. -/
structure AgreeOnKnown (first second : List (String × Toml)) : Prop where
  top : ∀ leaf : Leaf, leaf.table? = none → find? leaf.key first = find? leaf.key second
  tables : ∀ (leaf : Leaf) (name : String), leaf.table? = some name →
    Alike name (find? name first) (find? name second)

theorem Alike.over {name : String} {first second : Option Toml} (alike : Alike name first second)
    (firstTidy : ∀ value, first = some value → value.IsTidy)
    (secondTidy : ∀ value, second = some value → value.IsTidy) {below : Option Toml}
    {known : List (String × Toml)} (standing : tableFields? below = some known) :
    Alike name (laid below first) (laid below second) := by
  cases alike with
  | same => exact .same _
  | tables firstTable secondTable each =>
    obtain ⟨_, firstLaid, firstEach⟩ := laid_fields standing firstTable firstTidy
    obtain ⟨_, secondLaid, secondEach⟩ := laid_fields standing secondTable secondTidy
    refine .tables firstLaid secondLaid fun leaf inside => ?_
    rw [firstEach, secondEach, each leaf inside]

theorem Alike.under {name : String} {first second : Option Toml} (alike : Alike name first second)
    {above : Option Toml} (tidy : ∀ value, above = some value → value.IsTidy) :
    Alike name (laid first above) (laid second above) := by
  cases alike with
  | same => exact .same _
  | tables firstTable secondTable each =>
    cases upper : tableFields? above with
    | none =>
      -- Whatever is no table replaces both.
      obtain ⟨value, rfl, plain⟩ := exists_plain_of_tableFields? upper
      rw [laid_leaf first plain, laid_leaf second plain]
      exact .same _
    | some fields =>
      obtain ⟨_, firstLaid, firstEach⟩ := laid_fields firstTable upper tidy
      obtain ⟨_, secondLaid, secondEach⟩ := laid_fields secondTable upper tidy
      refine .tables firstLaid secondLaid fun leaf inside => ?_
      rw [firstEach, secondEach, each leaf inside]

/-! What has fields is read as the table of them: nothing at all, and a moment, as an empty one. -/

theorem eq_of_tableFields? {α : Type} {read : Option Toml → α}
    (nothing : read none = read (some (.table [])))
    (moment : ∀ text, read (some (.moment text)) = read (some (.table [])))
    {standing : Option Toml} {fields : List (String × Toml)}
    (nested : tableFields? standing = some fields) :
    read standing = read (some (.table fields)) := by
  cases standing with
  | none =>
    obtain rfl := Option.some.inj nested
    exact nothing
  | some value =>
    cases value with
    | table known =>
      obtain rfl := Option.some.inj nested
      rfl
    | moment text =>
      obtain rfl := Option.some.inj nested
      exact moment text
    | _ => cases nested

theorem onlyField?_of_fields {standing : Option Toml} {fields : List (String × Toml)}
    (nested : tableFields? standing = some fields) (fallback name : String) :
    onlyField? fallback name standing = withDefault fallback text? (find? name fields) :=
  eq_of_tableFields? rfl (fun _ => rfl) nested

theorem indexFields?_of_fields {standing : Option Toml} {fields : List (String × Toml)}
    (nested : tableFields? standing = some fields) (defaults : Settings) :
    indexFields? defaults standing = indexFields? defaults (some (.table fields)) :=
  eq_of_tableFields? rfl (fun _ => rfl) nested

theorem Alike.onlyField? {name : String} {first second : Option Toml}
    (alike : Alike name first second) (leaf : Leaf) (inside : leaf.table? = some name)
    (fallback : String) :
    Settings.onlyField? fallback leaf.key first = Settings.onlyField? fallback leaf.key second := by
  cases alike with
  | same => rfl
  | tables firstTable secondTable each =>
    rw [onlyField?_of_fields firstTable, onlyField?_of_fields secondTable, each leaf inside]

theorem Alike.indexFields? {first second : Option Toml} (alike : Alike "index" first second)
    (defaults : Settings) :
    Settings.indexFields? defaults first = Settings.indexFields? defaults second := by
  cases alike with
  | same => rfl
  | @tables _ before after firstTable secondTable each =>
    have roots : find? "artifact_roots" before = find? "artifact_roots" after :=
      each .artifactRoots rfl
    have packages : find? "package_prefixes" before = find? "package_prefixes" after :=
      each .packages rfl
    have threads : find? "parallel_threads" before = find? "parallel_threads" after :=
      each .threads rfl
    rw [indexFields?_of_fields firstTable, indexFields?_of_fields secondTable]
    simp [Settings.indexFields?, slots?, fields?, roots, packages, threads]

theorem AgreeOnKnown.ofFields? {first second : List (String × Toml)}
    (agree : AgreeOnKnown first second) (defaults : Settings) :
    Settings.ofFields? defaults first = Settings.ofFields? defaults second := by
  have version : find? "version" first = find? "version" second := agree.top .version rfl
  have workspace : find? "workspace_root" first = find? "workspace_root" second :=
    agree.top .workspace rfl
  have debug : find? "debug" first = find? "debug" second := agree.top .debug rfl
  have docs (fallback : String) : onlyField? fallback "root_url" (find? "docs" first) =
      onlyField? fallback "root_url" (find? "docs" second) :=
    (agree.tables .docRoot "docs" rfl).onlyField? .docRoot rfl fallback
  have server (fallback : String) : onlyField? fallback "bind" (find? "server" first) =
      onlyField? fallback "bind" (find? "server" second) :=
    (agree.tables .bind "server" rfl).onlyField? .bind rfl fallback
  have index := (agree.tables .threads "index" rfl).indexFields? defaults
  rw [Settings.ofFields?, Settings.ofFields?, version, workspace, debug, docs, server, index]

theorem AgreeOnKnown.layers {first second above : List (String × Toml)}
    (agree : AgreeOnKnown first second) (firstTidy : AreTidy first) (secondTidy : AreTidy second)
    (aboveTidy : AreTidy above) (defaults : Settings) :
    AgreeOnKnown (merged ([defaults.toFields, first] ++ [above]))
      (merged ([defaults.toFields, second] ++ [above])) where
  top leaf top := by
    rw [find?_layers defaults firstTidy aboveTidy, find?_layers defaults secondTidy aboveTidy,
      agree.top leaf top]
  tables leaf name inside := by
    have within {layer : List (String × Toml)} (tidy : AreTidy layer) (value : Toml)
        (found : find? name layer = some value) : value.IsTidy :=
      tidy.values _ (Named.mem_of_find? found)
    obtain ⟨known, -, standing, -⟩ := Leaf.find?_table_toFields defaults inside
    have bottom : tableFields? (find? name defaults.toFields) = some known := by
      rw [standing]
      rfl
    have alike := agree.tables leaf name inside
    rw [find?_layers defaults firstTidy aboveTidy, find?_layers defaults secondTidy aboveTidy]
    exact (alike.over (within firstTidy) (within secondTidy) bottom).under (within aboveTidy)

theorem AgreeOnKnown.loadFrom? {around : Surroundings} {files : FileTree} {path : Path}
    {first second : List (String × Toml)} (agree : AgreeOnKnown first second)
    (firstHeld : fileLayer? around.files around.here path = some first)
    (secondHeld : fileLayer? files around.here path = some second) :
    Settings.loadFrom? { around with files } path = Settings.loadFrom? around path := by
  have alike := agree.layers (tidy_of_fileLayer? firstHeld) (tidy_of_fileLayer? secondHeld)
    (Environment.tidy_layer around.environment) (default around.processors)
  have same := alike.ofFields? (default around.processors)
  simp only [Settings.loadFrom?, layered?, firstHeld, secondHeld, Option.bind_eq_bind,
    Option.bind_some, ofLayers?]
  exact congrArg (Option.map (within (workspaceOf path))) same.symm

/-! One setting changed. -/

/-- Files that say the same of every other setting, and write the tables of the other settings in
the same form. -/
structure Leaf.AgreeElsewhere (changed : Leaf) (first second : List (String × Toml)) : Prop where
  said : ∀ leaf ≠ changed, leaf.lookup? first = leaf.lookup? second
  form : ∀ leaf ≠ changed, leaf.isPlaced first = leaf.isPlaced second

def Leaf.setIn (changed : Leaf) (value : Toml) (file : List (String × Toml)) :
    List (String × Toml) :=
  match changed.table? with
  | none => Named.set changed.key value file
  | some name =>
    let fields := (tableFields? (find? name file)).getD []
    Named.set name (.table (Named.set changed.key value fields)) file

theorem Leaf.agreeElsewhere_of_find? {changed : Leaf} {first second : List (String × Toml)}
    (top : ∀ leaf ≠ changed, leaf.table? = none → find? leaf.key first = find? leaf.key second)
    (tables : ∀ leaf ≠ changed, ∀ name, leaf.table? = some name →
      (find? name first).bind leaf.inTable? = (find? name second).bind leaf.inTable? ∧
        (find? name first).any isArray = (find? name second).any isArray) :
    changed.AgreeElsewhere first second where
  said leaf different := by
    cases inside : leaf.table? with
    | none => rw [lookup?_of_top inside, lookup?_of_top inside, top leaf different inside]
    | some name =>
      rw [lookup?_of_inside inside, lookup?_of_inside inside, (tables leaf different name inside).1]
  form leaf different := by
    rw [isPlaced, isPlaced]
    cases inside : leaf.table? with
    | none => rfl
    | some name => exact (tables leaf different name inside).2

theorem Leaf.agreeElsewhere_setIn (changed : Leaf) (value : Toml) {file : List (String × Toml)}
    (tables : ∀ name, changed.table? = some name → (tableFields? (find? name file)).isSome) :
    changed.AgreeElsewhere file (changed.setIn value file) := by
  rw [setIn]
  cases own : changed.table? with
  | none =>
    apply agreeElsewhere_of_find?
    · intro leaf different _
      have keys : changed.key ≠ leaf.key := fun same => different (key_injective same).symm
      exact (Named.find?_set_other keys value file).symm
    · intro leaf _ name inside
      rw [Named.find?_set_other (key_ne_table own inside)]
      exact ⟨rfl, rfl⟩
  | some table =>
    obtain ⟨fields, nested⟩ := Option.isSome_iff_exists.1 (tables table own)
    dsimp only
    rw [nested, Option.getD_some]
    apply agreeElsewhere_of_find?
    · intro leaf _ top
      exact (Named.find?_set_other (key_ne_table top own).symm _ file).symm
    · intro leaf different name inside
      by_cases same : table = name
      · subst same
        have keys : changed.key ≠ leaf.key := fun same => different (key_injective same).symm
        obtain ⟨said, form⟩ := leaf.bind_inTable?_of_fields nested
        rw [said, form, Named.find?_set_self]
        exact ⟨(Named.find?_set_other keys value fields).symm, rfl⟩
      · rw [Named.find?_set_other same]
        exact ⟨rfl, rfl⟩

/-- Settings that were loaded key by key. A table that the file writes as an array stands for its
leading fields as long as no variable leads into it, so that the first variable that does changes
the other fields of that table. -/
structure KeyByKey (around : Surroundings) (path : Path) (file : List (String × Toml))
    (settings : Settings) : Prop where
  layered : ∀ leaf : Leaf, leaf.value? settings =
    ((given? around.environment leaf).or (leaf.inFile? file around.environment)).or
      (leaf.value? (within (workspaceOf path) (default around.processors)))
  workspace : settings.workspace =
    ((((given? around.environment .workspace).or
      (Leaf.workspace.inFile? file around.environment)).bind text?).map
        fun (text : String) => (text : Path)).or (workspaceOf path)
  otherVariable : ∀ (changed : Leaf) (environment : List (String × String)) (other : Settings),
    Canonical environment →
    (∀ leaf ≠ changed, given? around.environment leaf = given? environment leaf) →
    loadFrom? { around with environment } path = some other →
    ∀ leaf ≠ changed, (leaf.isPlaced file = true → leaf.table? = changed.table? →
        reached around.environment leaf = reached environment leaf) →
      leaf.value? other = leaf.value? settings
  otherKey : ∀ (changed : Leaf) (files : FileTree) (edited : List (String × Toml))
    (other : Settings), fileLayer? files around.here path = some edited →
    changed.AgreeElsewhere file edited → loadFrom? { around with files } path = some other →
    ∀ leaf ≠ changed, leaf.value? other = leaf.value? settings
  unknownKeys : ∀ (files : FileTree) (edited : List (String × Toml)),
    fileLayer? files around.here path = some edited → AgreeOnKnown file edited →
    loadFrom? { around with files } path = some settings

theorem Leaf.inFile?_congr {first second : List (String × String)}
    (firstCanonical : Canonical first) (secondCanonical : Canonical second) {changed leaf : Leaf}
    (same : ∀ other ≠ changed, given? first other = given? second other)
    {file : List (String × Toml)}
    (alike : leaf.isPlaced file = true → leaf.table? = changed.table? →
      reached first leaf = reached second leaf) :
    leaf.inFile? file first = leaf.inFile? file second := by
  rw [inFile?, inFile?]
  cases placed : leaf.isPlaced file with
  | false => rfl
  | true =>
    have led : reached first leaf = reached second leaf := by
      by_cases shared : leaf.table? = changed.table?
      · exact alike placed shared
      · rw [reached, reached]
        cases inside : leaf.table? with
        | none => rfl
        | some name => exact firstCanonical.reaches_congr secondCanonical same inside shared
    rw [led]

theorem loadFrom?_keyByKey {around : Surroundings} {path : Path} {file : List (String × Toml)}
    {settings : Settings} (canonical : Canonical around.environment)
    (held : fileLayer? around.files around.here path = some file)
    (loaded : loadFrom? around path = some settings) :
    KeyByKey around path file settings where
  layered := value?_of_loadFrom? around canonical held loaded
  workspace := workspace_of_layers around canonical held loaded
  otherVariable changed environment other otherCanonical same reloaded leaf different alike := by
    have after := value?_of_loadFrom? { around with environment } otherCanonical held reloaded leaf
    rw [after, value?_of_loadFrom? around canonical held loaded leaf, same leaf different,
      Leaf.inFile?_congr canonical otherCanonical same alike]
  otherKey changed files edited other otherHeld agree reloaded leaf different := by
    have after := value?_of_loadFrom? { around with files } canonical otherHeld reloaded leaf
    rw [after, value?_of_loadFrom? around canonical held loaded leaf, Leaf.inFile?, Leaf.inFile?,
      agree.said leaf different, agree.form leaf different]
  unknownKeys files edited otherHeld agree := by
    rw [agree.loadFrom? held otherHeld, loaded]

theorem loadFrom?_keyByKey_threads :
    let text := "debug = true\nother = 3\n[index]\npackage_prefixes = [\"b\"]\nmore = 1\n"
    let around : Surroundings := {
      files := .put .empty ["a.toml"] (.file (Text.Utf8.encode text))
      here := []
      environment := [("DOCLINK_INDEX__PARALLEL_THREADS", "5"), ("PATH", "/bin")]
      processors := 4 }
    ∃ file settings, fileLayer? around.files around.here "a.toml" = some file ∧
      loadFrom? around "a.toml" = some settings ∧ settings.debug = true ∧
      settings.artifactRoots = ["build/classes"] ∧ settings.packages = ["b"] ∧
      settings.threads = 5 ∧ KeyByKey around "a.toml" file settings ∧
      ∀ value, Leaf.packages.AgreeElsewhere file (Leaf.packages.setIn value file) := by
  intro text around
  have read : (fileLayer? around.files around.here "a.toml").any (fun file =>
      (tableFields? (find? "index" file)).isSome) := by
    decide +kernel
  have known : (loadFrom? around "a.toml").any (fun settings =>
      settings.debug && settings.artifactRoots == ["build/classes"] &&
        settings.packages == ["b"] && settings.threads == 5) := by
    decide +kernel
  obtain ⟨file, held, nested⟩ := (Option.any_eq_true _ _).1 read
  obtain ⟨settings, loaded, facts⟩ := (Option.any_eq_true _ _).1 known
  simp only [Bool.and_eq_true, beq_iff_eq] at facts
  obtain ⟨⟨⟨debug, roots⟩, packages⟩, threads⟩ := facts
  have canonical : Canonical around.environment :=
    Environment.canonical_of_leaves [.threads] (by decide) (by decide)
  have edited (value : Toml) : Leaf.packages.AgreeElsewhere file (Leaf.packages.setIn value file) :=
    Leaf.packages.agreeElsewhere_setIn value fun name inside => by
      obtain rfl := Option.some.inj inside
      exact nested
  exact ⟨file, settings, held, loaded, debug, roots, packages, threads,
    loadFrom?_keyByKey canonical held loaded, edited⟩

/-- Without a key in the file, its first root is read from an array, and gives way to the default
once a variable sets the number of threads. -/
theorem loadFrom?_placed :
    let text := "index = [[\"a\"], [\"b\"], 3]\n"
    let around (environment : List (String × String)) : Surroundings := {
      files := .put .empty ["a.toml"] (.file (Text.Utf8.encode text))
      here := []
      environment
      processors := 4 }
    let threads := [("DOCLINK_INDEX__PARALLEL_THREADS", "5")]
    Canonical [] ∧ Canonical threads ∧ given? threads .artifactRoots = none ∧
      (fileLayer? (around []).files [] "a.toml").map (fun file =>
        ((find? "index" file).bind fields?).isNone) = some true ∧
      (loadFrom? (around []) "a.toml").map artifactRoots = some ["a"] ∧
      (loadFrom? (around threads) "a.toml").map artifactRoots = some ["build/classes"] := by
  refine ⟨Environment.canonical_of_leaves [] rfl List.nodup_nil,
    Environment.canonical_of_leaves [.threads] (by decide) (by decide), ?_, ?_, ?_, ?_⟩
  all_goals decide +kernel

end ApiPages.Settings
