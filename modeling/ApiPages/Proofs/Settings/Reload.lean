import ApiPages.Proofs.Settings.Overlay

/-!
Settings as a layer of their own. Each field is read from the uppermost layer that holds it, so it
makes no difference whether a layer below was read from the settings or is what they were read from.
Main statement: settings that were read from some layers are read again when their own table takes
the place of all but the uppermost layer.
-/

namespace ApiPages.Settings

open Named (find?)
open Toml (IsTidy AreTidy)

def IsLeafReader {α : Type} (read : Toml → Option α) : Prop :=
  ∀ value, (fields? value).isSome → read value = none

theorem isLeafReader_of {α : Type} {read : Toml → Option α}
    (table : ∀ fields, read (.table fields) = none)
    (moment : ∀ literal, read (.moment literal) = none) : IsLeafReader read := by
  intro value nested
  cases value with
  | table fields => exact table fields
  | moment literal => exact moment literal
  | _ => cases nested

theorem isLeafReader_text? : IsLeafReader text? := isLeafReader_of (fun _ => rfl) fun _ => rfl

theorem isLeafReader_texts? : IsLeafReader texts? := isLeafReader_of (fun _ => rfl) fun _ => rfl

theorem isLeafReader_count? : IsLeafReader count? := isLeafReader_of (fun _ => rfl) fun _ => rfl

theorem withDefault_some {α : Type} (fallback : α) (read : Toml → Option α) (value : Toml) :
    withDefault fallback read (some value) = read value := rfl

theorem withDefault_laid {α : Type} {read : Toml → Option α} (leaf : IsLeafReader read)
    {below above : Option Toml} {saved : Toml} {fallback value : α}
    (first : withDefault fallback read (laid below above) = some value)
    (again : read saved = some value) :
    withDefault fallback read (laid (some saved) above) = some value := by
  rcases laid_some below above saved with same | same | ⟨table, stands, nested⟩
  · rw [same]
    exact again
  · rw [same]
    exact first
  · rw [stands, withDefault, leaf table nested] at first
    cases first

section

variable {known : List (String × Toml)} {below above : Option Toml}

theorem onlyField?_laid (tidy : ∀ value, above = some value → value.IsTidy) {name : String}
    {fallback value : String} (first : onlyField? fallback name (laid below above) = some value)
    (saved : find? name known = some (.string value)) :
    onlyField? fallback name (laid (some (.table known)) above) = some value := by
  rcases laid_table below tidy known with
    same | same | ⟨lower, inner, before, after, was, now, each⟩
  · rw [same]
    simp [onlyField?, slots?, fields?, saved, withDefault, text?]
  · rw [same]
    exact first
  · obtain ⟨old, new⟩ := each name
    have read : withDefault fallback text? (find? name before) = some value := by
      simpa [was, onlyField?, slots?, fields?] using first
    rw [old] at read
    have again : withDefault fallback text? (laid (some (.string value)) (find? name inner)) =
        some value := withDefault_laid isLeafReader_text? read rfl
    rw [now]
    simpa [onlyField?, slots?, fields?, new, saved] using again

theorem indexFields?_table_iff {defaults : Settings} {fields : List (String × Toml)}
    {index : IndexFields} : indexFields? defaults (some (.table fields)) = some index ↔
      withDefault defaults.artifactRoots texts? (find? "artifact_roots" fields) =
        some index.artifactRoots ∧
      withDefault defaults.packages texts? (find? "package_prefixes" fields) =
        some index.packages ∧
      withDefault defaults.threads count? (find? "parallel_threads" fields) =
        some index.threads := by
  obtain ⟨roots, packages, threads⟩ := index
  simp only [indexFields?, slots?, Settings.fields?, Option.map_some, List.map_cons, List.map_nil,
    Option.bind_eq_bind, Option.bind_some, Option.bind_eq_some_iff, Option.some.injEq,
    IndexFields.mk.injEq]
  constructor
  · rintro ⟨_, first, _, second, _, third, rfl, rfl, rfl⟩
    exact ⟨first, second, third⟩
  · rintro ⟨first, second, third⟩
    exact ⟨_, first, _, second, _, third, rfl, rfl, rfl⟩

theorem texts?_strings (texts : List String) :
    texts? (.array (texts.map .string)) = some texts := by
  rw [texts?]
  induction texts with
  | nil => rfl
  | cons text rest ih => simp [text?, ih]

theorem count?_toNat (count : UInt64) : count? (.integer count.toNat) = some count := by
  have bound := count.toNat_lt
  have fits : (count.toNat : Int) < 18446744073709551616 := by omega
  simp [count?, fits]

theorem word?_toNat (word : UInt32) : word? (.integer word.toNat) = some word := by
  have bound := word.toNat_lt
  have fits : (word.toNat : Int) < 4294967296 := by omega
  simp [word?, fits]

theorem indexFields?_laid (tidy : ∀ value, above = some value → value.IsTidy)
    {defaults : Settings} {index : IndexFields}
    (first : indexFields? defaults (laid below above) = some index)
    (roots : find? "artifact_roots" known = some (.array (index.artifactRoots.map .string)))
    (packages : find? "package_prefixes" known = some (.array (index.packages.map .string)))
    (threads : find? "parallel_threads" known = some (.integer index.threads.toNat)) :
    indexFields? defaults (laid (some (.table known)) above) = some index := by
  have rootsRead := texts?_strings index.artifactRoots
  have packagesRead := texts?_strings index.packages
  have threadsRead := count?_toNat index.threads
  rcases laid_table below tidy known with
    same | same | ⟨lower, inner, before, after, was, now, each⟩
  · rw [same, indexFields?_table_iff]
    refine ⟨?_, ?_, ?_⟩
    · rw [roots, withDefault_some, rootsRead]
    · rw [packages, withDefault_some, packagesRead]
    · rw [threads, withDefault_some, threadsRead]
  · rw [same]
    exact first
  · obtain ⟨oldRoots, newRoots⟩ := each "artifact_roots"
    obtain ⟨oldPackages, newPackages⟩ := each "package_prefixes"
    obtain ⟨oldThreads, newThreads⟩ := each "parallel_threads"
    rw [was, indexFields?_table_iff] at first
    obtain ⟨firstRoots, firstPackages, firstThreads⟩ := first
    rw [oldRoots] at firstRoots
    rw [oldPackages] at firstPackages
    rw [oldThreads] at firstThreads
    rw [now, indexFields?_table_iff]
    refine ⟨?_, ?_, ?_⟩
    · rw [newRoots, roots]
      exact withDefault_laid isLeafReader_texts? firstRoots rootsRead
    · rw [newPackages, packages]
      exact withDefault_laid isLeafReader_texts? firstPackages packagesRead
    · rw [newThreads, threads]
      exact withDefault_laid isLeafReader_count? firstThreads threadsRead

end

/-- What the layers hold of some settings, one field after the other. -/
structure ReadFrom (defaults : Settings) (fields : List (String × Toml)) (settings : Settings) :
    Prop where
  index : indexFields? defaults (find? "index" fields) =
    some ⟨settings.artifactRoots, settings.packages, settings.threads⟩
  version : withDefault defaults.version word? (find? "version" fields) = some settings.version
  workspace : withDefault none path? (find? "workspace_root" fields) = some settings.workspace
  debug : withDefault defaults.debug switch? (find? "debug" fields) = some settings.debug
  docs : onlyField? defaults.docRoot "root_url" (find? "docs" fields) = some settings.docRoot
  server : onlyField? defaults.bind "bind" (find? "server" fields) = some settings.bind

theorem ofFields?_eq_some_iff {defaults settings : Settings} {fields : List (String × Toml)} :
    ofFields? defaults fields = some settings ↔ ReadFrom defaults fields settings := by
  obtain ⟨version, workspace, debug, docRoot, roots, packages, threads, bind⟩ := settings
  simp only [ofFields?, Option.bind_eq_bind, Option.bind_eq_some_iff, Option.some.injEq, mk.injEq]
  constructor
  · rintro ⟨⟨_, _, _⟩, index, _, first, _, second, _, third, _, fourth, _, fifth, rfl, rfl, rfl,
      rfl, rfl, rfl, rfl, rfl⟩
    exact ⟨index, first, second, third, fourth, fifth⟩
  · rintro ⟨index, first, second, third, fourth, fifth⟩
    exact ⟨_, index, _, first, _, second, _, third, _, fourth, _, fifth, rfl, rfl, rfl, rfl, rfl,
      rfl, rfl, rfl⟩

/-! The table of settings as a layer. -/

theorem find?_merged_append (layers : List (List (String × Toml))) {above : List (String × Toml)}
    (keys : (above.map Prod.fst).Nodup) (key : String) :
    find? key (merged (layers ++ [above])) =
      laid (find? key (merged layers)) (find? key above) := by
  rw [merged, List.foldl_append]
  exact find?_overlayFields _ keys key

theorem keys_toFields (settings : Settings) : (settings.toFields.map Prod.fst).Nodup := by
  rw [toFields, plainFields, sections]
  cases settings.workspace <;> simp

theorem laid_leaf (below : Option Toml) {above : Toml} (leaf : fields? above = none) :
    laid below (some above) = some above := by
  cases below with
  | none => rfl
  | some below => exact congrArg some (overlay_of_leaf below leaf)

theorem laid_over (below : Option Toml) (saved : List (String × Toml))
    (keys : (saved.map Prod.fst).Nodup) :
    ∃ known, laid below (some (.table saved)) = some (.table known) ∧
      ∀ key value, find? key saved = some value → fields? value = none →
        find? key known = some value := by
  cases below with
  | none => exact ⟨saved, rfl, fun key value found _ => found⟩
  | some below =>
    rw [laid, overlay]
    cases fields? below with
    | none => exact ⟨saved, rfl, fun key value found _ => found⟩
    | some lower =>
      refine ⟨_, rfl, fun key value found leaf => ?_⟩
      rw [find?_overlayFields lower keys, found, laid_leaf _ leaf]

theorem onlyField?_laid_over {name fallback value : String} {below above : Option Toml}
    (tidy : ∀ value, above = some value → value.IsTidy)
    (first : onlyField? fallback name (laid below above) = some value) (lower : Option Toml) :
    onlyField? fallback name (laid (laid lower (some (.table [(name, .string value)]))) above) =
      some value := by
  obtain ⟨known, stands, keeps⟩ := laid_over lower [(name, .string value)] (by simp)
  rw [stands]
  exact onlyField?_laid tidy first (keeps _ _ (if_pos rfl) rfl)

theorem isLeafReader_path? : IsLeafReader path? := isLeafReader_of (fun _ => rfl) fun _ => rfl

theorem workspace?_laid {below above saved : Option Toml} {workspace : Option Path}
    (first : withDefault none path? (laid below above) = some workspace)
    (readable : saved = none ∨ ∃ text, saved = some (.string text)) :
    ∃ other, withDefault none path? (laid saved above) = some other := by
  rcases readable with rfl | ⟨text, rfl⟩
  · rw [laid_none_left]
    cases above with
    | none => exact ⟨none, rfl⟩
    | some above =>
      cases leaf : fields? above with
      | none =>
        rw [laid_leaf below leaf] at first
        exact ⟨workspace, first⟩
      | some fields =>
        have nested : (fields? above).isSome := by rw [leaf]; rfl
        have refused : withDefault none path? (laid below (some above)) = none := by
          cases below with
          | none => exact isLeafReader_path? above nested
          | some below => exact isLeafReader_path? _ (fields?_overlay below nested)
        rw [refused] at first
        cases first
  · rcases laid_some below above (.string text) with same | same | ⟨table, stands, nested⟩
    · exact ⟨some text, by rw [same]; rfl⟩
    · exact ⟨workspace, by rw [same]; exact first⟩
    · rw [stands, withDefault_some, isLeafReader_path? table nested] at first
      cases first

section

variable (settings : Settings)

theorem find?_version :
    find? "version" settings.toFields = some (.integer settings.version.toNat) := rfl

theorem find?_workspace : find? "workspace_root" settings.toFields = none ∨
    ∃ text, find? "workspace_root" settings.toFields = some (.string text) := by
  rw [toFields, plainFields, sections]
  cases settings.workspace with
  | none => exact .inl rfl
  | some path => exact .inr ⟨path.display, rfl⟩

theorem find?_debug : find? "debug" settings.toFields = some (.bool settings.debug) := by
  rw [toFields, plainFields, sections]
  cases settings.workspace <;> rfl

theorem find?_docs :
    find? "docs" settings.toFields = some (.table [("root_url", .string settings.docRoot)]) := by
  rw [toFields, plainFields, sections]
  cases settings.workspace <;> rfl

theorem find?_index : find? "index" settings.toFields = some (.table [
    ("artifact_roots", .array (settings.artifactRoots.map .string)),
    ("package_prefixes", .array (settings.packages.map .string)),
    ("parallel_threads", .integer settings.threads.toNat)]) := by
  rw [toFields, plainFields, sections]
  cases settings.workspace <;> rfl

theorem find?_server :
    find? "server" settings.toFields = some (.table [("bind", .string settings.bind)]) := by
  rw [toFields, plainFields, sections]
  cases settings.workspace <;> rfl

end

theorem find?_workspace_laid (fallbacks settings : Settings) :
    let saved := laid (find? "workspace_root" (merged [fallbacks.toFields]))
      (find? "workspace_root" settings.toFields)
    saved = none ∨ ∃ text, saved = some (.string text) := by
  have alone : find? "workspace_root" (merged [fallbacks.toFields]) =
      find? "workspace_root" fallbacks.toFields :=
    (find?_overlayFields [] fallbacks.keys_toFields _).trans (laid_none_left _)
  dsimp only
  rw [alone]
  rcases settings.find?_workspace with none | ⟨text, same⟩
  · rw [none]
    exact fallbacks.find?_workspace
  · rw [same, laid_leaf _ rfl]
    exact .inr ⟨text, rfl⟩

theorem readFrom_toFields {defaults settings : Settings} {above : List (String × Toml)}
    (tidy : AreTidy above) {layers : List (List (String × Toml))} {found : Option Path}
    (first : ReadFrom defaults (merged (layers ++ [above])) { settings with workspace := found })
    (fallbacks : Settings) : ∃ workspace,
      ReadFrom defaults (merged ([fallbacks.toFields, settings.toFields] ++ [above]))
        { settings with workspace } := by
  have old (key : String) := find?_merged_append layers tidy.keys key
  have new (key : String) :
      find? key (merged ([fallbacks.toFields, settings.toFields] ++ [above])) =
        laid (laid (find? key (merged [fallbacks.toFields])) (find? key settings.toFields))
          (find? key above) := by
    rw [find?_merged_append _ tidy.keys, ← List.singleton_append,
      find?_merged_append _ settings.keys_toFields]
  have upper (key : String) : ∀ value, find? key above = some value → value.IsTidy :=
    fun value found => tidy.values _ (Named.mem_of_find? found)
  have workspaceFirst := first.workspace
  rw [old] at workspaceFirst
  obtain ⟨workspace, workspaceAgain⟩ :=
    workspace?_laid workspaceFirst (find?_workspace_laid fallbacks settings)
  refine ⟨workspace, ?_, ?_, ?_, ?_, ?_, ?_⟩
  · have index := first.index
    rw [old] at index
    obtain ⟨known, stands, keeps⟩ := laid_over (find? "index" (merged [fallbacks.toFields])) [
      ("artifact_roots", .array (settings.artifactRoots.map .string)),
      ("package_prefixes", .array (settings.packages.map .string)),
      ("parallel_threads", .integer settings.threads.toNat)] (by simp)
    rw [new, find?_index, stands]
    exact indexFields?_laid (upper "index") index (keeps _ _ rfl rfl) (keeps _ _ rfl rfl)
      (keeps _ _ rfl rfl)
  · have version := first.version
    rw [old] at version
    rw [new, find?_version, laid_leaf _ rfl]
    exact withDefault_laid (isLeafReader_of (fun _ => rfl) fun _ => rfl) version
      (word?_toNat settings.version)
  · rw [new]
    exact workspaceAgain
  · have debug := first.debug
    rw [old] at debug
    rw [new, find?_debug, laid_leaf _ rfl]
    exact withDefault_laid (isLeafReader_of (fun _ => rfl) fun _ => rfl) debug rfl
  · have docs := first.docs
    rw [old] at docs
    rw [new, find?_docs]
    exact onlyField?_laid_over (upper "docs") docs _
  · have server := first.server
    rw [old] at server
    rw [new, find?_server]
    exact onlyField?_laid_over (upper "server") server _

end ApiPages.Settings
