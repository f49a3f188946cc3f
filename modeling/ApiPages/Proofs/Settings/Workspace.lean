import ApiPages.Proofs.Files.Followed
import ApiPages.Proofs.Settings.Layered

/-!
The workspace of a settings file. A path that leads to a file from some place leads to the workspace
from there: to the directory around the one of the file if the path writes out that this is one for
settings, and to the directory of the file otherwise. Main statement: settings belong to the
workspace that their path leads to from where the file was found, but their roots are seen from the
current directory.
-/

namespace ApiPages

open ApiPages.Path (Shortened shown)
open Named (find?)

namespace Path

def directory? (path : Path) : Option Path := (parent? path).map shown

def outerName? (path : Path) : Option FileName := (directory? path).bind fileName?

theorem shown_shown (path : Path) : shown (shown path) = shown path := by
  rw [shown, if_neg (by simpa using FileTree.shown_ne_empty path)]

end Path

namespace Settings

/-- A settings file that a path leads to from a place, the directory it lies in, and the directory
that a workspace leads to from this place. -/
structure Anchored (files : FileTree) (here : Place) (path : Path) (content : List UInt8)
    (workspace : Path) (directory root : Place) : Prop where
  inside : ∃ written name, Path.directory? path = some written ∧
    files.locate here written = .ok directory ∧ Path.fileName? path = some name ∧
    files.content? directory name = some content
  leads : files.locate here (shown workspace) = .ok root
  holds : if Path.outerName? path = some directoryName then
      files.locate root directoryName = .ok directory
    else root = directory

theorem workspaceOf_eq {path written : Path} (inside : Path.directory? path = some written) :
    workspaceOf path =
      if Path.outerName? path = some directoryName then Path.parent? written else some written := by
  obtain ⟨parent, found, rfl⟩ := Option.map_eq_some_iff.1 inside
  rw [workspaceOf, found, Path.outerName?, inside]
  rfl

theorem anchored_of_content? {files : FileTree} {here : Place} {path : Path}
    {content : List UInt8} (found : files.content? here path = some content) :
    ∃ workspace directory root, workspaceOf path = some workspace ∧
      Anchored files here path content workspace directory root := by
  obtain ⟨kept, parent, directory, name, written, shortened, named, around, stands⟩ :=
    FileTree.content?_in_parent found
  have inside : Path.directory? path = some (shown parent) := by rw [Path.directory?, written]; rfl
  by_cases out : Path.outerName? path = some directoryName
  · have last : Path.fileName? (shown parent) = some directoryName := by
      rwa [Path.outerName?, inside, Option.bind_some] at out
    obtain ⟨front, segment, ends, same⟩ := shortened.endsIn last
    obtain ⟨_, workspace, root, outer, -, leads, holds⟩ :=
      FileTree.lookup_of_endsIn ends (FileTree.locate_eq_ok_iff.1 around)
    refine ⟨workspace, directory, root, ?_, ⟨_, name, inside, around, named, stands⟩, leads, ?_⟩
    · rw [workspaceOf_eq inside, if_pos out, outer]
    · rw [if_pos out, ← same]
      exact FileTree.locate_eq_ok_iff.2 holds
  · refine ⟨shown parent, directory, directory, ?_,
      ⟨_, name, inside, around, named, stands⟩, ?_, ?_⟩
    · rw [workspaceOf_eq inside, if_neg out]
    · rw [Path.shown_shown]
      exact around
    · rw [if_neg out]

theorem eq_of_locate_directoryName {files : FileTree} {root directory : Place}
    (located : files.locate root directoryName = .ok directory)
    (unlinked : ∀ target, files.at? (root ++ [directoryName]) ≠ some (.link target)) :
    directory = root ++ [directoryName] := by
  obtain ⟨-, led⟩ := FileTree.lookup_eq_ok_iff.1 (FileTree.locate_eq_ok_iff.1 located)
  have there : FileTree.start root directoryName = root := by
    rw [FileTree.start, if_neg (by decide)]
  have single : FileTree.steps directoryName = [directoryName] := by decide
  rw [there, single] at led
  obtain ⟨onward, leads⟩ := FileTree.exists_leads led
  have other : directoryName ≠ [Path.dot] ∧ Path.isUp directoryName = false := by decide
  cases leads with
  | up standing isUp => simp [isUp] at other
  | enter standing named child notLinked later =>
    cases later
    rfl
  | link standing named child =>
    rw [← FileTree.at?_child standing] at child
    exact absurd child (unlinked _)

theorem Anchored.root_eq {files : FileTree} {here : Place} {path : Path} {content : List UInt8}
    {workspace : Path} {directory root : Place}
    (anchored : Anchored files here path content workspace directory root)
    (writtenOut : directory.getLast? = some directoryName →
      Path.outerName? path = some directoryName)
    (unlinked : ∀ target, files.at? (root ++ [directoryName]) ≠ some (.link target)) :
    root = if directory.getLast? = some directoryName then directory.dropLast else directory := by
  have holds := anchored.holds
  split at holds
  · obtain rfl := eq_of_locate_directoryName holds unlinked
    simp
  · next other =>
    rw [if_neg fun last => other (writtenOut last), holds]

theorem workspace_of_loadFrom? {around : Surroundings} {path : Path} {settings : Settings}
    {file : List (String × Toml)}
    (held : fileLayer? around.files around.here path = some file)
    (unset : find? "workspace_root" file = none)
    (unsetAbove : find? "workspace_root" (Environment.layer around.environment) = none)
    (loaded : loadFrom? around path = some settings) : settings.workspace = workspaceOf path := by
  obtain ⟨base, layered, rfl⟩ := Option.map_eq_some_iff.1 loaded
  obtain ⟨layer, found, read⟩ := layered?_eq_some_iff.1 layered
  obtain rfl := Option.some.inj (held.symm.trans found)
  have nothing := read.workspace
  rw [find?_layers _ (tidy_of_fileLayer? held) (Environment.tidy_layer _), unset,
    unsetAbove] at nothing
  have none : base.workspace = none := (Option.some.inj nothing).symm
  rw [within, none]
  rfl

theorem exists_of_fileContent? {files : FileTree} {here : Place} {path : Path}
    {content : List UInt8} (found : fileContent? files here path = some content) :
    ∃ seen, files.content? seen path = some content ∧
      (seen = here ∨ Path.isAbsolute path = false ∧ files.content? here path = none ∧
        seen ∈ outwards here) := by
  rw [fileContent?] at found
  split at found
  · exact ⟨here, found, .inl rfl⟩
  · next relative =>
    obtain ⟨seen, member, stands⟩ := List.exists_of_findSome?_eq_some found
    cases nearby : files.content? here path with
    | none => exact ⟨seen, stands, .inr ⟨by simpa using relative, rfl, member⟩⟩
    | some nearer =>
      obtain ⟨others, whole⟩ := outwards_eq_cons here
      rw [whole, List.findSome?_cons, nearby] at found
      exact ⟨here, nearby.trans found, .inl rfl⟩

/-- Settings of a file that was found from some place belong to the workspace that their path leads
to from there. It is the directory around the one of the file if that is one for settings and the
path says so. The roots are seen from the current directory, which is this place if the path leads
to the file from there. -/
theorem loadFrom?_anchored {around : Surroundings} {path : Path} {settings : Settings}
    {file : List (String × Toml)} {content : List UInt8}
    (found : fileContent? around.files around.here path = some content)
    (held : fileLayer? around.files around.here path = some file)
    (unset : find? "workspace_root" file = none)
    (unsetAbove : find? "workspace_root" (Environment.layer around.environment) = none)
    (loaded : loadFrom? around path = some settings) :
    ∃ seen workspace directory root,
      (seen = around.here ∨ Path.isAbsolute path = false ∧
        around.files.content? around.here path = none ∧ seen ∈ outwards around.here) ∧
      Anchored around.files seen path content workspace directory root ∧
      ((directory.getLast? = some directoryName → Path.outerName? path = some directoryName) →
        (∀ target, around.files.at? (root ++ [directoryName]) ≠ some (.link target)) →
        root = if directory.getLast? = some directoryName then directory.dropLast else directory) ∧
      settings.workspace = some workspace ∧
      settings.resolvedRoots = settings.artifactRoots.map (Path.join workspace) ∧
      ∀ artifacts : Path, if artifacts.isAbsolute then workspace.push artifacts = artifacts else
        ∀ led, around.files.lookup seen (workspace.push artifacts) = .ok led →
          around.files.lookup root (shown artifacts) = .ok led := by
  obtain ⟨seen, stands, nearest⟩ := exists_of_fileContent? found
  obtain ⟨workspace, directory, root, written, anchored⟩ := anchored_of_content? stands
  have belongs : settings.workspace = some workspace :=
    (workspace_of_loadFrom? held unset unsetAbove loaded).trans written
  refine ⟨seen, workspace, directory, root, nearest, anchored, anchored.root_eq, belongs, ?_,
    fun artifacts => ?_⟩
  · rw [resolvedRoots, belongs]
  · split
    · next absolute => exact Path.push_absolute workspace absolute
    · next relative =>
      exact fun led leads => FileTree.lookup_push anchored.leads (by simpa using relative) leads

theorem loadFrom?_anchored_outwards :
    let text := "[index]\npackage_prefixes = []\n"
    let around : Surroundings := {
      files := .put (.put .empty ["a", ".doclink", "settings.toml"] (.file (Text.Utf8.encode text)))
        ["a", "sub"] .empty
      here := ["a", "sub"]
      environment := []
      processors := 4 }
    let path : Path := "../.doclink/settings.toml"
    ∃ file settings, fileLayer? around.files around.here path = some file ∧
      find? "workspace_root" file = none ∧ loadFrom? around path = some settings ∧
      settings.artifactRoots = ["build/classes"] ∧
      settings.resolvedRoots = [("../build/classes" : Path)] ∧
      Anchored around.files around.here path (Text.Utf8.encode text) ".." ["a", ".doclink"]
        ["a"] := by
  intro text around path
  have read : (fileLayer? around.files around.here path).any (fun file =>
      (find? "workspace_root" file).isNone) := by
    decide +kernel
  have known : (loadFrom? around path).any (fun settings =>
      settings.workspace == some ("..":Path) && settings.artifactRoots == ["build/classes"] &&
        settings.resolvedRoots == [("../build/classes" : Path)]) := by
    decide +kernel
  have found : fileContent? around.files around.here path = some (Text.Utf8.encode text) := by
    decide +kernel
  have there : around.files.content? around.here path = some (Text.Utf8.encode text) := by
    decide +kernel
  have inside : around.files.lookup around.here "../.doclink" =
      .ok (.present ["a", ".doclink"]) := by
    decide +kernel
  have outer : around.files.lookup around.here ".." = .ok (.present ["a"]) := by decide +kernel
  obtain ⟨file, held, unset⟩ := (Option.any_eq_true _ _).1 read
  obtain ⟨settings, loaded, facts⟩ := (Option.any_eq_true _ _).1 known
  simp only [Bool.and_eq_true, beq_iff_eq, Option.isNone_iff_eq_none] at facts unset
  obtain ⟨⟨workspace, artifacts⟩, roots⟩ := facts
  obtain ⟨seen, base, directory, root, nearest, anchored, -, belongs, -, -⟩ :=
    loadFrom?_anchored found held unset rfl loaded
  obtain rfl : seen = around.here := nearest.resolve_right fun missed => by simp [there] at missed
  obtain rfl : (".." : Path) = base := Option.some.inj (workspace.symm.trans belongs)
  obtain ⟨written, _, same, located, -⟩ := anchored.inside
  obtain rfl : ("../.doclink" : Path) = written := Option.some.inj (Eq.trans (by decide) same)
  have first := inside.symm.trans (FileTree.locate_eq_ok_iff.1 located)
  have second := outer.symm.trans (FileTree.locate_eq_ok_iff.1 anchored.leads)
  obtain rfl := FileTree.Lookup.present.inj (Except.ok.inj first)
  obtain rfl := FileTree.Lookup.present.inj (Except.ok.inj second)
  exact ⟨file, settings, held, unset, loaded, artifacts, roots, anchored⟩

/-- A file that is found further out belongs to a workspace there, but its roots are seen from the
current directory. A file in the current directory does not belong to the workspace around it. -/
theorem loadFrom?_found_outside :
    let text := "[index]\npackage_prefixes = []\n"
    let around (here : Place) : Surroundings := {
      files := .put (.put (.put .empty [".doclink", "settings.toml"]
        (.file (Text.Utf8.encode text))) ["build", "classes"] .empty) ["sub"] .empty
      here
      environment := []
      processors := 4 }
    let below (here : Place) (path : Path) :=
      (loadFrom? (around here) path).map fun settings =>
        settings.resolvedRoots.map ((around here).files.hasDirectory here)
    (around []).files.hasDirectory [] "build/classes" = true ∧
      fileContent? (around []).files ["sub"] ".doclink/settings.toml" =
        some (Text.Utf8.encode text) ∧
      below [] ".doclink/settings.toml" = some [true] ∧
      below ["sub"] ".doclink/settings.toml" = some [false] ∧
      below ["sub"] "../.doclink/settings.toml" = some [true] ∧
      below [".doclink"] "settings.toml" = some [false] := by
  decide +kernel

end Settings

end ApiPages
