import ApiPages.Proofs.Files.Written
import ApiPages.Proofs.Settings.Reload
import ApiPages.Proofs.Text.Utf8
import ApiPages.Proofs.Toml.Document
import ApiPages.Settings.Load

/-!
Settings saved and loaded again. What is written is the table of the settings, whatever characters
are in its strings, and what is read of a file is the layer between the defaults and the
environment. Main statement: settings that were loaded and saved are loaded from the saved file, but
for the workspace.
-/

namespace ApiPages.Settings

open Toml (IsBareKey IsFlat IsSimple AreFlat IsPlainDocument)

theorem toNat_lt_signedSize (word : UInt32) : word.toNat < Decimal.signedSize := by
  have bound := word.toNat_lt
  have size : Decimal.signedSize = 9223372036854775808 := rfl
  omega

theorem isFlat_strings (texts : List String) : IsFlat (.array (texts.map .string)) := by
  apply IsFlat.array
  intro item member
  obtain ⟨text, -, rfl⟩ := List.mem_map.1 member
  exact .string text

theorem areFlat_cons {key : String} {value : Toml} {fields : List (String × Toml)}
    (bare : IsBareKey key) (flat : IsFlat value) (others : AreFlat fields) :
    AreFlat ((key, value) :: fields) :=
  List.forall_mem_cons.2 ⟨⟨bare, flat⟩, others⟩

theorem areFlat_nil : AreFlat [] := by simp [AreFlat]

theorem areFlat_plainFields (settings : Settings) : AreFlat settings.plainFields := by
  have version : IsFlat (.integer settings.version.toNat) :=
    .simple (.count (toNat_lt_signedSize settings.version))
  have debug : AreFlat [("debug", .bool settings.debug)] :=
    areFlat_cons (by decide) (.simple (.bool settings.debug)) areFlat_nil
  rw [plainFields]
  cases settings.workspace with
  | none => exact areFlat_cons (by decide) version debug
  | some workspace =>
    exact areFlat_cons (by decide) version
      (areFlat_cons (by decide) (.simple (.string workspace.display)) debug)

theorem isPlainDocument {settings : Settings} (fits : settings.threads.toNat < Decimal.signedSize) :
    IsPlainDocument settings.plainFields settings.sections where
  keys := by
    rw [plainFields, sections]
    cases settings.workspace <;> simp
  fields := settings.areFlat_plainFields
  names := by
    simp only [sections, List.forall_mem_cons]
    exact ⟨by decide, by decide, by decide, by simp⟩
  inner := by
    have threads : IsFlat (.integer settings.threads.toNat) := .simple (.count fits)
    have single (key text : String) (bare : IsBareKey key) : AreFlat [(key, .string text)] :=
      areFlat_cons bare (.simple (.string text)) areFlat_nil
    simp only [sections, List.forall_mem_cons]
    refine ⟨⟨single _ _ (by decide), by simp⟩, ⟨?_, by simp⟩, ⟨single _ _ (by decide), by simp⟩,
      by simp⟩
    exact areFlat_cons (by decide) (isFlat_strings settings.artifactRoots)
      (areFlat_cons (by decide) (isFlat_strings settings.packages)
        (areFlat_cons (by decide) threads areFlat_nil))

theorem read?_print {settings : Settings} {text : String} (printed : settings.print = .ok text) :
    Toml.read? text = some settings.toFields := by
  rw [print] at printed
  split at printed
  · cases printed
  split at printed
  · next fits =>
    obtain rfl := Except.ok.inj printed
    exact Toml.read?_printDocument (isPlainDocument fits)
  · cases printed

theorem outwards_eq_cons (here : Place) : ∃ others, outwards here = here :: others := by
  induction here with
  | nil => exact ⟨[], rfl⟩
  | cons name rest ih =>
    obtain ⟨others, whole⟩ := ih
    rw [outwards, whole]
    exact ⟨_, rfl⟩

theorem fileLayer?_save {settings : Settings} {files saved : FileTree} {here : Place}
    {path : Path} (wrote : settings.save files here path = .ok saved) :
    fileLayer? saved here path = some settings.toFields := by
  obtain ⟨made, text, printed, written⟩ : ∃ made text, settings.print = .ok text ∧
      FileTree.writeFile made here path (Text.Utf8.encode text) = .ok saved := by
    rw [save] at wrote
    split at wrote
    · cases wrote
    split at wrote
    · cases wrote
    next made _ =>
    split at wrote
    · cases wrote
    next text printed =>
    split at wrote
    · cases wrote
    · next written =>
      obtain rfl := Except.ok.inj wrote
      exact ⟨made, text, printed, written⟩
  have held := FileTree.content?_writeFile written
  have found : fileContent? saved here path = some (Text.Utf8.encode text) := by
    rw [fileContent?]
    split
    · exact held
    · obtain ⟨others, whole⟩ := outwards_eq_cons here
      rw [whole, List.findSome?_cons, held]
  rw [fileLayer?, found]
  simp [Text.Utf8.decode?_encode, read?_print printed]

theorem layered?_eq_some_iff {around : Surroundings} {path : Path} {settings : Settings} :
    layered? around path = some settings ↔
      ∃ file, fileLayer? around.files around.here path = some file ∧
        ReadFrom (.default around.processors)
          (merged ([(default around.processors).toFields, file] ++
            [Environment.layer around.environment])) settings := by
  simp only [layered?, Option.bind_eq_bind, Option.bind_eq_some_iff, ofLayers?,
    ofFields?_eq_some_iff]
  rfl

/-- Settings that were loaded and saved are loaded from the saved file, but for the workspace. -/
theorem loadFrom?_save {around : Surroundings} {path target : Path} {settings : Settings}
    {files saved : FileTree} {here : Place} (loaded : loadFrom? around path = some settings)
    (wrote : settings.save files here target = .ok saved) :
    ∃ reloaded, loadFrom? { around with files := saved, here := here } target = some reloaded ∧
      { reloaded with workspace := settings.workspace } = settings := by
  obtain ⟨base, layered, same⟩ := Option.map_eq_some_iff.1 loaded
  obtain ⟨file, -, first⟩ := layered?_eq_some_iff.1 layered
  have known : base = { settings with workspace := base.workspace } := by
    rw [← same]
    rfl
  rw [known] at first
  obtain ⟨workspace, again⟩ := readFrom_toFields (Environment.tidy_layer around.environment) first
    (default around.processors)
  have reread : layered? { around with files := saved, here := here } target =
      some { settings with workspace } :=
    layered?_eq_some_iff.2 ⟨_, fileLayer?_save wrote, again⟩
  refine ⟨within (workspaceOf target) { settings with workspace }, ?_, rfl⟩
  rw [loadFrom?, reread, Option.map_some]

theorem loadFrom?_save_quoted :
    let text :=
      "[docs]\nroot_url = \"a\\u0000\\\"\\\\'\"\n[index]\nartifact_roots = [\"é\", '\\']\n"
    let around : Surroundings := {
      files := .put .empty ["a.toml"] (.file (Text.Utf8.encode text))
      here := []
      environment := [("DOCLINK_INDEX__PACKAGE_PREFIXES", "[b, c]")]
      processors := 4 }
    ∃ settings saved, loadFrom? around "a.toml" = some settings ∧
      settings.docRoot = "a\x00\"\\'" ∧ settings.packages = ["b", "c"] ∧
      settings.save around.files [] "d/e.toml" = .ok saved ∧
      ∃ reloaded, loadFrom? { around with files := saved, here := [] } "d/e.toml" = some reloaded ∧
        { reloaded with workspace := settings.workspace } = settings := by
  intro text around
  have read : (loadFrom? around "a.toml").any (fun settings =>
      settings.docRoot == "a\x00\"\\'" && settings.packages == ["b", "c"] &&
        (settings.save around.files [] "d/e.toml").isOk) := by
    decide +kernel
  obtain ⟨settings, loaded, facts⟩ := (Option.any_eq_true _ _).1 read
  simp only [Bool.and_eq_true, beq_iff_eq] at facts
  obtain ⟨⟨root, packages⟩, writable⟩ := facts
  cases wrote : settings.save around.files [] "d/e.toml" with
  | error cause => simp [wrote, Except.isOk, Except.toBool] at writable
  | ok saved => exact ⟨settings, saved, loaded, root, packages, wrote, loadFrom?_save loaded wrote⟩

end ApiPages.Settings
