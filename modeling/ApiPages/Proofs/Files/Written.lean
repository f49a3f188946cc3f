import ApiPages.Files.Lookup

/-!
Files written and read back. A path that leads to a file, or to where one is missing, leads to the
file once it is written, because the directories and the links on the way are still the same. Main
statement: a path that was written to holds what was written.
-/

namespace ApiPages.FileTree

open Named (find? set)

theorem at?_append (tree : FileTree) (place behind : Place) :
    tree.at? (place ++ behind) = (tree.at? place).bind fun inner => inner.at? behind := by
  induction place generalizing tree with
  | nil => rfl
  | cons name rest ih =>
    rw [List.cons_append, at?, at?, Option.bind_assoc]
    congr 1
    funext child
    exact ih child

theorem at?_child {tree : FileTree} {place : Place} {children : List (FileName × FileTree)}
    (directory : tree.at? place = some (.directory children)) (name : FileName) :
    tree.at? (place ++ [name]) = find? name children := by
  rw [at?_append, directory, Option.bind_some, at?, child?]
  cases find? name children <;> rfl

theorem at?_dropLast {tree inner : FileTree} {place : Place} (found : tree.at? place = some inner)
    (nested : place ≠ []) :
    ∃ children, tree.at? place.dropLast = some (.directory children) := by
  rw [← List.dropLast_concat_getLast nested, at?_append] at found
  obtain ⟨around, outer, below⟩ := Option.bind_eq_some_iff.1 found
  cases around with
  | directory children => exact ⟨children, outer⟩
  | _ => simp [at?, child?] at below

/-- A place for a file: everything around it is a directory, and it is free or holds a file. -/
inductive Writable : FileTree → Place → Prop
  | last {children : List (FileName × FileTree)} {name : FileName}
    (free : ∀ found, find? name children = some found → ∃ content, found = .file content) :
    Writable (.directory children) [name]
  | inside {children : List (FileName × FileTree)} {name : FileName} {inner : FileTree}
    {rest : Place} (found : find? name children = some inner) (writable : Writable inner rest) :
    Writable (.directory children) (name :: rest)

theorem writable_of_parent {tree : FileTree} {around : Place} {name : FileName}
    {children : List (FileName × FileTree)}
    (directory : tree.at? around = some (.directory children))
    (free : ∀ found, find? name children = some found → ∃ content, found = .file content) :
    Writable tree (around ++ [name]) := by
  induction around generalizing tree with
  | nil =>
    obtain rfl := Option.some.inj directory
    exact .last free
  | cons outer rest ih =>
    rw [at?] at directory
    obtain ⟨inner, found, below⟩ := Option.bind_eq_some_iff.1 directory
    cases tree with
    | directory others => exact .inside found (ih below)
    | _ => simp [child?] at found

/-- What a directory holds after a file was put at `target`, compared with what it held before. -/
def Updated (place target : Place) (file : FileTree) (before after : List (FileName × FileTree)) :
    Prop :=
  ∀ name,
    (place ++ [name] = target ∧ find? name after = some file ∧
      ∀ found, find? name before = some found → ∃ content, found = .file content) ∨
    (place ++ [name] ≠ target ∧ (find? name after = find? name before ∨
      ∃ inner outer, find? name before = some (.directory inner) ∧
        find? name after = some (.directory outer)))

theorem put_directory (children : List (FileName × FileTree)) (name : FileName) (rest : Place)
    (file : FileTree) : (directory children).put (name :: rest) file =
      .directory (set name (((find? name children).getD empty).put rest file) children) :=
  rfl

theorem at?_put_other (children : List (FileName × FileTree)) {name other : FileName}
    (different : name ≠ other) (rest behind : Place) (file : FileTree) :
    ((directory children).put (name :: rest) file).at? (other :: behind) =
      (directory children).at? (other :: behind) := by
  rw [put_directory, at?, at?, child?, child?, Named.find?_set_other different]

theorem Updated.refl {place target : Place} {file : FileTree}
    {children : List (FileName × FileTree)} (apart : ∀ name, place ++ [name] ≠ target) :
    Updated place target file children children :=
  fun name => .inr ⟨apart name, .inl rfl⟩

theorem Writable.exists_directory {tree : FileTree} {place : Place}
    (writable : Writable tree place) : ∃ children, tree = .directory children := by
  cases writable with
  | last => exact ⟨_, rfl⟩
  | inside => exact ⟨_, rfl⟩

theorem at?_put_directory {tree : FileTree} {target : Place} (writable : Writable tree target)
    (file : FileTree) {place : Place} {before : List (FileName × FileTree)}
    (directory : tree.at? place = some (.directory before)) :
    ∃ after, (tree.put target file).at? place = some (.directory after) ∧
      Updated place target file before after := by
  induction writable generalizing place with
  | @last children name free =>
    cases place with
    | nil =>
      obtain rfl := FileTree.directory.inj (Option.some.inj directory)
      refine ⟨_, rfl, fun other => ?_⟩
      by_cases same : name = other
      · subst same
        exact .inl ⟨rfl, by rw [Named.find?_set_self, put], free⟩
      · exact .inr ⟨by simp [Ne.symm same], .inl (Named.find?_set_other same _ _)⟩
    | cons outer rest =>
      have different : name ≠ outer := by
        rintro rfl
        rw [at?, child?] at directory
        obtain ⟨child, found, behind⟩ := Option.bind_eq_some_iff.1 directory
        obtain ⟨content, rfl⟩ := free child found
        cases rest <;> simp [at?, child?] at behind
      exact ⟨before, (at?_put_other children different _ _ _).trans directory,
        .refl fun other => by simp⟩
  | @inside children name inner rest found writable ih =>
    cases place with
    | nil =>
      obtain rfl := FileTree.directory.inj (Option.some.inj directory)
      obtain ⟨inside, rfl⟩ := writable.exists_directory
      have nested : rest ≠ [] := by cases writable <;> simp
      refine ⟨_, rfl, fun other => .inr ⟨by simp [nested.symm], ?_⟩⟩
      by_cases same : name = other
      · subst same
        obtain ⟨first, more, rfl⟩ := List.exists_cons_of_ne_nil nested
        rw [Named.find?_set_self, found]
        exact .inr ⟨inside, _, rfl, rfl⟩
      · exact .inl (Named.find?_set_other same _ _)
    | cons outer behind =>
      by_cases same : name = outer
      · subst same
        rw [at?, child?, found, Option.bind_some] at directory
        obtain ⟨after, reached, updated⟩ := ih directory
        refine ⟨after, ?_, fun other => ?_⟩
        · rw [put_directory, at?, child?, Named.find?_set_self, found]
          exact reached
        · simpa using updated other
      · exact ⟨before, (at?_put_other children same _ _ _).trans directory,
          .refl fun other => by simp [Ne.symm same]⟩

/-! Paths followed. -/

def Lookup.place : Lookup → Place
  | .present place => place
  | .absent around name => around ++ [name]

def IsName (step : FileName) : Prop :=
  step ≠ [Path.dot] ∧ Path.isUp step = false ∧
    step.length ≤ maxNameBytes

/-- Where steps lead from a place, given where those behind a link do. -/
inductive Leads (tree : FileTree) (onward : Place → Path → List FileName → Lookup → Prop) :
    Place → List FileName → Lookup → Prop
  | arrived (place : Place) : Leads tree onward place [] (.present place)
  | stay {place : Place} {children : List (FileName × FileTree)} {rest : List FileName}
    {found : Lookup} (standing : tree.at? place = some (.directory children))
    (later : Leads tree onward place rest found) :
    Leads tree onward place ([Path.dot] :: rest) found
  | up {place : Place} {children : List (FileName × FileTree)} {step : FileName}
    {rest : List FileName} {found : Lookup}
    (standing : tree.at? place = some (.directory children)) (isUp : Path.isUp step = true)
    (later : Leads tree onward (parentPlace place) rest found) :
    Leads tree onward place (step :: rest) found
  | enter {place : Place} {children : List (FileName × FileTree)} {step : FileName}
    {rest : List FileName} {inner : FileTree} {found : Lookup}
    (standing : tree.at? place = some (.directory children)) (named : IsName step)
    (child : find? step children = some inner)
    (unlinked : ∀ target, inner ≠ .link target)
    (later : Leads tree onward (place ++ [step]) rest found) :
    Leads tree onward place (step :: rest) found
  | link {place : Place} {children : List (FileName × FileTree)} {step : FileName}
    {rest : List FileName} {path : Path} {found : Lookup}
    (standing : tree.at? place = some (.directory children)) (named : IsName step)
    (child : find? step children = some (.link path))
    (later : onward place path rest found) : Leads tree onward place (step :: rest) found
  | missing {place : Place} {children : List (FileName × FileTree)} {step : FileName}
    (standing : tree.at? place = some (.directory children)) (named : IsName step)
    (free : find? step children = none) :
    Leads tree onward place [step] (.absent place step)

theorem leads_of_stepThrough {tree : FileTree}
    {follow : Place → Path → List FileName → Except FileError Lookup} {place : Place}
    {steps : List FileName} {found : Lookup}
    (led : stepThrough tree follow place steps = .ok found) :
    Leads tree (fun place path rest found => follow place path rest = .ok found) place steps
      found := by
  induction steps generalizing place with
  | nil =>
    obtain rfl := Except.ok.inj led
    exact .arrived place
  | cons step rest ih =>
    rw [stepThrough] at led
    cases standing : tree.at? place with
    | none => simp [standing] at led
    | some inner =>
      cases inner with
      | file | link => simp [standing] at led
      | directory children =>
        simp only [standing] at led
        split at led
        · next stays => exact stays ▸ .stay standing (ih led)
        next moves =>
        split at led
        · next isUp => exact .up standing isUp (ih led)
        next down =>
        split at led
        · simp at led
        next short =>
        have named : IsName step := ⟨moves, by simpa using down, Nat.le_of_not_lt short⟩
        cases stood : find? step children with
        | none =>
          simp only [stood] at led
          split at led
          · next last =>
            obtain rfl := Except.ok.inj led
            obtain rfl := List.isEmpty_iff.1 last
            exact .missing standing named stood
          · simp at led
        | some inner =>
          cases inner with
          | link => exact .link standing named stood (by simpa [stood] using led)
          | file | directory =>
            exact .enter standing named stood (by simp) (ih (by simpa [stood] using led))

theorem Leads.stepThrough {tree : FileTree}
    {follow : Place → Path → List FileName → Except FileError Lookup} {place : Place}
    {steps : List FileName} {found : Lookup}
    (leads : Leads tree (fun place path rest found => follow place path rest = .ok found) place
      steps found) : tree.stepThrough follow place steps = .ok found := by
  induction leads with
  | arrived place => rfl
  | stay standing later ih => simpa [FileTree.stepThrough, standing] using ih
  | @up place children step rest found standing isUp later ih =>
    have moves : step ≠ [Path.dot] := by
      rintro rfl
      exact absurd isUp (by decide)
    simpa [FileTree.stepThrough, standing, moves, isUp] using ih
  | @enter place children step rest inner found standing named child unlinked later ih =>
    rw [FileTree.stepThrough, standing]
    cases inner with
    | link path => exact absurd rfl (unlinked path)
    | file | directory => simpa [named.1, named.2.1, Nat.not_lt.2 named.2.2, child] using ih
  | link standing named child later =>
    simpa [FileTree.stepThrough, standing, named.1, named.2.1, Nat.not_lt.2 named.2.2, child]
      using later
  | missing standing named free =>
    simp [FileTree.stepThrough, standing, named.1, named.2.1, Nat.not_lt.2 named.2.2, free]

theorem Leads.eq_nil_of_file {tree : FileTree}
    {onward : Place → Path → List FileName → Lookup → Prop} {place : Place}
    {steps : List FileName} {found : Lookup} (leads : Leads tree onward place steps found)
    {content : List UInt8} (isFile : tree.at? place = some (.file content)) : steps = [] := by
  cases leads with
  | arrived => rfl
  | stay standing | up standing | enter standing | link standing | missing standing =>
    simp [isFile] at standing

section

variable {tree : FileTree} {target : Place} (writable : Writable tree target)

include writable

theorem Leads.put {content : List UInt8}
    {onward after : Place → Path → List FileName → Lookup → Prop}
    (followed : ∀ place path rest found, onward place path rest found → found.place = target →
      after place path rest (.present target))
    {place : Place} {steps : List FileName} {found : Lookup}
    (leads : Leads tree onward place steps found) (there : found.place = target) :
    Leads (tree.put target (.file content)) after place steps (.present target) := by
  induction leads with
  | arrived place =>
    obtain rfl : place = target := there
    exact .arrived place
  | stay standing later ih =>
    obtain ⟨_, reached, -⟩ := at?_put_directory writable (.file content) standing
    exact .stay reached (ih there)
  | up standing isUp later ih =>
    obtain ⟨_, reached, -⟩ := at?_put_directory writable (.file content) standing
    exact .up reached isUp (ih there)
  | @enter place before step rest inner found standing named child unlinked later ih =>
    obtain ⟨_, reached, updated⟩ := at?_put_directory writable (.file content) standing
    rcases updated step with ⟨same, written, free⟩ | ⟨-, same | kept⟩
    · obtain ⟨old, rfl⟩ := free inner child
      obtain rfl := later.eq_nil_of_file ((at?_child standing _).trans child)
      exact .enter reached named written (by simp) (same ▸ .arrived _)
    · exact .enter reached named (same.trans child) unlinked (ih there)
    · obtain ⟨_, _, -, stands⟩ := kept
      exact .enter reached named stands (by simp) (ih there)
  | @link place before step rest path found standing named child later =>
    obtain ⟨_, reached, updated⟩ := at?_put_directory writable (.file content) standing
    rcases updated step with ⟨-, -, free⟩ | ⟨-, same | kept⟩
    · obtain ⟨_, isFile⟩ := free _ child
      cases isFile
    · exact .link reached named (same.trans child) (followed _ _ _ _ later there)
    · obtain ⟨_, _, stood, -⟩ := kept
      rw [child] at stood
      cases stood
  | @missing place before step standing named free =>
    obtain ⟨_, reached, updated⟩ := at?_put_directory writable (.file content) standing
    rcases updated step with ⟨same, written, -⟩ | ⟨other, -⟩
    · exact .enter reached named written (by simp) (same ▸ .arrived _)
    · exact absurd there other

theorem stepsFrom_put {content : List UInt8} {left : Nat} {place : Place}
    {steps : List FileName} {found : Lookup} (led : stepsFrom tree left place steps = .ok found)
    (there : found.place = target) :
    stepsFrom (tree.put target (.file content)) left place steps = .ok (.present target) := by
  induction left generalizing place steps found with
  | zero => exact ((leads_of_stepThrough led).put writable (by simp) there).stepThrough
  | succ left ih =>
    apply Leads.stepThrough
    exact (leads_of_stepThrough led).put writable (fun _ _ _ _ led there => ih led there) there

theorem lookup_put (content : List UInt8) {here : Place} {path : Path} {found : Lookup}
    (led : lookup tree here path = .ok found) (there : found.place = target) :
    lookup (tree.put target (.file content)) here path = .ok (.present target) := by
  rw [lookup] at led ⊢
  cases fine : checkPath path with
  | error error =>
    rw [fine] at led
    cases led
  | ok =>
    rw [fine] at led
    exact stepsFrom_put writable led there

end

/-! What stands where a path leads. -/

inductive Lookup.Holds (tree : FileTree) : Lookup → Prop
  | directory {place : Place} {children : List (FileName × FileTree)}
    (standing : tree.at? place = some (.directory children)) : Holds tree (.present place)
  | file {around : Place} {children : List (FileName × FileTree)} {name : FileName}
    {content : List UInt8} (standing : tree.at? around = some (.directory children))
    (found : find? name children = some (.file content)) : Holds tree (.present (around ++ [name]))
  | missing {around : Place} {children : List (FileName × FileTree)} {name : FileName}
    (standing : tree.at? around = some (.directory children))
    (free : find? name children = none) : Holds tree (.absent around name)

theorem holds_parent {tree : FileTree} {place : Place} {children : List (FileName × FileTree)}
    (standing : tree.at? place = some (.directory children)) :
    (Lookup.present (parentPlace place)).Holds tree := by
  cases place with
  | nil => exact .directory standing
  | cons name rest =>
    obtain ⟨around, outer⟩ := at?_dropLast standing (List.cons_ne_nil name rest)
    exact .directory outer

theorem Leads.holds {tree : FileTree}
    {onward : Place → Path → List FileName → Lookup → Prop}
    (followed : ∀ place children path rest found, tree.at? place = some (.directory children) →
      onward place path rest found → found.Holds tree)
    {place : Place} {steps : List FileName} {found : Lookup}
    (leads : Leads tree onward place steps found)
    (started : steps = [] → (Lookup.present place).Holds tree) : found.Holds tree := by
  induction leads with
  | arrived place => exact started rfl
  | stay standing later ih => exact ih fun _ => .directory standing
  | up standing isUp later ih => exact ih fun _ => holds_parent standing
  | @enter place children step rest inner found standing named child unlinked later ih =>
    refine ih fun _ => ?_
    cases inner with
    | file => exact .file standing child
    | directory => exact .directory ((at?_child standing _).trans child)
    | link path => exact absurd rfl (unlinked path)
  | link standing named child later => exact followed _ _ _ _ _ standing later
  | missing standing named free => exact .missing standing free

theorem at?_root {tree : FileTree} {place : Place} {children : List (FileName × FileTree)}
    (standing : tree.at? place = some (.directory children)) :
    ∃ others, tree.at? [] = some (.directory others) := by
  cases place with
  | nil => exact ⟨children, standing⟩
  | cons name rest =>
    cases tree with
    | directory others => exact ⟨others, rfl⟩
    | _ => simp [at?, child?] at standing

theorem stepsFrom_holds {tree : FileTree} {left : Nat} {place : Place} {steps : List FileName}
    {found : Lookup} (started : steps = [] → (Lookup.present place).Holds tree)
    (led : stepsFrom tree left place steps = .ok found) : found.Holds tree := by
  induction left generalizing place steps found with
  | zero => exact (leads_of_stepThrough led).holds (by simp) started
  | succ left ih =>
    refine (leads_of_stepThrough led).holds (fun place children path rest found standing led => ?_)
      started
    refine ih (fun _ => ?_) led
    rw [start]
    split
    · obtain ⟨others, root⟩ := at?_root standing
      exact .directory root
    · exact .directory standing

theorem steps_ne_nil {path : Path} (named : path ≠ []) : steps path ≠ [] := by
  rw [steps]
  split
  · simp
  · next unclosed =>
    intro idle
    have empty : ∀ segment ∈ Text.split Path.slash path, segment = [] := by
      simpa [List.filter_eq_nil_iff] using idle
    have slash : path.getLast named = Path.slash := by
      apply Text.eq_of_mem_join empty
      rw [Text.join_split]
      exact List.getLast_mem named
    exact unclosed (by rw [List.getLast?_eq_some_getLast named, slash])

theorem lookup_holds {tree : FileTree} {here : Place} {path : Path} {found : Lookup}
    (led : lookup tree here path = .ok found) : found.Holds tree := by
  rw [lookup] at led
  cases fine : checkPath path with
  | error error =>
    rw [fine] at led
    cases led
  | ok =>
    rw [fine] at led
    have named : path ≠ [] := by
      rintro rfl
      cases fine
    exact stepsFrom_holds (fun none => absurd none (steps_ne_nil named)) led

theorem get?_eq_some_iff {tree found : FileTree} {here : Place} {path : Path} :
    tree.get? here path = some found ↔
      ∃ place, tree.locate here path = .ok place ∧ tree.at? place = some found := by
  rw [get?]
  cases tree.locate here path <;> simp

theorem content?_writeFile {tree written : FileTree} {here : Place} {path : Path}
    {content : List UInt8} (wrote : tree.writeFile here path content = .ok written) :
    written.content? here path = some content := by
  rw [writeFile] at wrote
  cases led : tree.lookup here path with
  | error error =>
    rw [led] at wrote
    cases wrote
  | ok found =>
    have holds := lookup_holds led
    rw [led] at wrote
    obtain ⟨writable, same⟩ : tree.Writable found.place ∧
        tree.put found.place (.file content) = written := by
      cases found with
      | absent around name =>
        cases holds with
        | missing standing free =>
          exact ⟨writable_of_parent standing (by simp [free]), Except.ok.inj wrote⟩
      | present place =>
        cases holds with
        | directory standing => simp [standing, isDirectory, bind, Except.bind] at wrote
        | @file around children name old standing found =>
          have stands := (at?_child standing name).trans found
          simp only [bind, Except.bind, stands, Option.any_some, isDirectory] at wrote
          exact ⟨writable_of_parent standing (by simp [found]), Except.ok.inj wrote⟩
    have again := lookup_put writable content led rfl
    rw [← same, content?, get?, locate, again]
    simp [bind, Except.bind, at?_put]

end ApiPages.FileTree
