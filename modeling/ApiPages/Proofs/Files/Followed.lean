import ApiPages.Proofs.Files.Parent
import ApiPages.Proofs.Files.Written

/-!
Paths followed piece by piece. Steps are taken one after the other, each from a directory, with no
more links than there were before. Main statements: a file lies in the directory that the parent of
its path leads to, and one path behind another leads on from where the other one leads.
-/

namespace ApiPages

namespace FileTree

open ApiPages.Path (EndsIn Shortened shown)

theorem checkPath_of_inside {path inner : Path} (within : inner <:+: path)
    (filled : inner ≠ []) (fine : checkPath path = .ok ()) : checkPath inner = .ok () := by
  obtain ⟨before, behind, whole⟩ := within
  have size : inner.length ≤ path.length := by
    simp only [← whole, List.length_append]
    omega
  rw [checkPath] at fine ⊢
  split at fine
  · cases fine
  split at fine
  · cases fine
  next clean =>
  split at fine
  · cases fine
  next short =>
  have innerClean : 0 ∉ inner := by
    rw [← whole] at clean
    intro member
    exact clean (by simp [member])
  have innerShort : ¬maxPathBytes < inner.length := by omega
  simp [filled, innerClean, innerShort]

theorem steps_of_split {path : Path} {front : List FileName} {last : FileName}
    (cut : Text.split Path.slash path = front ++ [last]) (filled : last ≠ []) :
    steps path = (front.filter fun segment => !segment.isEmpty) ++ [last] := by
  rw [steps, cut, if_neg (Path.getLast?_ne_of_split cut filled)]
  simp [filled]

theorem lookup_eq_ok_iff {tree : FileTree} {here : Place} {path : Path} {found : Lookup} :
    lookup tree here path = .ok found ↔
      checkPath path = .ok () ∧
        stepsFrom tree maxLinks (start here path) (steps path) = .ok found := by
  rw [lookup]
  cases checkPath path with
  | error => simp [bind, Except.bind]
  | ok => simp [bind, Except.bind]

theorem locate_eq_ok_iff {tree : FileTree} {here place : Place} {path : Path} :
    tree.locate here path = .ok place ↔ tree.lookup here path = .ok (.present place) := by
  rw [locate]
  cases tree.lookup here path with
  | error => simp [bind, Except.bind]
  | ok found => cases found <;> simp [bind, Except.bind]

section

variable {tree : FileTree} {place : Place} {found : Lookup}

theorem Leads.mono {onward after : Place → Path → List FileName → Lookup → Prop}
    (more : ∀ place path rest found, onward place path rest found → after place path rest found)
    {steps : List FileName} (leads : Leads tree onward place steps found) :
    Leads tree after place steps found := by
  induction leads with
  | arrived place => exact .arrived place
  | stay standing later ih => exact .stay standing ih
  | up standing isUp later ih => exact .up standing isUp ih
  | enter standing named child unlinked later ih => exact .enter standing named child unlinked ih
  | link standing named child later => exact .link standing named child (more _ _ _ _ later)
  | missing standing named free => exact .missing standing named free

theorem stepsFrom_mono {left more : Nat} (enough : left ≤ more) {steps : List FileName}
    (led : stepsFrom tree left place steps = .ok found) :
    stepsFrom tree more place steps = .ok found := by
  induction left generalizing more place steps found with
  | zero =>
    cases more with
    | zero => exact led
    | succ more => exact ((leads_of_stepThrough led).mono (by simp)).stepThrough
  | succ left ih =>
    obtain ⟨more, rfl⟩ := Nat.exists_eq_add_one_of_ne_zero (Nat.ne_of_gt (Nat.lt_of_lt_of_le
      (Nat.succ_pos left) enough))
    exact ((leads_of_stepThrough led).mono fun _ _ _ _ led =>
      ih (Nat.le_of_succ_le_succ enough) led).stepThrough

theorem Leads.append {onward : Place → Path → List FileName → Lookup → Prop}
    (before : Place → Path → List FileName → Lookup → Prop) {behind : List FileName}
    (reaches : Place → Prop) (filled : behind ≠ [])
    (arrived : ∀ place, Leads tree onward place behind found → reaches place)
    (followed : ∀ place path rest, onward place path (rest ++ behind) found →
      ∃ directory, before place path rest (.present directory) ∧ reaches directory)
    {front : List FileName} (leads : Leads tree onward place (front ++ behind) found) :
    ∃ directory, Leads tree before place front (.present directory) ∧ reaches directory := by
  -- Steps one after the other. Where a link is met, the steps behind it are left to `followed`.
  induction front generalizing place with
  | nil => exact ⟨place, .arrived place, arrived place leads⟩
  | cons step rest ih =>
    rw [List.cons_append] at leads
    generalize whole : rest ++ behind = all at leads
    cases leads with
    | stay standing later =>
      subst whole
      obtain ⟨directory, first, second⟩ := ih later
      exact ⟨directory, .stay standing first, second⟩
    | up standing isUp later =>
      subst whole
      obtain ⟨directory, first, second⟩ := ih later
      exact ⟨directory, .up standing isUp first, second⟩
    | enter standing named child unlinked later =>
      subst whole
      obtain ⟨directory, first, second⟩ := ih later
      exact ⟨directory, .enter standing named child unlinked first, second⟩
    | link standing named child later =>
      subst whole
      obtain ⟨directory, first, second⟩ := followed _ _ _ later
      exact ⟨directory, .link standing named child first, second⟩
    | missing => exact absurd (List.append_eq_nil_iff.1 whole).2 filled

theorem stepsFrom_append {left : Nat} {front behind : List FileName} (filled : behind ≠ [])
    (led : stepsFrom tree left place (front ++ behind) = .ok found) :
    ∃ directory, stepsFrom tree left place front = .ok (.present directory) ∧
      ∃ remaining, remaining ≤ left ∧ stepsFrom tree remaining directory behind = .ok found := by
  -- By induction on the links: behind one of them, its target's steps join those in front.
  induction left generalizing place front with
  | zero =>
    obtain ⟨directory, first, second⟩ := (leads_of_stepThrough led).append
      (fun _ _ _ found => (Except.error .tooManyLinks : Except FileError Lookup) = .ok found)
      (fun directory => stepsFrom tree 0 directory behind = .ok found) filled
      (fun _ leads => leads.stepThrough) (by simp)
    exact ⟨directory, first.stepThrough, 0, Nat.le_refl 0, second⟩
  | succ left ih =>
    obtain ⟨directory, first, second⟩ := (leads_of_stepThrough led).append
      (fun place target rest found =>
        stepsFrom tree left (start place target) (steps target ++ rest) = .ok found)
      (fun directory => ∃ remaining, remaining ≤ left + 1 ∧
        stepsFrom tree remaining directory behind = .ok found) filled
      (fun _ leads => ⟨left + 1, Nat.le_refl _, leads.stepThrough⟩) (fun place target rest led => by
        rw [← List.append_assoc] at led
        obtain ⟨directory, first, remaining, fewer, second⟩ := ih led
        exact ⟨directory, first, remaining, Nat.le_succ_of_le fewer, second⟩)
    exact ⟨directory, first.stepThrough, second⟩

theorem exists_leads {left : Nat} {steps : List FileName}
    (led : stepsFrom tree left place steps = .ok found) :
    ∃ onward, Leads tree onward place steps found := by
  cases left with
  | zero => exact ⟨_, leads_of_stepThrough led⟩
  | succ left => exact ⟨_, leads_of_stepThrough led⟩

theorem exists_directory_of_stepsFrom {left : Nat} {step : FileName} {rest : List FileName}
    (led : stepsFrom tree left place (step :: rest) = .ok found) :
    ∃ children, tree.at? place = some (.directory children) := by
  obtain ⟨onward, leads⟩ := exists_leads led
  cases leads with
  | stay standing | up standing | enter standing | link standing | missing standing =>
    exact ⟨_, standing⟩

theorem stepsFrom_stay {children : List (FileName × FileTree)}
    (standing : tree.at? place = some (.directory children)) (left : Nat) :
    stepsFrom tree left place [[Path.dot]] = .ok (.present place) := by
  cases left with
  | zero => exact (Leads.stay standing (.arrived place)).stepThrough
  | succ left => exact (Leads.stay standing (.arrived place)).stepThrough

theorem eq_present_of_stay {left : Nat} {idle : List FileName}
    (stays : ∀ step ∈ idle, step = [Path.dot]) (led : stepsFrom tree left place idle = .ok found) :
    found = .present place := by
  obtain ⟨onward, leads⟩ := exists_leads led
  clear led
  induction idle generalizing place with
  | nil =>
    cases leads
    rfl
  | cons step rest ih =>
    obtain ⟨rfl, others⟩ := List.forall_mem_cons.1 stays
    cases leads with
    | stay standing later => exact ih others later
    | up standing isUp => exact absurd isUp (by decide)
    | enter standing named | link standing named | missing standing named =>
      exact absurd rfl named.1

end

theorem steps_shown {kept : List FileName} {parent : Path}
    (shortened : Shortened kept parent) :
    steps (shown parent) = (kept.filter fun segment => !segment.isEmpty) ∨
      (kept.filter fun segment => !segment.isEmpty) = [] ∧ steps (shown parent) = [[Path.dot]] := by
  cases shortened with
  | nothing => exact .inr (by decide)
  | root => exact .inr (by decide)
  | written cut filled =>
    rw [Path.shown_of_split cut filled, steps_of_split cut filled, List.filter_append]
    exact .inl (by simp [filled])

theorem checkPath_shown {kept behind : List FileName} {parent path : Path}
    (shortened : Shortened kept parent) (cut : Text.split Path.slash path = kept ++ behind)
    (filled : behind ≠ []) (fine : checkPath path = .ok ()) :
    checkPath (shown parent) = .ok () := by
  rw [shown]
  split
  · decide
  · next written =>
    exact checkPath_of_inside (shortened.isPrefix cut filled).isInfix (by simpa using written) fine

theorem lookup_shown {tree : FileTree} {here directory : Place} {path parent : Path}
    {kept idle : List FileName} {last : FileName} {children : List (FileName × FileTree)}
    (shortened : Shortened kept parent)
    (cut : Text.split Path.slash path = kept ++ idle ++ [last]) (alone : kept = [] → idle = [])
    (filled : last ≠ []) (fine : checkPath path = .ok ())
    (first : stepsFrom tree maxLinks (start here path)
      (kept.filter fun segment => !segment.isEmpty) = .ok (.present directory))
    (standing : tree.at? directory = some (.directory children)) :
    tree.lookup here (shown parent) = .ok (.present directory) := by
  have there : start here (shown parent) = start here path := by
    rw [start, start, shortened.isAbsolute cut alone filled]
  rw [List.append_assoc] at cut
  refine lookup_eq_ok_iff.2 ⟨checkPath_shown shortened cut (by simp) fine, ?_⟩
  rw [there]
  rcases steps_shown shortened with same | ⟨none, stay⟩
  · rw [same]
    exact first
  · rw [none] at first
    obtain rfl := Lookup.present.inj (eq_present_of_stay (by simp) first)
    rw [stay]
    exact stepsFrom_stay standing _

theorem lookup_single {tree : FileTree} {directory : Place} {last : FileName} {found : Lookup}
    {remaining : Nat} (absent : Path.slash ∉ last) (filled : last ≠ [])
    (fine : checkPath last = .ok ()) (fewer : remaining ≤ maxLinks)
    (led : stepsFrom tree remaining directory [last] = .ok found) :
    tree.lookup directory last = .ok found := by
  have single : Text.split Path.slash last = [] ++ [last] := Text.split_of_not_mem absent
  have there : start directory last = directory := by
    rw [start, Path.isAbsolute_of_split single]
    simp
  refine lookup_eq_ok_iff.2 ⟨fine, ?_⟩
  rw [there, steps_of_split single filled]
  exact stepsFrom_mono fewer led

theorem lookup_of_endsIn {tree : FileTree} {here : Place} {path : Path}
    {front : List FileName} {last : FileName} {found : Lookup}
    (ends : EndsIn path front last) (led : lookup tree here path = .ok found) :
    ∃ kept parent directory, Path.parent? path = some parent ∧ Shortened kept parent ∧
      tree.locate here (shown parent) = .ok directory ∧
      tree.lookup directory last = .ok found := by
  obtain ⟨kept, idle, parent, rfl, stays, alone, written, shortened⟩ := ends.shortened
  obtain ⟨fine, led⟩ := lookup_eq_ok_iff.1 led
  have whole : steps path = (kept.filter fun segment => !segment.isEmpty) ++
      ((idle.filter fun segment => !segment.isEmpty) ++ [last]) := by
    rw [steps_of_split ends.cut ends.ne_nil, List.filter_append, List.append_assoc]
  rw [whole] at led
  obtain ⟨directory, first, remaining, fewer, second⟩ := stepsFrom_append (by simp) led
  obtain ⟨still, stayed, others, least, third⟩ := stepsFrom_append (List.cons_ne_nil last []) second
  obtain rfl : still = directory := by
    refine Lookup.present.inj (eq_present_of_stay (fun step member => ?_) stayed)
    obtain ⟨among, filled⟩ := List.mem_filter.1 member
    have idles : step = [] ∨ step = [Path.dot] := by simpa [Path.isIdle] using stays step among
    exact idles.resolve_left (by simpa using filled)
  obtain ⟨children, standing⟩ := exists_directory_of_stepsFrom third
  have around := lookup_shown shortened ends.cut alone ends.ne_nil fine first standing
  have absent : Path.slash ∉ last := by
    apply Text.not_mem_of_mem_split
    rw [ends.cut]
    simp
  have inside : last <:+: path := by
    obtain ⟨before, rfl⟩ := Text.eq_append_of_split ends.cut
    exact (List.suffix_append before last).isInfix
  have lastFine := checkPath_of_inside inside ends.ne_nil fine
  exact ⟨kept, parent, still, written, shortened, locate_eq_ok_iff.2 around,
    lookup_single absent ends.ne_nil lastFine (Nat.le_trans least fewer) third⟩

theorem Leads.name_of_file {tree : FileTree}
    {onward : Place → Path → List FileName → Lookup → Prop} {directory place : Place}
    {step : FileName} {content : List UInt8}
    (leads : Leads tree onward directory [step] (.present place))
    (isFile : tree.at? place = some (.file content)) :
    step ≠ [Path.dot] ∧ Path.isUp step = false := by
  cases leads with
  | stay standing later =>
    cases later
    simp [standing] at isFile
  | up standing isUp later =>
    generalize whole : parentPlace directory = around at later
    cases later
    subst whole
    rw [parentPlace] at isFile
    cases directory with
    | nil => simp [standing] at isFile
    | cons name rest =>
      obtain ⟨children, outer⟩ := at?_dropLast standing (List.cons_ne_nil name rest)
      simp [outer] at isFile
  | enter standing named => exact ⟨named.1, named.2.1⟩
  | link standing named => exact ⟨named.1, named.2.1⟩

theorem endsIn_of_file {tree : FileTree} {here place : Place} {path : Path}
    {content : List UInt8} (located : tree.locate here path = .ok place)
    (isFile : tree.at? place = some (.file content)) :
    ∃ front last, EndsIn path front last ∧ Path.isUp last = false := by
  obtain ⟨fine, led⟩ := lookup_eq_ok_iff.1 (locate_eq_ok_iff.1 located)
  obtain ⟨front, last, cut⟩ :=
    (List.eq_nil_or_concat (Text.split Path.slash path)).resolve_left (Text.split_ne_nil _ _)
  rw [List.concat_eq_append] at cut
  have named {before : List FileName} {step : FileName}
      (whole : steps path = before ++ [step]) : step ≠ [Path.dot] ∧ Path.isUp step = false := by
    rw [whole] at led
    obtain ⟨directory, -, remaining, -, second⟩ := stepsFrom_append (List.cons_ne_nil step []) led
    obtain ⟨onward, leads⟩ := exists_leads second
    exact leads.name_of_file isFile
  have filled : last ≠ [] := by
    rintro rfl
    have closed : path.getLast? = some Path.slash := by
      rw [← Text.join_split Path.slash path, cut]
      cases front with
      | nil =>
        have empty : path = [] := by
          rw [← Text.join_split Path.slash path, cut]
          rfl
        subst empty
        cases fine
      | cons head more =>
        rw [Text.join_append Path.slash (List.cons_ne_nil head more) (List.cons_ne_nil [] [])]
        simp [Text.join]
    exact (named (by rw [steps, if_pos closed])).1 rfl
  have last := named (steps_of_split cut filled)
  refine ⟨front, _, ⟨cut, ?_⟩, last.2⟩
  simp [Path.isIdle, filled, last.1]

theorem content?_eq_some_iff {tree : FileTree} {here : Place} {path : Path}
    {content : List UInt8} :
    tree.content? here path = some content ↔
      ∃ place, tree.locate here path = .ok place ∧ tree.at? place = some (.file content) := by
  rw [← get?_eq_some_iff, content?]
  split
  · next stands => simp [stands]
  · next other => simpa using other content

theorem content?_in_parent {tree : FileTree} {here : Place} {path : Path} {content : List UInt8}
    (found : tree.content? here path = some content) :
    ∃ kept parent directory name, Path.parent? path = some parent ∧ Shortened kept parent ∧
      Path.fileName? path = some name ∧ tree.locate here (shown parent) = .ok directory ∧
      tree.content? directory name = some content := by
  obtain ⟨place, located, isFile⟩ := content?_eq_some_iff.1 found
  obtain ⟨front, last, ends, named⟩ := endsIn_of_file located isFile
  obtain ⟨kept, parent, directory, written, shortened, around, inside⟩ :=
    lookup_of_endsIn ends (locate_eq_ok_iff.1 located)
  refine ⟨kept, parent, directory, last, written, shortened, ?_, around,
    content?_eq_some_iff.2 ⟨place, locate_eq_ok_iff.2 inside, isFile⟩⟩
  rw [ends.fileName?, named]
  rfl

theorem push_eq {base path : Path} (written : base ≠ []) (relative : path.isAbsolute = false) :
    ∃ front, base.push path = front ++ Path.slash :: path ∧ base <+: base.push path ∧
      ((Text.split Path.slash front).filter fun segment => !segment.isEmpty) =
        (Text.split Path.slash base).filter fun segment => !segment.isEmpty := by
  by_cases closed : base.getLast? = some Path.slash
  · obtain ⟨front, text⟩ := List.getLast?_eq_some_iff.1 closed
    have whole : base.push path = base ++ path := by simp [Path.push, relative, closed]
    refine ⟨front, by rw [whole, text]; simp, by simp [whole], ?_⟩
    rw [text, Text.split_append]
    simp [Text.split]
  · have whole : base.push path = base ++ Path.slash :: path := by
      simp [Path.push, relative, closed, written]
    exact ⟨base, whole, by simp [whole], rfl⟩

theorem steps_eq_or (path : Path) :
    steps path = ((Text.split Path.slash path).filter fun segment => !segment.isEmpty) ∨
      steps path =
        ((Text.split Path.slash path).filter fun segment => !segment.isEmpty) ++ [[Path.dot]] := by
  rw [steps]
  split
  · exact .inr rfl
  · exact .inl rfl

theorem steps_push {base path : Path} (written : base ≠ [])
    (relative : Path.isAbsolute path = false) :
    steps (Path.push base path) =
      ((Text.split Path.slash base).filter fun segment => !segment.isEmpty) ++
        steps (shown path) := by
  obtain ⟨front, whole, -, same⟩ := push_eq written relative
  rw [steps, whole, Text.split_append, List.filter_append, same]
  by_cases empty : path = []
  · subst empty
    have closed : (front ++ [Path.slash]).getLast? = some Path.slash := by simp
    rw [if_pos closed, List.append_assoc]
    congr 1
  · have ending : (front ++ Path.slash :: path).getLast? = path.getLast? := by
      rw [List.getLast?_append, List.getLast?_cons_of_ne_nil empty]
      simp [List.getLast?_eq_some_getLast empty]
    have seen : shown path = path := by simp [shown, empty]
    rw [ending, seen, steps]
    split <;> simp

theorem isAbsolute_shown (path : Path) : Path.isAbsolute (shown path) = Path.isAbsolute path := by
  rw [shown]
  split
  · next empty =>
    obtain rfl : path = [] := by simpa using empty
    decide
  · rfl

theorem start_push {base path : Path} (written : base ≠ [])
    (relative : Path.isAbsolute path = false) (here : Place) :
    start here (Path.push base path) = start here base := by
  obtain ⟨front, -, ⟨rest, text⟩, -⟩ := push_eq written relative
  obtain ⟨c, others, first⟩ := List.exists_cons_of_ne_nil written
  rw [start, start, Path.isAbsolute, Path.isAbsolute, ← text, first]
  rfl

theorem stepsFrom_unclosed {tree : FileTree} {left : Nat} {place directory root : Place}
    {path : Path} (located : stepsFrom tree left place (steps path) = .ok (.present root))
    (first : stepsFrom tree left place ((Text.split Path.slash path).filter fun segment =>
      !segment.isEmpty) = .ok (.present directory)) : directory = root := by
  rcases steps_eq_or path with same | same
  · rw [same, first] at located
    exact Lookup.present.inj (Except.ok.inj located)
  · rw [same] at located
    obtain ⟨before, again, _, -, stayed⟩ :=
      stepsFrom_append (List.cons_ne_nil [Path.dot] []) located
    rw [first] at again
    have arrived := Lookup.present.inj (eq_present_of_stay (by simp) stayed)
    exact (Lookup.present.inj (Except.ok.inj again)).trans arrived.symm

theorem checkPath_behind {base path : Path} (written : base ≠ [])
    (relative : Path.isAbsolute path = false)
    (fine : checkPath (Path.push base path) = .ok ()) : checkPath (shown path) = .ok () := by
  obtain ⟨front, whole, -, -⟩ := push_eq written relative
  rw [shown]
  split
  · decide
  · next filled =>
    have inside : path <:+: Path.push base path := by
      rw [whole]
      exact (List.suffix_append (front ++ [Path.slash]) path).isInfix.trans (by simp)
    exact checkPath_of_inside inside (by simpa using filled) fine

theorem shown_ne_empty (path : Path) : shown path ≠ [] := by
  rw [shown]
  split
  · decide
  · next filled => simpa using filled

theorem lookup_push {tree : FileTree} {here root : Place} {base path : Path} {found : Lookup}
    (located : tree.locate here (shown base) = .ok root)
    (relative : Path.isAbsolute path = false)
    (led : tree.lookup here (Path.push base path) = .ok found) :
    tree.lookup root (shown path) = .ok found := by
  obtain ⟨-, located⟩ := lookup_eq_ok_iff.1 (locate_eq_ok_iff.1 located)
  by_cases written : base = []
  · subst written
    have same : here = root := (Lookup.present.inj (eq_present_of_stay (by decide) located)).symm
    have whole : Path.push [] path = path := by simp [Path.push, relative]
    rw [whole] at led
    have filled : path ≠ [] := by
      rintro rfl
      cases led
    rw [← same, shown, if_neg (by simpa using filled)]
    exact led
  obtain ⟨fine, led⟩ := lookup_eq_ok_iff.1 led
  have seen : shown base = base := by simp [shown, written]
  rw [seen] at located
  rw [start_push written relative, steps_push written relative] at led
  obtain ⟨directory, first, remaining, fewer, second⟩ :=
    stepsFrom_append (steps_ne_nil (shown_ne_empty path)) led
  obtain rfl := stepsFrom_unclosed located first
  refine lookup_eq_ok_iff.2 ⟨checkPath_behind written relative fine, ?_⟩
  rw [start, isAbsolute_shown, relative]
  exact stepsFrom_mono fewer second

end FileTree

end ApiPages
