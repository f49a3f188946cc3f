import ApiPages.Files.Tree
import ApiPages.Proofs.Text.Utf8
import Mathlib.Data.List.DropRight

/-!
Paths taken apart. A path that ends in a segment which counts has a parent, written in front of it,
and nothing but idle segments are between the two. Main statement: the parent of such a path, with
its segments.
-/

namespace ApiPages

namespace Path

open Text (split)

/-- A path as it is looked up. Nothing written stands for the current directory. -/
def shown (path : Path) : Path := if path.isEmpty then [dot] else path

theorem display_encode (text : String) : display (text : Path) = text := by
  rw [display, Text.Utf8.encode, Text.Utf8.decodeLenient_utf8, String.ofList_toList]

structure EndsIn (path : Path) (front : List FileName) (last : FileName) : Prop where
  cut : split slash path = front ++ [last]
  counts : isIdle last = false

/-- The segments of the parent of a path, with the text that stands for them. -/
inductive Shortened : List FileName → Path → Prop
  | nothing : Shortened [] []
  | root : Shortened [[]] [slash]
  | written {parent : Path} {front : List FileName} {last : FileName}
    (cut : split slash parent = front ++ [last]) (filled : last ≠ [])
    (counts : isIdle last = true → front = []) : Shortened (front ++ [last]) parent

theorem EndsIn.ne_nil {path : Path} {front : List FileName} {last : FileName}
    (ends : EndsIn path front last) : last ≠ [] := by
  rintro rfl
  exact absurd ends.counts (by decide)

theorem ne_empty_of_split {path : Path} {front : List FileName} {last : FileName}
    (cut : split slash path = front ++ [last]) (filled : last ≠ []) : path ≠ [] := by
  rintro rfl
  have single : ([[]] : List FileName) = front ++ [last] := cut
  cases front with
  | nil =>
    obtain ⟨same, -⟩ := List.cons.inj single
    exact filled same.symm
  | cons => simp at single

theorem shown_of_split {path : Path} {front : List FileName} {last : FileName}
    (cut : split slash path = front ++ [last]) (filled : last ≠ []) : shown path = path := by
  rw [shown, if_neg]
  simpa using ne_empty_of_split cut filled

theorem getLast?_ne_of_split {path : Path} {front : List FileName} {last : FileName}
    (cut : split slash path = front ++ [last]) (filled : last ≠ []) :
    path.getLast? ≠ some slash := by
  obtain ⟨before, whole⟩ := Text.eq_append_of_split cut
  have absent : slash ∉ last := by
    apply Text.not_mem_of_mem_split
    rw [cut]
    simp
  rw [whole, List.getLast?_append, List.getLast?_eq_some_getLast filled]
  intro slash
  exact absent (Option.some.inj slash ▸ List.getLast_mem filled)

theorem EndsIn.parent?_cons {path : Path} {head last : FileName} {more : List FileName}
    (ends : EndsIn path (head :: more) last) :
    parent? path = some (
      if more.rdropWhile isIdle = [] then if head.isEmpty then [slash] else head
      else Text.join slash (head :: more.rdropWhile isIdle)) := by
  have counts : isIdle last ≠ true := by simp [ends.counts]
  rw [parent?, ends.cut, List.cons_append]
  dsimp only
  rw [parentOf, List.reverse_concat, List.dropWhile_cons_of_neg counts]
  dsimp only
  rw [← List.rdropWhile]
  cases more.rdropWhile isIdle <;> rfl

theorem shortened_of_plain {head : FileName} {kept : List FileName}
    (plain : ∀ segment ∈ head :: kept, slash ∉ segment)
    (counts : ∀ nested : kept ≠ [], ¬isIdle (kept.getLast nested) = true) :
    Shortened (head :: kept) (
      if kept = [] then if head.isEmpty then [slash] else head
      else Text.join slash (head :: kept)) := by
  cases kept using List.reverseRecOn with
  | nil =>
    rw [if_pos rfl]
    by_cases empty : head = []
    · subst empty
      exact .root
    · have short : (if head.isEmpty then [slash] else head) = head := by simp [empty]
      have alone : split slash head = [] ++ [head] :=
        Text.split_of_not_mem (plain head List.mem_cons_self)
      rw [short]
      exact .written alone empty fun _ => rfl
  | append_singleton front final =>
    have counted : isIdle final = false := by simpa using counts (List.concat_ne_nil final front)
    have filled : final ≠ [] := by
      rintro rfl
      exact absurd counted (by decide)
    have joined : split slash (Text.join slash (head :: (front ++ [final]))) =
        (head :: front) ++ [final] := by
      rw [Text.split_join plain (List.cons_ne_nil _ _), List.cons_append]
    rw [if_neg (List.concat_ne_nil final front)]
    exact .written joined filled fun idle => by simp [counted] at idle

theorem EndsIn.shortened {path : Path} {front : List FileName} {last : FileName}
    (ends : EndsIn path front last) :
    ∃ kept idle parent, front = kept ++ idle ∧ (∀ segment ∈ idle, isIdle segment = true) ∧
      (kept = [] → idle = []) ∧ parent? path = some parent ∧ Shortened kept parent := by
  cases front with
  | nil =>
    refine ⟨[], [], [], rfl, by simp, fun _ => rfl, ?_, .nothing⟩
    have filled : last.isEmpty = false := by simp [ends.ne_nil]
    simp [parent?, ends.cut, parentOf, filled]
  | cons head more =>
    have whole : more.rdropWhile isIdle ++ more.rtakeWhile isIdle = more :=
      List.rdropWhile_append_rtakeWhile
    have plain : ∀ segment ∈ head :: more.rdropWhile isIdle, slash ∉ segment := by
      intro segment member
      have among : segment ∈ split slash path := by
        rw [ends.cut, List.cons_append, List.mem_cons]
        refine (List.mem_cons.1 member).imp_right fun kept => ?_
        exact List.mem_append_left _ ((List.rdropWhile_prefix isIdle more).subset kept)
      exact Text.not_mem_of_mem_split among
    exact ⟨head :: more.rdropWhile isIdle, more.rtakeWhile isIdle, _,
      by rw [List.cons_append, whole], fun _ member => List.mem_rtakeWhile_imp member, by simp,
      ends.parent?_cons, shortened_of_plain plain (List.rdropWhile_last_not isIdle more)⟩

theorem EndsIn.fileName? {path : Path} {front : List FileName} {last : FileName}
    (ends : EndsIn path front last) :
    Path.fileName? path = if isUp last then none else some (last) := by
  have counted : segments path = (front.filter fun segment => !isIdle segment) ++ [last] := by
    simp [segments, ends.cut, ends.counts]
  rw [Path.fileName?, counted, List.getLast?_concat]

theorem Shortened.endsIn {kept : List FileName} {parent name : Path}
    (shortened : Shortened kept parent) (named : Path.fileName? (shown parent) = some name) :
    ∃ front last, EndsIn (shown parent) front last ∧ last = name := by
  cases shortened with
  | nothing =>
    have none : Path.fileName? (shown []) = none := by decide
    simp [none] at named
  | root =>
    have none : Path.fileName? (shown [slash]) = none := by decide
    simp [none] at named
  | @written parent front last cut filled alone =>
    rw [shown_of_split cut filled] at named ⊢
    have counts : isIdle last = false := by
      by_contra idle
      have idle : isIdle last = true := by simpa using idle
      obtain rfl := alone idle
      simp [Path.fileName?, segments, cut, idle] at named
    have ends : EndsIn parent front last := ⟨cut, counts⟩
    rw [ends.fileName?] at named
    split at named
    · cases named
    · exact ⟨front, last, ends, Option.some.inj named⟩

theorem isAbsolute_of_split {path : Path} {head : FileName} {more : List FileName}
    (cut : split slash path = head :: more) :
    isAbsolute path = (head.isEmpty && !more.isEmpty) := by
  rw [isAbsolute]
  cases text : path with
  | nil =>
    rw [text] at cut
    cases cut
    rfl
  | cons c rest =>
    rw [text, split] at cut
    by_cases closed : c = slash
    · rw [if_pos closed] at cut
      cases cut
      simp [closed, Text.split_ne_nil]
    · rw [if_neg closed] at cut
      cases later : split slash rest with
      | nil => exact absurd later (Text.split_ne_nil _ _)
      | cons first others =>
        rw [later] at cut
        cases cut
        simp [closed]

theorem Shortened.isAbsolute {kept idle : List FileName} {parent path : Path}
    {last : FileName} (shortened : Shortened kept parent)
    (cut : split slash path = kept ++ idle ++ [last]) (alone : kept = [] → idle = [])
    (filled : last ≠ []) : Path.isAbsolute (shown parent) = Path.isAbsolute path := by
  cases shortened with
  | nothing =>
    rw [alone rfl] at cut
    rw [isAbsolute_of_split cut, List.isEmpty_eq_false_iff.2 filled]
    decide
  | root =>
    have cut : split slash path = [] :: (idle ++ [last]) := cut
    have behind : (idle ++ [last]).isEmpty = false := by simp
    rw [isAbsolute_of_split cut, behind]
    decide
  | @written parent front final written finalFilled =>
    rw [shown_of_split written finalFilled]
    cases front with
    | nil =>
      rw [isAbsolute_of_split written, isAbsolute_of_split cut,
        List.isEmpty_eq_false_iff.2 finalFilled, Bool.false_and, Bool.false_and]
    | cons head more =>
      have written : split slash parent = head :: (more ++ [final]) := written
      have cut : split slash path = head :: (more ++ [final] ++ idle ++ [last]) := cut
      have several : (more ++ [final]).isEmpty = false := by simp
      have more : (more ++ [final] ++ idle ++ [last]).isEmpty = false := by simp
      rw [isAbsolute_of_split written, isAbsolute_of_split cut, several, more]

theorem Shortened.isPrefix {kept behind : List FileName} {parent path : Path}
    (shortened : Shortened kept parent) (cut : split slash path = kept ++ behind)
    (filled : behind ≠ []) : parent <+: path := by
  rw [← Text.join_split slash path, cut]
  cases shortened with
  | nothing => exact List.nil_prefix
  | root =>
    rw [Text.join_append slash (List.cons_ne_nil [] []) filled]
    exact ⟨_, rfl⟩
  | @written parent front final written =>
    have whole : parent = Text.join slash (front ++ [final]) := by
      rw [← written, Text.join_split]
    rw [Text.join_append slash (List.concat_ne_nil final front) filled, whole]
    exact ⟨_, rfl⟩

end Path

end ApiPages
