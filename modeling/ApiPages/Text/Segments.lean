/-!
Lists cut at a separator and joined again: texts, as lists of characters, and paths, as lists of
bytes. A list with `n` separators has `n + 1` segments, some of them possibly empty, and joining the
segments gives the list back. A list that begins with a run of items of one kind is cut behind the
run in one way.
-/

namespace ApiPages.Text

variable {α : Type}

/-- Puts `head` in front of the first of some segments. -/
def extendFirst (head : α) : List (List α) → List (List α)
  | [] => [[head]]
  | first :: rest => (head :: first) :: rest

def join (separator : α) : List (List α) → List α
  | [] => []
  | [last] => last
  | first :: rest => first ++ separator :: join separator rest

def separated (separator : String) : List String → String
  | [] => ""
  | [last] => last
  | first :: rest => first ++ separator ++ separated separator rest

theorem join_extendFirst (separator head : α) {segments : List (List α)}
    (some_segment : segments ≠ []) :
    join separator (extendFirst head segments) = head :: join separator segments := by
  match segments with
  | [] => exact absurd rfl some_segment
  | [_] => rfl
  | _ :: _ :: _ => rfl

theorem join_append (separator : α) {segments others : List (List α)}
    (filled : segments ≠ []) (othersFilled : others ≠ []) :
    join separator (segments ++ others) =
      join separator segments ++ separator :: join separator others := by
  induction segments with
  | nil => exact absurd rfl filled
  | cons first rest ih =>
    cases rest with
    | nil =>
      obtain ⟨second, more, rfl⟩ := List.exists_cons_of_ne_nil othersFilled
      rfl
    | cons second more =>
      have later := ih (List.cons_ne_nil second more)
      rw [List.cons_append] at later
      simp [join, later]

theorem eq_of_mem_join {separator c : α} {segments : List (List α)}
    (empty : ∀ segment ∈ segments, segment = []) (member : c ∈ join separator segments) :
    c = separator := by
  induction segments with
  | nil => simp [join] at member
  | cons first rest ih =>
    obtain ⟨rfl, others⟩ := List.forall_mem_cons.1 empty
    cases rest with
    | nil => simp [join] at member
    | cons second rest =>
      rw [join, List.nil_append, List.mem_cons] at member
      · exact member.elim id (ih others)
      · simp

theorem run_inj {p : α → Bool} {run other behind rest : List α} (inRun : ∀ c ∈ run, p c)
    (inOther : ∀ c ∈ other, p c) (ends : ¬behind.head?.any p) (otherEnds : ¬rest.head?.any p)
    (same : run ++ behind = other ++ rest) : run = other ∧ behind = rest := by
  have taken {run behind : List α} (inRun : ∀ c ∈ run, p c) (ends : ¬behind.head?.any p) :
      (run ++ behind).takeWhile p = run := by
    rw [List.takeWhile_append_of_pos inRun]
    cases behind with
    | nil => simp
    | cons c rest => simp [List.takeWhile_cons_of_neg (by simpa using ends)]
  have runs : run = other := by rw [← taken inRun ends, same, taken inOther otherEnds]
  exact ⟨runs, List.append_cancel_left (runs ▸ same)⟩

variable [DecidableEq α]

def split (separator : α) : List α → List (List α)
  | [] => [[]]
  | c :: rest =>
    if c = separator then [] :: split separator rest else extendFirst c (split separator rest)

/-- The text before the last separator and the text behind it. -/
def splitLast? (separator : α) : List α → Option (List α × List α)
  | [] => none
  | c :: rest =>
    match splitLast? separator rest with
    | some (before, behind) => some (c :: before, behind)
    | none => if c = separator then some ([], rest) else none

def swap (old new : α) (text : List α) : List α :=
  text.map fun c => if c = old then new else c

theorem split_ne_nil (separator : α) (text : List α) : split separator text ≠ [] := by
  cases text with
  | nil => simp [split]
  | cons c rest =>
    rw [split]
    split
    · simp
    · cases split separator rest <;> simp [extendFirst]

theorem join_split (separator : α) (text : List α) :
    join separator (split separator text) = text := by
  induction text with
  | nil => rfl
  | cons c rest ih =>
    rw [split]
    split
    · next h =>
      subst h
      match cut : split c rest with
      | [] => exact absurd cut (split_ne_nil c rest)
      | _ :: _ => rw [join, ← cut, ih]; · rfl
                  · simp
    · rw [join_extendFirst _ _ (split_ne_nil _ _), ih]

theorem not_mem_of_mem_split {separator : α} {text segment : List α}
    (member : segment ∈ split separator text) : separator ∉ segment := by
  induction text generalizing segment with
  | nil => simp_all [split]
  | cons c rest ih =>
    rw [split] at member
    split at member
    · rcases List.mem_cons.1 member with rfl | later
      · simp
      · exact ih later
    · next other =>
      match cut : split separator rest with
      | [] => exact absurd cut (split_ne_nil _ _)
      | first :: others =>
        rw [cut, extendFirst] at member
        rcases List.mem_cons.1 member with rfl | later
        · have absent : separator ∉ first := ih (by rw [cut]; exact List.mem_cons_self)
          simp [absent, Ne.symm other]
        · exact ih (by rw [cut]; exact List.mem_cons_of_mem _ later)

theorem split_of_not_mem {separator : α} {text : List α} (absent : separator ∉ text) :
    split separator text = [text] := by
  induction text with
  | nil => rfl
  | cons c rest ih =>
    rw [List.mem_cons, not_or] at absent
    rw [split, if_neg (Ne.symm absent.1), ih absent.2]
    rfl

theorem split_append_separator {separator : α} {text : List α} (absent : separator ∉ text)
    (rest : List α) :
    split separator (text ++ separator :: rest) = text :: split separator rest := by
  induction text with
  | nil => rw [List.nil_append, split, if_pos rfl]
  | cons c text ih =>
    rw [List.mem_cons, not_or] at absent
    rw [List.cons_append, split, if_neg (Ne.symm absent.1), ih absent.2]
    rfl

theorem split_append_last {separator : α} {last : List α} (absent : separator ∉ last)
    (text : List α) :
    split separator (text ++ separator :: last) = split separator text ++ [last] := by
  induction text with
  | nil => simp [split, split_of_not_mem absent]
  | cons c rest ih =>
    rw [List.cons_append, split, split, ih]
    by_cases same : c = separator
    · simp [same]
    · match cut : split separator rest with
      | [] => exact absurd cut (split_ne_nil _ _)
      | _ :: _ => simp [same, extendFirst]

theorem split_join {separator : α} {segments : List (List α)}
    (plain : ∀ segment ∈ segments, separator ∉ segment) (filled : segments ≠ []) :
    split separator (join separator segments) = segments := by
  induction segments with
  | nil => exact absurd rfl filled
  | cons first rest ih =>
    obtain ⟨absent, others⟩ := List.forall_mem_cons.1 plain
    cases rest with
    | nil => exact split_of_not_mem absent
    | cons second more =>
      rw [join, split_append_separator absent, ih others (List.cons_ne_nil second more)]
      simp

theorem split_append (separator : α) (text behind : List α) :
    split separator (text ++ separator :: behind) =
      split separator text ++ split separator behind := by
  induction text with
  | nil => simp [split]
  | cons c rest ih =>
    rw [List.cons_append, split, split, ih]
    by_cases same : c = separator
    · simp [same]
    · obtain ⟨first, others, cut⟩ := List.exists_cons_of_ne_nil (split_ne_nil separator rest)
      simp [same, cut, extendFirst]

theorem eq_append_of_split {separator : α} {text last : List α} {front : List (List α)}
    (cut : split separator text = front ++ [last]) : ∃ before, text = before ++ last := by
  rw [← join_split separator text, cut]
  cases front with
  | nil => exact ⟨[], rfl⟩
  | cons first rest =>
    rw [join_append separator (List.cons_ne_nil first rest) (List.cons_ne_nil last [])]
    exact ⟨join separator (first :: rest) ++ [separator], by simp [join]⟩

theorem length_split (separator : α) (text : List α) :
    (split separator text).length = text.count separator + 1 := by
  induction text with
  | nil => rfl
  | cons c rest ih =>
    rw [split]
    by_cases same : c = separator
    · simp [same, ih]
    · match cut : split separator rest with
      | [] => exact absurd cut (split_ne_nil _ _)
      | _ :: _ =>
        rw [cut] at ih
        simpa [same, extendFirst] using ih

theorem mem_of_mem_split {separator c : α} {text segment : List α}
    (member : segment ∈ split separator text) (inside : c ∈ segment) : c ∈ text := by
  induction text generalizing segment with
  | nil => simp_all [split]
  | cons d rest ih =>
    rw [split] at member
    by_cases same : d = separator
    · simp only [same, if_true, List.mem_cons] at member
      rcases member with rfl | later
      · simp at inside
      · exact List.mem_cons_of_mem _ (ih later inside)
    · match cut : split separator rest with
      | [] => exact absurd cut (split_ne_nil _ _)
      | first :: others =>
        simp only [same, if_false, cut, extendFirst, List.mem_cons] at member
        rcases member with rfl | later
        · rcases List.mem_cons.1 inside with rfl | behind
          · exact List.mem_cons_self
          · exact List.mem_cons_of_mem _ (ih (by simp [cut]) behind)
        · exact List.mem_cons_of_mem _ (ih (by simp [cut, later]) inside)

theorem splitLast?_eq_none_iff {separator : α} {text : List α} :
    splitLast? separator text = none ↔ separator ∉ text := by
  induction text with
  | nil => simp [splitLast?]
  | cons c rest ih =>
    rw [splitLast?]
    cases cut : splitLast? separator rest with
    | none =>
      have absent := ih.1 cut
      by_cases same : c = separator
      · simp [same]
      · simp [same, absent, Ne.symm same]
    | some parts =>
      have present : separator ∈ rest := Decidable.not_not.1 fun absent => by
        simp [ih.2 absent] at cut
      simp [present]

theorem eq_append_of_splitLast? {separator : α} {text before behind : List α}
    (cut : splitLast? separator text = some (before, behind)) :
    text = before ++ separator :: behind ∧ separator ∉ behind := by
  induction text generalizing before with
  | nil => simp [splitLast?] at cut
  | cons c rest ih =>
    rw [splitLast?] at cut
    cases later : splitLast? separator rest with
    | some parts =>
      obtain ⟨front, back⟩ := parts
      simp only [later, Option.some.injEq, Prod.mk.injEq] at cut
      obtain ⟨rfl, rfl⟩ := cut
      obtain ⟨whole, absent⟩ := ih later
      exact ⟨by rw [whole, List.cons_append], absent⟩
    | none =>
      simp only [later] at cut
      by_cases same : c = separator
      · simp only [same, if_true, Option.some.injEq, Prod.mk.injEq] at cut
        obtain ⟨rfl, rfl⟩ := cut
        exact ⟨by simp [same], splitLast?_eq_none_iff.1 later⟩
      · simp [same] at cut

theorem splitLast?_eq_some_iff {separator : α} {text before behind : List α} :
    splitLast? separator text = some (before, behind) ↔
      text = before ++ separator :: behind ∧ separator ∉ behind := by
  constructor
  · exact eq_append_of_splitLast?
  · rintro ⟨rfl, absent⟩
    induction before with
    | nil => simp [splitLast?, splitLast?_eq_none_iff.2 absent]
    | cons c rest ih => rw [List.cons_append, splitLast?, ih]

theorem splitLast?_append {separator : α} {tail : List α} (absent : separator ∉ tail)
    (text : List α) :
    splitLast? separator (text ++ tail) =
      (splitLast? separator text).map fun parts => (parts.1, parts.2 ++ tail) := by
  induction text with
  | nil => simpa [splitLast?] using splitLast?_eq_none_iff.2 absent
  | cons c rest ih =>
    rw [List.cons_append, splitLast?, splitLast?, ih]
    cases splitLast? separator rest with
    | some parts => rfl
    | none => by_cases same : c = separator <;> simp [same]

@[simp] theorem length_swap (old new : α) (text : List α) :
    (swap old new text).length = text.length := by simp [swap]

@[simp] theorem swap_append (old new : α) (a b : List α) :
    swap old new (a ++ b) = swap old new a ++ swap old new b := by simp [swap]

theorem not_mem_swap {old new : α} (different : old ≠ new) (text : List α) :
    old ∉ swap old new text := by
  simp only [swap, List.mem_map, not_exists, not_and]
  intro c _ h
  split at h
  · exact different h.symm
  · next other => exact other h

theorem swap_of_not_mem {old new : α} {text : List α} (absent : old ∉ text) :
    swap old new text = text := by
  induction text with
  | nil => rfl
  | cons c rest ih =>
    rw [List.mem_cons, not_or] at absent
    rw [swap, List.map_cons, if_neg (Ne.symm absent.1), ← swap, ih absent.2]

theorem mem_of_mem_swap {old new c : α} {text : List α} (member : c ∈ swap old new text)
    (other : c ≠ new) : c ∈ text := by
  simp only [swap, List.mem_map] at member
  obtain ⟨d, inside, written⟩ := member
  split at written
  · exact absurd written.symm other
  · rwa [← written]

theorem swap_swap {old new : α} {text : List α} (absent : new ∉ text) :
    swap new old (swap old new text) = text := by
  induction text with
  | nil => rfl
  | cons c rest ih =>
    rw [List.mem_cons, not_or] at absent
    have behind := ih absent.2
    simp only [swap] at behind
    simp only [swap, List.map_cons, behind]
    by_cases same : c = old
    · simp [same]
    · simp [same, Ne.symm absent.1]

theorem split_swap {old new : α} {text : List α} (absent : new ∉ text) :
    split new (swap old new text) = split old text := by
  induction text with
  | nil => rfl
  | cons c rest ih =>
    rw [List.mem_cons, not_or] at absent
    have behind := ih absent.2
    rw [swap] at behind
    rw [swap, List.map_cons, split, split, behind]
    by_cases same : c = old
    · simp [same]
    · simp [same, Ne.symm absent.1]

end ApiPages.Text
