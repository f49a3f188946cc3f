import ApiPages.Proofs.Firsts
import ApiPages.Resolution.Candidates

/-!
Collected candidates as a function of what was offered: the first candidate of every key, in order
of discovery. Hence the keys that were offered decide whether a query has one page, none or
several, and the first candidate of a key gives its label.
-/

namespace ApiPages.Candidates

theorem found_push (candidates : Candidates) (candidate : Candidate) :
    (candidates.push candidate).found =
      if candidate.key ∈ candidates.found.map Candidate.key then candidates.found
      else candidates.found ++ [candidate] := by
  have known : (candidates.found.any fun known => known.key == candidate.key) =
      decide (candidate.key ∈ candidates.found.map Candidate.key) := by
    rw [Bool.eq_iff_iff]
    simp [List.any_eq_true, List.mem_map]
  rw [push, known]
  by_cases member : candidate.key ∈ candidates.found.map Candidate.key <;> simp [member]

theorem found_extend (candidates : Candidates) (offered : List Candidate) :
    (candidates.extend offered).found =
      candidates.found ++ (firstsBy Candidate.key offered).filter fun candidate =>
        candidate.key ∉ candidates.found.map Candidate.key := by
  induction offered generalizing candidates with
  | nil => simp [extend, firstsBy]
  | cons candidate rest ih =>
    have step : candidates.extend (candidate :: rest) =
        (candidates.push candidate).extend rest := rfl
    rw [step, ih, found_push, firstsBy, List.filter_cons, List.filter_filter]
    by_cases known : candidate.key ∈ candidates.found.map Candidate.key
    · simp only [known, if_true, not_true_eq_false, decide_false, Bool.false_eq_true, if_false]
      congr 1
      apply List.filter_congr
      intro other _
      by_cases same : other.key = candidate.key
      · simp [same, known]
      · simp [same]
    · simp only [known, if_false, not_false_eq_true, decide_true, if_true, List.append_assoc,
        List.singleton_append]
      congr 2
      apply List.filter_congr
      intro other _
      simp [not_or, Bool.decide_and]

theorem found_ofList (offered : List Candidate) :
    (ofList offered).found = firstsBy Candidate.key offered := by
  rw [ofList, found_extend]
  simp [empty]

theorem single_ofList (offered : List Candidate) (identifier notFound : String) :
    (ofList offered).single identifier notFound =
      match firstsBy Candidate.key offered with
      | [] => .error (.notFound notFound)
      | [only] => .ok only.link
      | several =>
        .error (.ambiguous identifier (several.map fun candidate => candidate.link.url)) := by
  have collected : ofList offered = ⟨firstsBy Candidate.key offered⟩ :=
    congrArg Candidates.mk (found_ofList offered)
  rw [collected]
  rfl

theorem single_of_one {offered : List Candidate} {only : Candidate} (identifier notFound : String)
    (found : firstsBy Candidate.key offered = [only]) :
    (ofList offered).single identifier notFound = .ok only.link := by
  rw [single_ofList, found]

theorem single_of_several {offered : List Candidate} (identifier notFound : String)
    (several : 1 < (firstsBy Candidate.key offered).length) :
    (ofList offered).single identifier notFound =
      .error (.ambiguous identifier
        (((firstsBy Candidate.key offered).map Candidate.key).map Prod.snd)) := by
  rw [single_ofList, List.map_map]
  match firstsBy Candidate.key offered, several with
  | _ :: _ :: _, _ => rfl

theorem one_lt_length_of_two {offered : List Candidate} {one other : MemberKind × String}
    (oneOffered : one ∈ offered.map Candidate.key)
    (otherOffered : other ∈ offered.map Candidate.key) (different : one ≠ other) :
    1 < (firstsBy Candidate.key offered).length := by
  have oneKept := (mem_map_key_firstsBy Candidate.key).2 oneOffered
  have otherKept := (mem_map_key_firstsBy Candidate.key).2 otherOffered
  rw [← List.length_map (f := Candidate.key)]
  match (firstsBy Candidate.key offered).map Candidate.key, oneKept, otherKept with
  | [only], oneKept, otherKept =>
    have same : one = other :=
      (List.mem_singleton.1 oneKept).trans (List.mem_singleton.1 otherKept).symm
    exact absurd same different
  | _ :: _ :: _, _, _ => simp

theorem single_of_two {offered : List Candidate} {one other : MemberKind × String}
    (oneOffered : one ∈ offered.map Candidate.key)
    (otherOffered : other ∈ offered.map Candidate.key) (different : one ≠ other)
    (identifier notFound : String) :
    ∃ candidates, (ofList offered).single identifier notFound =
      .error (.ambiguous identifier candidates) ∧ one.2 ∈ candidates ∧ other.2 ∈ candidates := by
  have ambiguous := single_of_several identifier notFound
    (one_lt_length_of_two oneOffered otherOffered different)
  exact ⟨_, ambiguous, List.mem_map_of_mem ((mem_map_key_firstsBy Candidate.key).2 oneOffered),
    List.mem_map_of_mem ((mem_map_key_firstsBy Candidate.key).2 otherOffered)⟩

end ApiPages.Candidates
