import ApiPages.Proofs.Resolution.ScanOrder

/-!
Candidates over a sequence of steps. A step offers candidates one by one or together, or replaces
all that were offered before it. Main statement: after any steps the first candidate of each key on
offer is kept, and the keys on offer decide what the single candidate is.
-/

namespace ApiPages.Candidates

inductive Step where
  | push (candidate : Candidate)
  | extend (offered : List Candidate)
  | collect (offered : List Candidate)

def step (candidates : Candidates) : Step → Candidates
  | .push candidate => candidates.push candidate
  | .extend offered => candidates.extend offered
  | .collect offered => ofList offered

def run (steps : List Step) : Candidates := steps.foldl step empty

def offer (known : List Candidate) : Step → List Candidate
  | .push candidate => known ++ [candidate]
  | .extend offered => known ++ offered
  | .collect offered => offered

/-- The candidates that some steps offer, without those offered before the last replacement. -/
def offeredBy (steps : List Step) : List Candidate := steps.foldl offer []

theorem step_ofList (known : List Candidate) (next : Step) :
    (ofList known).step next = ofList (offer known next) := by
  cases next with
  | push candidate => exact (extend_append empty known [candidate]).symm
  | extend offered => exact (extend_append empty known offered).symm
  | collect offered => rfl

theorem foldl_step_ofList (known : List Candidate) (steps : List Step) :
    steps.foldl step (ofList known) = ofList (steps.foldl offer known) := by
  induction steps generalizing known with
  | nil => rfl
  | cons next rest ih => rw [List.foldl_cons, List.foldl_cons, step_ofList, ih]

theorem run_eq_ofList (steps : List Step) : run steps = ofList (offeredBy steps) :=
  foldl_step_ofList [] steps

theorem ofList_eq_iff {offered others : List Candidate} :
    ofList offered = ofList others ↔
      firstsBy Candidate.key offered = firstsBy Candidate.key others := by
  rw [← found_ofList, ← found_ofList]
  exact ⟨congrArg found, congrArg mk⟩

inductive Answers (offered : List Candidate) (identifier notFound : String) :
    Except ResolutionError Link → Prop
  | none (nothing : offered = []) :
    Answers offered identifier notFound (.error (.notFound notFound))
  | one {first : Candidate} {rest : List Candidate} (whole : offered = first :: rest)
    (shared : ∀ other ∈ rest, other.key = first.key) :
    Answers offered identifier notFound (.ok first.link)
  | several {one other : Candidate} (oneOffered : one ∈ offered) (otherOffered : other ∈ offered)
    (different : one.key ≠ other.key) :
    Answers offered identifier notFound (.error (.ambiguous identifier
      ((firstsBy Candidate.key offered).map fun candidate => candidate.link.url)))

variable {offered : List Candidate} {identifier notFound : String}

theorem Answers.single_eq {answer : Except ResolutionError Link}
    (answers : Answers offered identifier notFound answer) :
    (ofList offered).single identifier notFound = answer := by
  cases answers with
  | none nothing =>
    rw [nothing]
    rfl
  | one whole shared =>
    rw [whole]
    exact single_of_one _ _ (firstsBy_of_shared Candidate.key shared)
  | several oneOffered otherOffered different =>
    have contested := one_lt_length_of_two (List.mem_map_of_mem oneOffered)
      (List.mem_map_of_mem otherOffered) different
    rw [single_of_several _ _ contested, List.map_map]
    rfl

theorem exists_answers (offered : List Candidate) (identifier notFound : String) :
    ∃ answer, Answers offered identifier notFound answer := by
  cases offered with
  | nil => exact ⟨_, .none rfl⟩
  | cons first rest =>
    by_cases shared : ∀ other ∈ rest, other.key = first.key
    · exact ⟨_, .one rfl shared⟩
    · push Not at shared
      obtain ⟨other, offered, different⟩ := shared
      exact ⟨_, .several (List.mem_cons_of_mem _ offered) List.mem_cons_self different⟩

theorem single_eq_iff {answer : Except ResolutionError Link} :
    (ofList offered).single identifier notFound = answer ↔
      Answers offered identifier notFound answer := by
  constructor
  · rintro rfl
    obtain ⟨answer, answers⟩ := exists_answers offered identifier notFound
    rwa [answers.single_eq]
  · exact Answers.single_eq

/-- After any steps the first candidate of each key on offer is kept. Candidates offered one after
the other or together are the same, those of known keys change nothing, and only the keys on offer
count for the single candidate, up to the label and the order of contested ones. -/
theorem run_keepsFirsts (steps : List Step) :
    (run steps).found = firstsBy Candidate.key (offeredBy steps) ∧
    (run steps).size = ((offeredBy steps).map Candidate.key).toFinset.card ∧
    (∀ more later, ((run steps).extend more).extend later = (run steps).extend (more ++ later)) ∧
    (∀ again, (∀ candidate ∈ again, candidate.key ∈ (offeredBy steps).map Candidate.key) →
      (run steps).extend again = run steps) ∧
    (∀ identifier notFound answer, (run steps).single identifier notFound = answer ↔
      Answers (offeredBy steps) identifier notFound answer) ∧
    ∀ others, (offeredBy steps).Perm (offeredBy others) → ∀ identifier notFound,
      Alike False ((run steps).single identifier notFound)
        ((run others).single identifier notFound) := by
  simp only [run_eq_ofList]
  refine ⟨found_ofList _, ?_, fun more later => (extend_append _ more later).symm, ?_,
    fun _ _ _ => single_eq_iff, ?_⟩
  · rw [size, found_ofList, length_firstsBy]
  · intro again known
    rw [ofList, ← extend_append, ← ofList, ← ofList, ofList_eq_iff]
    exact firstsBy_append_of_known Candidate.key known
  · intro others permuted identifier notFound
    exact single_alike identifier notFound (fun key => (permuted.map Candidate.key).mem_iff)
      False.elim

theorem run_keepsFirsts_replaced :
    let function (label url : String) : Candidate := ⟨.function, ⟨label, url⟩⟩
    let property : Candidate := ⟨.property, ⟨"a", "x"⟩⟩
    let steps : List Step := [.push (function "old" "z"), .collect [function "a" "x", property],
      .push (function "later" "x"), .extend [function "b" "y"]]
    let others : List Step := [.extend [function "b" "y", function "later" "x"],
      .push property, .push (function "a" "x")]
    (run steps).extend [function "again" "y"] = run steps ∧
      (run steps).single "a" "none" = .error (.ambiguous "a" ["x", "x", "y"]) ∧
      Alike False ((run steps).single "a" "none") ((run others).single "a" "none") := by
  -- A property on the page of a function stays beside it, and what was offered before the
  -- replacement is forgotten.
  intro function property steps others
  obtain ⟨-, -, -, forgets, outcome, reordered⟩ := run_keepsFirsts steps
  have different : (function "a" "x").key ≠ property.key := by decide
  refine ⟨forgets _ (by decide), ?_, reordered others (by decide) _ _⟩
  exact (outcome "a" "none" _).2 (.several (by decide) (by decide) different)

end ApiPages.Candidates
