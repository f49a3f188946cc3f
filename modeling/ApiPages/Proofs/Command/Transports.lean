import ApiPages.Proofs.Command.Words
import ApiPages.Proofs.Http.Form
import ApiPages.Proofs.Query.Faults

/-!
One outcome told in three ways: as lines for a reader, as a response for other tools, and as a page
of a server. Main statement: the three agree on every query, and none of them ever reports a failure
that is not the fault of the query.
-/

namespace ApiPages

def Json.get? (name : String) : Json → Option Json
  | .object fields => find? name fields
  | _ => none

def ResolutionError.choice? : ResolutionError → Option (List String)
  | .ambiguous _ candidates => some candidates
  | _ => none

namespace Command

structure TellsLink (link : Link) (lines : List String) (response : Json) (page : Http.Answer) :
    Prop where
  lines : lines = [link.label, link.url]
  data : ∃ data, response.get? "data" = some data ∧ page.body = data.compact ∧
    data.get? "label" = some (.string link.label) ∧ data.get? "url" = some (.string link.url)

structure TellsError (error : ResolutionError) (lines : List String) (response : Json)
    (page : Http.Answer) : Prop where
  lines : "Error: " ++ error.message ∈ lines
  message : response.get? "message" = some (.string error.message)
  code : response.get? "code" = some (.string error.code)
  candidates : (response.get? "error").bind (Json.get? "candidates") =
    error.choice?.map Response.texts
  body : page.status = 400 → page.body = error.message

/-- What a run, a run for other tools and a page tell of one outcome. -/
structure Agree (outcome : Except ResolutionError Link) (plain forTools : Run)
    (page : Http.Answer) (response : Json) : Prop where
  exit : plain.exit = 0 ∨ plain.exit = 3 ∨ plain.exit = 4
  sameExit : forTools.exit = plain.exit
  printed : forTools.output = [response.pretty]
  exitField : response.get? "exit_code" = some (.integer plain.exit)
  status : page.status = 200 ∨ page.status = 404 ∨ page.status = 400
  found_iff : page.status = 200 ↔ plain.exit = 0
  missing_iff : page.status = 404 ↔ plain.exit = 3
  refused_iff : page.status = 400 ↔ plain.exit = 4
  link : plain.exit = 0 → ∃ link, outcome = .ok link ∧ TellsLink link plain.output response page
  error : plain.exit ≠ 0 →
    ∃ error, outcome = .error error ∧ TellsError error plain.errors response page

theorem candidatesField_texts {candidates : List String} (present : candidates ≠ []) :
    Response.candidatesField candidates = [("candidates", Response.texts candidates)] := by
  cases candidates with
  | nil => exact absurd rfl present
  | cons first rest => rfl

theorem get?_candidates {error : ResolutionError} (chosen : error.choice? ≠ some []) :
    ((Response.ofResolutionError error).toJson.get? "error").bind (Json.get? "candidates") =
      error.choice?.map Response.texts := by
  cases error with
  | ambiguous identifier candidates =>
    have present : candidates ≠ [] := fun none => chosen (congrArg some none)
    simp [Response.ofResolutionError, Response.toJson, Json.get?, Json.find?,
      ResolutionError.candidates, ResolutionError.choice?, candidatesField_texts present]
  | _ => rfl

theorem exit_status (files : FileTree) (outcome : Except ResolutionError Link) :
    let exit := (reported files false outcome).exit
    let status := (Http.ofResolution outcome).status
    exit = 0 ∧ status = 200 ∧ (∃ link, outcome = .ok link) ∨
      (exit = 3 ∧ status = 404 ∨ exit = 4 ∧ status = 400) ∧ ∃ error, outcome = .error error := by
  cases outcome with
  | ok link => exact .inl ⟨rfl, rfl, link, rfl⟩
  | error error =>
    refine .inr ⟨?_, error, rfl⟩
    -- The run asks whether the query is at fault, and the page whether nothing was found.
    have number : (reported files false (.error error)).exit =
        (ExitCode.ofResolution error).number := exit_reported files false (.error error)
    rw [number, ExitCode.ofResolution_eq, error.isUserError_eq_not_isNotFound,
      Http.status_ofResolution_error]
    cases error.isNotFound with
    | true => exact .inl ⟨rfl, rfl⟩
    | false => exact .inr ⟨rfl, rfl⟩

theorem tellsLink (files : FileTree) (link : Link) :
    TellsLink link (reported files false (.ok link)).output
      (Response.ofResolution (.ok link)).toJson (Http.ofResolution (.ok link)) where
  lines := rfl
  data := ⟨link.toJson, rfl, rfl, rfl, rfl⟩

theorem tellsError (files : FileTree) {error : ResolutionError} (chosen : error.choice? ≠ some []) :
    TellsError error (reported files false (.error error)).errors
      (Response.ofResolution (.error error)).toJson (Http.ofResolution (.error error)) where
  lines := List.mem_cons_self
  message := rfl
  code := rfl
  candidates := get?_candidates chosen
  body := by
    intro refused
    cases missing : error.isNotFound with
    | true => simp [Http.ofResolution, missing, Http.Answer.text] at refused
    | false => simp [Http.ofResolution, missing, Http.Answer.text]

theorem agree_of_outcome (files : FileTree) {outcome : Except ResolutionError Link}
    (chosen : ∀ identifier, outcome ≠ .error (.ambiguous identifier [])) :
    Agree outcome (reported files false outcome) (reported files true outcome)
      (Http.ofResolution outcome) (Response.ofResolution outcome).toJson := by
  have sameExit := (exit_reported files true outcome).trans (exit_reported files false outcome).symm
  have matched := exit_status files outcome
  dsimp only at matched
  refine ⟨by omega, sameExit, ?_, ?_, by omega, by omega, by omega, by omega, ?_, ?_⟩
  · cases outcome <;> rfl
  · cases outcome <;> rfl
  · intro succeeded
    obtain ⟨link, rfl⟩ : ∃ link, outcome = .ok link := by
      rcases matched with ⟨-, -, found⟩ | ⟨failed, -⟩
      · exact found
      · omega
    exact ⟨link, rfl, tellsLink files link⟩
  · intro failed
    obtain ⟨error, rfl⟩ : ∃ error, outcome = .error error := by
      rcases matched with ⟨succeeded, -⟩ | ⟨-, found⟩
      · exact absurd succeeded failed
      · exact found
    refine ⟨error, rfl, tellsError files ?_⟩
    intro empty
    cases error with
    | ambiguous identifier candidates =>
      obtain rfl := Option.some.inj empty
      exact chosen identifier rfl
    | _ => cases empty

theorem Agree.after {outcome : Except ResolutionError Link} {plain forTools : Run}
    {page : Http.Answer} {response : Json} (agree : Agree outcome plain forTools page response)
    (notices : List String) :
    Agree outcome (plain.after notices) (forTools.after notices) page response where
  exit := agree.exit
  sameExit := agree.sameExit
  printed := agree.printed
  exitField := agree.exitField
  status := agree.status
  found_iff := agree.found_iff
  missing_iff := agree.missing_iff
  refused_iff := agree.refused_iff
  link := agree.link
  error := by
    intro failed
    obtain ⟨error, same, told⟩ := agree.error failed
    exact ⟨error, same, { told with lines := List.mem_append_right notices told.lines }⟩

/-- The settings that a run without a settings path works under. -/
def settingsInForce (around : Surroundings) : Settings :=
  (Settings.load? around).getD (.default around.processors)

def settingsNotices (around : Surroundings) : List String :=
  if (Settings.load? around).isSome then []
  else ["Configuration error: " ++ unusableSettings, "Using default configuration."]

theorem runJob_none (around : Surroundings) (elapsed : String) (job : Job) :
    runJob around elapsed none job =
      (runWith around elapsed (settingsInForce around) job).after (settingsNotices around) := by
  rw [runJob, settingsInForce, settingsNotices]
  cases Settings.load? around with
  | none => rfl
  | some settings => simp [Run.after]

theorem run_resolve {around : Surroundings} {arguments : List String} {query : String} {json : Bool}
    {documentation : Documentation} (elapsed : String)
    (line : Line.ofArguments arguments = .run none (.resolve [query] json))
    (indexed : Command.documentation around (settingsInForce around) = .ok documentation) :
    run around elapsed arguments =
      (reported around.files json (documentation.answer query)).after (settingsNotices around) := by
  rw [run, line]
  simp only [runJob_none, runWith, Text.separated, runResolve, indexed]

/-- A query comes to the same at the terminal, for other tools and on a server. -/
theorem resolve_transports {around : Surroundings} {query : String} {documentation : Documentation}
    (elapsed : String)
    (accepted : Line.ofArguments ["resolve", query] = .run none (.resolve [query] false))
    (indexed : Command.documentation around (settingsInForce around) = .ok documentation)
    (parsable : (Http.Uri.ofText? (Http.linkAddress query)).isSome) :
    ∃ page response,
      Http.respond? documentation "GET" (Http.linkAddress query) = some page ∧
      Agree (documentation.answer query) (run around elapsed ["resolve", query])
        (run around elapsed ["resolve", query, "--json"]) page response := by
  refine ⟨_, (Response.ofResolution (documentation.answer query)).toJson,
    Http.respond?_linkAddress documentation parsable, ?_⟩
  have forTools := ofArguments_json (word_of_accepted accepted)
  rw [run_resolve elapsed accepted indexed, run_resolve elapsed forTools indexed]
  apply Agree.after
  apply agree_of_outcome
  intro identifier ambiguous
  have several := Documentation.two_le_of_answer_ambiguous ambiguous
  simp at several

def Surroundings.ofRecordFile (text : String) : Surroundings where
  files := .put .empty ["build", "classes", "Foo.json"] (.file (Text.Utf8.encode text))
  here := []
  environment := []
  processors := 1

theorem resolve_transports_member :
    let record := Json.array
      [.string "Foo", ((Record.ofClass "Foo" "bar" none).metadata.getD .null)]
    let around := Surroundings.ofRecordFile record.compact
    let query := "Foo#bar type=function"
    (run around "" ["resolve", query]).exit = 0 ∧
    ∃ documentation page response,
      Command.documentation around (settingsInForce around) = .ok documentation ∧
      Http.respond? documentation "GET" (Http.linkAddress query) = some page ∧
      Agree (documentation.answer query) (run around "" ["resolve", query])
        (run around "" ["resolve", query, "--json"]) page response := by
  intro record around query
  refine ⟨by decide +kernel, ?_⟩
  have built : (Command.documentation around (settingsInForce around)).isOk := by decide +kernel
  cases indexed : Command.documentation around (settingsInForce around) with
  | error cause => simp [indexed, Except.isOk, Except.toBool] at built
  | ok documentation =>
    have accepted : Line.ofArguments ["resolve", query] = .run none (.resolve [query] false) := by
      decide +kernel
    obtain ⟨page, response, responded, agree⟩ :=
      resolve_transports "" accepted indexed (by decide +kernel)
    exact ⟨documentation, page, response, rfl, responded, agree⟩

end Command

end ApiPages
