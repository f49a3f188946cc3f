import ApiPages.Command.Run

/-!
Words on a command line. An argument that is taken for switches or for the end of them leaves no
word behind. Main statement: an argument is the query of a resolution when it looks like no switch,
and a switch behind it does not change that.
-/

namespace ApiPages.Command

/-- What comes of a switch leaves the words as they were, unless it ends the reading without a
command to run. -/
def Taken.KeepsWords (given : Given) : Taken → Prop
  | .recorded after => after.words = given.words
  | .waiting after _ => after.words = given.words
  | .ended outcome => outcome = .misuse ∨ outcome = .version ∨ outcome = .help

namespace Taken

theorem ofOption_keepsWords (given : Given) (switch : Switch) (value : String) :
    KeepsWords given (ofOption (given.add? switch value)) := by
  rw [Given.add?]
  split
  · exact .inl rfl
  · rfl

theorem flag_keepsWords (given : Given) (switch : Switch) :
    KeepsWords given (flag given switch) := by
  cases switch with
  | version => exact .inr (.inl rfl)
  | help => exact .inr (.inr rfl)
  | _ => exact ofOption_keepsWords given _ ""

theorem long_keepsWords (offered : List Switch) (given : Given) (name : List Char)
    (value : Option String) : KeepsWords given (long offered given name value) := by
  rw [long]
  split
  · exact .inl rfl
  · split
    · exact ofOption_keepsWords given _ _
    · rfl
    · exact .inl rfl
    · exact flag_keepsWords given _

theorem short_keepsWords (offered : List Switch) (given : Given) (letters : List Char) :
    KeepsWords given (short offered given letters) := by
  induction letters generalizing given with
  | nil => rfl
  | cons letter rest ih =>
    rw [short]
    split
    · exact .inl rfl
    · next switch _ =>
      split
      · split
        · rfl
        · exact ofOption_keepsWords given _ _
      · have kept := flag_keepsWords given switch
        split
        · next after same =>
          rw [same] at kept
          have later := ih after
          unfold KeepsWords at later ⊢
          rwa [kept] at later
        · exact kept

end Taken

def Outcome.HasWords (words : List String) : Outcome → Prop
  | .all given => given.words = words
  | .verb _ _ _ => False
  | _ => True

theorem scan_switch_hasWords {verb : Verb} {text : String} (switch : Argument.ofText text ≠ .word) :
    (scan (some verb) .open .empty [text]).HasWords [] := by
  have last (taken : Taken) : taken.KeepsWords .empty → Outcome.HasWords [] (match taken with
      | .recorded given => scan (some verb) .open given []
      | .waiting given waiting => scan (some verb) (.waiting waiting) given []
      | .ended outcome => outcome) := by
    intro kept
    cases taken with
    | recorded given => exact kept
    | waiting given waiting => trivial
    | ended outcome => rcases kept with rfl | rfl | rfl <;> trivial
  rw [scan]
  cases argument : Argument.ofText text with
  | terminator => rfl
  | long name value => exact last _ (Taken.long_keepsWords _ _ name value)
  | short letters => exact last _ (Taken.short_keepsWords _ _ letters)
  | word => exact absurd argument switch

theorem ofArguments_resolve_eq (behind : List String) : Line.ofArguments ("resolve" :: behind) =
    match scan (some .resolve) .open .empty behind with
    | .misuse | .verb _ _ _ => .misuse
    | .version => .version
    | .help => .help
    | .all given => .ofGiven (given.value? .config <|> none) given .resolve :=
  rfl

theorem word_of_accepted {query : String} {path : Option String} {json : Bool}
    (accepted : Line.ofArguments ["resolve", query] = .run path (.resolve [query] json)) :
    Argument.ofText query = .word := by
  by_cases word : Argument.ofText query = .word
  · exact word
  have unworded : (scan (some .resolve) .open .empty [query]).HasWords [] :=
    scan_switch_hasWords word
  rw [ofArguments_resolve_eq] at accepted
  cases scanned : scan (some .resolve) .open .empty [query] with
  | all given =>
    rw [scanned] at unworded accepted
    have noWords : given.words = [] := unworded
    simp [Line.ofGiven, noWords] at accepted
  | _ => simp [scanned] at accepted

theorem ofArguments_json {query : String} (word : Argument.ofText query = .word) :
    Line.ofArguments ["resolve", query, "--json"] = .run none (.resolve [query] true) := by
  have scanned : scan (some .resolve) .open .empty [query, "--json"] =
      .all ⟨[(.json, "")], [query]⟩ := by
    rw [scan, word]
    rfl
  rw [ofArguments_resolve_eq, scanned]
  rfl

end ApiPages.Command
