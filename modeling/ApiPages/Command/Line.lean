import ApiPages.Text.Character

/-!
Reading of a command line. Arguments are taken from left to right, first those of the program and
then those of the command. A switch has a long name, perhaps a short one, and may take a value. It
may be given once in front of the command and once behind it, where it counts. A value stands in the
same argument, behind an equals sign, or in the next one, which then must not look like a switch.
Two hyphens end the switches.
-/

namespace ApiPages.Command

inductive Verb where
  | init
  | config
  | index
  | resolve
  | serve
  | help
deriving DecidableEq, Repr

namespace Verb

def all : List Verb := [.init, .config, .index, .resolve, .serve, .help]

def name : Verb → String
  | .init => "init"
  | .config => "config"
  | .index => "index"
  | .resolve => "resolve"
  | .serve => "serve"
  | .help => "help"

def ofName? (name : String) : Option Verb := all.find? fun verb => verb.name == name

def takesWords : Verb → Bool
  | .resolve | .help => true
  | _ => false

end Verb

inductive Switch where
  | config
  | verbose
  | force
  | threads
  | json
  | bind
  | version
  | help
deriving DecidableEq, Repr

/-- A whole number of threads, which may have a plus sign. -/
def threads? (text : String) : Option UInt64 :=
  let digits := match text.toList with
    | '+' :: rest => rest
    | rest => rest
  if digits ≠ [] ∧ digits.all Char.isDigit ∧ Decimal.value digits < UInt64.size then
    some (UInt64.ofNat (Decimal.value digits))
  else none

namespace Switch

def long : Switch → String
  | .config => "config"
  | .verbose => "verbose"
  | .force => "force"
  | .threads => "threads"
  | .json => "json"
  | .bind => "bind"
  | .version => "version"
  | .help => "help"

def short? : Switch → Option Char
  | .config => some 'c'
  | .verbose => some 'v'
  | .force => some 'f'
  | .threads => some 't'
  | .version => some 'V'
  | .help => some 'h'
  | .json | .bind => none

def takesValue : Switch → Bool
  | .config | .threads | .bind => true
  | _ => false

/-- Whether a value can be used: a path has to name something, and threads are counted. -/
def accepts : Switch → String → Bool
  | .config, value => !value.isEmpty
  | .threads, value => (threads? value).isSome
  | _, _ => true

def ofProgram : List Switch := [.config, .verbose, .version, .help]

def ofVerb : Verb → List Switch
  | .init => [.force, .config, .verbose, .help]
  | .index => [.threads, .json, .config, .verbose, .help]
  | .resolve => [.json, .config, .verbose, .help]
  | .serve => [.bind, .config, .verbose, .help]
  | .config | .help => [.config, .verbose, .help]

def offered : Option Verb → List Switch
  | none => ofProgram
  | some verb => ofVerb verb

end Switch

/-- What was given on one side of the command: switches with their values, and words. -/
structure Given where
  switches : List (Switch × String)
  words : List String
deriving DecidableEq, Repr

namespace Given

def empty : Given := ⟨[], []⟩

def value? (given : Given) (switch : Switch) : Option String :=
  (given.switches.find? fun item => item.1 == switch).map Prod.snd

def has (given : Given) (switch : Switch) : Bool := (given.value? switch).isSome

/-- A further switch with its value, which is empty if it takes none. -/
def add? (given : Given) (switch : Switch) (value : String) : Option Given :=
  if given.has switch ∨ !switch.accepts value then none
  else some { given with switches := given.switches ++ [(switch, value)] }

def addWord (given : Given) (word : String) : Given :=
  { given with words := given.words ++ [word] }

end Given

inductive Argument where
  | terminator
  | long (name : List Char) (value : Option String)
  | short (letters : List Char)
  | word
deriving DecidableEq, Repr

def Argument.ofText (text : String) : Argument :=
  match text.toList with
  | ['-', '-'] => .terminator
  | '-' :: '-' :: rest =>
    let name := rest.takeWhile (· != '=')
    match rest.drop name.length with
    | [] => .long name none
    | _ :: value => .long name (some (String.ofList value))
  | '-' :: c :: rest => .short (c :: rest)
  | _ => .word

inductive Outcome where
  | misuse
  | version
  | help
  | all (given : Given)
  | verb (given : Given) (verb : Verb) (behind : List String)

/-- What a switch comes to: it is recorded, or waits for its value, or ends the reading. -/
inductive Taken where
  | recorded (given : Given)
  | waiting (given : Given) (switch : Switch)
  | ended (outcome : Outcome)

namespace Taken

def ofOption : Option Given → Taken
  | some given => .recorded given
  | none => .ended .misuse

def flag (given : Given) : Switch → Taken
  | .version => .ended .version
  | .help => .ended .help
  | switch => ofOption (given.add? switch "")

def long (offered : List Switch) (given : Given) (name : List Char) (value : Option String) :
    Taken :=
  match offered.find? fun switch => switch.long.toList == name with
  | none => .ended .misuse
  | some switch =>
    match switch.takesValue, value with
    | true, some value => ofOption (given.add? switch value)
    | true, none => .waiting given switch
    | false, some _ => .ended .misuse
    | false, none => flag given switch

def attached : List Char → String
  | '=' :: rest => String.ofList rest
  | rest => String.ofList rest

def short (offered : List Switch) (given : Given) : List Char → Taken
  | [] => .recorded given
  | letter :: rest =>
    match offered.find? fun switch => switch.short? == some letter with
    | none => .ended .misuse
    | some switch =>
      if switch.takesValue then
        if rest.isEmpty then .waiting given switch
        else ofOption (given.add? switch (attached rest))
      else
        match flag given switch with
        | .recorded given => short offered given rest
        | other => other

end Taken

/-- Where the reader of arguments stands. -/
inductive Stage where
  | open
  | waiting (switch : Switch)
  | wordsOnly

/-- Reads the arguments on one side of the command. -/
def scan (verb : Option Verb) : Stage → Given → List String → Outcome
  | .waiting _, _, [] => .misuse
  | _, given, [] => .all given
  | .waiting switch, given, text :: rest =>
    if Argument.ofText text = .word then
      match given.add? switch text with
      | some given => scan verb .open given rest
      | none => .misuse
    else .misuse
  | .wordsOnly, given, text :: rest =>
    if verb.any Verb.takesWords then scan verb .wordsOnly (given.addWord text) rest else .misuse
  | .open, given, text :: rest =>
    let goOn : Taken → Outcome := fun
      | .recorded given => scan verb .open given rest
      | .waiting given switch => scan verb (.waiting switch) given rest
      | .ended outcome => outcome
    match Argument.ofText text with
    | .terminator => scan verb .wordsOnly given rest
    | .long name value => goOn (.long (Switch.offered verb) given name value)
    | .short letters => goOn (.short (Switch.offered verb) given letters)
    | .word =>
      match verb with
      | some known =>
        if known.takesWords then scan verb .open (given.addWord text) rest else .misuse
      | none =>
        match Verb.ofName? text with
        | some found => .verb given found rest
        | none => .misuse

inductive Job where
  | config
  | index (threads : Option UInt64) (json : Bool)
  | resolve (words : List String) (json : Bool)
  | serve (bind : Option String)
deriving DecidableEq, Repr

inductive Line where
  | misuse
  | version
  | help
  | init (force : Bool)
  | run (settingsPath : Option String) (job : Job)
deriving DecidableEq, Repr

/-- The command that a verb and what is behind it make up. -/
def Line.ofGiven (settingsPath : Option String) (given : Given) : Verb → Line
  | .init => .init (given.has .force)
  | .config => .run settingsPath .config
  | .index =>
    .run settingsPath (.index ((given.value? .threads).bind threads?) (given.has .json))
  | .resolve =>
    if given.words.isEmpty then .misuse
    else .run settingsPath (.resolve given.words (given.has .json))
  | .serve => .run settingsPath (.serve (given.value? .bind))
  | .help =>
    match given.words with
    | [] => .help
    | [word] => if (Verb.ofName? word).isSome then .help else .misuse
    | _ => .misuse

def Line.ofArguments (arguments : List String) : Line :=
  match scan none .open .empty arguments with
  | .misuse | .all _ => .misuse
  | .version => .version
  | .help => .help
  | .verb front verb behind =>
    match scan (some verb) .open .empty behind with
    | .misuse | .verb _ _ _ => .misuse
    | .version => .version
    | .help => .help
    | .all given =>
      ofGiven (given.value? .config <|> front.value? .config) given verb

example :
    Line.ofArguments ["-vca", "resolve", "A", "--json", "--", "-x"] =
      .run (some "a") (.resolve ["A", "-x"] true) := by
  decide

-- The end of the options is no value of an option.
example : Line.ofArguments ["--config", "--", "index"] = .misuse := by decide

end ApiPages.Command
