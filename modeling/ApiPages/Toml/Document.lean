import ApiPages.Text.NameOrder
import ApiPages.Toml.Syntax

/-!
The table that the statements of a text make up. A table may be opened by one header only, but
headers and dotted keys may go through tables that they imply; a dotted key may add to a table only
if dotted keys made it. A path through an array of tables leads to its last item. No key is set
twice.
-/

namespace ApiPages.Toml

open Named (find? set)

inductive Origin where
  /-- By its own header, or as the whole text, or between braces. -/
  | opened
  /-- By being on the path of another header. -/
  | implied
  /-- By a dotted key. -/
  | dotted
deriving DecidableEq, Repr

/-- What stands under a key while a text is read. Items of an array of tables are closed when the
next one is opened. -/
inductive Slot where
  | value (value : Toml)
  | table (origin : Origin) (fields : List (String × Slot))
  | tables (closed : List Toml) (last : List (String × Slot))

abbrev Slots := List (String × Slot)

mutual

def Slot.toToml : Slot → Toml
  | .value value => value
  | .table _ fields => .table (fieldsOfSlots fields)
  | .tables closed last => .array (closed ++ [.table (fieldsOfSlots last)])

def fieldsOfSlots : List (String × Slot) → List (String × Toml)
  | [] => []
  | (key, slot) :: rest => (key, slot.toToml) :: fieldsOfSlots rest

end

/-- Changes the table at a path below another one. What is missing on the way is made as `made`; a
path of a dotted key does not go through opened tables. -/
def atPath (made : Origin) (change : Origin → Slots → Option Slots) (origin : Origin)
    (slots : Slots) : Key → Option Slots
  | [] => change origin slots
  | key :: path =>
    match find? key slots with
    | none => do
      let inner ← atPath made change made [] path
      some (set key (.table made inner) slots)
    | some (.value _) => none
    | some (.table known fields) =>
      if made = .dotted ∧ known = .opened then none
      else do
        let inner ← atPath made change known fields path
        some (set key (.table known inner) slots)
    | some (.tables closed last) => do
      let inner ← atPath made change .opened last path
      some (set key (.tables closed inner) slots)

/-- Sets a key that is not yet there. A dotted key ends in a table that dotted keys made, and a
plain key in one that they did not make. -/
def addField (isDotted : Bool) (key : String) (value : Toml) (origin : Origin) (slots : Slots) :
    Option Slots :=
  if (origin == .dotted) != isDotted then none
  else
    match find? key slots with
    | some _ => none
    | none => some (slots ++ [(key, .value value)])

def addPair (key : Key) (value : Toml) (origin : Origin) (slots : Slots) : Option Slots :=
  match key.getLast? with
  | none => none
  | some last =>
    let front := key.dropLast
    atPath .dotted (addField (!front.isEmpty) last value) origin slots front

mutual

def Term.value? : Term → Option Toml
  | .leaf value => some value
  | .array items => (valuesOfTerms? items).map .array
  | .table pairs => (slotsOfPairs? [] pairs).map fun slots => .table (fieldsOfSlots slots)

def valuesOfTerms? : List Term → Option (List Toml)
  | [] => some []
  | term :: rest => do
    let value ← term.value?
    some (value :: (← valuesOfTerms? rest))

/-- The slots of a table between braces, of which some are known. -/
def slotsOfPairs? (known : Slots) : List (Key × Term) → Option Slots
  | [] => some known
  | (key, term) :: rest => do
    let value ← term.value?
    slotsOfPairs? (← addPair key value .opened known) rest

end

/-- Opens a table that nothing but the paths of other headers have made so far. -/
def openTable (key : String) (_ : Origin) (slots : Slots) : Option Slots :=
  match find? key slots with
  | none => some (set key (.table .opened []) slots)
  | some (.table .implied fields) => some (set key (.table .opened fields) slots)
  | some _ => none

def openItem (key : String) (_ : Origin) (slots : Slots) : Option Slots :=
  match find? key slots with
  | none => some (set key (.tables [] []) slots)
  | some (.tables closed last) =>
    some (set key (.tables (closed ++ [.table (fieldsOfSlots last)]) []) slots)
  | some _ => none

/-- Acts with the last part of a key at the path in front of it. -/
def openAt (change : String → Origin → Slots → Option Slots) (key : Key) (slots : Slots) :
    Option Slots :=
  match key.getLast? with
  | none => none
  | some last => atPath .implied (change last) .opened slots key.dropLast

/-- The slots of some statements, given the path of the table that is open. -/
def slotsOfStatements? (path : Key) (slots : Slots) : List Statement → Option Slots
  | [] => some slots
  | .pair key term :: rest => do
    let value ← term.value?
    slotsOfStatements? path (← atPath .implied (addPair key value) .opened slots path) rest
  | .header key :: rest => do
    slotsOfStatements? key (← openAt openTable key slots) rest
  | .item key :: rest => do
    slotsOfStatements? key (← openAt openItem key slots) rest

def read? (text : String) : Option (List (String × Toml)) := do
  let slots ← slotsOfStatements? [] [] (← statements? text.toList)
  some (fieldsOfSlots slots)

example :
    (read? "a.b = 1\n[c]\nd = [true, \"x\"] # e\n[a.f]\n").map (List.map Prod.fst) =
      some ["a", "c"] := by
  decide +kernel

-- A key may not lead into a table that has a header of its own.
example : read? "[a.b]\n[a]\nb.c = 1\n" = none := by decide +kernel

end ApiPages.Toml
