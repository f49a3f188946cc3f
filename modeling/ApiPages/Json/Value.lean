import ApiPages.Text.Character
import ApiPages.Text.NameOrder
import ApiPages.Text.Segments

/-!
JSON values, how records are read from them and how they are written. A number written without
fraction and exponent that fits 64 bits is an integer; any other number keeps its spelling, because
no record of this library has a field for one.
-/

namespace ApiPages

inductive Json where
  | null
  | bool (value : Bool)
  | integer (value : Int)
  | decimal (literal : String)
  | string (value : String)
  | array (items : List Json)
  | object (fields : List (String × Json))
deriving BEq, Repr, Inhabited

namespace Json

export Named (find?)

/-- The fields of an object in which later duplicates win. -/
def distinctFields (fields : List (String × Json)) : List (String × Json) :=
  fields.foldl (fun known (key, value) => Named.set key value known) []

def word? : Json → Option UInt32
  | .integer n => if 0 ≤ n ∧ n < 4294967296 then some (UInt32.ofNat n.toNat) else none
  | _ => none

def text? : Json → Option String
  | .string value => some value
  | _ => none

def list? {α : Type} (read : Json → Option α) : Json → Option (List α)
  | .array items => items.mapM read
  | _ => none

/-- A name out of a fixed choice: the bare name, or an object that holds null under it. -/
def choice? : Json → Option String
  | .string name => some name
  | .object [(name, .null)] => some name
  | _ => none

def ofWord (word : UInt32) : Json := .integer word.toNat

theorem word?_ofWord (word : UInt32) : (ofWord word).word? = some word := by
  have bound := word.toNat_lt
  have small : (word.toNat : Int) < 4294967296 := by omega
  simp [ofWord, word?, small]

/-!
A record is written as an object, or as an array of its leading fields in the order of
declaration. Both forms are brought to one list of slots, a slot for each declared field; an object
may hold further fields, an array may not.
-/

def slots? (names : List String) : Json → Option (List (Option Json))
  | .object fields => some (names.map fun name => find? name fields)
  | .array items =>
    if items.length ≤ names.length then
      some (items.map some ++ List.replicate (names.length - items.length) none)
    else none
  | _ => none

def withDefault {α : Type} (fallback : α) (read : Json → Option α) : Option Json → Option α
  | none => some fallback
  | some value => read value

/-- A field that may be left out or null. -/
def optional {α : Type} (read : Json → Option α) : Option Json → Option (Option α)
  | none => some none
  | some .null => some none
  | some value => (read value).map some

mutual

/-- How deep arrays and objects are nested. -/
def depth : Json → Nat
  | .array items => depthOfItems items + 1
  | .object fields => depthOfFields fields + 1
  | _ => 0

def depthOfItems : List Json → Nat
  | [] => 0
  | item :: rest => max item.depth (depthOfItems rest)

def depthOfFields : List (String × Json) → Nat
  | [] => 0
  | (_, value) :: rest => max value.depth (depthOfFields rest)

end

theorem length_slots? {names : List String} {value : Json} {slots : List (Option Json)}
    (found : value.slots? names = some slots) : slots.length = names.length := by
  unfold slots? at found
  split at found
  · obtain rfl := Option.some.inj found
    simp
  · split at found
    · next fits =>
      obtain rfl := Option.some.inj found
      simp only [List.length_append, List.length_map, List.length_replicate]
      omega
    · simp at found
  · simp at found

theorem depth_le_of_mem_items {item : Json} {items : List Json} (member : item ∈ items) :
    item.depth ≤ depthOfItems items := by
  induction items with
  | nil => simp at member
  | cons head rest ih =>
    rw [depthOfItems]
    rcases List.mem_cons.1 member with rfl | later
    · exact Nat.le_max_left _ _
    · exact Nat.le_trans (ih later) (Nat.le_max_right _ _)

theorem depth_le_of_find? {key : String} {value : Json} {fields : List (String × Json)}
    (found : find? key fields = some value) : value.depth ≤ depthOfFields fields := by
  induction fields with
  | nil => simp [find?] at found
  | cons field rest ih =>
    rw [find?] at found
    rw [depthOfFields]
    split at found
    · obtain rfl := Option.some.inj found
      exact Nat.le_max_left _ _
    · exact Nat.le_trans (ih found) (Nat.le_max_right _ _)

theorem depth_lt_of_mem_slots {names : List String} {record value : Json}
    {slots : List (Option Json)} (found : record.slots? names = some slots)
    (member : some value ∈ slots) : value.depth < record.depth := by
  unfold slots? at found
  split at found
  · obtain rfl := Option.some.inj found
    obtain ⟨name, _, here⟩ := List.mem_map.1 member
    rw [depth]
    exact Nat.lt_succ_of_le (depth_le_of_find? here)
  · split at found
    · obtain rfl := Option.some.inj found
      rcases List.mem_append.1 member with here | padding
      · obtain ⟨item, among, same⟩ := List.mem_map.1 here
        obtain rfl := Option.some.inj same
        rw [depth]
        exact Nat.lt_succ_of_le (depth_le_of_mem_items among)
      · have := List.eq_of_mem_replicate padding
        simp at this
    · simp at found
  · simp at found

/-!
The compact form has no white space; the pretty form puts every item and field on a line of its
own, two spaces deeper than its container. Both escape quotes, backslashes and control characters
and nothing else.
-/

def escaped (c : Char) : List Char :=
  if c = '"' then ['\\', '"']
  else if c = '\\' then ['\\', '\\']
  else if c = '\x08' then ['\\', 'b']
  else if c = '\x0c' then ['\\', 'f']
  else if c = '\n' then ['\\', 'n']
  else if c = '\r' then ['\\', 'r']
  else if c = '\t' then ['\\', 't']
  else if c < ' ' then
    ['\\', 'u', '0', '0', Text.hexDigit (c.toNat / 16), Text.hexDigit (c.toNat % 16)]
  else [c]

def quoted (text : String) : String :=
  String.ofList ('"' :: text.toList.flatMap escaped ++ ['"'])

mutual

def compact : Json → String
  | .null => "null"
  | .bool true => "true"
  | .bool false => "false"
  | .integer value => toString value
  | .decimal literal => literal
  | .string value => quoted value
  | .array items => "[" ++ Text.separated "," (compactItems items) ++ "]"
  | .object fields => "\x7b" ++ Text.separated "," (compactFields fields) ++ "\x7d"

def compactItems : List Json → List String
  | [] => []
  | item :: rest => item.compact :: compactItems rest

def compactFields : List (String × Json) → List String
  | [] => []
  | (key, value) :: rest => (quoted key ++ ":" ++ value.compact) :: compactFields rest

end

def newline (level : Nat) : String := String.ofList ('\n' :: List.replicate (2 * level) ' ')

/-- The parts of a container between its brackets, a part a line. -/
def block (level : Nat) (opening closing : String) (parts : List String) : String :=
  if parts.isEmpty then opening ++ closing
  else
    opening ++ newline (level + 1) ++ Text.separated ("," ++ newline (level + 1)) parts ++
      newline level ++ closing

mutual

def prettyAt (level : Nat) : Json → String
  | .array items => block level "[" "]" (prettyItems (level + 1) items)
  | .object fields => block level "\x7b" "\x7d" (prettyFields (level + 1) fields)
  | value => value.compact

def prettyItems (level : Nat) : List Json → List String
  | [] => []
  | item :: rest => prettyAt level item :: prettyItems level rest

def prettyFields (level : Nat) : List (String × Json) → List String
  | [] => []
  | (key, value) :: rest =>
    (quoted key ++ ": " ++ prettyAt level value) :: prettyFields level rest

end

def pretty (value : Json) : String := prettyAt 0 value

example :
    compact (.object [("a", .array [.integer 1, .null]), ("b", .string "\"")]) =
      "\x7b\"a\":[1,null],\"b\":\"\\\"\"\x7d" := by
  decide +kernel

example :
    pretty (.object [("a", .array [.integer 1]), ("b", .array [])]) =
      "\x7b\n  \"a\": [\n    1\n  ],\n  \"b\": []\n\x7d" := by
  decide +kernel

end Json

end ApiPages
