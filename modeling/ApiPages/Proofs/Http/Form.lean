import ApiPages.Http.Respond
import ApiPages.Proofs.Text.Utf8
import Mathlib.Data.List.TakeWhile

/-!
Form fields written. A letter, a digit and a few marks stand for themselves, a blank is a plus sign,
and any other byte is a percent sign with two digits. Main statement: the page of an identifier that
is written in this way resolves this identifier.
-/

namespace ApiPages.Http

namespace Form

def isKept (c : Char) : Bool := c.isAlphanum || c == '*' || c == '-' || c == '.' || c == '_'

def encodeByte (byte : UInt8) : List Char :=
  if byte = 0x20 then ['+']
  else if isKept (Char.ofNat byte.toNat) then [Char.ofNat byte.toNat]
  else ['%', Text.hexCapital (byte.toNat / 16), Text.hexCapital (byte.toNat % 16)]

def encode (text : List Char) : List Char :=
  (text.flatMap String.utf8EncodeChar).flatMap encodeByte

theorem forall_byte {property : UInt8 → Prop} (all : ∀ n < 256, property (UInt8.ofNat n))
    (byte : UInt8) : property byte := by
  simpa using all byte.toNat byte.toNat_lt

theorem isKept_byte (byte : UInt8) : isKept (Char.ofNat byte.toNat) →
    String.utf8EncodeChar (Char.ofNat byte.toNat) = [byte] ∧ Char.ofNat byte.toNat ≠ '+' ∧
      Char.ofNat byte.toNat ≠ '%' := by
  revert byte
  apply forall_byte
  decide +kernel

theorem encodeByte_chars (byte : UInt8) :
    ∀ c ∈ encodeByte byte, Uri.isQueryChar c ∧ c ≠ '&' ∧ c ≠ '#' := by
  have all : (encodeByte byte).all fun c => Uri.isQueryChar c && c != '&' && c != '#' := by
    revert byte
    apply forall_byte
    decide +kernel
  simpa [and_assoc] using List.all_eq_true.1 all

theorem bytesFrom_encodeByte (byte : UInt8) (rest : List Char) :
    bytesFrom 0 (encodeByte byte ++ rest) = byte :: bytesFrom 0 rest := by
  rw [encodeByte]
  split
  · next blank => simp [bytesFrom, blank]
  · split
    · next kept =>
      obtain ⟨single, noPlus, noPercent⟩ := isKept_byte byte kept
      rw [List.singleton_append, bytesFrom, if_neg noPlus, single]
      · rfl
      · intro high low isPercent
        exact absurd isPercent noPercent
    · have bound := byte.toNat_lt
      have high := Text.hexValue?_hexCapital ⟨byte.toNat / 16, by omega⟩
      have low := Text.hexValue?_hexCapital ⟨byte.toNat % 16, by omega⟩
      dsimp only at high low
      have whole : byte.toNat / 16 * 16 + byte.toNat % 16 = byte.toNat := by omega
      simp [bytesFrom, high, low, whole]

theorem bytesFrom_flatMap (bytes : List UInt8) :
    bytesFrom 0 (bytes.flatMap encodeByte) = bytes := by
  induction bytes with
  | nil => rfl
  | cons byte rest ih => rw [List.flatMap_cons, bytesFrom_encodeByte, ih]

theorem decode_encode (text : List Char) : decode (encode text) = text := by
  rw [decode, encode, bytesFrom_flatMap, Text.Utf8.decodeLenient_utf8]

theorem encode_chars {text : List Char} {c : Char} (member : c ∈ encode text) :
    Uri.isQueryChar c ∧ c ≠ '&' ∧ c ≠ '#' := by
  obtain ⟨byte, -, written⟩ := List.mem_flatMap.1 member
  exact encodeByte_chars byte c written

theorem values_single {name : List Char} (plain : decode name = name)
    (unmarked : name.all fun c => c != '&' && c != '=') (text : List Char) :
    values name (name ++ '=' :: encode text) = [text] := by
  have named : ∀ c ∈ name, c ≠ '&' ∧ c ≠ '=' := by simpa using List.all_eq_true.1 unmarked
  have noSeparator : '&' ∉ name ++ '=' :: encode text := by
    simp only [List.mem_append, List.mem_cons, not_or]
    exact ⟨fun member => (named _ member).1 rfl, by decide,
      fun member => (encode_chars member).2.1 rfl⟩
  have unequal : ∀ c ∈ name, (c != '=') = true := fun c member => by simp [(named c member).2]
  have whole : field (name ++ '=' :: encode text) = (name, text) := by
    rw [field, List.takeWhile_append_of_pos unequal, List.dropWhile_append_of_pos unequal]
    simp [plain, decode_encode]
  simp [values, fields, Text.split_of_not_mem noSeparator, whole]

end Form

def linkAddress (identifier : String) : String :=
  "/link?identifier=" ++ String.ofList (Form.encode identifier.toList)

def identifierField (identifier : String) : List Char :=
  "identifier".toList ++ '=' :: Form.encode identifier.toList

theorem toList_linkAddress (identifier : String) :
    (linkAddress identifier).toList = "/link".toList ++ '?' :: identifierField identifier := by
  unfold linkAddress identifierField
  simp

theorem identifierField_chars {query : String} {c : Char} (member : c ∈ identifierField query) :
    Uri.isQueryChar c ∧ c ≠ '#' := by
  have named : ("identifier".toList ++ ['=']).all fun c => Uri.isQueryChar c && c != '#' := by
    decide
  unfold identifierField at member
  rw [List.append_cons, List.mem_append] at member
  rcases member with plain | encoded
  · simpa using List.all_eq_true.1 named c plain
  · exact ⟨(Form.encode_chars encoded).1, (Form.encode_chars encoded).2.2⟩

theorem query?_identifierField (identifier : String) :
    Uri.query? (identifierField identifier) = some (identifierField identifier) := by
  have whole : (identifierField identifier).takeWhile (· != '#') = identifierField identifier := by
    rw [List.takeWhile_eq_self_iff]
    intro c member
    simpa using (identifierField_chars member).2
  rw [Uri.query?, whole, if_pos]
  exact List.all_eq_true.2 fun c member => (identifierField_chars member).1

theorem pathAndQuery?_linkAddress (identifier : String) :
    Uri.pathAndQuery? (linkAddress identifier).toList =
      some ⟨"/link".toList, some (identifierField identifier)⟩ := by
  have pathOnly : ("/link".toList.all fun c => c != '?' && c != '#') = true := by decide
  have pathPlain : "/link".toList.all Uri.isPathChar = true := by decide
  have path : (linkAddress identifier).toList.takeWhile (fun c => c != '?' && c != '#') =
      "/link".toList := by
    rw [toList_linkAddress, List.takeWhile_append_of_pos (List.all_eq_true.1 pathOnly)]
    simp
  have behind : (linkAddress identifier).toList.drop "/link".toList.length =
      '?' :: identifierField identifier := by
    rw [toList_linkAddress, List.drop_left]
  rw [Uri.pathAndQuery?, path, if_pos pathPlain, behind]
  simp [query?_identifierField]

theorem identifier_identifierField (text : String) :
    identifier (identifierField text) = .ok text := by
  unfold identifier identifierField
  rw [Form.values_single (by decide) (by decide)]
  exact congrArg Except.ok String.ofList_toList

theorem ofText?_linkAddress {query : String}
    (parsable : (Uri.ofText? (linkAddress query)).isSome) :
    Uri.ofText? (linkAddress query) = some ⟨"/link".toList, some (identifierField query)⟩ := by
  have address := pathAndQuery?_linkAddress query
  rw [toList_linkAddress] at address
  unfold Uri.ofText? at parsable ⊢
  rw [toList_linkAddress] at parsable ⊢
  split at parsable
  · simp at parsable
  · next short =>
    rw [if_neg short]
    exact address

theorem respond?_linkAddress (documentation : Documentation) {query : String}
    (parsable : (Uri.ofText? (linkAddress query)).isSome) :
    respond? documentation "GET" (linkAddress query) =
      some (ofResolution (documentation.answer query)) := by
  rw [respond?, if_pos (by decide), ofText?_linkAddress parsable, Option.map_some, answer, page?,
    if_pos rfl, linkPage]
  simp [identifier_identifierField]

end ApiPages.Http
