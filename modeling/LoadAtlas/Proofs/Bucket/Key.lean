import LoadAtlas.Request.Check

/-!
# Reading keys back

The characters of a key are single bytes, and each stands for its own five bits.  So a key is read
back to the groups that it was spelled from, and the representative location of a location's
bucket is the centre of the rectangle that those groups select.
-/

namespace LoadAtlas

namespace Bucket

/-! ## The bytes of a text -/

theorem toList_loop (bytes : ByteArray) (index : Nat) (read : List UInt8) :
    ByteArray.toList.loop bytes index read = read.reverse ++ bytes.data.toList.drop index := by
  fun_induction ByteArray.toList.loop bytes index read with
  | case1 index read bound induction =>
      have same : bytes.get! index = bytes.data.toList[index] := by
        rw [Array.getElem_toList]
        exact getElem!_pos bytes.data index bound
      rw [induction, List.drop_eq_getElem_cons bound, List.reverse_cons, List.append_assoc, same]
      rfl
  | case2 index read bound =>
      rw [List.drop_eq_nil_of_le (Nat.le_of_not_lt bound), List.append_nil]

theorem toUTF8_ofList_toList (characters : List Char) :
    (String.ofList characters).toUTF8.toList = characters.flatMap String.utf8EncodeChar := by
  have bytes : (String.ofList characters).toUTF8 =
      (characters.flatMap String.utf8EncodeChar).toByteArray := rfl
  rw [bytes, ByteArray.toList, toList_loop]
  simp

/-- A text of characters of one byte each has the bytes of its characters. -/
theorem toUTF8_toList_of_short {characters : List Char}
    (short : ∀ character ∈ characters, character.utf8Size = 1) :
    (String.ofList characters).toUTF8.toList =
      characters.map fun character => character.val.toUInt8 := by
  rw [toUTF8_ofList_toList]
  induction characters with
  | nil => rfl
  | cons character characters induction =>
      rw [List.flatMap_cons, List.map_cons,
        String.utf8EncodeChar_eq_singleton (short character List.mem_cons_self),
        induction fun other member => short other (List.mem_cons_of_mem _ member)]
      rfl

/-! ## Groups of five bits -/

/-- The text of some groups of five bits. -/
def spell (groups : List Nat) : String :=
  String.ofList (groups.map (alphabet.getD · '0'))

theorem utf8Size_alphabet : ∀ group < 32, (alphabet.getD group '0').utf8Size = 1 := by
  decide

/-- No two characters of the alphabet are alike. -/
theorem findIdx?_alphabet : ∀ group < 32, (alphabet.findIdx? fun character =>
    character.toNat = (alphabet.getD group '0').val.toUInt8.toNat) = some group := by
  decide

theorem groupOfByte_alphabet {group : Nat} (small : group < 32) :
    groupOfByte (alphabet.getD group '0').val.toUInt8 = .ok group := by
  rw [groupOfByte, findIdx?_alphabet group small]

section

variable {read : List Nat} (small : ∀ group ∈ read, group < 32)

include small

theorem toUTF8_spell : (spell read).toUTF8.toList =
    read.map fun group => (alphabet.getD group '0').val.toUInt8 := by
  rw [spell, toUTF8_toList_of_short, List.map_map]
  · rfl
  · intro character member
    obtain ⟨group, inside, rfl⟩ := List.mem_map.mp member
    exact utf8Size_alphabet group (small group inside)

/-- A spelled text is read back to its groups. -/
theorem decode_spell (nonempty : read ≠ []) (short : read.length ≤ longestKey) :
    decode (spell read) = .ok (centerOfGroups read) := by
  have groups : (read.map fun group => (alphabet.getD group '0').val.toUInt8).mapM groupOfByte =
      .ok read := by
    clear nonempty short
    induction read with
    | nil => rfl
    | cons group rest induction =>
        obtain ⟨here, there⟩ := List.forall_mem_cons.mp small
        rw [List.map_cons, List.mapM_cons, groupOfByte_alphabet here, induction there]
        rfl
  rw [decode]
  simp only [toUTF8_spell small, groups]
  rw [if_neg (by simpa using nonempty), if_neg (by simpa using short)]
  rfl

end

/-! ## Keys of locations -/

theorem groups_lt (length woven : Nat) : ∀ group ∈ groups length woven, group < 32 := by
  intro group member
  obtain ⟨index, -, rfl⟩ := List.mem_map.mp member
  exact Nat.mod_lt _ (by omega)

theorem length_groups (length woven : Nat) : (groups length woven).length = length := by
  rw [groups, List.length_map, List.length_range]

variable {location : Location} {length : Nat}

theorem length_spell (read : List Nat) : (spell read).length = read.length := by
  rw [spell, String.length_ofList, List.length_map]

/-- The key of a woven number is read back to its groups. -/
theorem representative_spell_groups (least : 1 ≤ length) (greatest : length ≤ longestKey)
    (woven : Nat) : representative (spell (groups length woven)) =
      .ok (centerOfGroups (groups length woven)) := by
  rw [representative, decode_spell (groups_lt length woven)]
  · rfl
  · exact List.ne_nil_of_length_pos (by rw [length_groups]; omega)
  · rwa [length_groups]

/-- What a key is read to can be told by its coordinates. -/
theorem representative_eq_ok {key : String} {place : Location}
    (read : (representative key).toOption.map (fun found => (found.longitude, found.latitude)) =
      some (place.longitude, place.latitude)) : representative key = .ok place := by
  cases found : representative key with
  | error fault => simp [found, Except.toOption] at read
  | ok other =>
      cases other
      cases place
      simp_all [Except.toOption]

/-- A location on the globe has a key of each admitted length, and the representative location of
that key is the centre of the rectangle. -/
theorem address_eq_ok (inside : inRange location = true) (least : 1 ≤ length)
    (greatest : length ≤ longestKey) :
    address location length = .ok ⟨spell (groups length (woven location)),
      centerOfGroups (groups length (woven location))⟩ := by
  have key : encode location length = .ok (spell (groups length (woven location))) := by
    rw [encode, if_neg (fun outside => outside inside), if_neg (by omega), spell]
  rw [address, key]
  change (Address.mk _ <$> representative (spell (groups length (woven location)))) = _
  rw [representative_spell_groups least greatest]
  rfl

/-- A location off the globe has no bucket. -/
theorem address_eq_error (outside : inRange location = false) (length : Nat) :
    address location length = .error (.noKey location .outOfRange) := by
  have key : encode location length = .error .outOfRange := by
    rw [encode, if_pos (by simp [outside])]
  rw [address, key]
  rfl

end Bucket

end LoadAtlas
