import LoadAtlas.Config.Json
import LoadAtlas.Proofs.Config.Override
import LoadAtlas.Proofs.Config.Sound
import LoadAtlas.Proofs.Json.Members

/-!
# Configurations read from JSON and written to it

An object whose names are fields, none of them twice, gives the standard configuration with the
given words in place of its own, whatever the order of its members, and then the configuration is
checked.  Any other object is refused at its first name that is not a field or was there before.
A list of words is read as an object that gives them to the first fields.

A configuration is written as such an object of all its fields, so what is read back is the
configuration itself, or else what is wrong with it.
-/

namespace LoadAtlas
namespace Config

variable {pairs : List (String × UInt64)} {name : String} {value : UInt64}

/-! ## Reading an object -/

/-- A draft with one more member. -/
def take (draft : Json.Draft Config) (pair : String × UInt64) :
    Except Json.Fault (Json.Draft Config) :=
  match Field.ofName? pair.1 with
  | none => .error (.misfit (.unknownField pair.1 fieldNames))
  | some field =>
      if pair.1 ∈ draft.filled then .error (.misfit (.duplicateField pair.1))
      else .ok ⟨pair.1 :: draft.filled, draft.record.set field pair.2⟩

theorem take_name (draft : Json.Draft Config) (field : Field) (value : UInt64) :
    take draft (field.name, value) =
      if field.name ∈ draft.filled then .error (.misfit (.duplicateField field.name))
      else .ok ⟨field.name :: draft.filled, draft.record.set field value⟩ := by
  simp [take]

theorem find?_slots (name : String) : record.slots.find? (fun slot => slot.name = name) =
    (Field.ofName? name).map Field.slot :=
  List.find?_map

theorem reads_slots : ∀ slot ∈ record.slots, slot.Reads := by
  refine List.forall_mem_map.mpr fun field _ => ?_
  exact (Json.exact_readWord field.wordName).reads_slot field.name _

theorem record_take_wordMember (draft : Json.Draft Config) (pair : String × UInt64) :
    record.take draft (Json.wordMember pair) = take draft pair := by
  rw [Json.Record.take, Json.wordMember, find?_slots, take, Json.tokens_natural]
  cases known : Field.ofName? pair.1 with
  | none => rfl
  | some field =>
      simp only [Option.map_some]
      split <;> rfl

theorem complete_record (draft : Json.Draft Config) :
    record.complete draft = .ok draft.record := by
  rw [Json.Record.complete]
  split <;> rfl

theorem read_objectTokens (pairs : List (String × UInt64)) :
    record.read (Json.objectTokens pairs) =
      (pairs.foldlM take ⟨[], standard⟩).map fun draft => (draft.record, []) := by
  have blank : record.blank = standard := rfl
  rw [← Json.namedTokens_wordMember, Json.Record.read_namedTokens reads_slots, List.foldlM_map,
    blank]
  simp only [record_take_wordMember]
  cases pairs.foldlM take ⟨[], standard⟩ with
  | error fault => rfl
  | ok draft => simp [Except.bind, complete_record, Except.map]

theorem ofJson_of_isObject {text : String} (object : Json.IsObject pairs text) :
    ofJson text = (pairs.foldlM take ⟨[], standard⟩).bind fun draft =>
      draft.record.check.mapError fun fault => .misfit (.refused fault) := by
  simp only [ofJson, Json.Record.ofText, object.tokens_eq, read_objectTokens, bind,
    Except.bind]
  cases pairs.foldlM take ⟨[], standard⟩ <;> rfl

/-! ## Proper objects -/

/-- The names of a proper object fill their fields. -/
theorem Proper.foldlM_take (proper : Proper pairs) (draft : Json.Draft Config)
    (fresh : ∀ name ∈ draft.filled, name ∉ pairs.map Prod.fst) :
    pairs.foldlM take draft =
      .ok ⟨(pairs.map Prod.fst).reverse ++ draft.filled, draft.record.override pairs⟩ := by
  induction pairs generalizing draft with
  | nil => rfl
  | cons pair pairs induction =>
      obtain ⟨name, value⟩ := pair
      obtain ⟨field, -, rfl⟩ := List.mem_map.mp (proper.known _ List.mem_cons_self)
      have absent := (List.nodup_cons.mp proper.distinct).1
      have free : field.name ∉ draft.filled := fun filled =>
        fresh _ filled List.mem_cons_self
      have others := induction proper.of_cons
        ⟨field.name :: draft.filled, draft.record.set field value⟩ <| by
          rw [List.forall_mem_cons]
          exact ⟨absent, fun name filled listed =>
            fresh name filled (List.mem_cons_of_mem _ listed)⟩
      rw [List.foldlM_cons, take_name, if_neg free]
      refine others.trans ?_
      simp [override_cons _ _ _ absent]

theorem Proper.ofJson_eq (proper : Proper pairs) {text : String}
    (object : Json.IsObject pairs text) : ofJson text =
      (standard.override pairs).check.mapError fun fault => .misfit (.refused fault) := by
  rw [ofJson_of_isObject object, proper.foldlM_take _ (by simp)]
  rfl

/-- What is wrong with the first name that cannot be taken is what is wrong with the text. -/
theorem ofJson_of_take_error {early late : List (String × UInt64)} {pair : String × UInt64}
    {text : String} {fault : Json.Fault} (object : Json.IsObject (early ++ pair :: late) text)
    (proper : Proper early) (refused : ∀ draft : Json.Draft Config,
      draft.filled = (early.map Prod.fst).reverse → take draft pair = .error fault) :
    ofJson text = .error fault := by
  rw [ofJson_of_isObject object, List.foldlM_append, proper.foldlM_take _ (by simp)]
  simp [bind, Except.bind, refused]

/-- The first name that is not a field is refused. -/
theorem ofJson_unknown {early late : List (String × UInt64)} {text : String}
    (object : Json.IsObject (early ++ (name, value) :: late) text) (proper : Proper early)
    (unknown : name ∉ fieldNames) :
    ofJson text = .error (.misfit (.unknownField name fieldNames)) :=
  ofJson_of_take_error object proper fun draft _ => by
    simp [take, ofName?_eq_none_iff.mpr unknown]

/-- The first name that was there before is refused. -/
theorem ofJson_duplicate {early late : List (String × UInt64)} {text : String}
    (object : Json.IsObject (early ++ (name, value) :: late) text) (proper : Proper early)
    (again : name ∈ early.map Prod.fst) :
    ofJson text = .error (.misfit (.duplicateField name)) := by
  refine ofJson_of_take_error object proper fun draft filled => ?_
  obtain ⟨pair, member, rfl⟩ := List.mem_map.mp again
  obtain ⟨field, -, known⟩ := List.mem_map.mp (proper.known pair member)
  rw [← known, take_name, if_pos (by simpa [filled, known] using again)]

/-! ## Reading a list -/

theorem readItems_nil (length : Nat) (chosen : List Field) (config : Config) :
    record.readItems (length + 1) (chosen.map Field.slot) config (Json.moreItems []) =
      .ok (config, []) := by
  cases chosen <;> rfl

/-- The words behind the first one go to the fields that are left. -/
theorem readItems_moreItems {chosen : List Field} {values : List UInt64}
    (enough : values.length ≤ chosen.length) (distinct : (chosen.map Field.name).Nodup)
    (length : Nat) (config : Config) :
    record.readItems (length + 1) (chosen.map Field.slot) config (Json.moreItems values) =
      .ok (config.override ((chosen.map Field.name).zip values), []) := by
  induction values generalizing chosen length config with
  | nil => rw [readItems_nil, List.zip_nil_right]; rfl
  | cons value values induction =>
      cases chosen with
      | nil => exact absurd enough (Nat.not_succ_le_zero _)
      | cons field chosen =>
          rw [List.map_cons, List.nodup_cons] at distinct
          have others := induction (Nat.le_of_succ_le_succ enough) distinct.2 (length + 1)
            (config.set field value)
          rw [override_cons _ _ _ fun again =>
            distinct.1 ((map_fst_zip_sublist _ values).subset again)] at others
          exact others

theorem read_listTokens {values : List UInt64} (enough : values.length ≤ fields.length) :
    record.read (Json.listTokens values) =
      .ok (standard.override (fieldNames.zip values), []) := by
  cases values with
  | nil => rfl
  | cons value values =>
      have distinct : (fields.tail.map Field.name).Nodup := by decide
      have fewer : values.length ≤ fields.tail.length := Nat.le_of_succ_le_succ enough
      have others := readItems_moreItems fewer distinct 0 (standard.set .topLevel value)
      have absent : Field.topLevel.name ∉ fields.tail.map Field.name := by decide
      rw [override_cons _ _ _ fun again =>
        absent ((map_fst_zip_sublist _ values).subset again)] at others
      exact others

/-- A list is read as the object that gives its words to the first fields. -/
theorem ofJson_of_isList {values : List UInt64} {text : String} (list : Json.IsList values text)
    (enough : values.length ≤ fields.length) : ofJson text =
      (standard.override (fieldNames.zip values)).check.mapError fun fault =>
        .misfit (.refused fault) := by
  simp only [ofJson, Json.Record.ofText, list.tokens_eq, read_listTokens enough, bind, Except.bind]
  rfl

/-! ## What is written -/

/-- The names and words of fields. -/
def members (config : Config) (chosen : List Field) : List (String × UInt64) :=
  chosen.map fun field => (field.name, config.get field)

variable {tokens : List Json.Token} {text : List Char}

theorem spaces_newline : Json.Spaces ['\n'] := by
  simp [Json.Spaces, Json.isSpace]

theorem spells_jsonLine (config : Config) (field : Field) (others : Json.Spells tokens text) :
    Json.Spells (.quoted field.name :: .colon :: .word (config.get field) :: tokens)
      (config.jsonLine field ++ text) := by
  have blank : Json.Spaces [' '] := by simp [Json.Spaces, Json.isSpace]
  have indent : Json.Spaces [' ', ' '] := by simp [Json.Spaces, Json.isSpace]
  have value := Json.Spells.cons blank (.word (config.get field)) others
  have colon := Json.Spells.cons Json.spaces_nil .colon value
  have name := Json.Spells.cons indent
    (.quoted (Json.quotation_flatMap_writeCharacter field.name.toList)) colon
  simpa [jsonLine, Json.writeText] using name

theorem spells_jsonLines (config : Config) (field : Field) (chosen : List Field) :
    Json.Spells (.quoted field.name :: .colon :: .word (config.get field) ::
        Json.moreMembers (config.members chosen))
      ([',', '\n'].intercalate ((field :: chosen).map config.jsonLine) ++ ['\n', '\x7d']) := by
  induction chosen generalizing field with
  | nil =>
      have close := Json.Spells.cons spaces_newline .closeObject (.nil Json.spaces_nil)
      simpa [members, Json.moreMembers] using spells_jsonLine config field close
  | cons next chosen induction =>
      have comma := Json.Spells.cons Json.spaces_nil .comma ((induction next).after spaces_newline)
      simpa [members, Json.moreMembers] using spells_jsonLine config field comma

/-- A configuration is written as an object of all its fields. -/
theorem isObject_toJson (config : Config) :
    Json.IsObject (config.members fields) config.toJson := by
  have lines := spells_jsonLines config .topLevel fields.tail
  have object := Json.Spells.cons Json.spaces_nil .openObject (lines.after spaces_newline)
  have first : fields = .topLevel :: fields.tail := rfl
  rw [Json.IsObject, toJson, String.toList_ofList, first]
  simpa [members, Json.objectTokens] using object

theorem proper_members (config : Config) : Proper (config.members fields) where
  known := by
    rw [members, List.forall_mem_map]
    exact fun field member => List.mem_map_of_mem member
  distinct := by
    rw [members, List.map_map]
    exact nodup_fieldNames

theorem override_members (config base : Config) :
    base.override (config.members fields) = config := by
  refine ext_get fun field => ?_
  have given : (field.name, config.get field) ∈ config.members fields :=
    List.mem_map.mpr ⟨field, field.mem_fields, rfl⟩
  rw [override, get_tabulate,
    (Table.lookup_eq_some_iff (proper_members config).distinct).mpr given, Option.getD_some]

/-- A configuration that was written is read back, and then checked. -/
theorem ofJson_toJson_eq (config : Config) : ofJson config.toJson =
    config.check.mapError fun fault => .misfit (.refused fault) := by
  rw [(proper_members config).ofJson_eq (isObject_toJson config), override_members]

/-- Whatever is read has passed the check. -/
theorem sound_of_ofJson {text : String} {config : Config} (loaded : ofJson text = .ok config) :
    config.Sound := by
  simp only [ofJson, bind, Except.bind] at loaded
  cases read : record.ofText text with
  | error fault => simp [read] at loaded
  | ok given =>
      simp only [read] at loaded
      cases checked : given.check with
      | error fault => simp [checked, Except.mapError] at loaded
      | ok same =>
          rw [checked] at loaded
          obtain rfl := Except.ok.inj loaded
          obtain ⟨sound, rfl⟩ := check_eq_ok_iff.mp checked
          exact sound

/-! ## All that can be told of reading and writing -/

/-- What a reader does with the written form of a configuration. -/
structure ReadsBack (read : String → Except Json.Fault Config) (config : Config) : Prop where
  /-- A sound configuration is read back as it was. -/
  sound : config.fault? = none → read config.toJson = .ok config
  /-- Any other one is refused with the message of its check. -/
  unsound : ∀ fault, config.fault? = some fault → ∃ refusal,
    read config.toJson = .error refusal ∧ refusal.message = fault.message
  /-- No text gives a configuration that the check refuses. -/
  checked : ∀ text, read text = .ok config → config.fault? = none

theorem readsBack_ofJson (config : Config) : ReadsBack ofJson config where
  sound sound := by
    rw [ofJson_toJson_eq, check_eq_ok_iff.mpr ⟨sound, rfl⟩]
    rfl
  unsound fault found := by
    refine ⟨.misfit (.refused fault), ?_, rfl⟩
    rw [ofJson_toJson_eq, check, found]
    rfl
  checked _ loaded := sound_of_ofJson loaded

/-- What a reader does with objects and lists of words. -/
structure Decodes (read : String → Except Json.Fault Config) : Prop where
  /-- Fields in any order, none of them twice, replace those of the standard configuration,
  which is checked then. -/
  object : ∀ pairs text, Json.IsObject pairs text → Proper pairs → read text =
    (standard.override pairs).check.mapError fun fault => .misfit (.refused fault)
  /-- Their order does not matter. -/
  unordered : ∀ pairs others text text', Json.IsObject pairs text → Json.IsObject others text' →
    Proper pairs → pairs.Perm others → read text = read text'
  /-- Else there is a first name that is not a field, or was there before. -/
  improper : ∀ pairs, ¬ Proper pairs → ∃ early name value late,
    pairs = early ++ (name, value) :: late ∧ Proper early ∧
      (name ∉ fieldNames ∨ name ∈ early.map Prod.fst)
  /-- If it is not a field, it is refused as unknown. -/
  unknown : ∀ early name value late text, Json.IsObject (early ++ (name, value) :: late) text →
    Proper early → name ∉ fieldNames →
      read text = .error (.misfit (.unknownField name fieldNames))
  /-- If it was there before, it is refused for that. -/
  duplicate : ∀ early name value late text, Json.IsObject (early ++ (name, value) :: late) text →
    Proper early → name ∈ early.map Prod.fst →
      read text = .error (.misfit (.duplicateField name))
  /-- A list gives its words to the first fields. -/
  list : ∀ values text text', values.length ≤ fields.length → Json.IsList values text →
    Json.IsObject (fieldNames.zip values) text' → read text = read text'
  /-- There are such texts. -/
  written : (∀ pairs, ∃ text, Json.IsObject pairs text) ∧ ∀ values, ∃ text, Json.IsList values text

theorem decodes_ofJson : Decodes ofJson where
  object _ _ object proper := proper.ofJson_eq object
  unordered _ _ _ _ object other proper same := by
    rw [proper.ofJson_eq object, (proper.perm same).ofJson_eq other, proper.override_perm same]
  improper _ := exists_of_not_proper
  unknown _ _ _ _ _ object proper := ofJson_unknown object proper
  duplicate _ _ _ _ _ object proper := ofJson_duplicate object proper
  list values _ _ enough list object := by
    rw [ofJson_of_isList list enough, (proper_zip_fieldNames values).ofJson_eq object]
  written := ⟨Json.exists_isObject, Json.exists_isList⟩

end Config
end LoadAtlas
