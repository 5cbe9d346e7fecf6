import Zero3Pilot.TaskExtension.Store

/-! # The files of task extensions

What a restart finds: the text of a record's file is read back as that record, but for the numbers,
which are read from their literals. A body that carries the fields of a record is never longer than
the file of the record, whose two timestamps and indentation outweigh an expected version. -/

namespace Zero3Pilot.TaskExtension

open Json (bytes comparedNumber comparedValue depth mapMembers quote)
open ControlPlane (IsId optionalMember readString readUnsigned requiredField optionalField u64Max
  field_of_nodup names_optionalMember requiredField_of_lookup readUnsigned_nat)

variable {package : SerdeJson}

/-! ## Reading a record back -/

def ExtensionFields.mapNumbers (f : NumberLiteral → NumberLiteral) (fields : ExtensionFields) :
    ExtensionFields where
  projectContext := fields.projectContext.map (Json.mapNumbers f)
  handoff := fields.handoff.map (Json.mapNumbers f)
  provider := fields.provider.map (Json.mapNumbers f)
  review := fields.review.map (Json.mapNumbers f)

def TaskExtensionRecord.reread (package : SerdeJson) (record : TaskExtensionRecord) :
    TaskExtensionRecord :=
  { record with fields := record.fields.mapNumbers package.readNumber }

structure FieldValue (package : SerdeJson) (value : Json) : Prop where
  proper : value ≠ .null
  shallow : value.depth ≤ 126
  printed : value.AllNumbers package.Prints

structure TaskExtensionRecord.Checked (record : TaskExtensionRecord) : Prop where
  schema : record.schema = taskExtensionSchema
  taskId : IsId record.taskId
  executionId : IsId record.executionId
  version : 1 ≤ record.version ∧ record.version ≤ u64Max
  present : ∃ value ∈ record.fields.values, value.isSome
  size : bytes record.text ≤ maxExtensionBytes

/-- **A stored record.** -/
structure TaskExtensionRecord.Stored (package : SerdeJson) (record : TaskExtensionRecord) : Prop
    extends record.Checked where
  values : ∀ value, some value ∈ record.fields.values → FieldValue package value

theorem mem_optionalMember {name : String} {value : Option Json} {member : String × Json} :
    member ∈ optionalMember name value ↔ member.1 = name ∧ value = some member.2 := by
  obtain ⟨key, found⟩ := member
  cases value with
  | none => simp [optionalMember]
  | some value => simp [optionalMember, eq_comm]

variable {record : TaskExtensionRecord}

theorem TaskExtensionRecord.members_spec {p : Json → Prop} (texts : ∀ text, p (.string text))
    (version : p (.nat record.version)) (values : ∀ value, some value ∈ record.fields.values → p value) :
    ∀ member ∈ record.members, p member.2 := by
  intro member isMember
  simp only [members, ExtensionFields.present, List.mem_append, List.mem_cons, List.not_mem_nil,
    or_false, mem_optionalMember] at isMember
  have inFields {value : Option Json} (isField : value ∈ record.fields.values)
      (found : value = some member.2) : p member.2 := values member.2 (found ▸ isField)
  rcases isMember with ((rfl | rfl | rfl | rfl) | (((⟨-, found⟩ | ⟨-, found⟩) | ⟨-, found⟩) |
    ⟨-, found⟩)) | (rfl | rfl)
  · exact texts _
  · exact texts _
  · exact texts _
  · exact version
  · exact inFields (by simp [ExtensionFields.values]) found
  · exact inFields (by simp [ExtensionFields.values]) found
  · exact inFields (by simp [ExtensionFields.values]) found
  · exact inFields (by simp [ExtensionFields.values]) found
  · exact texts _
  · exact texts _

theorem mapMembers_optionalMember (f : NumberLiteral → NumberLiteral) (name : String)
    (value : Option Json) :
    mapMembers f (optionalMember name value) =
      optionalMember name (value.map (Json.mapNumbers f)) := by
  cases value with
  | none => rfl
  | some value => rfl

theorem TaskExtensionRecord.members_reread (lawful : package.Lawful) (version : record.version ≤ u64Max) :
    mapMembers package.readNumber record.members = (record.reread package).members := by
  simp only [members, reread, ExtensionFields.present, ExtensionFields.mapNumbers,
    Json.mapMembers_append, mapMembers_optionalMember]
  simp [mapMembers, Json.mapNumbers, Json.nat, lawful.readNumber_nat _ version]

theorem TaskExtensionRecord.names_nodup (record : TaskExtensionRecord) :
    (record.members.map Prod.fst).Nodup := by
  have first : List.Sublist ["schema", "task_id", "execution_id", "version"]
      ["schema", "task_id", "execution_id", "version"] := List.Sublist.refl _
  have last : List.Sublist ["created_at", "updated_at"] ["created_at", "updated_at"] :=
    List.Sublist.refl _
  have fields := (((names_optionalMember "project_context" record.fields.projectContext).append
    (names_optionalMember "handoff" record.fields.handoff)).append
    (names_optionalMember "provider" record.fields.provider)).append
    (names_optionalMember "review" record.fields.review)
  have names := (first.append fields).append last
  simp only [members, ExtensionFields.present, List.map_append]
  exact names.nodup (by simp)

theorem readInstant_text (instant : Instant) : readInstant (.string instant.text) = some instant :=
  dif_pos instant.long

theorem optionalField_value {members : List (String × Json)}
    (nodup : (members.map Prod.fst).Nodup) {name : String} {value : Option Json}
    (found : members.lookup name = value) (proper : ∀ written ∈ value, written ≠ .null) :
    optionalField members name some = some value := by
  rw [optionalField, field_of_nodup nodup, found]
  cases value with
  | none => rfl
  | some value =>
    have notNull : value ≠ .null := proper value rfl
    cases value with
    | null => exact absurd rfl notNull
    | bool _ | number _ | string _ | array _ | object _ => rfl

/-- **A record is read back from its own members.** -/
theorem TaskExtensionRecord.fromJson_members (version : record.version ≤ u64Max)
    (proper : ∀ value, some value ∈ record.fields.values → value ≠ .null) :
    fromJson (.object record.members) = some record := by
  have nodup := record.names_nodup
  have required {α : Type} {name : String} {value : α} (written : Json) (read : Json → Option α)
      (found : record.members.lookup name = some written) (reads : read written = some value) :
      requiredField record.members name read = some value := by
    rw [requiredField_of_lookup nodup found, reads]
  have schema : requiredField record.members "schema" readString = some record.schema :=
    required (.string record.schema) readString (by simp [members]) rfl
  have taskId : requiredField record.members "task_id" readString = some record.taskId :=
    required (.string record.taskId) readString (by simp [members, List.lookup_cons]) rfl
  have executionId : requiredField record.members "execution_id" readString =
      some record.executionId :=
    required (.string record.executionId) readString (by simp [members, List.lookup_cons]) rfl
  have versionRead : requiredField record.members "version" (readUnsigned u64Max) =
      some record.version :=
    required (.nat record.version) _ (by simp [members, List.lookup_cons])
      (readUnsigned_nat version)
  have optional {name : String} {value : Option Json} (found : record.members.lookup name = value)
      (isField : value ∈ record.fields.values) :
      optionalField record.members name some = some value := by
    refine optionalField_value nodup found fun written isWritten => proper written ?_
    rwa [← (show value = some written from isWritten)]
  have projectContext : optionalField record.members "project_context" some =
      some record.fields.projectContext :=
    optional (by simp [members, ExtensionFields.present, List.lookup_cons])
      (by simp [ExtensionFields.values])
  have handoff : optionalField record.members "handoff" some = some record.fields.handoff :=
    optional (by simp [members, ExtensionFields.present, List.lookup_cons])
      (by simp [ExtensionFields.values])
  have provider : optionalField record.members "provider" some = some record.fields.provider :=
    optional (by simp [members, ExtensionFields.present, List.lookup_cons])
      (by simp [ExtensionFields.values])
  have review : optionalField record.members "review" some = some record.fields.review :=
    optional (by simp [members, ExtensionFields.present, List.lookup_cons])
      (by simp [ExtensionFields.values])
  have createdAt : requiredField record.members "created_at" readInstant = some record.createdAt :=
    required (.string record.createdAt.text) _
      (by simp [members, ExtensionFields.present, List.lookup_cons])
      (readInstant_text record.createdAt)
  have updatedAt : requiredField record.members "updated_at" readInstant = some record.updatedAt :=
    required (.string record.updatedAt.text) _
      (by simp [members, ExtensionFields.present, List.lookup_cons])
      (readInstant_text record.updatedAt)
  rw [fromJson, schema, taskId, executionId, versionRead, projectContext, handoff, provider, review,
    createdAt, updatedAt]
  rfl

theorem mapNumbers_ne_null {f : NumberLiteral → NumberLiteral} {value : Json}
    (proper : value ≠ .null) : value.mapNumbers f ≠ .null := by
  cases value with
  | null => exact absurd rfl proper
  | bool _ | number _ | string _ | array _ | object _ => simp [Json.mapNumbers]

theorem validateId_ok {label value : String} {done : Unit} :
    validateId label value = .ok done ↔ IsId value := by
  rw [validateId, ensure_ok]
  constructor
  · rintro ⟨nonempty, short, plain⟩
    exact ⟨nonempty, short, plain⟩
  · rintro ⟨nonempty, short, plain⟩
    exact ⟨nonempty, short, plain⟩

/-- **A record is read back from its file**, each number as its literal is read. -/
theorem readRecord_text (lawful : package.Lawful) (stored : record.Stored package) (name : String) :
    readRecord package name (.whole record.text) = .ok (record.reread package) := by
  have shallow : (Json.object record.members).depth ≤ 127 := by
    rw [depth, Nat.add_le_add_iff_right, Json.membersDepth_le]
    exact record.members_spec (p := fun value => value.depth ≤ 126) (fun _ => by simp [depth])
      (by simp [Json.nat, depth]) fun value found => (stored.values value found).shallow
  have printed : (Json.object record.members).AllNumbers package.Prints := by
    rw [Json.AllNumbers, Json.allMembers_iff]
    exact record.members_spec (p := fun value => value.AllNumbers package.Prints)
      (fun _ => trivial) (lawful.prints_nat _ stored.version.2)
      fun value found => (stored.values value found).printed
  have parsed : package.read record.text = some (.object (record.reread package).members) := by
    rw [TaskExtensionRecord.text, lawful.read_renderPretty _ shallow printed, Json.mapNumbers,
      record.members_reread lawful stored.version.2]
  have proper : ∀ value, some value ∈ (record.reread package).fields.values → value ≠ .null := by
    intro value found
    simp only [TaskExtensionRecord.reread, ExtensionFields.mapNumbers, ExtensionFields.values,
      List.mem_cons, List.not_mem_nil, or_false, eq_comm (a := some value), Option.map_eq_some_iff]
      at found
    have kept {written : Json} (isField : some written ∈ record.fields.values)
        (mapped : written.mapNumbers package.readNumber = value) : value ≠ .null :=
      mapped ▸ mapNumbers_ne_null (stored.values written isField).proper
    rcases found with ⟨written, isField, mapped⟩ | ⟨written, isField, mapped⟩ |
      ⟨written, isField, mapped⟩ | ⟨written, isField, mapped⟩
    all_goals exact kept (by simp [ExtensionFields.values, isField]) mapped
  have read : TaskExtensionRecord.fromJson (.object (record.reread package).members) =
      some (record.reread package) :=
    TaskExtensionRecord.fromJson_members stored.version.2 proper
  have versionNe : (record.reread package).version ≠ 0 := Nat.one_le_iff_ne_zero.1 stored.version.1
  have valid {label value : String} (isId : IsId value) :
      (validateId label value).mapError (·.message) = .ok () := by
    have passed : validateId label value = .ok () := validateId_ok.2 isId
    rw [passed]
    rfl
  rw [readRecord, parsed, Option.bind_some, read]
  simp only [bind_ok, ensure_ok, orError_ok, pure_ok]
  exact ⟨(), stored.size, _, rfl, (), valid stored.taskId, (), valid stored.executionId, (),
    ⟨stored.schema, versionNe⟩, rfl⟩

theorem TaskExtensionRecord.reread_eq_self (readBack : ∀ value, some value ∈ record.fields.values →
      value.AllNumbers package.ReadsBack) : record.reread package = record := by
  have kept {value : Option Json} (isField : value ∈ record.fields.values) :
      value.map (Json.mapNumbers package.readNumber) = value := by
    cases value with
    | none => rfl
    | some value =>
      have numbers := (readBack value isField).imp fun _ reads => reads.2
      exact congrArg some (Json.mapNumbers_eq_self value numbers)
  have fields : record.fields.mapNumbers package.readNumber = record.fields := by
    rw [ExtensionFields.mapNumbers, kept (by simp [ExtensionFields.values]),
      kept (by simp [ExtensionFields.values]), kept (by simp [ExtensionFields.values]),
      kept (by simp [ExtensionFields.values])]
  rw [reread, fields]

/-! ## The sizes of bodies and files -/

theorem length_le_bytes (text : List Char) : text.length ≤ bytes text := by
  induction text with
  | nil => exact Nat.le_refl _
  | cons c text ih =>
    have first := Json.one_le_utf8Size c
    simp only [List.length_cons, Json.bytes_cons]
    omega

theorem length_le_escape (text : List Char) : text.length ≤ (Json.escape text).length := by
  induction text with
  | nil => exact Nat.le_refl _
  | cons c text ih =>
    have first : 1 ≤ (Json.escapeChar c).length := by
      unfold Json.escapeChar
      split_ifs <;> simp
    simp only [Json.escape_cons, List.length_cons, List.length_append]
    omega

theorem bytes_instant (instant : Instant) : 22 ≤ bytes (quote instant.text) := by
  have long := instant.long
  have escaped := length_le_escape instant.text.toList
  have size := length_le_bytes (quote instant.text)
  simp only [quote, List.length_cons, List.length_append, List.cons_append] at size
  simp only [quote, List.cons_append]
  omega

theorem bytes_version {n : Nat} (bounded : n ≤ u64Max) : bytes (Json.nat n).render ≤ 20 := by
  have length : (Nat.toDigits 10 n).length ≤ 20 :=
    (Nat.length_toDigits_le_iff (by decide) (by decide)).2 (Nat.lt_of_le_of_lt bounded (by decide))
  show bytes (Nat.toDigits 10 n) ≤ 20
  rw [Json.bytes_toDigits]
  exact length

theorem bytes_comparedNumber (literal : NumberLiteral) :
    bytes (comparedNumber literal).text ≤ bytes literal.text ∧
      bytes literal.text ≤ bytes (comparedNumber literal).text + 1 := by
  by_cases negative : literal.text = ['-', '0', '.', '0']
  · rw [comparedNumber, if_pos negative, negative]
    decide
  · rw [comparedNumber, if_neg negative]
    omega

theorem bytes_comparedValue {sent stored : Json} (same : comparedValue stored = comparedValue sent) :
    bytes sent.render ≤ bytes (stored.renderPretty 1) + 1 := by
  have trees : stored.mapNumbers comparedNumber = sent.mapNumbers comparedNumber :=
    Json.render_injective same
  have compact := (Json.size_render_le bytes_comparedNumber 1 sent).1
  have indented := (Json.size_render_le bytes_comparedNumber 1 stored).2
  rw [← trees] at compact
  omega

/-- A field of a body takes no more room than that of a record that matches it, but for a field that
is not there. -/
theorem membersSize_field (name : String) {sent stored : Option Json}
    (same : stored.map comparedValue = sent.map comparedValue) :
    Json.membersSize (fun value => bytes value.render) 2 [(name, sent.getD .null)] ≤
      Json.membersSize (fun value => bytes (value.renderPretty 1)) 6
        (optionalMember name stored) + (bytes (quote name) + 6) := by
  cases stored with
  | none =>
    cases sent with
    | none =>
      have null : bytes Json.null.render = 4 := by decide
      simp only [optionalMember, Json.membersSize_cons, Json.membersSize_nil, Option.getD_none,
        null]
      omega
    | some sent => simp at same
  | some stored =>
    cases sent with
    | none => simp at same
    | some sent =>
      have close := bytes_comparedValue (Option.some.inj same)
      simp only [optionalMember, Json.membersSize_cons, Json.membersSize_nil, Option.getD_some]
      omega

/-- **A body that a record matches is no longer than the record's file.** -/
theorem bytes_body_le {body : PutTaskExtensionBody} (matched : record.matchesPayload body)
    (readable : body.Readable) :
    bytes body.text ≤ bytes record.text := by
  simp only [TaskExtensionRecord.matchesPayload, Bool.and_eq_true, decide_eq_true_eq,
    ExtensionFields.compared, ExtensionFields.values, List.map_cons, List.map_nil,
    List.cons.injEq] at matched
  obtain ⟨⟨schema, executionId⟩, projectContext, handoff, provider, review, -⟩ := matched
  have field₁ := membersSize_field "project_context" projectContext
  have field₂ := membersSize_field "handoff" handoff
  have field₃ := membersSize_field "provider" provider
  have field₄ := membersSize_field "review" review
  have expected : bytes ((body.expectedVersion.map Json.nat).getD .null).render ≤ 20 := by
    cases isVersion : body.expectedVersion with
    | none => decide
    | some version => exact bytes_version (readable.version version isVersion)
  have created := bytes_instant record.createdAt
  have updated := bytes_instant record.updatedAt
  have taskId : 2 ≤ bytes (quote record.taskId) := by
    have size := length_le_bytes (quote record.taskId)
    simp only [quote, List.length_cons, List.length_append, List.cons_append,
      List.length_nil] at size ⊢
    omega
  have names : bytes (quote "schema") = 8 ∧ bytes (quote "task_id") = 9 ∧
      bytes (quote "execution_id") = 14 ∧
      bytes (quote "expected_version") = 18 ∧ bytes (quote "version") = 9 ∧
      bytes (quote "created_at") = 12 ∧ bytes (quote "updated_at") = 12 ∧
      bytes (quote "project_context") = 17 ∧ bytes (quote "handoff") = 9 ∧
      bytes (quote "provider") = 10 ∧ bytes (quote "review") = 8 := by decide
  rw [PutTaskExtensionBody.text, TaskExtensionRecord.text,
    Json.size_render_object (by simp [PutTaskExtensionBody.members]),
    Json.size_renderPretty_object (by simp [TaskExtensionRecord.members])]
  simp only [PutTaskExtensionBody.members, TaskExtensionRecord.members, ExtensionFields.present,
    ExtensionFields.nullable, Json.membersSize_append, Json.membersSize_cons, Json.membersSize_nil,
    Json.render, Json.renderPretty, schema, executionId] at field₁ field₂ field₃ field₄ ⊢
  omega

end Zero3Pilot.TaskExtension
