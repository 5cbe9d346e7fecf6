import Zero3Pilot.Foundations.AtomicReplace
import Zero3Pilot.Foundations.Uuid
import Zero3Pilot.ControlPlane.Validation

/-! # The files of the remote control plane

The directories `tasks` and `nodes` of `apps/web/src/control_plane.rs`, which hold one JSON file a
record: the names of the files, reading them back in `ControlPlane::open`, and the relation between
a directory and the map it holds. A file whose content is a whole record stands for the JSON text
of that record. -/

namespace Zero3Pilot.ControlPlane

def fileName (id : String) : String := id ++ ".json"

/-- The name of the temporary sibling `write_json_atomic` writes. -/
def temporaryName (name : String) (uuid : Uuid) : String := "." ++ name ++ ".tmp-" ++ uuid.text

/-- `Path::extension` of a file name: what follows the last dot, unless that dot leads the name. -/
def extension (name : String) : Option String :=
  if name = ".." then none
  else if (name.toList.rdropWhile (· ≠ '.')).length ≤ 1 then none
  else some (String.ofList (name.toList.rtakeWhile (· ≠ '.')))

def jsonFiles {α : Type} (directory : Directory α) : List (String × FileContent α) :=
  directory.toList.filter fun entry => extension entry.1 = some "json"

/-- The loop of `ControlPlane::open` over the files of one directory: a torn file does not parse,
a parsed record must have a valid identifier, under which it is inserted. -/
def loadFiles {α : Type} (label : String) (idOf : α → String) :
    List (String × FileContent α) → BTreeMap α → Except String (BTreeMap α)
  | [], records => .ok records
  | (name, .torn) :: _, _ => .error ("invalid record file " ++ name)
  | (_, .whole record) :: files, records =>
    match validateId label (idOf record) with
    | .error error => .error error.message
    | .ok _ => loadFiles label idOf files (records.insert (idOf record) record)

def loadRecords {α : Type} (label : String) (idOf : α → String) (directory : Directory α) :
    Except String (BTreeMap α) :=
  loadFiles label idOf (jsonFiles directory) ∅

/-- The two directories below the root of the control plane. -/
structure Disk where
  tasks : Directory TaskRecord
  nodes : Directory NodeRecord

def Disk.open (disk : Disk) : Except String ControlPlaneState := do
  let tasks ← loadRecords "persisted task_id" (·.task.taskId) disk.tasks
  let nodes ← loadRecords "persisted node_id" (·.nodeId) disk.nodes
  return ⟨tasks, nodes⟩

/-! ## File names -/

theorem extension_append_dot {before after : String} (some_before : before ≠ "")
    (some_after : after ≠ "") (noDot : after.toList.all (· ≠ '.')) :
    extension (before ++ "." ++ after) = some after := by
  have chars : (before ++ "." ++ after).toList = before.toList ++ '.' :: after.toList := by
    simp [String.toList_append]
  have tail : ∀ char ∈ after.toList.reverse, (decide (char ≠ '.')) = true := by
    intro char member
    exact List.all_eq_true.1 noDot char (List.mem_reverse.1 member)
  have dropped : (before ++ "." ++ after).toList.rdropWhile (· ≠ '.') = before.toList ++ ['.'] := by
    rw [chars, List.rdropWhile, List.reverse_append, List.reverse_cons, List.append_assoc,
      List.dropWhile_append_of_pos tail]
    simp
  have taken : (before ++ "." ++ after).toList.rtakeWhile (· ≠ '.') = after.toList := by
    rw [chars, List.rtakeWhile, List.reverse_append, List.reverse_cons, List.append_assoc,
      List.takeWhile_append_of_pos tail]
    simp
  have nonempty {text : String} (some_text : text ≠ "") : 0 < text.toList.length :=
    List.length_pos_iff.2 fun empty => some_text (String.toList_inj.1 empty)
  have notDots : before ++ "." ++ after ≠ ".." := by
    intro same
    have lengths : before.toList.length + (after.toList.length + 1) = 2 := by
      rw [← List.length_cons, ← List.length_append, ← chars, same]
      rfl
    have beforeLength := nonempty some_before
    have afterLength := nonempty some_after
    omega
  rw [extension, if_neg notDots, dropped, taken, if_neg (by simp; simpa using some_before),
    String.ofList_toList]

theorem extension_fileName {id : String} (valid : IsId id) :
    extension (fileName id) = some "json" := by
  have shape : fileName id = id ++ "." ++ "json" := by
    rw [fileName, String.append_assoc]
    rfl
  rw [shape]
  exact extension_append_dot valid.nonempty (by decide) (by decide)

theorem extension_tmp {before : String} (some_before : before ≠ "") (uuid : Uuid) :
    extension (before ++ "." ++ ("tmp-" ++ uuid.text)) ≠ some "json" := by
  have noDot : ("tmp-" ++ uuid.text).toList.all (· ≠ '.') := by
    rw [String.toList_append, List.all_append, Bool.and_eq_true]
    refine ⟨by decide, List.all_eq_true.2 fun char member => ?_⟩
    have plain := List.all_eq_true.1 uuid.plain char member
    by_contra dot
    have isDot : char = '.' := by simpa using dot
    rw [isDot] at plain
    exact absurd plain (by decide)
  rw [extension_append_dot some_before (by simp) noDot]
  intro same
  have first := congrArg (fun text => text.map (·.toList.head?)) same
  simp [String.toList_append] at first

theorem extension_temporaryName (name : String) (uuid : Uuid) :
    extension (temporaryName name uuid) ≠ some "json" := by
  have shape : temporaryName name uuid = ("." ++ name) ++ "." ++ ("tmp-" ++ uuid.text) := by
    simp only [temporaryName, String.append_assoc]
    rfl
  rw [shape]
  exact extension_tmp (by simp) uuid

theorem fileName_injective {id id' : String} (same : fileName id = fileName id') : id = id' := by
  have chars := congrArg String.toList same
  simp only [fileName, String.toList_append, List.append_cancel_right_eq] at chars
  exact String.toList_inj.1 chars

/-! ## Building a map -/

def insertAll {α : Type} (entries : List (String × α)) (records : BTreeMap α) : BTreeMap α :=
  entries.foldl (fun records entry => records.insert entry.1 entry.2) records

section

variable {α : Type} {records : BTreeMap α} {entries : List (String × α)}
  (known : ∀ entry ∈ entries, records[entry.1]? = some entry.2)
include known

theorem insertAll_spec (loaded : BTreeMap α)
    (inside : ∀ (id : String) (record : α), loaded[id]? = some record →
      records[id]? = some record) :
    (∀ (id : String) (record : α), (insertAll entries loaded)[id]? = some record →
        records[id]? = some record) ∧
      (∀ (id : String) (record : α), loaded[id]? = some record ∨ (id, record) ∈ entries →
        (insertAll entries loaded)[id]? = some record) := by
  induction entries generalizing loaded with
  | nil => exact ⟨inside, fun _ _ found => found.resolve_right (by simp)⟩
  | cons entry entries ih =>
    obtain ⟨key, value⟩ := entry
    have stored : records[key]? = some value := known _ List.mem_cons_self
    have looked (id : String) : (loaded.insert key value)[id]? =
        if key = id then some value else loaded[id]? := by
      rw [Std.ExtTreeMap.getElem?_insert]
      exact if_congr (by simp) rfl rfl
    have inside' : ∀ (id : String) (record : α), (loaded.insert key value)[id]? = some record →
        records[id]? = some record := by
      intro id record found
      by_cases hit : key = id
      · rw [looked, if_pos hit] at found
        rw [← hit, stored, found]
      · rw [looked, if_neg hit] at found
        exact inside id record found
    obtain ⟨sound, complete⟩ :=
      ih (fun later member => known later (List.mem_cons_of_mem _ member)) _ inside'
    refine ⟨sound, fun id record found => complete id record ?_⟩
    by_cases hit : key = id
    · -- an entry under the same key is the same entry, as both are entries of the map
      have same : records[id]? = some record := by
        rcases found with old | member
        · exact inside id record old
        · exact known _ member
      rw [looked, if_pos hit, ← stored, hit, same]
      exact .inl rfl
    · rw [looked, if_neg hit]
      refine found.imp_right fun member => (List.mem_cons.1 member).resolve_left fun same => ?_
      exact hit (congrArg Prod.fst same).symm

theorem insertAll_eq
    (complete : ∀ (id : String) (record : α), records[id]? = some record → (id, record) ∈ entries) :
    insertAll entries ∅ = records := by
  obtain ⟨sound, all⟩ := insertAll_spec known ∅ (by simp)
  refine Std.ExtTreeMap.ext_getElem? fun id => Option.ext fun record => ?_
  exact ⟨sound id record, fun stored => all id record (.inr (complete id record stored))⟩

end

/-! ## Directories that hold a map -/

/-- **A directory mirrors a map**: its JSON files are whole records filed under the names of their
identifiers, and they are exactly the records of the map. -/
structure Mirrors {α : Type} (idOf : α → String) (directory : Directory α)
    (records : BTreeMap α) : Prop where
  sound : ∀ name content, directory[name]? = some content → extension name = some "json" →
    ∃ id record, name = fileName id ∧ content = .whole record ∧ records[id]? = some record
  /-- Every record of the map is filed under its own, valid identifier. -/
  complete : ∀ id record, records[id]? = some record →
    idOf record = id ∧ IsId id ∧ directory[fileName id]? = some (.whole record)

variable {α : Type} {idOf : α → String} {directory : Directory α} {records : BTreeMap α}

theorem Mirrors.empty : Mirrors idOf (∅ : Directory α) ∅ where
  sound := by simp
  complete := by simp

theorem loadFiles_eq (label : String) (idOf : α → String) {files : List (String × FileContent α)}
    (known : ∀ entry ∈ files, ∃ record, entry.2 = .whole record ∧ IsId (idOf record))
    (loaded : BTreeMap α) :
    ∃ entries, loadFiles label idOf files loaded = .ok (insertAll entries loaded) ∧
      ∀ id record, (id, record) ∈ entries ↔
        idOf record = id ∧ ∃ name, (name, FileContent.whole record) ∈ files := by
  induction files generalizing loaded with
  | nil => exact ⟨[], rfl, by simp⟩
  | cons entry files ih =>
    obtain ⟨name, content⟩ := entry
    obtain ⟨record, rfl, valid⟩ := known _ List.mem_cons_self
    obtain ⟨entries, run, listed⟩ :=
      ih (fun entry member => known entry (List.mem_cons_of_mem _ member))
        (loaded.insert (idOf record) record)
    have passed : validateId label (idOf record) = .ok () := validateId_ok.2 valid
    refine ⟨(idOf record, record) :: entries, ?_, fun id found => ?_⟩
    · rw [loadFiles, passed]
      exact run
    · simp only [List.mem_cons, Prod.mk.injEq, listed, FileContent.whole.injEq]
      constructor
      · rintro (⟨rfl, rfl⟩ | ⟨isId, other, member⟩)
        · exact ⟨rfl, name, .inl ⟨rfl, rfl⟩⟩
        · exact ⟨isId, other, .inr member⟩
      · rintro ⟨isId, other, ⟨rfl, rfl⟩ | member⟩
        · exact .inl ⟨isId.symm, rfl⟩
        · exact .inr ⟨isId, other, member⟩

theorem mem_jsonFiles {entry : String × FileContent α} : entry ∈ jsonFiles directory ↔
      directory[entry.1]? = some entry.2 ∧ extension entry.1 = some "json" := by
  rw [jsonFiles, List.mem_filter, decide_eq_true_eq]
  exact and_congr_left fun _ => Std.ExtTreeMap.mem_toList_iff_getElem?_eq_some

/-- **A directory that mirrors a map is loaded as that map.** -/
theorem Mirrors.loadRecords (mirrors : Mirrors idOf directory records) (label : String) :
    loadRecords label idOf directory = .ok records := by
  have held {entry : String × FileContent α} (member : entry ∈ jsonFiles directory) :
      ∃ record, entry.2 = .whole record ∧ IsId (idOf record) ∧
        records[idOf record]? = some record := by
    obtain ⟨found, isJson⟩ := mem_jsonFiles.1 member
    obtain ⟨id, record, -, whole, stored⟩ := mirrors.sound _ _ found isJson
    obtain ⟨rfl, valid, -⟩ := mirrors.complete _ _ stored
    exact ⟨record, whole, valid, stored⟩
  obtain ⟨entries, run, listed⟩ := loadFiles_eq label idOf
    (fun entry member => (held member).imp fun _ holds => ⟨holds.1, holds.2.1⟩) ∅
  rw [ControlPlane.loadRecords, run, insertAll_eq]
  · rintro ⟨id, record⟩ member
    obtain ⟨rfl, name, filed⟩ := (listed id record).1 member
    obtain ⟨record', whole, -, stored⟩ := held filed
    cases whole
    exact stored
  · intro id record stored
    obtain ⟨rfl, valid, filed⟩ := mirrors.complete _ _ stored
    exact (listed _ _).2 ⟨rfl, fileName (idOf record),
      mem_jsonFiles.2 ⟨filed, extension_fileName valid⟩⟩

/-- **Replacing a record's file.** The directory goes on mirroring the old map until the new file is
published, and mirrors the map with the new record from then on. -/
theorem Mirrors.replace (mirrors : Mirrors idOf directory records) {record : α}
    (valid : IsId (idOf record)) (uuid : Uuid) (fault : Option WriteStep) :
    let name := fileName (idOf record)
    let temporary := temporaryName name uuid
    Mirrors idOf (replaceAtomically directory name temporary record fault).2
      (if publishes (firstFailure directory temporary fault) then
        records.insert (idOf record) record
      else records) := by
  intro name temporary
  have reading {other : String} (json : extension other = some "json") :
      (replaceAtomically directory name temporary record fault).2[other]? =
        if publishes (firstFailure directory temporary fault) ∧ other = name then
          some (.whole record)
        else directory[other]? := by
    refine replaceAtomically_get directory name temporary record fun same => ?_
    exact extension_temporaryName name uuid (by rw [← json, same])
  by_cases published : publishes (firstFailure directory temporary fault) = true
  · rw [if_pos published]
    constructor
    · intro other content found json
      rw [reading json] at found
      by_cases hit : other = name
      · rw [if_pos ⟨published, hit⟩] at found
        cases found
        exact ⟨idOf record, record, hit, rfl, Std.ExtTreeMap.getElem?_insert_self⟩
      · rw [if_neg (fun both => hit both.2)] at found
        obtain ⟨id, record', rfl, whole, stored⟩ := mirrors.sound _ _ found json
        refine ⟨id, record', rfl, whole, ?_⟩
        rw [Std.ExtTreeMap.getElem?_insert, if_neg, stored]
        intro same
        have sameId : idOf record = id := by simpa using same
        exact hit (congrArg fileName sameId.symm)
    · intro id record' stored
      rw [Std.ExtTreeMap.getElem?_insert] at stored
      by_cases hit : idOf record = id
      · rw [if_pos (by simpa using hit)] at stored
        cases stored
        subst hit
        refine ⟨rfl, valid, ?_⟩
        rw [reading (extension_fileName valid), if_pos ⟨published, rfl⟩]
      · rw [if_neg (by simpa using hit)] at stored
        obtain ⟨ownId, valid', filed⟩ := mirrors.complete _ _ stored
        refine ⟨ownId, valid', ?_⟩
        rw [reading (extension_fileName valid'), if_neg, filed]
        rintro ⟨-, same⟩
        exact hit (fileName_injective same).symm
  · rw [if_neg published]
    constructor
    · intro other content found json
      rw [reading json, if_neg (fun both => published both.1)] at found
      exact mirrors.sound _ _ found json
    · intro id record' stored
      obtain ⟨ownId, valid', filed⟩ := mirrors.complete _ _ stored
      refine ⟨ownId, valid', ?_⟩
      rw [reading (extension_fileName valid'), if_neg (fun both => published both.1), filed]

end Zero3Pilot.ControlPlane
