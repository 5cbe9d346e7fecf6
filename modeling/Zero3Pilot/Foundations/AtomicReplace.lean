import Std.Data.ExtTreeMap
import Mathlib.Data.List.Basic

/-! # Replacing a file atomically through a temporary sibling

A directory maps file names to contents; a content is either a whole value or torn, when a write
stopped before its end. `replaceAtomically` is the sequence *create a new temporary sibling, write
it, sync it, rename it over the target, sync the directory*, any single step of which may fail.

* `replaceAtomically_get` — what every name but the temporary holds afterwards: the new value is
  published exactly when the failure, if any, comes after the rename.
* `replaceAtomically_none`, `replaceAtomically_some` — what is reported. -/

namespace Zero3Pilot

inductive FileContent (α : Type) where
  | torn
  | whole (value : α)

abbrev Directory (α : Type) := Std.ExtTreeMap String (FileContent α) compare

/-- The steps of an atomic replacement; a failed rename may or may not manage to remove the
temporary again. -/
inductive WriteStep where
  | createTemporary
  | write
  | syncFile
  | rename (removed : Bool)
  | syncDirectory
deriving DecidableEq

variable {α : Type}

def firstFailure (directory : Directory α) (temporary : String) (fault : Option WriteStep) :
    Option WriteStep :=
  if temporary ∈ directory then some .createTemporary else fault

def replaceAtomically (directory : Directory α) (target temporary : String) (value : α)
    (fault : Option WriteStep) : Except WriteStep Unit × Directory α :=
  match firstFailure directory temporary fault with
  | some .createTemporary => (.error .createTemporary, directory)
  | some .write => (.error .write, directory.insert temporary .torn)
  | some .syncFile => (.error .syncFile, directory.insert temporary (.whole value))
  | some (.rename true) =>
    (.error (.rename true), (directory.insert temporary (.whole value)).erase temporary)
  | some (.rename false) => (.error (.rename false), directory.insert temporary (.whole value))
  -- the rename has already published the value when the directory sync fails
  | some .syncDirectory =>
    (.error .syncDirectory, (directory.erase temporary).insert target (.whole value))
  | none => (.ok (), (directory.erase temporary).insert target (.whole value))

def publishes (failure : Option WriteStep) : Bool :=
  failure = none || failure = some .syncDirectory

variable (directory : Directory α) (target temporary : String) (value : α)
  {fault : Option WriteStep}

theorem replaceAtomically_none (clean : firstFailure directory temporary fault = none) :
    (replaceAtomically directory target temporary value fault).1 = .ok () := by
  rw [replaceAtomically, clean]

theorem replaceAtomically_some {step : WriteStep}
    (failing : firstFailure directory temporary fault = some step) :
    (replaceAtomically directory target temporary value fault).1 = .error step := by
  rw [replaceAtomically, failing]
  rcases step with _ | _ | _ | ⟨_ | _⟩ | _ <;> rfl

/-- **What a name holds after an atomic replacement.** The temporary aside, only the target can
change, and it changes exactly when the new value is published. -/
theorem replaceAtomically_get {name : String} (other : name ≠ temporary) :
    (replaceAtomically directory target temporary value fault).2[name]? =
      if publishes (firstFailure directory temporary fault) ∧ name = target then
        some (.whole value)
      else directory[name]? := by
  have temporaryNe : temporary ≠ name := fun same => other same.symm
  have erased (before : Directory α) : (before.erase temporary)[name]? = before[name]? := by
    rw [Std.ExtTreeMap.getElem?_erase, if_neg (by simpa using temporaryNe)]
  have inserted (content : FileContent α) :
      (directory.insert temporary content)[name]? = directory[name]? := by
    rw [Std.ExtTreeMap.getElem?_insert, if_neg (by simpa using temporaryNe)]
  have published : ((directory.erase temporary).insert target (.whole value))[name]? =
      if name = target then some (.whole value) else directory[name]? := by
    rw [Std.ExtTreeMap.getElem?_insert, erased]
    by_cases hit : name = target
    · rw [if_pos hit, if_pos (by simp [hit])]
    · rw [if_neg hit, if_neg (by simpa using fun same => hit same.symm)]
  rw [replaceAtomically]
  rcases firstFailure directory temporary fault with _ | _ | _ | _ | ⟨_ | _⟩ | _
  · simpa [publishes] using published
  · simp [publishes]
  · simpa [publishes] using inserted .torn
  · simpa [publishes] using inserted (.whole value)
  · simpa [publishes] using inserted (.whole value)
  · simpa [publishes, inserted] using erased (directory.insert temporary (.whole value))
  · simpa [publishes] using published

end Zero3Pilot
