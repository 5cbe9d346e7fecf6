import Zero3Pilot.Foundations.Json
import Zero3Pilot.Foundations.Text
import Mathlib.Data.List.Sort

/-! # Values of a script

JSON trees as JavaScript sees them: an absent member reads as `undefined`, numbers are read by their
value, and texts are measured in UTF-16 code units. Lone surrogates, which no text on a JSON wire
between the two languages can carry, are not among the texts.

* `Json.get` — reading a member; `ScriptValue.asRecord` — a value taken as an object.
* `toInteger?` — the integer a value converts to; how values other than numbers convert is a
  parameter.
* `utf16Length`, `scriptTrim`, `boundedText` — the length, the trimming and the cutting of texts.
* `Json.spread`, `stableJson` — joining objects, and the text of a value whatever its key order. -/

namespace Zero3Pilot

abbrev ScriptValue := Option Json

/-- Read a member of a value; `undefined` where there is none. -/
def Json.get (value : Json) (name : String) : ScriptValue :=
  match value with
  | .object members => members.lookup name
  | _ => none

namespace ScriptValue

def isNullish : ScriptValue → Bool
  | none | some .null => true
  | _ => false

def isTrue : ScriptValue → Bool
  | some (.bool true) => true
  | _ => false

def text? : ScriptValue → Option String
  | some (.string text) => some text
  | _ => none

def items? : ScriptValue → Option (List Json)
  | some (.array items) => some items
  | _ => none

/-- `Boolean(value)`: zero is the number none of whose digits before the exponent is another one. -/
def isTruthy : ScriptValue → Bool
  | none | some .null | some (.bool false) => false
  | some (.string text) => text ≠ ""
  | some (.number literal) =>
    !((literal.text.takeWhile fun char => char ≠ 'e' ∧ char ≠ 'E').all
      fun char => char = '0' ∨ char = '-' ∨ char = '.')
  | _ => true

def asRecord : ScriptValue → Json
  | some (.object members) => .object members
  | _ => .object []

end ScriptValue

/-! ## Numbers -/

/-- The integer a literal is written for, if it is one. -/
def NumberLiteral.toInt? (literal : NumberLiteral) : Option Int :=
  match literal.text with
  | '-' :: digits =>
    if digits ≠ [] ∧ digits.all Char.isDigit then some (-(Nat.ofDigitChars 10 digits 0 : Int))
    else none
  | digits => if digits.all Char.isDigit then some (Nat.ofDigitChars 10 digits 0 : Int) else none

@[simp] theorem NumberLiteral.toInt?_ofNat (n : Nat) :
    (NumberLiteral.ofNat n).toInt? = some (n : Int) := by
  have digits : (Nat.toDigits 10 n).all Char.isDigit := by
    rw [List.all_eq_true]
    exact fun char member => Nat.isDigit_of_mem_toDigits (by decide) (by decide) member
  have text : (NumberLiteral.ofNat n).text = Nat.toDigits 10 n := rfl
  unfold NumberLiteral.toInt?
  rw [text]
  split
  · rename_i rest start
    -- a sign is not a digit
    have first : '-' ∈ Nat.toDigits 10 n := by
      rw [start]
      exact List.mem_cons_self
    have isDigit := List.all_eq_true.1 digits _ first
    exact absurd isDigit (by decide)
  · rw [if_pos digits]
    exact congrArg some (congrArg Int.ofNat Nat.ofDigitChars_ten_toDigits)

/-- The integer that `Number(value)` is, if it is one. The conversion of values other than numbers
is `coerce`. -/
def toInteger? (coerce : Json → Option Int) : ScriptValue → Option Int
  | none => none
  | some (.number literal) => literal.toInt?
  | some value => coerce value

@[simp] theorem toInteger?_nat (coerce : Json → Option Int) (n : Nat) :
    toInteger? coerce (some (.nat n)) = some (n : Int) :=
  NumberLiteral.toInt?_ofNat n

/-! ## Texts -/

def utf16Units (char : Char) : Nat := if char.toNat < 0x10000 then 1 else 2

def utf16Length (text : String) : Nat :=
  text.toList.foldr (fun char length => utf16Units char + length) 0

def scriptTrim (text : String) : String := trimWith isScriptWhitespace text

@[simp] theorem scriptTrim_scriptTrim (text : String) :
    scriptTrim (scriptTrim text) = scriptTrim text :=
  trimWith_trimWith isScriptWhitespace text

/-- The characters that fit into a number of UTF-16 code units. -/
def takeUtf16 : Nat → List Char → List Char
  | _, [] => []
  | units, char :: chars =>
    if utf16Units char ≤ units then char :: takeUtf16 (units - utf16Units char) chars else []

/-- A text cut to a number of UTF-16 code units, three of them dots. -/
def boundedText (limit : Nat) (text : String) : String :=
  if utf16Length text ≤ limit then text
  else String.ofList (takeUtf16 (limit - 3) text.toList) ++ "..."

def codeUnits (text : String) : List Nat :=
  text.toList.flatMap fun char =>
    if char.toNat < 0x10000 then [char.toNat]
    else [0xD800 + (char.toNat - 0x10000) / 0x400, 0xDC00 + (char.toNat - 0x10000) % 0x400]

/-- The first text does not come after the second one in the order of their code units. -/
def notAfter : List Nat → List Nat → Bool
  | [], _ => true
  | _ :: _, [] => false
  | unit :: units, other :: others =>
    unit < other || (unit == other && notAfter units others)

def sortTexts (texts : List String) : List String :=
  texts.insertionSort fun text other => notAfter (codeUnits text) (codeUnits other) = true

/-! ## Objects -/

/-- Replace a member of an object where it stands, or add it at the end. -/
def assignMember (members : List (String × Json)) (name : String) (value : Json) :
    List (String × Json) :=
  if members.any fun member => member.1 = name then
    members.map fun member => if member.1 = name then (name, value) else member
  else members ++ [(name, value)]

def Json.spread (base update : Json) : Json :=
  match base, update with
  | .object members, .object updates =>
    .object (updates.foldl (fun joined member => assignMember joined member.1 member.2) members)
  | _, _ => base

theorem lookup_assignMember (members : List (String × Json)) (name other : String) (value : Json) :
    (assignMember members name value).lookup other =
      if other = name then some value else members.lookup other := by
  unfold assignMember
  split
  · rename_i known
    rw [List.any_eq_true] at known
    induction members with
    | nil => simp at known
    | cons member members ih =>
      obtain ⟨key, kept⟩ := member
      rw [List.map_cons, List.lookup_cons]
      by_cases same : key = name
      · subst same
        rw [if_pos rfl]
        by_cases here : other = key
        · simp [here]
        · have differs : (other == key) = false := by simpa using here
          -- what follows the member may hold it again, but nothing else changes there
          have others : (members.map fun member =>
              if member.1 = key then (key, value) else member).lookup other =
                members.lookup other := by
            clear ih known
            induction members with
            | nil => rfl
            | cons later members ih =>
              rw [List.map_cons, List.lookup_cons, List.lookup_cons, ih]
              by_cases again : later.1 = key
              · rw [if_pos again, again]
                simp [differs]
              · rw [if_neg again]
          simp only [differs, others]
          rw [if_neg here, List.lookup_cons, differs]
      · rw [if_neg same, List.lookup_cons]
        have later : ∃ member ∈ members, decide (member.1 = name) = true := by
          obtain ⟨found, isMember, named⟩ := known
          rcases List.mem_cons.1 isMember with rfl | isLater
          · exact absurd (by simpa using named) same
          · exact ⟨found, isLater, named⟩
        cases here : other == key with
        | true =>
          have isKey : other = key := by simpa using here
          rw [if_neg (isKey ▸ same)]
        | false => exact ih later
  · rename_i unknown
    rw [List.lookup_append]
    by_cases same : other = name
    · subst same
      have missing : members.lookup other = none := by
        rw [List.lookup_eq_none_iff]
        intro member isMember
        have differs : member.1 ≠ other := by
          intro named
          exact unknown (List.any_eq_true.2 ⟨member, isMember, by simpa using named⟩)
        simpa using Ne.symm differs
      simp [missing]
    · have differs : (other == name) = false := by simpa using same
      rw [if_neg same, List.lookup_cons, differs]
      cases members.lookup other <;> rfl

theorem assignMember_distinct {members : List (String × Json)} (name : String) (value : Json)
    (distinct : (members.map (·.1)).Nodup) :
    ((assignMember members name value).map (·.1)).Nodup := by
  unfold assignMember
  split
  · have names : (members.map fun member => if member.1 = name then (name, value) else member).map
        (·.1) = members.map (·.1) := by
      rw [List.map_map]
      apply List.map_congr_left
      intro member _
      by_cases same : member.1 = name
      · rw [Function.comp_apply, if_pos same, same]
      · rw [Function.comp_apply, if_neg same]
    rw [names]
    exact distinct
  · rename_i unknown
    rw [List.map_append, List.nodup_append]
    refine ⟨distinct, List.nodup_singleton _, fun known isKnown other isNew same => unknown ?_⟩
    rw [List.map_singleton, List.mem_singleton] at isNew
    obtain ⟨member, isMember, rfl⟩ := List.mem_map.1 isKnown
    exact List.any_eq_true.2 ⟨member, isMember, by simpa using same.trans isNew⟩

theorem mem_assignMember {members : List (String × Json)} {name : String} {value : Json}
    {member : String × Json} (isMember : member ∈ members) (other : member.1 ≠ name) :
    member ∈ assignMember members name value := by
  unfold assignMember
  split
  · exact List.mem_map.2 ⟨member, isMember, if_neg other⟩
  · exact List.mem_append_left _ isMember

theorem get_spread_of_absent {members updates : List (String × Json)} {name : String}
    (absent : updates.lookup name = none) :
    ((Json.object members).spread (.object updates)).get name = members.lookup name := by
  show (updates.foldl _ members).lookup name = members.lookup name
  induction updates generalizing members with
  | nil => rfl
  | cons update updates ih =>
    rw [List.lookup_cons] at absent
    cases same : name == update.1 with
    | true => simp [same] at absent
    | false =>
      have differs : name ≠ update.1 := by simpa using same
      rw [same] at absent
      rw [List.foldl_cons, ih absent, lookup_assignMember, if_neg differs]

theorem get_spread_of_mem {members updates : List (String × Json)} {name : String} {value : Json}
    (distinct : (updates.map (·.1)).Nodup) (member : (name, value) ∈ updates) :
    ((Json.object members).spread (.object updates)).get name = some value := by
  show (updates.foldl _ members).lookup name = some value
  induction updates generalizing members with
  | nil => cases member
  | cons update updates ih =>
    rw [List.map_cons, List.nodup_cons] at distinct
    rcases List.mem_cons.1 member with rfl | later
    · have absent : updates.lookup name = none := by
        rw [List.lookup_eq_none_iff]
        intro other isOther
        have differs : other.1 ≠ name := by
          intro named
          have isName : other.1 ∈ updates.map (·.1) := List.mem_map_of_mem isOther
          exact distinct.1 (named ▸ isName)
        simpa using Ne.symm differs
      have kept : ((Json.object (assignMember members name value)).spread (.object updates)).get
          name = (assignMember members name value).lookup name := get_spread_of_absent absent
      exact kept.trans (by rw [lookup_assignMember, if_pos rfl])
    · exact ih distinct.2 later

mutual

def Json.sortedKeys : Json → Json
  | .array items => .array (sortedItems items)
  | .object members =>
    .object ((sortedMembers members).insertionSort fun member other =>
      notAfter (codeUnits member.1) (codeUnits other.1) = true)
  | value => value

def sortedItems : List Json → List Json
  | [] => []
  | item :: items => item.sortedKeys :: sortedItems items

def sortedMembers : List (String × Json) → List (String × Json)
  | [] => []
  | (name, value) :: members => (name, value.sortedKeys) :: sortedMembers members

end

def stableJson (value : Json) : List Char := value.sortedKeys.render

end Zero3Pilot
