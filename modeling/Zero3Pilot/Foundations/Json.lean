import Mathlib.Data.List.Basic

/-! # JSON texts

JSON trees, the compact text both `JSON.stringify` and `serde_json::to_string` write for them, and
the fact that the text determines the tree. A number is kept as the literal its writer prints, so
that no arithmetic of floating-point numbers enters; object members are kept in the order they are
written.

* `Json.same` — the equality of trees, decided.
* `Json.render` — the compact text of a tree, as a list of characters.
* `Json.render_unambiguous` — a rendered value is cut off uniquely from what follows it.
* `Json.render_injective` — equal texts come from equal trees. -/

namespace Zero3Pilot

open List (append_assoc cons_append exists_cons_of_ne_nil forall_mem_append forall_mem_cons mem_cons
  nil_append)

def isNumberChar (c : Char) : Bool :=
  c.isDigit || c = '-' || c = '+' || c = '.' || c = 'e' || c = 'E'

structure NumberLiteral where
  text : List Char
  /-- A literal has at least one character. -/
  nonempty : text ≠ []
  chars : ∀ c ∈ text, isNumberChar c = true
  deriving DecidableEq

namespace NumberLiteral

def ofNat (n : Nat) : NumberLiteral where
  text := Nat.toDigits 10 n
  nonempty := Nat.toDigits_ne_nil
  chars := by
    intro c member
    have digit := Nat.isDigit_of_mem_toDigits (by decide : 0 < 10) (by decide) member
    simp [isNumberChar, digit]

theorem ofNat_injective : Function.Injective ofNat := by
  intro m n same
  have texts : Nat.toDigits 10 m = Nat.toDigits 10 n := congrArg text same
  rw [← Nat.ofDigitChars_ten_toDigits (n := m), texts, Nat.ofDigitChars_ten_toDigits]

end NumberLiteral

inductive Json where
  | null : Json
  | bool (value : Bool) : Json
  | number (literal : NumberLiteral) : Json
  | string (value : String) : Json
  | array (items : List Json) : Json
  | object (members : List (String × Json)) : Json

namespace Json

/-! ## Equality of trees -/

mutual

/-- Whether two trees are the same. -/
def same : Json → Json → Bool
  | .null, .null => true
  | .bool value, .bool other => value = other
  | .number literal, .number other => literal = other
  | .string value, .string other => value = other
  | .array items, .array others => sameItems items others
  | .object members, .object others => sameMembers members others
  | _, _ => false

def sameItems : List Json → List Json → Bool
  | [], [] => true
  | item :: items, other :: others => same item other && sameItems items others
  | _, _ => false

def sameMembers : List (String × Json) → List (String × Json) → Bool
  | [], [] => true
  | (name, value) :: members, (key, other) :: others =>
    name = key && same value other && sameMembers members others
  | _, _ => false

end

mutual

theorem same_iff : ∀ value other : Json, same value other = true ↔ value = other
  | .null, other => by cases other <;> simp [same]
  | .bool value, other => by cases other <;> simp [same]
  | .number literal, other => by cases other <;> simp [same]
  | .string value, other => by cases other <;> simp [same]
  | .array items, other => by
    cases other with
    | array others => simp [same, sameItems_iff items others]
    | _ => simp [same]
  | .object members, other => by
    cases other with
    | object others => simp [same, sameMembers_iff members others]
    | _ => simp [same]

theorem sameItems_iff : ∀ items others : List Json, sameItems items others = true ↔ items = others
  | [], others => by cases others <;> simp [sameItems]
  | item :: items, others => by
    cases others with
    | nil => simp [sameItems]
    | cons other others => simp [sameItems, same_iff item other, sameItems_iff items others]

theorem sameMembers_iff : ∀ members others : List (String × Json),
    sameMembers members others = true ↔ members = others
  | [], others => by cases others <;> simp [sameMembers]
  | (name, value) :: members, others => by
    cases others with
    | nil => simp [sameMembers]
    | cons other others =>
      obtain ⟨key, other⟩ := other
      simp [sameMembers, same_iff value other, sameMembers_iff members others]

end

instance : DecidableEq Json := fun value other =>
  decidable_of_iff (same value other = true) (same_iff value other)

def nat (n : Nat) : Json := .number (.ofNat n)

@[simp] theorem nat_inj {m n : Nat} : nat m = nat n ↔ m = n := by
  constructor
  · intro same
    exact NumberLiteral.ofNat_injective (Json.number.inj same)
  · rintro rfl; rfl

/-! ## Strings -/

def escapeChar (c : Char) : List Char :=
  if c = '"' then ['\\', '"']
  else if c = '\\' then ['\\', '\\']
  else if c = '\x08' then ['\\', 'b']
  else if c = '\x0c' then ['\\', 'f']
  else if c = '\n' then ['\\', 'n']
  else if c = '\r' then ['\\', 'r']
  else if c = '\t' then ['\\', 't']
  else if c.toNat < 32 then
    ['\\', 'u', '0', '0', (c.toNat / 16).digitChar, (c.toNat % 16).digitChar]
  else [c]

def escape (s : List Char) : List Char := s.flatMap escapeChar

@[simp] theorem escape_nil : escape [] = [] := rfl

@[simp] theorem escape_cons (c : Char) (s : List Char) :
    escape (c :: s) = escapeChar c ++ escape s := rfl

def hexValue (c : Char) : Nat := if c.isDigit then c.toNat - 48 else c.toNat - 87

def unescapeLetter : Char → Char
  | 'b' => '\x08'
  | 'f' => '\x0c'
  | 'n' => '\n'
  | 'r' => '\r'
  | 't' => '\t'
  | c => c

/-- Read one character of a string body; the closing quote is not a character. -/
def decodeChar : List Char → Option (Char × List Char)
  | [] => none
  | '\\' :: 'u' :: '0' :: '0' :: high :: low :: rest =>
    some (Char.ofNat (16 * hexValue high + hexValue low), rest)
  | '\\' :: letter :: rest => some (unescapeLetter letter, rest)
  | c :: rest => if c = '"' then none else some (c, rest)

theorem hexValue_digitChar : ∀ d < 16, hexValue d.digitChar = d := by decide

theorem decodeChar_escapeChar (c : Char) (rest : List Char) :
    decodeChar (escapeChar c ++ rest) = some (c, rest) := by
  unfold escapeChar
  split_ifs with quote backslash backspace feed newline ret tab control
  · subst quote; rfl
  · subst backslash; rfl
  · subst backspace; rfl
  · subst feed; rfl
  · subst newline; rfl
  · subst ret; rfl
  · subst tab; rfl
  · have high := hexValue_digitChar (c.toNat / 16) (by omega)
    have low := hexValue_digitChar (c.toNat % 16) (by omega)
    have recombined : 16 * (c.toNat / 16) + c.toNat % 16 = c.toNat := by omega
    simp only [List.cons_append, List.nil_append, decodeChar, high, low, recombined,
      Char.ofNat_toNat]
  · rw [List.cons_append, List.nil_append, decodeChar.eq_def]
    split <;> simp_all

theorem decodeChar_quote (rest : List Char) : decodeChar ('"' :: rest) = none := rfl

theorem escape_unambiguous {s t rest rest' : List Char}
    (same : escape s ++ '"' :: rest = escape t ++ '"' :: rest') : s = t ∧ rest = rest' := by
  induction s generalizing t with
  | nil =>
    cases t with
    | nil => exact ⟨rfl, by simpa using same⟩
    | cons d t =>
      have read := congrArg decodeChar same
      simp [decodeChar_quote, decodeChar_escapeChar] at read
  | cons c s ih =>
    cases t with
    | nil =>
      have read := congrArg decodeChar same
      simp [decodeChar_quote, decodeChar_escapeChar] at read
    | cons d t =>
      have read := congrArg decodeChar same
      simp only [escape_cons, append_assoc, decodeChar_escapeChar, Option.some.injEq,
        Prod.mk.injEq] at read
      obtain ⟨rfl, tails⟩ := read
      obtain ⟨rfl, rests⟩ := ih tails
      exact ⟨rfl, rests⟩

def quote (s : String) : List Char := '"' :: escape s.toList ++ ['"']

theorem quote_unambiguous {s t : String} {rest rest' : List Char}
    (same : quote s ++ rest = quote t ++ rest') : s = t ∧ rest = rest' := by
  simp only [quote, cons_append, append_assoc, nil_append, List.cons.injEq, true_and] at same
  obtain ⟨chars, rests⟩ := escape_unambiguous same
  exact ⟨String.toList_inj.mp chars, rests⟩

/-! ## Rendering -/

mutual

/-- The compact text of a JSON tree. -/
def render : Json → List Char
  | .null => ['n', 'u', 'l', 'l']
  | .bool true => ['t', 'r', 'u', 'e']
  | .bool false => ['f', 'a', 'l', 's', 'e']
  | .number literal => literal.text
  | .string value => quote value
  | .array [] => ['[', ']']
  | .array (item :: items) => '[' :: (render item ++ renderItems items)
  | .object [] => ['\x7b', '\x7d']
  | .object ((key, value) :: members) =>
    '\x7b' :: (quote key ++ ':' :: (render value ++ renderMembers members))

/-- The items of an array after its first one, and the closing bracket. -/
def renderItems : List Json → List Char
  | [] => [']']
  | item :: items => ',' :: (render item ++ renderItems items)

/-- The members of an object after its first one, and the closing brace. -/
def renderMembers : List (String × Json) → List Char
  | [] => ['\x7d']
  | (key, value) :: members =>
    ',' :: (quote key ++ ':' :: (render value ++ renderMembers members))

end

/-- What may follow a rendered value: nothing that could continue a number. -/
def Stops (rest : List Char) : Prop := ∀ c ∈ rest.head?, isNumberChar c = false

@[simp] theorem stops_nil : Stops [] := by simp [Stops]

@[simp] theorem stops_cons {c : Char} {rest : List Char} :
    Stops (c :: rest) ↔ isNumberChar c = false := by simp [Stops]

theorem stops_renderItems (items : List Json) (rest : List Char) :
    Stops (renderItems items ++ rest) := by
  cases items <;> simp [renderItems] <;> decide

theorem stops_renderMembers (members : List (String × Json)) (rest : List Char) :
    Stops (renderMembers members ++ rest) := by
  rcases members with _ | ⟨⟨key, value⟩, members⟩ <;> simp [renderMembers] <;> decide

theorem literal_unambiguous {s t rest rest' : List Char}
    (sChars : ∀ c ∈ s, isNumberChar c = true) (tChars : ∀ c ∈ t, isNumberChar c = true)
    (stop : Stops rest) (stop' : Stops rest') (same : s ++ rest = t ++ rest') :
    s = t ∧ rest = rest' := by
  induction s generalizing t with
  | nil =>
    cases t with
    | nil => exact ⟨rfl, same⟩
    | cons d t =>
      rw [nil_append] at same
      rw [same, cons_append, stops_cons] at stop
      simp [tChars d (by simp)] at stop
  | cons c s ih =>
    cases t with
    | nil =>
      rw [nil_append] at same
      rw [← same, cons_append, stops_cons] at stop'
      simp [sChars c (by simp)] at stop'
    | cons d t =>
      simp only [cons_append, List.cons.injEq] at same
      obtain ⟨rfl, tails⟩ := same
      obtain ⟨rfl, rests⟩ := ih (fun c member => sChars c (by simp [member]))
        (fun c member => tChars c (by simp [member])) tails
      exact ⟨rfl, rests⟩

/-- The sort of a JSON tree, as its first character shows it. -/
def sort : Json → Nat
  | .null => 0
  | .bool true => 1
  | .bool false => 2
  | .number _ => 3
  | .string _ => 4
  | .array _ => 5
  | .object _ => 6

def leadSort : Option Char → Nat
  | some 'n' => 0
  | some 't' => 1
  | some 'f' => 2
  | some '"' => 4
  | some '[' => 5
  | some '\x7b' => 6
  | _ => 3

theorem leadSort_number {c : Char} (number : isNumberChar c = true) : leadSort (some c) = 3 := by
  unfold leadSort
  split <;> simp_all <;> revert number <;> decide

theorem leadSort_render (tree : Json) (rest : List Char) :
    leadSort (render tree ++ rest).head? = tree.sort := by
  rcases tree with _ | (_ | _) | literal | _ | (_ | _) | (_ | ⟨⟨key, value⟩, members⟩)
  case number =>
      obtain ⟨c, cs, text⟩ := exists_cons_of_ne_nil literal.nonempty
      have number : isNumberChar c = true := literal.chars c (by simp [text])
      simp [render, text, leadSort_number number, sort]
  all_goals rfl

theorem render_ne_bracket (tree : Json) (rest rest' : List Char) :
    ']' :: rest ≠ render tree ++ rest' := by
  intro same
  rcases tree with _ | (_ | _) | literal | _ | (_ | _) | (_ | ⟨⟨key, value⟩, members⟩)
  case number =>
      obtain ⟨c, cs, text⟩ := exists_cons_of_ne_nil literal.nonempty
      have number : isNumberChar c = true := literal.chars c (by simp [text])
      simp only [render, text, cons_append, List.cons.injEq] at same
      rw [← same.1] at number
      exact absurd number (by decide)
  all_goals simp [render, quote] at same

mutual

/-- **A rendered value is cut off uniquely from what follows it.** -/
theorem render_unambiguous (tree tree' : Json) (rest rest' : List Char) (stop : Stops rest)
    (stop' : Stops rest') (same : render tree ++ rest = render tree' ++ rest') :
    tree = tree' ∧ rest = rest' := by
  have sorts : tree.sort = tree'.sort := by
    rw [← leadSort_render tree rest, same, leadSort_render]
  match tree, tree' with
  | .null, .null => simpa [render] using same
  | .bool true, .bool true => simpa [render] using same
  | .bool false, .bool false => simpa [render] using same
  | .number literal, .number literal' =>
    simp only [render] at same
    obtain ⟨texts, rests⟩ :=
      literal_unambiguous literal.chars literal'.chars stop stop' same
    cases literal; cases literal'; cases texts
    exact ⟨rfl, rests⟩
  | .string value, .string value' =>
    simp only [render] at same
    obtain ⟨rfl, rests⟩ := quote_unambiguous same
    exact ⟨rfl, rests⟩
  | .array [], .array [] => simpa [render] using same
  | .array [], .array (item :: items) =>
    simp only [render, cons_append, append_assoc, List.cons.injEq, true_and] at same
    exact absurd same (render_ne_bracket item _ _)
  | .array (item :: items), .array [] =>
    simp only [render, cons_append, append_assoc, List.cons.injEq, true_and] at same
    exact absurd same.symm (render_ne_bracket item _ _)
  | .array (item :: items), .array (item' :: items') =>
    simp only [render, cons_append, append_assoc, List.cons.injEq, true_and] at same
    obtain ⟨rfl, tails⟩ := render_unambiguous item item' _ _ (stops_renderItems items rest)
      (stops_renderItems items' rest') same
    obtain ⟨rfl, rests⟩ := renderItems_unambiguous items items' rest rest' tails
    exact ⟨rfl, rests⟩
  | .object [], .object [] => simpa [render] using same
  | .object [], .object ((key, value) :: members) | .object ((key, value) :: members), .object [] =>
    simp [render, quote] at same
  | .object ((key, value) :: members), .object ((key', value') :: members') =>
    simp only [render, cons_append, append_assoc, List.cons.injEq, true_and] at same
    obtain ⟨rfl, afterKey⟩ := quote_unambiguous same
    rw [List.cons.injEq] at afterKey
    obtain ⟨rfl, tails⟩ := render_unambiguous value value' _ _
      (stops_renderMembers members rest) (stops_renderMembers members' rest') afterKey.2
    obtain ⟨rfl, rests⟩ := renderMembers_unambiguous members members' rest rest' tails
    exact ⟨rfl, rests⟩

theorem renderItems_unambiguous (items items' : List Json) (rest rest' : List Char)
    (same : renderItems items ++ rest = renderItems items' ++ rest') :
    items = items' ∧ rest = rest' := by
  match items, items' with
  | [], [] => simpa [renderItems] using same
  | [], _ :: _ | _ :: _, [] => simp [renderItems] at same
  | item :: items, item' :: items' =>
    simp only [renderItems, cons_append, append_assoc, List.cons.injEq, true_and] at same
    obtain ⟨rfl, tails⟩ := render_unambiguous item item' _ _ (stops_renderItems items rest)
      (stops_renderItems items' rest') same
    obtain ⟨rfl, rests⟩ := renderItems_unambiguous items items' rest rest' tails
    exact ⟨rfl, rests⟩

theorem renderMembers_unambiguous (members members' : List (String × Json)) (rest rest' : List Char)
    (same : renderMembers members ++ rest = renderMembers members' ++ rest') :
    members = members' ∧ rest = rest' := by
  match members, members' with
  | [], [] => simpa [renderMembers] using same
  | [], (_, _) :: _ | (_, _) :: _, [] => simp [renderMembers] at same
  | (key, value) :: members, (key', value') :: members' =>
    simp only [renderMembers, cons_append, append_assoc, List.cons.injEq, true_and] at same
    obtain ⟨rfl, afterKey⟩ := quote_unambiguous same
    rw [List.cons.injEq] at afterKey
    obtain ⟨rfl, tails⟩ := render_unambiguous value value' _ _
      (stops_renderMembers members rest) (stops_renderMembers members' rest') afterKey.2
    obtain ⟨rfl, rests⟩ := renderMembers_unambiguous members members' rest rest' tails
    exact ⟨rfl, rests⟩

end

/-- **Equal texts come from equal trees.** -/
theorem render_injective : Function.Injective render := by
  intro tree tree' same
  exact (render_unambiguous tree tree' [] [] stops_nil stops_nil (by simpa using same)).1

theorem object_unambiguous {members members' : List (String × Json)} {rest rest' : List Char}
    (same : render (.object members) ++ rest = render (.object members') ++ rest') :
    members = members' ∧ rest = rest' := by
  -- an object is its members behind another comma, but for that comma
  have opened (members : List (String × Json)) (rest : List Char) :
      members ≠ [] → render (.object members) ++ rest =
        '\x7b' :: (renderMembers members ++ rest).tail := by
    intro nonempty
    obtain ⟨⟨key, value⟩, members, rfl⟩ := exists_cons_of_ne_nil nonempty
    simp [render, renderMembers]
  have comma {members : List (String × Json)} (rest : List Char) :
      members ≠ [] → renderMembers members ++ rest = ',' :: (renderMembers members ++ rest).tail := by
    intro nonempty
    obtain ⟨⟨key, value⟩, members, rfl⟩ := exists_cons_of_ne_nil nonempty
    simp [renderMembers]
  by_cases first : members = []
  · by_cases second : members' = []
    · subst first second
      exact ⟨rfl, by simpa [render] using same⟩
    · obtain ⟨⟨key, value⟩, members', rfl⟩ := exists_cons_of_ne_nil second
      subst first
      simp [render, quote] at same
  · by_cases second : members' = []
    · obtain ⟨⟨key, value⟩, members, rfl⟩ := exists_cons_of_ne_nil first
      subst second
      simp [render, quote] at same
    · rw [opened members rest first, opened members' rest' second, List.cons.injEq] at same
      refine renderMembers_unambiguous members members' rest rest' ?_
      rw [comma rest first, comma rest' second, same.2]

/-! ## Control characters -/

theorem isNumberChar_plain {c : Char} (number : isNumberChar c = true) : 32 ≤ c.toNat := by
  simp only [isNumberChar, Bool.or_eq_true, decide_eq_true_eq] at number
  rcases number with ((((digit | rfl) | rfl) | rfl) | rfl) | rfl
  · rw [Char.isDigit, Bool.and_eq_true, decide_eq_true_eq] at digit
    have lower : 48 ≤ c.val.toNat := digit.1
    exact Nat.le_trans (by decide) lower
  all_goals decide

theorem plain_of_all {chars : List Char} (all : chars.all (fun d => 32 ≤ d.toNat) = true) :
    ∀ d ∈ chars, 32 ≤ d.toNat :=
  fun d member => of_decide_eq_true (List.all_eq_true.1 all d member)

theorem escapeChar_plain (c : Char) : ∀ d ∈ escapeChar c, 32 ≤ d.toNat := by
  have digits : ∀ d < 16, 32 ≤ d.digitChar.toNat := by decide
  have low : 32 ≤ (c.toNat % 16).digitChar.toNat := digits _ (Nat.mod_lt _ (by decide))
  unfold escapeChar
  split_ifs with quote backslash backspace feed newline ret tab control
  · exact plain_of_all rfl
  · exact plain_of_all rfl
  · exact plain_of_all rfl
  · exact plain_of_all rfl
  · exact plain_of_all rfl
  · exact plain_of_all rfl
  · exact plain_of_all rfl
  · have high : 32 ≤ (c.toNat / 16).digitChar.toNat := digits _ (by omega)
    intro d member
    simp only [mem_cons, List.not_mem_nil, or_false] at member
    rcases member with rfl | rfl | rfl | rfl | rfl | rfl
    · decide
    · decide
    · decide
    · decide
    · exact high
    · exact low
  · intro d member
    rw [List.mem_singleton.1 member]
    exact Nat.le_of_not_lt control

theorem quote_plain (s : String) : ∀ d ∈ quote s, 32 ≤ d.toNat := by
  intro d member
  simp only [quote, escape, cons_append, mem_cons, List.mem_append, List.mem_flatMap,
    List.not_mem_nil, or_false] at member
  rcases member with rfl | ⟨c, _, inside⟩ | rfl
  · decide
  · exact escapeChar_plain c d inside
  · decide

mutual

/-- **No character of a text is a control character.** -/
theorem render_plain (tree : Json) : ∀ d ∈ render tree, 32 ≤ d.toNat := by
  match tree with
  | .null | .bool true | .bool false => exact plain_of_all rfl
  | .number literal => exact fun d member => isNumberChar_plain (literal.chars d member)
  | .string value => exact quote_plain value
  | .array [] | .object [] => exact plain_of_all rfl
  | .array (item :: items) =>
    have first := render_plain item
    have rest := renderItems_plain items
    simp only [render, forall_mem_cons, forall_mem_append]
    exact ⟨by decide, first, rest⟩
  | .object ((key, value) :: members) =>
    have first := render_plain value
    have rest := renderMembers_plain members
    simp only [render, forall_mem_cons, forall_mem_append]
    exact ⟨by decide, quote_plain key, by decide, first, rest⟩

theorem renderItems_plain (items : List Json) : ∀ d ∈ renderItems items, 32 ≤ d.toNat := by
  match items with
  | [] => exact plain_of_all rfl
  | item :: items =>
    have first := render_plain item
    have rest := renderItems_plain items
    simp only [renderItems, forall_mem_cons, forall_mem_append]
    exact ⟨by decide, first, rest⟩

theorem renderMembers_plain (members : List (String × Json)) :
    ∀ d ∈ renderMembers members, 32 ≤ d.toNat := by
  match members with
  | [] => exact plain_of_all rfl
  | (key, value) :: members =>
    have first := render_plain value
    have rest := renderMembers_plain members
    simp only [renderMembers, forall_mem_cons, forall_mem_append]
    exact ⟨by decide, quote_plain key, by decide, first, rest⟩

end

end Json

end Zero3Pilot
