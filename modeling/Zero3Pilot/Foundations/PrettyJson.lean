import Zero3Pilot.Foundations.Json

/-! # Indented JSON texts

The indented text that `serde_json::to_vec_pretty` writes for a tree: every item and every member
on a line of its own, two blanks for each level. Removing the white space between the tokens of an
indented text leaves the compact text, so that an indented text determines its tree; and since
there is some white space around every number, an indented text has room for one more character in
each of them.

* `Json.renderPretty` — the indented text; `Json.compact` removes the white space.
* `Json.compact_renderPretty`, `Json.renderPretty_injective` — what is left, and what follows.
* `Json.mapNumbers` — a tree with its numbers replaced; `Json.depth` — how deep a tree is nested.
* `Json.size_render_le` — a compact text with one more character in every number is at most one
  character longer than the indented text. -/

namespace Zero3Pilot

namespace Json

/-! ## Rendering -/

/-- The blanks in front of a line. -/
def indentation (level : Nat) : List Char := List.replicate (2 * level) ' '

mutual

/-- The indented text of a tree that stands at `level`. -/
def renderPretty (level : Nat) : Json → List Char
  | .array (item :: items) =>
    '[' :: '\n' :: (indentation (level + 1) ++
      (renderPretty (level + 1) item ++ prettyItems level items))
  | .object ((key, value) :: members) =>
    '\x7b' :: '\n' :: (indentation (level + 1) ++ (quote key ++ ':' :: ' ' ::
      (renderPretty (level + 1) value ++ prettyMembers level members)))
  | .array [] => ['[', ']']
  | .object [] => ['\x7b', '\x7d']
  | .null => ['n', 'u', 'l', 'l']
  | .bool true => ['t', 'r', 'u', 'e']
  | .bool false => ['f', 'a', 'l', 's', 'e']
  | .number literal => literal.text
  | .string value => quote value

/-- The items of an array after its first one, and the closing bracket on its line. -/
def prettyItems (level : Nat) : List Json → List Char
  | [] => '\n' :: (indentation level ++ [']'])
  | item :: items =>
    ',' :: '\n' :: (indentation (level + 1) ++
      (renderPretty (level + 1) item ++ prettyItems level items))

/-- The members of an object after its first one, and the closing brace on its line. -/
def prettyMembers (level : Nat) : List (String × Json) → List Char
  | [] => '\n' :: (indentation level ++ ['\x7d'])
  | (key, value) :: members =>
    ',' :: '\n' :: (indentation (level + 1) ++ (quote key ++ ':' :: ' ' ::
      (renderPretty (level + 1) value ++ prettyMembers level members)))

end

/-! ## Removing the white space -/

/-- The white space of an indented text. -/
def isLayout (c : Char) : Bool := c = ' ' || c = '\n'

mutual

/-- A text without the white space between its tokens. -/
def compact : List Char → List Char
  | [] => []
  | c :: rest =>
    if c = '"' then c :: compactString rest
    else if isLayout c then compact rest
    else c :: compact rest

/-- The rest of a text from the inside of a string on. -/
def compactString : List Char → List Char
  | [] => []
  | '\\' :: c :: rest => '\\' :: c :: compactString rest
  | c :: rest => if c = '"' then c :: compact rest else c :: compactString rest

end

theorem compact_append {plain : List Char} (rest : List Char)
    (isPlain : ∀ c ∈ plain, c ≠ '"' ∧ isLayout c = false) :
    compact (plain ++ rest) = plain ++ compact rest := by
  induction plain with
  | nil => rfl
  | cons c plain ih =>
    obtain ⟨notQuote, notLayout⟩ := isPlain c List.mem_cons_self
    rw [List.cons_append, compact, if_neg notQuote, if_neg (by simp [notLayout]),
      ih fun c member => isPlain c (List.mem_cons_of_mem _ member), List.cons_append]

theorem compact_word {plain : List Char} (rest : List Char)
    (isPlain : plain.all fun c => c ≠ '"' && !isLayout c) :
    compact (plain ++ rest) = plain ++ compact rest := by
  refine compact_append rest fun c member => ?_
  simpa using List.all_eq_true.1 isPlain c member

theorem compact_layout {layout : List Char} (rest : List Char)
    (isLayout : ∀ c ∈ layout, Json.isLayout c = true) :
    compact (layout ++ rest) = compact rest := by
  induction layout with
  | nil => rfl
  | cons c layout ih =>
    have here := isLayout c List.mem_cons_self
    have notQuote : c ≠ '"' := by
      rintro rfl
      exact absurd here (by decide)
    rw [List.cons_append, compact, if_neg notQuote, if_pos here,
      ih fun c member => isLayout c (List.mem_cons_of_mem _ member)]

theorem compact_indentation (level : Nat) (rest : List Char) :
    compact (indentation level ++ rest) = compact rest := by
  apply compact_layout
  intro c member
  rw [List.eq_of_mem_replicate member]
  rfl

theorem compactString_cons {c : Char} (rest : List Char) (notQuote : c ≠ '"')
    (notBackslash : c ≠ '\\') : compactString (c :: rest) = c :: compactString rest := by
  rw [compactString.eq_def]
  split
  · rename_i same
    cases same
  · rename_i same
    cases same
    exact absurd rfl notBackslash
  · rename_i same
    cases same
    rw [if_neg notQuote]

theorem digitChar_plain : ∀ d < 16, d.digitChar ≠ '"' ∧ d.digitChar ≠ '\\' := by decide

theorem compactString_escapeChar (c : Char) (rest : List Char) :
    compactString (escapeChar c ++ rest) = escapeChar c ++ compactString rest := by
  unfold escapeChar
  split_ifs with quote backslash backspace feed newline ret tab control
  · rfl
  · rfl
  · rfl
  · rfl
  · rfl
  · rfl
  · rfl
  · have high := digitChar_plain (c.toNat / 16) (by omega)
    have low := digitChar_plain (c.toNat % 16) (by omega)
    show compactString ('\\' :: 'u' :: '0' :: '0' :: _ :: _ :: rest) = _
    rw [compactString, compactString_cons _ (by decide) (by decide),
      compactString_cons _ (by decide) (by decide), compactString_cons _ high.1 high.2,
      compactString_cons _ low.1 low.2]
    rfl
  · exact compactString_cons rest quote backslash

theorem compact_quote (s : String) (rest : List Char) :
    compact (quote s ++ rest) = quote s ++ compact rest := by
  have inside (chars : List Char) :
      compactString (escape chars ++ '"' :: rest) = escape chars ++ '"' :: compact rest := by
    induction chars with
    | nil =>
      rw [escape_nil, List.nil_append, compactString.eq_def]
      simp
    | cons c chars ih =>
      rw [escape_cons, List.append_assoc, compactString_escapeChar, ih, List.append_assoc]
  simp only [quote, List.cons_append, List.append_assoc, List.nil_append]
  rw [compact, if_pos rfl, inside]

theorem compact_cons {c : Char} (rest : List Char) (notQuote : c ≠ '"')
    (notLayout : isLayout c = false) : compact (c :: rest) = c :: compact rest := by
  rw [compact, if_neg notQuote, if_neg (by simp [notLayout])]

theorem compact_newline (rest : List Char) : compact ('\n' :: rest) = compact rest := by
  rw [compact, if_neg (by decide), if_pos (by decide)]

theorem compact_blank (rest : List Char) : compact (' ' :: rest) = compact rest := by
  rw [compact, if_neg (by decide), if_pos (by decide)]

theorem compact_literal (literal : NumberLiteral) (rest : List Char) :
    compact (literal.text ++ rest) = literal.text ++ compact rest := by
  apply compact_append
  intro c member
  have number := literal.chars c member
  constructor
  · rintro rfl
    exact absurd number (by decide)
  · by_cases blank : c = ' ' ∨ c = '\n'
    · rcases blank with rfl | rfl
      · exact absurd number (by decide)
      · exact absurd number (by decide)
    · simpa [isLayout] using blank

mutual

/-- **The compact text is what is left of the indented text** without its white space. -/
theorem compact_renderPretty (level : Nat) (tree : Json) (rest : List Char) :
    compact (renderPretty level tree ++ rest) = render tree ++ compact rest := by
  match tree with
  | .null => rw [renderPretty, render]; exact compact_word rest (by decide)
  | .bool true => rw [renderPretty, render]; exact compact_word rest (by decide)
  | .bool false => rw [renderPretty, render]; exact compact_word rest (by decide)
  | .number literal => rw [renderPretty, render]; exact compact_literal literal rest
  | .string value => rw [renderPretty, render]; exact compact_quote value rest
  | .array [] => rw [renderPretty, render]; exact compact_word rest (by decide)
  | .object [] => rw [renderPretty, render]; exact compact_word rest (by decide)
  | .array (item :: items) =>
    simp only [renderPretty, render, List.cons_append, List.append_assoc]
    rw [compact_cons _ (by decide) (by decide), compact_newline, compact_indentation,
      compact_renderPretty, compact_prettyItems]
  | .object ((key, value) :: members) =>
    simp only [renderPretty, render, List.cons_append, List.append_assoc]
    rw [compact_cons _ (by decide) (by decide), compact_newline, compact_indentation,
      compact_quote, compact_cons _ (by decide) (by decide), compact_blank,
      compact_renderPretty, compact_prettyMembers]

theorem compact_prettyItems (level : Nat) (items : List Json) (rest : List Char) :
    compact (prettyItems level items ++ rest) = renderItems items ++ compact rest := by
  match items with
  | [] =>
    simp only [prettyItems, renderItems, List.cons_append, List.append_assoc, List.nil_append]
    rw [compact_newline, compact_indentation, compact_cons _ (by decide) (by decide)]
  | item :: items =>
    simp only [prettyItems, renderItems, List.cons_append, List.append_assoc]
    rw [compact_cons _ (by decide) (by decide), compact_newline, compact_indentation,
      compact_renderPretty, compact_prettyItems]

theorem compact_prettyMembers (level : Nat) (members : List (String × Json)) (rest : List Char) :
    compact (prettyMembers level members ++ rest) = renderMembers members ++ compact rest := by
  match members with
  | [] =>
    simp only [prettyMembers, renderMembers, List.cons_append, List.append_assoc, List.nil_append]
    rw [compact_newline, compact_indentation, compact_cons _ (by decide) (by decide)]
  | (key, value) :: members =>
    simp only [prettyMembers, renderMembers, List.cons_append, List.append_assoc]
    rw [compact_cons _ (by decide) (by decide), compact_newline, compact_indentation,
      compact_quote, compact_cons _ (by decide) (by decide), compact_blank,
      compact_renderPretty, compact_prettyMembers]

end

/-- **Equal indented texts come from equal trees.** -/
theorem renderPretty_injective (level : Nat) : Function.Injective (renderPretty level) := by
  intro tree tree' same
  have left := compact_renderPretty level tree []
  have right := compact_renderPretty level tree' []
  rw [same, right] at left
  exact (render_injective (by simpa [compact] using left)).symm

/-! ## Numbers and nesting -/

mutual

/-- The tree with every number replaced. -/
def mapNumbers (f : NumberLiteral → NumberLiteral) : Json → Json
  | .number literal => .number (f literal)
  | .array items => .array (mapItems f items)
  | .object members => .object (mapMembers f members)
  | .null => .null
  | .bool value => .bool value
  | .string value => .string value

def mapItems (f : NumberLiteral → NumberLiteral) : List Json → List Json
  | [] => []
  | item :: items => mapNumbers f item :: mapItems f items

def mapMembers (f : NumberLiteral → NumberLiteral) : List (String × Json) → List (String × Json)
  | [] => []
  | (key, value) :: members => (key, mapNumbers f value) :: mapMembers f members

end

/-- The number as `serde_json` compares it: the two zeros are equal. -/
def comparedNumber (literal : NumberLiteral) : NumberLiteral :=
  if literal.text = ['-', '0', '.', '0'] then
    ⟨['0', '.', '0'], by simp, List.all_eq_true.1 (by decide)⟩
  else literal

def comparedValue (value : Json) : List Char := (value.mapNumbers comparedNumber).render

mutual

def AllNumbers (p : NumberLiteral → Prop) : Json → Prop
  | .number literal => p literal
  | .array items => AllItems p items
  | .object members => AllMembers p members
  | _ => True

def AllItems (p : NumberLiteral → Prop) : List Json → Prop
  | [] => True
  | item :: items => AllNumbers p item ∧ AllItems p items

def AllMembers (p : NumberLiteral → Prop) : List (String × Json) → Prop
  | [] => True
  | (_, value) :: members => AllNumbers p value ∧ AllMembers p members

end

mutual

/-- The number of arrays and objects that are open at the deepest place of the tree. -/
def depth : Json → Nat
  | .array items => itemsDepth items + 1
  | .object members => membersDepth members + 1
  | _ => 0

def itemsDepth : List Json → Nat
  | [] => 0
  | item :: items => max (depth item) (itemsDepth items)

def membersDepth : List (String × Json) → Nat
  | [] => 0
  | (_, value) :: members => max (depth value) (membersDepth members)

end

mutual

theorem mapNumbers_eq_self {f : NumberLiteral → NumberLiteral} (tree : Json)
    (kept : AllNumbers (fun literal => f literal = literal) tree) : mapNumbers f tree = tree := by
  match tree with
  | .null | .bool _ | .string _ => rfl
  | .number literal => exact congrArg Json.number kept
  | .array items => rw [mapNumbers, mapItems_eq_self items kept]
  | .object members => rw [mapNumbers, mapMembers_eq_self members kept]

theorem mapItems_eq_self {f : NumberLiteral → NumberLiteral} (items : List Json)
    (kept : AllItems (fun literal => f literal = literal) items) : mapItems f items = items := by
  match items with
  | [] => rfl
  | item :: items => rw [mapItems, mapNumbers_eq_self item kept.1, mapItems_eq_self items kept.2]

theorem mapMembers_eq_self {f : NumberLiteral → NumberLiteral} (members : List (String × Json))
    (kept : AllMembers (fun literal => f literal = literal) members) :
    mapMembers f members = members := by
  match members with
  | [] => rfl
  | (key, value) :: members =>
    rw [mapMembers, mapNumbers_eq_self value kept.1, mapMembers_eq_self members kept.2]

end

theorem mapMembers_append (f : NumberLiteral → NumberLiteral)
    (members others : List (String × Json)) :
    mapMembers f (members ++ others) = mapMembers f members ++ mapMembers f others := by
  induction members with
  | nil => rfl
  | cons member members ih =>
    obtain ⟨key, value⟩ := member
    rw [List.cons_append, mapMembers, ih, mapMembers, List.cons_append]

mutual

theorem AllNumbers.imp {p q : NumberLiteral → Prop} (follows : ∀ literal, p literal → q literal)
    {tree : Json} (all : AllNumbers p tree) : AllNumbers q tree := by
  match tree with
  | .null | .bool _ | .string _ => exact trivial
  | .number literal => exact follows literal all
  | .array _ => exact AllItems.imp follows all
  | .object _ => exact AllMembers.imp follows all

theorem AllItems.imp {p q : NumberLiteral → Prop} (follows : ∀ literal, p literal → q literal)
    {items : List Json} (all : AllItems p items) : AllItems q items := by
  match items with
  | [] => exact trivial
  | _ :: _ => exact ⟨AllNumbers.imp follows all.1, AllItems.imp follows all.2⟩

theorem AllMembers.imp {p q : NumberLiteral → Prop} (follows : ∀ literal, p literal → q literal)
    {members : List (String × Json)} (all : AllMembers p members) : AllMembers q members := by
  match members with
  | [] => exact trivial
  | (_, _) :: _ => exact ⟨AllNumbers.imp follows all.1, AllMembers.imp follows all.2⟩

end

variable {members : List (String × Json)}

theorem allMembers_iff {p : NumberLiteral → Prop} :
    AllMembers p members ↔ ∀ member ∈ members, AllNumbers p member.2 := by
  induction members with
  | nil => simp [AllMembers]
  | cons member members ih =>
    obtain ⟨key, value⟩ := member
    rw [AllMembers, ih, List.forall_mem_cons]

theorem membersDepth_le {bound : Nat} :
    membersDepth members ≤ bound ↔ ∀ member ∈ members, depth member.2 ≤ bound := by
  induction members with
  | nil => simp [membersDepth]
  | cons member members ih =>
    obtain ⟨key, value⟩ := member
    rw [membersDepth, Nat.max_le, ih, List.forall_mem_cons]

/-! ## Sizes -/

def bytes (text : List Char) : Nat := text.foldr (fun c size => c.utf8Size + size) 0

@[simp] theorem bytes_nil : bytes [] = 0 := rfl

@[simp] theorem bytes_cons (c : Char) (text : List Char) :
    bytes (c :: text) = c.utf8Size + bytes text := rfl

@[simp] theorem bytes_append (text other : List Char) :
    bytes (text ++ other) = bytes text + bytes other := by
  induction text with
  | nil => simp
  | cons c text ih => simp only [List.cons_append, bytes_cons, ih]; omega

/-- Digits take one byte each. -/
theorem bytes_toDigits (n : Nat) : bytes (Nat.toDigits 10 n) = (Nat.toDigits 10 n).length := by
  have digits (text : List Char) (plain : ∀ c ∈ text, c.isDigit) : bytes text = text.length := by
    induction text with
    | nil => rfl
    | cons c text ih =>
      have rest := ih fun later member => plain later (List.mem_cons_of_mem _ member)
      have single : c.utf8Size = 1 := by
        have digit := plain c List.mem_cons_self
        simp only [Char.isDigit, Bool.and_eq_true, decide_eq_true_eq] at digit
        exact Char.utf8Size_eq_one_iff.2 (UInt32.le_trans digit.2 (by decide))
      rw [bytes_cons, rest, single, List.length_cons, Nat.add_comm]
  exact digits _ fun c member => Nat.isDigit_of_mem_toDigits (by decide) (by decide) member

theorem one_le_utf8Size (c : Char) : 1 ≤ c.utf8Size := c.utf8Size_pos

section Sizes

variable {f : NumberLiteral → NumberLiteral}

mutual

/-- **An indented text has room for one more character in every number**, but for a number that
stands alone. -/
theorem size_render_le (close : ∀ literal, bytes (f literal).text ≤ bytes literal.text ∧
      bytes literal.text ≤ bytes (f literal).text + 1) (level : Nat) (tree : Json) :
    bytes (render tree) ≤ bytes (renderPretty level (mapNumbers f tree)) + 1 ∧
      bytes (renderPretty level (mapNumbers f tree)) ≤ bytes (renderPretty level tree) := by
  match tree with
  | .null | .bool true | .bool false | .string value => simp [render, mapNumbers, renderPretty]
  | .number literal =>
    rw [render, mapNumbers, renderPretty, renderPretty]
    exact (close literal).symm
  | .array [] => simp [render, mapNumbers, mapItems, renderPretty]
  | .object [] => simp [render, mapNumbers, mapMembers, renderPretty]
  | .array (item :: items) =>
    have first := size_render_le close (level + 1) item
    have rest := size_renderItems_le close level items
    simp only [render, mapNumbers, mapItems, renderPretty, bytes_cons, bytes_append]
    omega
  | .object ((key, value) :: members) =>
    have first := size_render_le close (level + 1) value
    have rest := size_renderMembers_le close level members
    simp only [render, mapNumbers, mapMembers, renderPretty, bytes_cons, bytes_append]
    omega

theorem size_renderItems_le (close : ∀ literal, bytes (f literal).text ≤ bytes literal.text ∧
      bytes literal.text ≤ bytes (f literal).text + 1) (level : Nat) (items : List Json) :
    bytes (renderItems items) ≤ bytes (prettyItems level (mapItems f items)) ∧
      bytes (prettyItems level (mapItems f items)) ≤ bytes (prettyItems level items) := by
  match items with
  | [] => simp only [renderItems, mapItems, prettyItems, bytes_cons, bytes_append]; omega
  | item :: items =>
    have first := size_render_le close (level + 1) item
    have rest := size_renderItems_le close level items
    have newline := one_le_utf8Size '\n'
    simp only [renderItems, mapItems, prettyItems, bytes_cons, bytes_append]
    omega

theorem size_renderMembers_le (close : ∀ literal, bytes (f literal).text ≤ bytes literal.text ∧
      bytes literal.text ≤ bytes (f literal).text + 1) (level : Nat)
    (members : List (String × Json)) :
    bytes (renderMembers members) ≤ bytes (prettyMembers level (mapMembers f members)) ∧
      bytes (prettyMembers level (mapMembers f members)) ≤ bytes (prettyMembers level members) := by
  match members with
  | [] => simp only [renderMembers, mapMembers, prettyMembers, bytes_cons, bytes_append]; omega
  | (key, value) :: members =>
    have first := size_render_le close (level + 1) value
    have rest := size_renderMembers_le close level members
    have newline := one_le_utf8Size '\n'
    simp only [renderMembers, mapMembers, prettyMembers, bytes_cons, bytes_append]
    omega

end

end Sizes

/-! ## The sizes of objects -/

def membersSize (size : Json → Nat) (gap : Nat) (members : List (String × Json)) : Nat :=
  members.foldr (fun member total => bytes (quote member.1) + size member.2 + gap + total) 0

@[simp] theorem membersSize_nil (size : Json → Nat) (gap : Nat) : membersSize size gap [] = 0 := rfl

@[simp] theorem membersSize_cons (size : Json → Nat) (gap : Nat) (member : String × Json)
    (members : List (String × Json)) :
    membersSize size gap (member :: members) =
      bytes (quote member.1) + size member.2 + gap + membersSize size gap members := rfl

@[simp] theorem membersSize_append (size : Json → Nat) (gap : Nat)
    (members others : List (String × Json)) :
    membersSize size gap (members ++ others) =
      membersSize size gap members + membersSize size gap others := by
  induction members with
  | nil => simp
  | cons member members ih => simp only [List.cons_append, membersSize_cons, ih]; omega

theorem size_render_object (nonempty : members ≠ []) :
    bytes (render (.object members)) = 1 + membersSize (fun value => bytes (render value)) 2 members := by
  have rest (members : List (String × Json)) : bytes (renderMembers members) =
      1 + membersSize (fun value => bytes (render value)) 2 members := by
    induction members with
    | nil => decide
    | cons member members ih =>
      obtain ⟨key, value⟩ := member
      rw [renderMembers, membersSize_cons]
      simp only [bytes_cons, bytes_append, ih]
      have comma : ','.utf8Size = 1 := by decide
      have colon : ':'.utf8Size = 1 := by decide
      omega
  obtain ⟨⟨key, value⟩, members, rfl⟩ := List.exists_cons_of_ne_nil nonempty
  rw [render, membersSize_cons]
  simp only [bytes_cons, bytes_append, rest]
  have brace : '\x7b'.utf8Size = 1 := by decide
  have colon : ':'.utf8Size = 1 := by decide
  omega

theorem size_renderPretty_object (nonempty : members ≠ []) :
    bytes (renderPretty 0 (.object members)) =
      2 + membersSize (fun value => bytes (renderPretty 1 value)) 6 members := by
  have blanks : bytes (indentation 1) = 2 := by decide
  have newline : '\n'.utf8Size = 1 := by decide
  have colon : ':'.utf8Size = 1 := by decide
  have blank : ' '.utf8Size = 1 := by decide
  have rest (members : List (String × Json)) : bytes (prettyMembers 0 members) =
      2 + membersSize (fun value => bytes (renderPretty 1 value)) 6 members := by
    induction members with
    | nil => decide
    | cons member members ih =>
      obtain ⟨key, value⟩ := member
      rw [prettyMembers, membersSize_cons]
      simp only [bytes_cons, bytes_append, ih, Nat.zero_add, blanks]
      have comma : ','.utf8Size = 1 := by decide
      omega
  obtain ⟨⟨key, value⟩, members, rfl⟩ := List.exists_cons_of_ne_nil nonempty
  rw [renderPretty, membersSize_cons]
  simp only [bytes_cons, bytes_append, rest, Nat.zero_add, blanks]
  have brace : '\x7b'.utf8Size = 1 := by decide
  omega

end Json

end Zero3Pilot
