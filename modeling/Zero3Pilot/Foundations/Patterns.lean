import Mathlib.Data.List.Infix

/-! # Searching a text by a pattern

Patterns are sequences of items: a literal text, a run of some characters taken as long as possible, any
text taken as short as possible, and a text that must follow. A pattern is matched from a place of a text
by backtracking, and searched at its leftmost place.

* `Pattern.matchFrom` — what a pattern matches at the start of a text, and the rest.
* `Pattern.search` — the text before the leftmost match, the match, and the text after it.
* `search_append` — the three parts make up the text; `search_text` — a literal is found where it occurs.
* `Pattern.replace` — the text with its leftmost match replaced. -/

namespace Zero3Pilot

inductive PatternItem where
  | text (literal : List Char)
  | many (allowed : Char → Bool)
  /-- Any text, as short as possible: `[\s\S]*?`. -/
  | anything
  | ahead (literal : List Char)

abbrev Pattern := List PatternItem

namespace Pattern

/-- Put a text before what was matched. -/
def withPrefix (before : List Char) (found : List Char × List Char) : List Char × List Char :=
  (before ++ found.1, found.2)

/-- **What a pattern matches** at the start of a text, and the rest of the text. -/
def matchFrom : Pattern → List Char → Option (List Char × List Char)
  | [], source => some ([], source)
  | .text literal :: items, source =>
    if literal.isPrefixOf source then
      (matchFrom items (source.drop literal.length)).map (withPrefix literal)
    else none
  | .ahead literal :: items, source =>
    if literal.isPrefixOf source then matchFrom items source else none
  | .many allowed :: items, source =>
    (List.range ((source.takeWhile allowed).length + 1)).reverse.findSome? fun count =>
      (matchFrom items (source.drop count)).map (withPrefix (source.take count))
  | .anything :: items, source =>
    (List.range (source.length + 1)).findSome? fun count =>
      (matchFrom items (source.drop count)).map (withPrefix (source.take count))

/-- The parts of a text around the leftmost match of a pattern. -/
structure Found where
  (before matched after : List Char)

/-- **The leftmost match** of a pattern. -/
def search (pattern : Pattern) : List Char → Option Found
  | [] => (pattern.matchFrom []).map fun found => ⟨[], found.1, found.2⟩
  | char :: source =>
    match pattern.matchFrom (char :: source) with
    | some found => some ⟨[], found.1, found.2⟩
    | none => (search pattern source).map fun found => { found with before := char :: found.before }

def test (pattern : Pattern) (source : List Char) : Bool := (pattern.search source).isSome

def replace (pattern : Pattern) (replacement : List Char → List Char) (source : List Char) : List Char :=
  match pattern.search source with
  | some found => found.before ++ replacement found.matched ++ found.after
  | none => source

variable {pattern items : Pattern} {source literal : List Char} {found : List Char × List Char}

theorem matchFrom_text (matched : matchFrom (.text literal :: items) source = some found) :
    ∃ rest, source = literal ++ rest ∧ ∃ found', matchFrom items rest = some found' ∧
      found = withPrefix literal found' := by
  rw [matchFrom] at matched
  by_cases starts : literal.isPrefixOf source
  · rw [if_pos starts] at matched
    obtain ⟨rest, rfl⟩ := List.isPrefixOf_iff_prefix.1 starts
    rw [List.drop_left] at matched
    obtain ⟨found', rest', rfl⟩ := Option.map_eq_some_iff.1 matched
    exact ⟨rest, rfl, found', rest', rfl⟩
  · rw [if_neg starts] at matched
    cases matched

theorem taken_of_findSome {counts : List Nat} (matched : (counts.findSome? fun count =>
      (matchFrom items (source.drop count)).map (withPrefix (source.take count))) = some found) :
    ∃ count found', matchFrom items (source.drop count) = some found' ∧
      found = withPrefix (source.take count) found' := by
  obtain ⟨count, -, same⟩ := List.exists_of_findSome?_eq_some matched
  obtain ⟨found', rest, rfl⟩ := Option.map_eq_some_iff.1 same
  exact ⟨count, found', rest, rfl⟩

/-- **What is matched and the rest make up the text.** -/
theorem matchFrom_append (matched : matchFrom pattern source = some found) :
    found.1 ++ found.2 = source := by
  induction pattern generalizing source found with
  | nil =>
    cases matched
    rfl
  | cons item items ih =>
    cases item with
    | text literal =>
      obtain ⟨rest, rfl, found', matched', rfl⟩ := matchFrom_text matched
      rw [withPrefix, List.append_assoc, ih matched']
    | ahead literal =>
      rw [matchFrom] at matched
      split at matched
      · exact ih matched
      · cases matched
    | many allowed | anything =>
      rw [matchFrom] at matched
      obtain ⟨count, found', matched', rfl⟩ := taken_of_findSome matched
      rw [withPrefix, List.append_assoc, ih matched', List.take_append_drop]

theorem suffix_of_matchFrom (matched : matchFrom (items ++ [.text literal]) source = some found) :
    literal <:+ found.1 := by
  induction items generalizing source found with
  | nil =>
    obtain ⟨rest, -, found', matched', rfl⟩ := matchFrom_text matched
    cases matched'
    simp [withPrefix]
  | cons item items ih =>
    rw [List.cons_append] at matched
    cases item with
    | text first =>
      obtain ⟨rest, -, found', matched', rfl⟩ := matchFrom_text matched
      exact (ih matched').trans (List.suffix_append _ _)
    | ahead first =>
      rw [matchFrom] at matched
      split at matched
      · exact ih matched
      · cases matched
    | many allowed | anything =>
      rw [matchFrom] at matched
      obtain ⟨count, found', matched', rfl⟩ := taken_of_findSome matched
      exact (ih matched').trans (List.suffix_append _ _)

theorem prefix_of_matchFrom (matched : matchFrom (.text literal :: items) source = some found) :
    literal <+: found.1 := by
  obtain ⟨rest, -, found', -, rfl⟩ := matchFrom_text matched
  exact List.prefix_append _ _

/-- **A search splits the text**, and the pattern matches at the place that is found. -/
theorem search_append {parts : Found} (searched : search pattern source = some parts) :
    source = parts.before ++ parts.matched ++ parts.after ∧
      matchFrom pattern (parts.matched ++ parts.after) = some (parts.matched, parts.after) := by
  induction source generalizing parts with
  | nil =>
    obtain ⟨found, matched, rfl⟩ := Option.map_eq_some_iff.1 searched
    have parts := matchFrom_append matched
    exact ⟨by simpa using parts.symm, by rw [parts]; exact matched⟩
  | cons char source ih =>
    rw [search] at searched
    split at searched
    · rename_i found matched
      cases searched
      have parts := matchFrom_append matched
      exact ⟨by simpa using parts.symm, by rw [parts]; exact matched⟩
    · obtain ⟨parts', searched', rfl⟩ := Option.map_eq_some_iff.1 searched
      obtain ⟨split, matched⟩ := ih searched'
      exact ⟨by simp [split], matched⟩

theorem matchFrom_text_isSome :
    (matchFrom [.text literal] source).isSome = true ↔ literal <+: source := by
  rw [matchFrom, ← List.isPrefixOf_iff_prefix]
  split
  · simp [matchFrom, *]
  · simp [*]

theorem search_text : (search [.text literal] source).isSome = true ↔ literal <:+: source := by
  induction source with
  | nil =>
    rw [search, Option.isSome_map, matchFrom_text_isSome]
    simp
  | cons char source ih =>
    rw [List.infix_cons_iff, ← matchFrom_text_isSome, ← ih, search]
    split
    · rename_i found matched
      simp [matched]
    · rename_i unmatched
      simp [unmatched]

theorem matched_text {parts : Found} (searched : search [.text literal] source = some parts) :
    parts.matched = literal := by
  obtain ⟨-, matched⟩ := search_append searched
  obtain ⟨rest, -, found', matched', same⟩ := matchFrom_text matched
  cases matched'
  have first := congrArg Prod.fst same
  simpa [withPrefix] using first

end Pattern

end Zero3Pilot
