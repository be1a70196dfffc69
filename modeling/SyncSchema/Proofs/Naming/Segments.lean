import SyncSchema.Proofs.Naming.Boundaries
import SyncSchema.Proofs.Naming.Camel

namespace SyncSchema.Naming
open Text

/-- A word starts behind `a`: `[a-z0-9]` is followed by `[A-Z]`, or `[A-Z]` by `[A-Z][a-z]`. -/
inductive Boundary : Char → List Char → Prop
  | capital {a b : Char} {rest : List Char} (small : a.isLower = true ∨ a.isDigit = true) (upper : b.isUpper = true) :
    Boundary a (b :: rest)
  | acronym {a b c : Char} {rest : List Char} (upper : a.isUpper = true) (upper' : b.isUpper = true)
    (lower : c.isLower = true) : Boundary a (b :: c :: rest)

def Unbroken (text : List Char) : Prop :=
  ∀ before a after, text = before ++ a :: after → ¬Boundary a after

def wordOf : List (List Char) → Nat → Nat
  | [], _ => 0
  | word :: words, index => if index < word.length then 0 else wordOf words (index - word.length) + 1

/-- Two letters of a text with only other characters between them are in different words where there is such a
character, or a word starts at the second letter. The index of the first one counts the letters before it. -/
def Divides (chars : List Char) (words : List (List Char)) : Prop :=
  ∀ before a between b after, chars = before ++ a :: (between ++ b :: after) →
    isLetterOrNumber a = true → isLetterOrNumber b = true → (∀ c ∈ between, isLetterOrNumber c = false) →
    (wordOf words (before.countP isLetterOrNumber) ≠ wordOf words (before.countP isLetterOrNumber + 1) ↔
      between ≠ [] ∨ Boundary a (b :: after))

/-- The words that a text falls into. -/
structure Segments (chars : List Char) (words : List (List Char)) : Prop where
  letters : ∀ word ∈ words, word ≠ [] ∧ ∀ c ∈ word, isLetterOrNumber c = true
  whole : words.flatten = chars.filter isLetterOrNumber
  unbroken : ∀ word ∈ words, Unbroken word
  divided : Divides chars words

theorem boundary_cons_iff {a b : Char} {rest : List Char} :
    Boundary a (b :: rest) ↔ startsWord a b rest.head? = true := by
  rw [startsWord, Bool.or_eq_true, Bool.and_eq_true, Bool.or_eq_true, Bool.and_eq_true, Bool.and_eq_true]
  constructor
  · intro boundary
    cases boundary with
    | capital small upper => exact .inl ⟨small, upper⟩
    | acronym upper upper' lower => exact .inr ⟨⟨upper, upper'⟩, lower⟩
  · rintro (⟨small, upper⟩ | ⟨⟨upper, upper'⟩, lower⟩)
    · exact .capital small upper
    · cases rest with
      | nil => cases lower
      | cons c rest => exact .acronym upper upper' lower

theorem not_boundary_nil {a : Char} : ¬Boundary a [] := by
  rintro ⟨⟩

theorem Boundary.append {a : Char} {rest : List Char} (boundary : Boundary a rest) (more : List Char) :
    Boundary a (rest ++ more) := by
  cases boundary with
  | capital small upper => exact .capital small upper
  | acronym upper upper' lower => exact .acronym upper upper' lower

theorem goesOn_cons_iff {a b : Char} {rest : List Char} :
    goesOn a (b :: rest) = true ↔ isLetterOrNumber b = true ∧ ¬Boundary a (b :: rest) := by
  rw [goesOn, Bool.and_eq_true, Bool.not_eq_true', boundary_cons_iff, Bool.not_eq_true]

theorem goesOn_between {a b : Char} {between after : List Char} (letter : isLetterOrNumber b = true)
    (others : ∀ c ∈ between, isLetterOrNumber c = false) :
    goesOn a (between ++ b :: after) = false ↔ between ≠ [] ∨ Boundary a (b :: after) := by
  rw [← Bool.not_eq_true]
  cases between with
  | nil =>
    rw [List.nil_append, goesOn_cons_iff]
    simp [letter]
  | cons c between =>
    rw [List.cons_append, goesOn_cons_iff, others c List.mem_cons_self]
    simp

theorem exists_letter_of_goesOn {c : Char} {rest : List Char} (on : goesOn c rest = true) :
    ∃ d ∈ rest, isLetterOrNumber d = true := by
  cases rest with
  | nil => cases on
  | cons d rest => exact ⟨d, List.mem_cons_self, (goesOn_cons_iff.1 on).1⟩

theorem unbroken_nil : Unbroken [] := by
  intro before a after split
  simp at split

theorem unbroken_cons_iff {c : Char} {rest : List Char} : Unbroken (c :: rest) ↔ ¬Boundary c rest ∧ Unbroken rest := by
  constructor
  · intro unbroken
    exact ⟨unbroken [] c rest rfl, fun before a after split => unbroken (c :: before) a after (congrArg (c :: ·) split)⟩
  · rintro ⟨first, others⟩ (_ | ⟨_, before⟩) a after split
    · obtain ⟨rfl, rfl⟩ := List.cons.inj split
      exact first
    · exact others before a after (List.cons.inj split).2

theorem splitWords_isPrefix {c : Char} {rest word : List Char} {words : List (List Char)}
    (letter : isLetterOrNumber c = true) (split : splitWords (c :: rest) = word :: words) : word <+: c :: rest := by
  induction rest generalizing c word words with
  | nil =>
    rw [splitWords, if_pos letter] at split
    obtain ⟨rfl, -⟩ := List.cons.inj split
    exact List.prefix_rfl
  | cons d rest ih =>
    rw [splitWords, if_pos letter] at split
    split at split
    · rename_i on
      have next := (goesOn_cons_iff.1 on).1
      obtain ⟨more, others, first⟩ := splitWords_letter next rest
      rw [first] at split
      obtain ⟨rfl, -⟩ := List.cons.inj split
      exact List.cons_prefix_cons.2 ⟨rfl, ih next first⟩
    · obtain ⟨rfl, -⟩ := List.cons.inj split
      exact ⟨d :: rest, rfl⟩

theorem splitWords_unbroken (chars : List Char) : ∀ word ∈ splitWords chars, Unbroken word := by
  induction chars with
  | nil => simp [splitWords]
  | cons c rest ih =>
    rw [splitWords]
    split
    · split
      · rename_i on
        cases rest with
        | nil => cases on
        | cons d rest =>
          obtain ⟨letter, apart⟩ := goesOn_cons_iff.1 on
          obtain ⟨word, words, first⟩ := splitWords_letter letter rest
          obtain ⟨more, whole⟩ := splitWords_isPrefix letter first
          rw [first, List.forall_mem_cons] at ih
          rw [first, extendFirst, List.forall_mem_cons, unbroken_cons_iff]
          -- What follows in the word is the start of what follows in the text.
          exact ⟨⟨fun boundary => apart (whole ▸ boundary.append more), ih.1⟩, ih.2⟩
      · exact List.forall_mem_cons.2 ⟨unbroken_cons_iff.2 ⟨not_boundary_nil, unbroken_nil⟩, ih⟩
    · exact ih

theorem splitWords_of_unbroken {word : List Char} (nonempty : word ≠ [])
    (letters : ∀ c ∈ word, isLetterOrNumber c = true) (unbroken : Unbroken word) : splitWords word = [word] := by
  induction word with
  | nil => exact absurd rfl nonempty
  | cons c rest ih =>
    rw [List.forall_mem_cons] at letters
    rw [unbroken_cons_iff] at unbroken
    rw [splitWords, if_pos letters.1]
    cases rest with
    | nil => rfl
    | cons d rest =>
      have on := goesOn_cons_iff.2 ⟨letters.2 d List.mem_cons_self, unbroken.1⟩
      rw [if_pos on, ih (List.cons_ne_nil _ _) letters.2 unbroken.2, extendFirst]

theorem wordOf_succ (c : Char) (word : List Char) (words : List (List Char)) (index : Nat) :
    wordOf ((c :: word) :: words) (index + 1) = wordOf (word :: words) index := by
  simp only [wordOf, List.length_cons, Nat.add_lt_add_iff_right, Nat.add_sub_add_right]

theorem wordOf_nil_cons (words : List (List Char)) (index : Nat) : wordOf ([] :: words) index = wordOf words index + 1 :=
  rfl

theorem wordOf_zero_eq {word : List Char} {words : List (List Char)} : wordOf (word :: words) 0 = 0 ↔ word ≠ [] := by
  cases word <;> simp [wordOf]

theorem exists_first_letter {chars : List Char} (some : ∃ d ∈ chars, isLetterOrNumber d = true) :
    ∃ between b after, chars = between ++ b :: after ∧ isLetterOrNumber b = true ∧
      ∀ c ∈ between, isLetterOrNumber c = false := by
  obtain ⟨b, found⟩ := Option.isSome_iff_exists.1 (List.find?_isSome.2 some)
  obtain ⟨letter, between, after, split, others⟩ := List.find?_eq_some_iff_append.1 found
  exact ⟨between, b, after, split, letter, fun c member => by simpa using others c member⟩

theorem divides_nil_cons {chars : List Char} {words : List (List Char)} :
    Divides chars ([] :: words) ↔ Divides chars words := by
  simp only [Divides, wordOf_nil_cons, ne_eq, Nat.add_right_cancel_iff]

theorem divides_cons_of_other {c : Char} {rest : List Char} {words : List (List Char)}
    (other : ¬isLetterOrNumber c = true) : Divides (c :: rest) words ↔ Divides rest words := by
  constructor
  · intro divides before a between b after split
    have longer := divides (c :: before) a between b after (congrArg (c :: ·) split)
    rwa [List.countP_cons_of_neg other] at longer
  · rintro divides (_ | ⟨_, before⟩) a between b after split letter
    · obtain ⟨rfl, -⟩ := List.cons.inj split
      exact absurd letter other
    · obtain ⟨rfl, inner⟩ := List.cons.inj split
      rw [List.countP_cons_of_neg other]
      exact divides before a between b after inner letter

theorem divides_cons_of_letter {c : Char} {rest word : List Char} {words : List (List Char)}
    (letter : isLetterOrNumber c = true) :
    Divides (c :: rest) ((c :: word) :: words) ↔
      ((∃ d ∈ rest, isLetterOrNumber d = true) → (goesOn c rest = false ↔ word = [])) ∧
        Divides rest (word :: words) := by
  have first : wordOf ((c :: word) :: words) 0 ≠ wordOf ((c :: word) :: words) 1 ↔ word = [] := by
    rw [wordOf_succ, wordOf_zero_eq.2 (List.cons_ne_nil _ _), ne_comm, ne_eq, wordOf_zero_eq, not_not]
  constructor
  · intro divides
    refine ⟨fun some => ?_, fun before a between b after split => ?_⟩
    · obtain ⟨between, b, after, split, letter', others⟩ := exists_first_letter some
      rw [split, goesOn_between letter' others, ← first]
      exact (divides [] c between b after (congrArg (c :: ·) split) letter letter' others).symm
    · have longer := divides (c :: before) a between b after (congrArg (c :: ·) split)
      rwa [List.countP_cons_of_pos letter, wordOf_succ, wordOf_succ] at longer
  · rintro ⟨on, divides⟩ (_ | ⟨_, before⟩) a between b after split letter' letter'' others
    · obtain ⟨rfl, rfl⟩ := List.cons.inj split
      rw [← goesOn_between letter'' others, on ⟨b, by simp, letter''⟩]
      exact first
    · obtain ⟨rfl, inner⟩ := List.cons.inj split
      rw [List.countP_cons_of_pos letter, wordOf_succ, wordOf_succ]
      exact divides before a between b after inner letter' letter'' others

theorem splitWords_divides (chars : List Char) : Divides chars (splitWords chars) := by
  induction chars with
  | nil =>
    intro before a between b after split
    simp at split
  | cons c rest ih =>
    rw [splitWords]
    split
    · rename_i letter
      split
      · rename_i on
        cases rest with
        | nil => cases on
        | cons d rest =>
          obtain ⟨word, words, first⟩ := splitWords_letter (goesOn_cons_iff.1 on).1 rest
          rw [first] at ih
          rw [first, extendFirst, divides_cons_of_letter letter, on]
          exact ⟨fun _ => by simp, ih⟩
      · rename_i stop
        rw [divides_cons_of_letter letter, divides_nil_cons]
        exact ⟨fun _ => by simpa using stop, ih⟩
    · rename_i other
      rwa [divides_cons_of_other other]

theorem splitWords_cons_eq {c : Char} {rest word : List Char} {words : List (List Char)}
    (letter : isLetterOrNumber c = true)
    (on : (∃ d ∈ rest, isLetterOrNumber d = true) → (goesOn c rest = false ↔ word = []))
    (whole : word ++ words.flatten = rest.filter isLetterOrNumber)
    (behind : splitWords rest = if word = [] then words else word :: words) :
    splitWords (c :: rest) = (c :: word) :: words := by
  rw [splitWords, if_pos letter, behind]
  cases word with
  | nil =>
    have stop : ¬goesOn c rest = true := fun going => by
      have stops := (on (exists_letter_of_goesOn going)).2 rfl
      rw [going] at stops
      cases stops
    rw [if_neg stop, if_pos rfl]
  | cons d word =>
    -- `d` is a letter of `rest`, so the choice between the two cases is up to `on`.
    have member : d ∈ rest.filter isLetterOrNumber := whole ▸ List.mem_cons_self
    have going := (on ⟨d, List.mem_filter.1 member⟩).not.2 (List.cons_ne_nil _ _)
    rw [if_pos (Bool.of_not_eq_false going), if_neg (List.cons_ne_nil _ _), extendFirst]

/-- Only one list of words has the letters of a text and divides them so. Behind a letter that has been taken off, the
word in front may be empty. -/
theorem splitWords_unique {chars word : List Char} {words : List (List Char)} (nonempty : ∀ word ∈ words, word ≠ [])
    (whole : word ++ words.flatten = chars.filter isLetterOrNumber) (divides : Divides chars (word :: words)) :
    splitWords chars = if word = [] then words else word :: words := by
  induction chars generalizing word words with
  | nil =>
    obtain ⟨rfl, empty⟩ := List.append_eq_nil_iff.1 whole
    rw [if_pos rfl, splitWords, eq_comm, List.eq_nil_iff_forall_not_mem]
    exact fun word member => nonempty word member (List.flatten_eq_nil_iff.1 empty word member)
  | cons c rest ih =>
    by_cases letter : isLetterOrNumber c = true
    · -- The letter starts the word in front or, where that is empty, the one behind it.
      have start {word : List Char} {words : List (List Char)} (nonempty : ∀ word ∈ words, word ≠ [])
          (whole : c :: (word ++ words.flatten) = c :: rest.filter isLetterOrNumber)
          (divides : Divides (c :: rest) ((c :: word) :: words)) : splitWords (c :: rest) = (c :: word) :: words := by
        obtain ⟨on, divides⟩ := (divides_cons_of_letter letter).1 divides
        have whole := (List.cons.inj whole).2
        exact splitWords_cons_eq letter on whole (ih nonempty whole divides)
      rw [List.filter_cons_of_pos letter] at whole
      cases word with
      | cons first word =>
        obtain rfl : first = c := (List.cons.inj whole).1
        rw [if_neg (List.cons_ne_nil _ _)]
        exact start nonempty whole divides
      | nil =>
        rw [divides_nil_cons] at divides
        rw [if_pos rfl]
        cases words with
        | nil => cases whole
        | cons word words =>
          rw [List.forall_mem_cons] at nonempty
          cases word with
          | nil => exact absurd rfl nonempty.1
          | cons first word =>
            obtain rfl : first = c := (List.cons.inj whole).1
            exact start nonempty.2 whole divides
    · rw [List.filter_cons_of_neg letter] at whole
      rw [splitWords, if_neg letter]
      exact ih nonempty whole ((divides_cons_of_other letter).1 divides)

theorem splitWords_segments (chars : List Char) : Segments chars (splitWords chars) where
  letters := splitWords_words
  whole := flatten_splitWords chars
  unbroken := splitWords_unbroken chars
  divided := splitWords_divides chars

theorem Segments.eq_splitWords {chars : List Char} {words : List (List Char)} (segments : Segments chars words) :
    words = splitWords chars := by
  have divides : Divides chars ([] :: words) := divides_nil_cons.2 segments.divided
  rw [splitWords_unique (fun word member => (segments.letters word member).1) segments.whole divides, if_pos rfl]

theorem toList_words (value : String) : (words value).map String.toList = splitWords value.toList := by
  rw [words, List.map_map]
  exact List.map_id'' (fun _ => String.toList_ofList) _

/-- A text falls into its words, which fall apart no further, and into no others. -/
theorem words_segments (value : String) :
    Segments value.toList ((words value).map String.toList) ∧ (∀ word ∈ words value, words word = [word]) ∧
      ∀ segments, Segments value.toList segments → segments = (words value).map String.toList := by
  have segments := splitWords_segments value.toList
  rw [toList_words]
  refine ⟨segments, fun word known => ?_, fun _ => Segments.eq_splitWords⟩
  obtain ⟨chars, member, rfl⟩ := List.mem_map.1 known
  obtain ⟨nonempty, letters⟩ := segments.letters chars member
  rw [words, String.toList_ofList, splitWords_of_unbroken nonempty letters (segments.unbroken chars member)]
  rfl

example : words "\x00 _XMLHttp\x00Request2Go straße9Ärzte" = ["XML", "Http", "Request2", "Go", "straße9Ärzte"] := by
  decide +kernel

end SyncSchema.Naming
