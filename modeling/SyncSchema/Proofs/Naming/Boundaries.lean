import SyncSchema.Naming.Words

namespace SyncSchema.Naming
open Text

def isSmall (c : Char) : Bool :=
  c.isLower || c.isDigit

theorem flatten_extendFirst (c : Char) (words : List (List Char)) :
    (extendFirst c words).flatten = c :: words.flatten := by
  cases words <;> rfl

theorem flatten_splitWords (chars : List Char) : (splitWords chars).flatten = chars.filter isLetterOrNumber := by
  induction chars with
  | nil => rfl
  | cons c rest ih =>
    rw [splitWords]
    split
    · rename_i letter
      rw [List.filter_cons_of_pos letter, ← ih]
      split
      · exact flatten_extendFirst c _
      · rfl
    · rename_i other
      rw [List.filter_cons_of_neg other, ih]

theorem splitWords_letter {c : Char} (letter : isLetterOrNumber c = true) (rest : List Char) :
    ∃ word words, splitWords (c :: rest) = (c :: word) :: words := by
  rw [splitWords, if_pos letter]
  split
  · cases splitWords rest with
    | nil => exact ⟨[], [], rfl⟩
    | cons word words => exact ⟨word, words, rfl⟩
  · exact ⟨[], _, rfl⟩

theorem goesOn_append {c d : Char} {rest after : List Char} (start : ∀ b ∈ after.head?, b.isLower = false) :
    goesOn c (d :: rest ++ after) = goesOn c (d :: rest) := by
  have behind : (rest ++ after).head?.any Char.isLower = rest.head?.any Char.isLower := by
    cases rest with
    | nil =>
      cases after with
      | nil => rfl
      | cons b _ => exact start b rfl
    | cons => rfl
  rw [List.cons_append, goesOn, goesOn, startsWord, startsWord, behind]

/-- A text is split into the words of its two parts where the second one starts a word. If that started in lower case,
it could take the last capital of the first part. -/
theorem splitWords_append {before after : List Char} (start : ∀ b ∈ after.head?, b.isLower = false)
    (stop : ∀ a ∈ before.getLast?, goesOn a after = false) :
    splitWords (before ++ after) = splitWords before ++ splitWords after := by
  induction before with
  | nil => rfl
  | cons c rest ih =>
    cases rest with
    | nil =>
      have apart : goesOn c after = false := stop c rfl
      rw [List.singleton_append, splitWords, splitWords, apart]
      split <;> rfl
    | cons d rest =>
      rw [List.getLast?_cons_cons] at stop
      rw [List.cons_append, splitWords, splitWords, goesOn_append start, ih stop]
      split
      · split
        · rename_i on
          rw [goesOn, Bool.and_eq_true] at on
          obtain ⟨word, words, first⟩ := splitWords_letter on.1 rest
          rw [first]
          rfl
        · rfl
      · rfl

theorem splitWords_single {c : Char} {rest : List Char} (letter : isLetterOrNumber c = true)
    (small : ∀ d ∈ rest, isLetterOrNumber d = true ∧ d.isUpper = false) : splitWords (c :: rest) = [c :: rest] := by
  induction rest generalizing c with
  | nil => simp [splitWords, letter, goesOn]
  | cons d rest ih =>
    rw [List.forall_mem_cons] at small
    have on : goesOn c (d :: rest) = true := by simp [goesOn, startsWord, small.1]
    rw [splitWords, if_pos letter, if_pos on, ih small.1.1 small.2, extendFirst]

end SyncSchema.Naming
