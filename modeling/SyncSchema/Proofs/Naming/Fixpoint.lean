import SyncSchema.Proofs.Naming.Identifier

namespace SyncSchema

namespace Text

theorem isAlpha_of_isDigit {c : Char} (digit : c.isDigit = true) : c.isAlpha = false := by
  by_contra alpha
  rw [Bool.not_eq_false] at alpha
  rw [isDigit_of_isAlpha alpha] at digit
  cases digit

theorem toUpper_of_isDigit {c : Char} (digit : c.isDigit = true) : c.toUpper = c := by
  refine Char.toUpper_eq_of_not_isLower fun lower => ?_
  have alpha : c.isAlpha = true := by rw [Char.isAlpha, lower, Bool.or_true]
  rw [isAlpha_of_isDigit digit] at alpha
  cases alpha

theorem isLetterOrNumber_of_isAlphanum {c : Char} (letter : c.isAlphanum = true) : isLetterOrNumber c = true := by
  rw [isLetterOrNumber_of_ascii (ascii_of_isAlphanum letter), letter]

theorem isAlpha_of_not_isDigit {c : Char} (letter : c.isAlphanum = true) (other : ¬c.isDigit = true) :
    c.isAlpha = true := by
  rwa [Char.isAlphanum, Bool.or_eq_true, or_iff_left other] at letter

theorem isDigit_toUpper {c : Char} (letter : c.isAlphanum = true) : c.toUpper.isDigit = c.isDigit := by
  by_cases digit : c.isDigit = true
  · rw [toUpper_of_isDigit digit]
  · have alpha := isAlpha_of_not_isDigit letter digit
    rw [isDigit_of_isAlpha alpha, isDigit_of_isAlpha (by rw [Char.isAlpha_toUpper_eq_isAlpha, alpha])]

theorem lower_alphanum {word : List Char} (letters : ∀ c ∈ word, c.isAlphanum = true) :
    lower word = word.map Char.toLower :=
  lower_ascii fun c member => ascii_of_isAlphanum (letters c member)

end Text

namespace Naming
open Text

def capital : List Char → List Char
  | [] => []
  | c :: rest => c.toUpper :: rest.map Char.toLower

/-- Whether two words make one acronym once they are capitalised and put side by side. -/
def fuse : List Char → List Char → Bool
  | [c], d :: rest => c.isAlpha && d.isAlpha && rest.head?.all Char.isDigit
  | _, _ => false

def Plain (words : List (List Char)) : Prop :=
  ∀ word ∈ words, word ≠ [] ∧ ∀ c ∈ word, c.isAlphanum = true

theorem isSmall_toLower {c : Char} (letter : c.isAlphanum = true) : isSmall c.toLower = true := by
  by_cases alpha : c.isAlpha = true
  · rw [isSmall, Char.isLower_toLower_eq_isAlpha, alpha, Bool.true_or]
  · rw [Char.toLower_eq_of_not_isUpper fun upper => alpha (by rw [Char.isAlpha, upper, Bool.true_or])]
    rw [Char.isAlphanum, Bool.or_eq_true, or_iff_right alpha] at letter
    rw [isSmall, letter, Bool.or_true]

theorem capitalize_cons {c : Char} {rest : List Char} (letter : c.isAlphanum = true)
    (letters : ∀ d ∈ rest, d.isAlphanum = true) :
    capitalize (c :: rest) = (if c.isDigit then ['_'] else []) ++ capital (c :: rest) := by
  have ascii := ascii_of_isAlphanum letter
  rw [capitalize, capital, lower_alphanum letters, isDigit_of_ascii ascii, upperChar, if_pos ascii]
  split
  · rename_i digit
    rw [toUpper_of_isDigit digit]
    rfl
  · rfl

theorem isAlphanum_capital {c : Char} {rest : List Char} (letter : c.isAlphanum = true)
    (letters : ∀ d ∈ rest, d.isAlphanum = true) :
    c.toUpper.isAlphanum = true ∧ ∀ d ∈ rest.map Char.toLower, d.isAlphanum = true :=
  ⟨isAlphanum_toUpper letter, List.forall_mem_map.2 fun d member => isAlphanum_toLower (letters d member)⟩

theorem capitalize_capital {c : Char} {rest : List Char} (letter : c.isAlphanum = true)
    (letters : ∀ d ∈ rest, d.isAlphanum = true) : capitalize (capital (c :: rest)) = capitalize (c :: rest) := by
  have same : capital (c.toUpper :: rest.map Char.toLower) = capital (c :: rest) := by simp [capital]
  rw [capital, capitalize_cons (isAlphanum_capital letter letters).1 (isAlphanum_capital letter letters).2,
    capitalize_cons letter letters, isDigit_toUpper letter, same]

theorem plain_cons {word : List Char} {words : List (List Char)} (plain : Plain (word :: words)) :
    ∃ c rest, word = c :: rest ∧ c.isAlphanum = true ∧ (∀ d ∈ rest, d.isAlphanum = true) ∧ Plain words := by
  rw [Plain, List.forall_mem_cons] at plain
  obtain ⟨⟨nonempty, letters⟩, others⟩ := plain
  obtain ⟨c, rest, rfl⟩ := List.exists_cons_of_ne_nil nonempty
  rw [List.forall_mem_cons] at letters
  exact ⟨c, rest, rfl, letters.1, letters.2, others⟩

theorem plain_splitWords {chars : List Char} (ascii : ∀ c ∈ chars, c.val < 128) : Plain (splitWords chars) :=
  fun word member => ⟨(splitWords_words word member).1, alphanum_of_mem_splitWords ascii word member⟩

theorem head_capitals {words : List (List Char)} (plain : Plain words) :
    ∀ b ∈ (words.flatMap capitalize).head?, b.isLower = false := by
  cases words with
  | nil => exact nofun
  | cons word words =>
    obtain ⟨c, rest, rfl, letter, letters, -⟩ := plain_cons plain
    rw [List.flatMap_cons, capitalize_cons letter letters]
    split
    · rintro b ⟨⟩
      rfl
    · rintro b ⟨⟩
      exact Char.isLower_toUpper_eq_false c

theorem goesOn_capitals {a : Char} (small : isSmall a = true) {words : List (List Char)} (plain : Plain words) :
    goesOn a (words.flatMap capitalize) = false := by
  cases words with
  | nil => rfl
  | cons word words =>
    obtain ⟨c, rest, rfl, letter, letters, -⟩ := plain_cons plain
    rw [List.flatMap_cons, capitalize_cons letter letters]
    split
    · rfl
    · rename_i other
      rw [isSmall] at small
      simp [capital, goesOn, startsWord, small, isAlpha_of_not_isDigit letter other]

theorem splitWords_capitalize {c : Char} {rest : List Char} (letter : c.isAlphanum = true)
    (letters : ∀ d ∈ rest, d.isAlphanum = true) (after : List Char) :
    splitWords (capitalize (c :: rest) ++ after) = splitWords (capital (c :: rest) ++ after) := by
  rw [capitalize_cons letter letters]
  split
  · rfl
  · rfl

theorem splitWords_lowered {c : Char} {rest : List Char} (letter : c.isAlphanum = true)
    (letters : ∀ d ∈ rest, d.isAlphanum = true) :
    splitWords (c :: rest.map Char.toLower) = [c :: rest.map Char.toLower] := by
  refine splitWords_single (isLetterOrNumber_of_isAlphanum letter) (List.forall_mem_map.2 fun d member => ?_)
  exact ⟨isLetterOrNumber_of_isAlphanum (isAlphanum_toLower (letters d member)), Char.isUpper_toLower_eq_false d⟩

theorem getLast_capital {c d : Char} {rest : List Char} (letters : ∀ e ∈ d :: rest, e.isAlphanum = true) :
    ∀ a ∈ (capital (c :: d :: rest)).getLast?, isSmall a = true := by
  intro a last
  rw [capital, List.map_cons, List.getLast?_cons_cons, ← List.map_cons] at last
  obtain ⟨e, member, rfl⟩ := List.mem_map.1 (List.mem_of_getLast? last)
  exact isSmall_toLower (letters e member)

theorem flatMap_capitalize_letter {c : Char} {rest : List Char} (alpha : c.isAlpha = true)
    (letters : ∀ d ∈ rest, d.isAlphanum = true) (words : List (List Char)) :
    ((c :: rest) :: words).flatMap capitalize = c.toUpper :: (rest.map Char.toLower ++ words.flatMap capitalize) := by
  rw [List.flatMap_cons, capitalize_cons (isAlphanum_of_isAlpha alpha) letters, isDigit_of_isAlpha alpha]
  rfl

theorem goesOn_toUpper {c d : Char} (alpha : c.isAlpha = true) (alpha' : d.isAlpha = true) (rest : List Char) :
    goesOn c.toUpper (d.toUpper :: rest) = !rest.head?.any Char.isLower := by
  have letter := isLetterOrNumber_of_isAlphanum (isAlphanum_toUpper (isAlphanum_of_isAlpha alpha'))
  have digit : c.toUpper.isDigit = false := isDigit_of_isAlpha (by rw [Char.isAlpha_toUpper_eq_isAlpha, alpha])
  simp [goesOn, startsWord, letter, digit, alpha, alpha']

theorem goesOn_single {c : Char} (letter : c.isAlphanum = true) {words : List (List Char)} (plain : Plain words)
    (apart : ∀ next ∈ words.head?, fuse [c] next = false) : goesOn c.toUpper (words.flatMap capitalize) = false := by
  by_cases digit : c.isDigit = true
  · refine goesOn_capitals ?_ plain
    rw [isSmall, toUpper_of_isDigit digit, digit, Bool.or_true]
  cases words with
  | nil => rfl
  | cons next words =>
    obtain ⟨d, rest, rfl, letter', letters, -⟩ := plain_cons plain
    have apart : fuse [c] (d :: rest) = false := apart _ rfl
    -- A digit comes behind an underscore.
    by_cases digit' : d.isDigit = true
    · rw [List.flatMap_cons, capitalize_cons letter' letters, if_pos digit']
      rfl
    have alpha := isAlpha_of_not_isDigit letter digit
    have alpha' := isAlpha_of_not_isDigit letter' digit'
    rw [flatMap_capitalize_letter alpha' letters, goesOn_toUpper alpha alpha']
    cases rest with
    | nil => simp [fuse, alpha, alpha'] at apart
    | cons e rest =>
      have third : ¬e.isDigit = true := by simpa [fuse, alpha, alpha'] using apart
      simp [isAlpha_of_not_isDigit (letters e List.mem_cons_self) third]

theorem splitWords_apart {word : List Char} {words : List (List Char)} (plain : Plain (word :: words))
    (apart : ∀ next ∈ words.head?, fuse word next = false) :
    splitWords ((word :: words).flatMap capitalize) = capital word :: splitWords (words.flatMap capitalize) := by
  obtain ⟨c, rest, rfl, letter, letters, others⟩ := plain_cons plain
  rw [List.flatMap_cons, splitWords_capitalize letter letters, splitWords_append (head_capitals others),
    capital, splitWords_lowered (isAlphanum_toUpper letter) letters, List.singleton_append]
  -- Only a word of one letter ends in a capital.
  intro a last
  cases rest with
  | nil =>
    obtain rfl : c.toUpper = a := Option.some.inj last
    exact goesOn_single letter others apart
  | cons d rest => exact goesOn_capitals (getLast_capital letters a last) others

theorem goesOn_fused {c : Char} {next : List Char} {words : List (List Char)} (plain : Plain (next :: words))
    (fused : fuse [c] next = true) : goesOn c.toUpper ((next :: words).flatMap capitalize) = true := by
  obtain ⟨d, rest, rfl, letter, letters, others⟩ := plain_cons plain
  simp only [fuse, Bool.and_eq_true] at fused
  obtain ⟨⟨alpha, alpha'⟩, third⟩ := fused
  have behind : (rest.map Char.toLower ++ words.flatMap capitalize).head?.any Char.isLower = false := by
    cases rest with
    | nil => simpa [Option.any_eq_false] using head_capitals others
    | cons e rest =>
      have digit : e.isDigit = true := third
      exact (Char.isLower_toLower_eq_isAlpha e).trans (isAlpha_of_isDigit digit)
  rw [flatMap_capitalize_letter alpha' letters, goesOn_toUpper alpha alpha', behind]
  rfl

theorem splitWords_fused {c : Char} {next : List Char} {words : List (List Char)}
    (plain : Plain ([c] :: next :: words)) (fused : fuse [c] next = true) :
    splitWords (([c] :: next :: words).flatMap capitalize) =
      extendFirst c.toUpper (splitWords ((next :: words).flatMap capitalize)) := by
  obtain ⟨c, _, ⟨⟩, letter, letters, others⟩ := plain_cons plain
  rw [List.flatMap_cons, splitWords_capitalize letter letters, capital, List.map_nil, List.singleton_append,
    splitWords, if_pos (isLetterOrNumber_of_isAlphanum (isAlphanum_toUpper letter)), if_pos (goesOn_fused others fused)]

theorem exists_of_fuse {word next : List Char} (fused : fuse word next = true) :
    ∃ c d rest, word = [c] ∧ next = d :: rest ∧ c.isAlpha = true ∧ d.isAlpha = true := by
  unfold fuse at fused
  split at fused
  · rw [Bool.and_eq_true, Bool.and_eq_true] at fused
    exact ⟨_, _, _, rfl, rfl, fused.1⟩
  · cases fused

theorem capitalize_splitWords_fused {word next : List Char} {words : List (List Char)}
    (plain : Plain (word :: next :: words)) (fused : fuse word next = true) :
    (splitWords ((word :: next :: words).flatMap capitalize)).flatMap capitalize ≠
      (word :: next :: words).flatMap capitalize := by
  obtain ⟨c, d, rest, rfl, rfl, alpha, alpha'⟩ := exists_of_fuse fused
  obtain ⟨_, _, ⟨⟩, letter, -, others⟩ := plain_cons plain
  obtain ⟨_, _, ⟨⟩, letter', letters, -⟩ := plain_cons others
  obtain ⟨more, others, first⟩ := splitWords_letter (isLetterOrNumber_of_isAlphanum (isAlphanum_toUpper letter'))
    (rest.map Char.toLower ++ words.flatMap capitalize)
  obtain ⟨later, lowered⟩ := lowerFrom_ascii (ascii_of_isAlphanum (isAlphanum_toUpper letter')) false more
  have merged : capitalize (c.toUpper :: d.toUpper :: more) =
      c.toUpper :: d.toUpper.toLower :: lowerFrom later more := by
    have ascii := ascii_of_isAlphanum (isAlphanum_toUpper letter)
    rw [capitalize, isDigit_of_ascii ascii, isDigit_toUpper letter, isDigit_of_isAlpha alpha, upperChar, if_pos ascii,
      Char.toUpper_toUpper_eq_toUpper, lower, lowered]
    rfl
  rw [splitWords_fused plain fused, flatMap_capitalize_letter alpha' letters, first, extendFirst, List.flatMap_cons,
    merged, flatMap_capitalize_letter alpha (List.forall_mem_nil _), flatMap_capitalize_letter alpha' letters]
  intro same
  have second : d.toUpper.toLower = d.toUpper := (List.cons.inj (List.cons.inj same).2).1
  have capital : d.toUpper.isUpper = false := by rw [← second, Char.isUpper_toLower_eq_false]
  rw [Char.isUpper_toUpper_eq_isAlpha, alpha'] at capital
  cases capital

/-- Capitalised words are stable when no two of them fuse. -/
theorem capitalize_splitWords_iff {words : List (List Char)} (plain : Plain words) :
    (splitWords (words.flatMap capitalize)).flatMap capitalize = words.flatMap capitalize ↔
      words.IsChain fun word next => fuse word next = false := by
  induction words with
  | nil => simp [splitWords]
  | cons word words ih =>
    obtain ⟨c, rest, rfl, letter, letters, others⟩ := plain_cons plain
    -- The first word comes back as it was, or it takes in the second one, which differs from there on.
    by_cases apart : ∀ next ∈ words.head?, fuse (c :: rest) next = false
    · rw [splitWords_apart plain apart, List.flatMap_cons, capitalize_capital letter letters, List.flatMap_cons,
        List.append_cancel_left_eq, ih others, List.isChain_cons]
      exact (and_iff_right apart).symm
    · rw [List.isChain_cons, iff_false_right fun both => apart both.1]
      push Not at apart
      obtain ⟨next, head, fused⟩ := apart
      obtain ⟨words, rfl⟩ := List.head?_eq_some_iff.1 head
      exact capitalize_splitWords_fused plain (Bool.of_not_eq_false fused)

theorem splitWords_joinCamel {c : Char} {rest : List Char} {words : List (List Char)}
    (plain : Plain ((c :: rest) :: words)) :
    splitWords (joinCamel ((c :: rest) :: words)) =
      (c :: rest).map Char.toLower :: splitWords (words.flatMap capitalize) := by
  obtain ⟨_, _, ⟨⟩, letter, letters, others⟩ := plain_cons plain
  have lowered : ∀ d ∈ (c :: rest).map Char.toLower, isSmall d = true :=
    List.forall_mem_map.2 fun d member => isSmall_toLower ((plain _ List.mem_cons_self).2 d member)
  rw [joinCamel, lower_alphanum (plain _ List.mem_cons_self).2, splitWords_append (head_capitals others), List.map_cons,
    splitWords_lowered (isAlphanum_toLower letter) letters, List.singleton_append]
  exact fun a last => goesOn_capitals (lowered a (List.mem_of_getLast? last)) others

theorem joinCamel_splitWords_iff {words : List (List Char)} (plain : Plain words) :
    joinCamel (splitWords (joinCamel words)) = joinCamel words ↔
      words.tail.IsChain fun word next => fuse word next = false := by
  cases words with
  | nil => simp [joinCamel, splitWords]
  | cons word words =>
    obtain ⟨c, rest, rfl, letter, letters, others⟩ := plain_cons plain
    have first := (plain _ List.mem_cons_self).2
    have again : ∀ d ∈ (c :: rest).map Char.toLower, d.isAlphanum = true :=
      List.forall_mem_map.2 fun d member => isAlphanum_toLower (first d member)
    rw [splitWords_joinCamel plain, joinCamel, joinCamel, lower_alphanum again, lower_alphanum first, List.map_map,
      List.tail_cons, ← capitalize_splitWords_iff others]
    simp [Function.comp_def]

theorem camelChars_camelChars (name : List Char) :
    camelChars (camelChars name) =
      name.takeWhile (· == '_') ++ joinCamel (splitWords (joinCamel (splitWords (name.dropWhile (· == '_'))))) := by
  rw [camelChars, takeWhile_camelChars, dropWhile_camelChars]

def bodyWords (name : String) : List (List Char) :=
  splitWords (name.toList.dropWhile (· == '_'))

theorem isChain_tail_iff {α : Type} {related : α → α → Prop} {items : List α} :
    items.tail.IsChain related ↔ ∀ i first second, 1 ≤ i → items[i]? = some first → items[i + 1]? = some second →
      related first second := by
  cases items with
  | nil => simp
  | cons item items =>
    rw [List.tail_cons, List.isChain_iff_getElem]
    constructor
    · intro chain i first second behind atFirst atSecond
      obtain ⟨j, rfl⟩ := Nat.exists_eq_add_of_le' behind
      rw [List.getElem?_cons_succ] at atFirst atSecond
      obtain ⟨_, rfl⟩ := List.getElem?_eq_some_iff.1 atFirst
      obtain ⟨inside, rfl⟩ := List.getElem?_eq_some_iff.1 atSecond
      exact chain j inside
    · intro all j inside
      refine all (j + 1) _ _ (Nat.le_add_left 1 j) ?_ ?_
      · rw [List.getElem?_cons_succ, List.getElem?_eq_getElem]
      · rw [List.getElem?_cons_succ, List.getElem?_eq_getElem]

theorem camel_camel_eq_iff {name : String} (ascii : ∀ c ∈ name.toList, c.val < 128) :
    camel (camel name) = camel name ↔
      ¬∃ i word next, 1 ≤ i ∧ (bodyWords name)[i]? = some word ∧ (bodyWords name)[i + 1]? = some next ∧
        fuse word next = true := by
  have plain : Plain (bodyWords name) :=
    plain_splitWords fun c member => ascii c ((List.dropWhile_sublist _).subset member)
  have stable : camelChars (camelChars name.toList) = camelChars name.toList ↔
      (bodyWords name).tail.IsChain fun word next => fuse word next = false := by
    rw [camelChars_camelChars, camelChars, List.append_cancel_left_eq]
    exact joinCamel_splitWords_iff plain
  rw [camel, camel, String.toList_ofList, String.ofList_inj, stable, isChain_tail_iff]
  push Not
  simp only [Bool.not_eq_true]

theorem camel_camel_initials :
    (∀ c ∈ "_a_B_C".toList, c.val < 128) ∧
      (camel (camel "_a_B_C") = camel "_a_B_C" ↔
        ¬∃ i word next, 1 ≤ i ∧ (bodyWords "_a_B_C")[i]? = some word ∧ (bodyWords "_a_B_C")[i + 1]? = some next ∧
          fuse word next = true) :=
  ⟨by simp, camel_camel_eq_iff (by simp)⟩

example : camel "_a_B_C" = "_aBC" ∧ camel "_aBC" = "_aBc" := by
  decide

end Naming

end SyncSchema
