import Mathlib
import SyncSchema.Naming.Policy
import SyncSchema.Proofs.Naming.Boundaries
import SyncSchema.Proofs.Naming.Camel

namespace SyncSchema

namespace Text

theorem ascii_of_isAlphanum {c : Char} (letter : c.isAlphanum = true) : c.val < 128 := by
  simp only [Char.isAlphanum, Char.isAlpha, Char.isUpper, Char.isLower, Char.isDigit, Bool.or_eq_true,
    Bool.and_eq_true, decide_eq_true_eq, UInt32.le_iff_toNat_le, ge_iff_le] at letter
  rw [UInt32.lt_iff_toNat_lt]
  have upper : 'Z'.val.toNat = 90 := rfl
  have lower : 'z'.val.toNat = 122 := rfl
  have digit : '9'.val.toNat = 57 := rfl
  have bound : (128 : UInt32).toNat = 128 := rfl
  omega

theorem isAlphanum_of_isAlpha {c : Char} (letter : c.isAlpha = true) : c.isAlphanum = true := by
  rw [Char.isAlphanum, letter, Bool.true_or]

theorem letters_are_no_digits : ∀ n < 128, (Char.ofNat n).isAlpha = true → (Char.ofNat n).isDigit = false := by
  decide

theorem isDigit_of_isAlpha {c : Char} (letter : c.isAlpha = true) : c.isDigit = false := by
  have digit := letters_are_no_digits c.toNat (ascii_of_isAlphanum (isAlphanum_of_isAlpha letter))
  rw [Char.ofNat_toNat] at digit
  exact digit letter

theorem isAlphanum_toLower {c : Char} (letter : c.isAlphanum = true) : c.toLower.isAlphanum = true := by
  by_cases alpha : c.isAlpha = true
  · exact isAlphanum_of_isAlpha (by rw [Char.isAlpha_toLower_eq_isAlpha, alpha])
  · rw [Char.toLower_eq_of_not_isUpper fun upper => alpha (by rw [Char.isAlpha, upper, Bool.true_or])]
    exact letter

theorem isAlphanum_toUpper {c : Char} (letter : c.isAlphanum = true) : c.toUpper.isAlphanum = true := by
  by_cases alpha : c.isAlpha = true
  · exact isAlphanum_of_isAlpha (by rw [Char.isAlpha_toUpper_eq_isAlpha, alpha])
  · rw [Char.toUpper_eq_of_not_isLower fun lower => alpha (by rw [Char.isAlpha, lower, Bool.or_true])]
    exact letter

theorem lowerFrom_ascii {c : Char} (ascii : c.val < 128) (afterCased : Bool) (rest : List Char) :
    ∃ later, lowerFrom afterCased (c :: rest) = c.toLower :: lowerFrom later rest := by
  have code : c.toNat < 128 := ascii
  have sigma : (c.toNat = 0x3A3) = False := by
    rw [eq_iff_iff, iff_false]
    omega
  refine ⟨if isCaseIgnorable c then afterCased else isCased c, ?_⟩
  simp [lowerFrom, lowerChar, sigma, ascii]

theorem lower_ascii {text : List Char} (ascii : ∀ c ∈ text, c.val < 128) : lower text = text.map Char.toLower := by
  have anywhere (afterCased : Bool) : lowerFrom afterCased text = text.map Char.toLower := by
    induction text generalizing afterCased with
    | nil => rfl
    | cons c rest ih =>
      rw [List.forall_mem_cons] at ascii
      obtain ⟨later, lowered⟩ := lowerFrom_ascii ascii.1 afterCased rest
      rw [lowered, ih ascii.2, List.map_cons]
  exact anywhere false

end Text

namespace Naming
open Text

def isWordChar (c : Char) : Bool :=
  c.isAlphanum || c == '_'

def isIdentifierChar (c : Char) : Bool :=
  isWordChar c || c == '$'

def isIdentifier (name : String) : Bool :=
  name.toList.head?.any (!·.isDigit) && name.toList.all isIdentifierChar

def isSimple (name : String) : Bool :=
  name.toList.head?.any Char.isAlpha && name.toList.all isWordChar

theorem alphanum_of_mem_splitWords {chars : List Char} (ascii : ∀ c ∈ chars, c.val < 128) :
    ∀ word ∈ splitWords chars, ∀ c ∈ word, c.isAlphanum = true := by
  intro word member c inside
  have all : c ∈ (splitWords chars).flatten := List.mem_flatten_of_mem member inside
  rw [flatten_splitWords, List.mem_filter] at all
  rw [← isLetterOrNumber_of_ascii (ascii c all.1)]
  exact all.2

theorem isWordChar_lower {word : List Char} (letters : ∀ c ∈ word, c.isAlphanum = true) :
    ∀ c ∈ lower word, isWordChar c = true := by
  rw [lower_ascii fun c member => ascii_of_isAlphanum (letters c member)]
  intro c member
  obtain ⟨d, inside, rfl⟩ := List.mem_map.1 member
  rw [isWordChar, isAlphanum_toLower (letters d inside), Bool.true_or]

theorem isWordChar_capitalize {word : List Char} (letters : ∀ c ∈ word, c.isAlphanum = true) :
    ∀ c ∈ capitalize word, isWordChar c = true := by
  cases word with
  | nil => simp [capitalize]
  | cons c rest =>
    rw [List.forall_mem_cons] at letters
    rw [capitalize, List.forall_mem_append]
    refine ⟨?_, isWordChar_lower letters.2⟩
    split
    · simp [isWordChar, letters.1]
    · rw [upperChar, if_pos (ascii_of_isAlphanum letters.1), List.forall_mem_singleton, isWordChar,
        isAlphanum_toUpper letters.1, Bool.true_or]

theorem isWordChar_joinCamel {words : List (List Char)} (letters : ∀ word ∈ words, ∀ c ∈ word, c.isAlphanum = true) :
    ∀ c ∈ joinCamel words, isWordChar c = true := by
  cases words with
  | nil => simp [joinCamel]
  | cons word words =>
    rw [List.forall_mem_cons] at letters
    rw [joinCamel, List.forall_mem_append]
    refine ⟨isWordChar_lower letters.1, fun c member => ?_⟩
    obtain ⟨other, known, inside⟩ := List.mem_flatMap.1 member
    exact isWordChar_capitalize (letters.2 other known) c inside

theorem isWordChar_camelChars {name : List Char} (ascii : ∀ c ∈ name, c.val < 128) :
    ∀ c ∈ camelChars name, isWordChar c = true := by
  rw [camelChars, List.forall_mem_append]
  constructor
  · intro c member
    have underscore : (c == '_') = true := List.all_eq_true.1 List.all_takeWhile c member
    rw [isWordChar, underscore, Bool.or_true]
  · refine isWordChar_joinCamel (alphanum_of_mem_splitWords fun c member => ascii c ?_)
    exact (List.dropWhile_sublist _).subset member

theorem head_camelChars {c : Char} (rest : List Char) (letter : c.isAlpha = true) :
    ∃ first ∈ (camelChars (c :: rest)).head?, first.isDigit = false := by
  have ascii := ascii_of_isAlphanum (isAlphanum_of_isAlpha letter)
  have other : (c == '_') = false := by
    rw [beq_eq_false_iff_ne]
    rintro rfl
    exact absurd letter (by decide)
  have here : isLetterOrNumber c = true := by rw [isLetterOrNumber_of_ascii ascii, isAlphanum_of_isAlpha letter]
  obtain ⟨word, words, split⟩ := splitWords_letter here rest
  obtain ⟨later, lowered⟩ := lowerFrom_ascii ascii false word
  refine ⟨c.toLower, ?_, isDigit_of_isAlpha (by rw [Char.isAlpha_toLower_eq_isAlpha, letter])⟩
  rw [camelChars, List.takeWhile_cons, List.dropWhile_cons, other]
  simp [split, joinCamel, lower, lowered]

theorem isIdentifierChar_of_isWordChar {c : Char} (word : isWordChar c = true) : isIdentifierChar c = true := by
  rw [isIdentifierChar, word, Bool.true_or]

theorem ascii_of_isIdentifierChar {c : Char} (identifier : isIdentifierChar c = true) : c.val < 128 := by
  simp only [isIdentifierChar, isWordChar, Bool.or_eq_true, beq_iff_eq, or_assoc] at identifier
  rcases identifier with letter | rfl | rfl
  · exact ascii_of_isAlphanum letter
  · decide
  · decide

theorem isIdentifier_iff {name : String} : isIdentifier name = true ↔
    (∃ first ∈ name.toList.head?, first.isDigit = false) ∧ ∀ c ∈ name.toList, isIdentifierChar c = true := by
  rw [isIdentifier, Bool.and_eq_true, List.all_eq_true, Option.any_eq_true]
  simp

theorem isSimple_iff {name : String} : isSimple name = true ↔
    (∃ c rest, name.toList = c :: rest ∧ c.isAlpha = true) ∧ ∀ c ∈ name.toList, isWordChar c = true := by
  rw [isSimple, Bool.and_eq_true, List.all_eq_true]
  cases name.toList <;> simp

theorem isIdentifier_append {name added : String} (identifier : isIdentifier name = true)
    (more : added.toList.all isIdentifierChar = true) : isIdentifier (name ++ added) = true := by
  obtain ⟨⟨first, head, start⟩, all⟩ := isIdentifier_iff.1 identifier
  rw [isIdentifier_iff, String.toList_append, List.forall_mem_append]
  refine ⟨⟨first, ?_, start⟩, all, List.all_eq_true.1 more⟩
  cases chars : name.toList <;> simp_all

theorem isIdentifier_of_isSimple {name : String} (simple : isSimple name = true) : isIdentifier name = true := by
  obtain ⟨⟨c, rest, chars, letter⟩, all⟩ := isSimple_iff.1 simple
  rw [isIdentifier_iff]
  exact ⟨⟨c, by rw [chars]; rfl, isDigit_of_isAlpha letter⟩,
    fun c member => isIdentifierChar_of_isWordChar (all c member)⟩

theorem isIdentifierChar_camel {name : String} (chars : ∀ c ∈ name.toList, isIdentifierChar c = true) :
    ∀ c ∈ (camel name).toList, isIdentifierChar c = true := by
  rw [camel, String.toList_ofList]
  intro c member
  have ascii : ∀ c ∈ name.toList, c.val < 128 := fun c member => ascii_of_isIdentifierChar (chars c member)
  exact isIdentifierChar_of_isWordChar (isWordChar_camelChars ascii c member)

theorem isIdentifier_camel {name : String} (simple : isSimple name = true) : isIdentifier (camel name) = true := by
  obtain ⟨⟨c, rest, chars, letter⟩, all⟩ := isSimple_iff.1 simple
  rw [isIdentifier_iff]
  refine ⟨?_, isIdentifierChar_camel fun c member => isIdentifierChar_of_isWordChar (all c member)⟩
  rw [camel, String.toList_ofList, chars]
  exact head_camelChars rest letter

theorem isIdentifier_underscore {name : String} :
    isIdentifier ("_" ++ name) = true ↔ ∀ c ∈ name.toList, isIdentifierChar c = true := by
  have chars : ("_" ++ name).toList = '_' :: name.toList := by
    rw [String.toList_append]
    rfl
  rw [isIdentifier_iff, chars, List.forall_mem_cons]
  exact ⟨fun ⟨_, _, all⟩ => all, fun all => ⟨⟨'_', rfl, rfl⟩, rfl, all⟩⟩

theorem isIdentifier_camel_underscore {name : String} (chars : ∀ c ∈ name.toList, isIdentifierChar c = true) :
    isIdentifier (camel ("_" ++ name)) = true := by
  have all := (isIdentifier_iff.1 (isIdentifier_underscore.2 chars)).2
  rw [isIdentifier_iff]
  refine ⟨⟨'_', ?_, rfl⟩, isIdentifierChar_camel all⟩
  rw [camel, String.toList_ofList, String.toList_append, camelChars]
  rfl

end Naming

end SyncSchema
