import Mathlib.Data.String.Basic
import SyncSchema.Naming.Camel

namespace SyncSchema

namespace Text

theorem toLower_ne_underscore : ∀ n < 128, n ≠ 95 → (Char.ofNat n).toLower ≠ '_' := by
  decide

theorem lowerRuns_above : ∀ run ∈ lowerRuns, 95 < (run.first : Int) + run.shift := by
  decide +kernel

theorem ofNat_ne_underscore {n : Nat} (other : n ≠ 95) : Char.ofNat n ≠ '_' := by
  intro same
  have code : (Char.ofNat n).toNat = 95 := by rw [same]; rfl
  by_cases valid : n.isValidChar
  · rw [Char.ofNat, dif_pos valid] at code
    exact other code
  · rw [Char.ofNat, dif_neg valid] at code
    cases code

theorem image?_above {n k : Nat} (moved : lowerRuns.findSome? (·.image? n) = some k) : 95 < k := by
  obtain ⟨run, member, image⟩ := List.exists_of_findSome?_eq_some moved
  have above := lowerRuns_above run member
  rw [CaseRun.image?] at image
  split at image
  · rename_i here
    simp only [Bool.and_eq_true, decide_eq_true_eq] at here
    cases image
    omega
  · cases image

theorem lowerChar_head {c : Char} (other : c ≠ '_') : ∃ first rest, lowerChar c = first :: rest ∧ first ≠ '_' := by
  have code : c.toNat ≠ 95 := fun same => other (Char.toNat_inj.1 same)
  rw [lowerChar]
  split
  · rename_i ascii
    have lowered := toLower_ne_underscore c.toNat ascii code
    rw [Char.ofNat_toNat] at lowered
    exact ⟨c.toLower, [], rfl, lowered⟩
  · -- Beyond ASCII the tables decide.
    rw [mapCase]
    cases long : longLowers.lookup c.toNat with
    | some image =>
      have only : image = [0x69, 0x307] := by
        rw [longLowers, List.lookup_cons] at long
        split at long
        · exact (Option.some.inj long).symm
        · cases long
      exact ⟨'i', [Char.ofNat 0x307], by rw [only]; rfl, by decide⟩
    | none =>
      refine ⟨_, [], rfl, ofNat_ne_underscore ?_⟩
      cases moved : lowerRuns.findSome? (·.image? c.toNat) with
      | none => exact code
      | some k => exact (image?_above moved).ne'

end Text

namespace Naming
open Text

theorem splitWords_words {chars : List Char} :
    ∀ word ∈ splitWords chars, word ≠ [] ∧ ∀ c ∈ word, isLetterOrNumber c = true := by
  induction chars with
  | nil => simp [splitWords]
  | cons c rest ih =>
    rw [splitWords]
    split
    · rename_i here
      split
      · cases words : splitWords rest with
        | nil => simp [extendFirst, here]
        | cons word words =>
          rw [words, List.forall_mem_cons] at ih
          rw [extendFirst, List.forall_mem_cons]
          exact ⟨⟨List.cons_ne_nil _ _, by simpa using ⟨here, ih.1.2⟩⟩, ih.2⟩
      · rw [List.forall_mem_cons]
        exact ⟨⟨List.cons_ne_nil _ _, by simpa using here⟩, ih⟩
    · exact ih

theorem joinCamel_head (chars : List Char) : (joinCamel (splitWords chars)).head? ≠ some '_' := by
  have words : ∀ word ∈ splitWords chars, word ≠ [] ∧ ∀ c ∈ word, isLetterOrNumber c = true := splitWords_words
  cases split : splitWords chars with
  | nil => simp [joinCamel]
  | cons word others =>
    rw [split, List.forall_mem_cons] at words
    obtain ⟨nonempty, letters⟩ := words.1
    cases word with
    | nil => exact absurd rfl nonempty
    | cons c rest =>
      have letter := letters c List.mem_cons_self
      have other : c ≠ '_' := by
        rintro rfl
        exact absurd letter (by decide)
      obtain ⟨first, more, lowered, differs⟩ := lowerChar_head other
      simpa [joinCamel, lower, lowerFrom, lowered] using differs

theorem takeWhile_camelChars (name : List Char) :
    (camelChars name).takeWhile (· == '_') = name.takeWhile (· == '_') := by
  have inside : ∀ c ∈ name.takeWhile (· == '_'), (c == '_') = true := List.all_eq_true.1 List.all_takeWhile
  have stop : (joinCamel (splitWords (name.dropWhile (· == '_')))).takeWhile (· == '_') = [] := by
    rw [← List.head?_eq_none_iff, List.head?_takeWhile, Option.filter_eq_none_iff]
    rintro c head same
    rw [beq_iff_eq] at same
    exact joinCamel_head _ (by rw [← same]; exact head)
  rw [camelChars, List.takeWhile_append_of_pos inside, stop, List.append_nil]

theorem dropWhile_camelChars (name : List Char) :
    (camelChars name).dropWhile (· == '_') = joinCamel (splitWords (name.dropWhile (· == '_'))) := by
  have parts := List.takeWhile_append_dropWhile (p := (· == '_')) (l := camelChars name)
  rw [takeWhile_camelChars] at parts
  exact List.append_cancel_left parts

def isUnderscored (name : String) : Bool :=
  name.toList.head? == some '_'

theorem isUnderscored_eq (name : String) : isUnderscored name = !(name.toList.takeWhile (· == '_')).isEmpty := by
  rw [isUnderscored]
  cases name.toList with
  | nil => rfl
  | cons c rest => by_cases same : c = '_' <;> simp [same]

theorem isUnderscored_camel (name : String) : isUnderscored (camel name) = isUnderscored name := by
  rw [isUnderscored_eq, isUnderscored_eq, camel, String.toList_ofList, takeWhile_camelChars]

end Naming

end SyncSchema
