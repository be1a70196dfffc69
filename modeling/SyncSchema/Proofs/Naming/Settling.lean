import SyncSchema.Proofs.Naming.Fixpoint

namespace SyncSchema.Naming
open Text

theorem splitWords_capitals {c : Char} {rest : List Char} {words : List (List Char)}
    (plain : Plain ((c :: rest) :: words)) :
    ∃ more others, splitWords (((c :: rest) :: words).flatMap capitalize) = (c.toUpper :: more) :: others := by
  obtain ⟨_, _, ⟨⟩, letter, letters, -⟩ := plain_cons plain
  rw [List.flatMap_cons, splitWords_capitalize letter letters, capital, List.cons_append]
  exact splitWords_letter (isLetterOrNumber_of_isAlphanum (isAlphanum_toUpper letter)) _

/-- Being set apart lasts: a single letter does not fuse with the word that is read where the next one stood. -/
theorem fuse_splitWords {c : Char} {words : List (List Char)} (plain : Plain words)
    (apart : ∀ next ∈ words.head?, fuse [c] next = false) :
    ∀ next ∈ (splitWords (words.flatMap capitalize)).head?, fuse [c.toUpper] next = false := by
  cases words with
  | nil => exact nofun
  | cons next words =>
    obtain ⟨d, rest, rfl, letter, letters, others⟩ := plain_cons plain
    have apart : fuse [c] (d :: rest) = false := apart _ rfl
    obtain ⟨more, after, first⟩ := splitWords_capitals plain
    rw [first]
    rintro _ ⟨⟩
    rw [fuse, Char.isAlpha_toUpper_eq_isAlpha, Char.isAlpha_toUpper_eq_isAlpha]
    by_cases both : (c.isAlpha && d.isAlpha) = true
    · -- The next word has a second letter, so it is read as it stands.
      cases rest with
      | nil => simp [fuse, both] at apart
      | cons e rest =>
        rw [splitWords_apart plain fun _ _ => rfl, capital, List.cons.injEq, List.cons.injEq] at first
        obtain ⟨⟨-, rfl⟩, -⟩ := first
        have letter' := letters e List.mem_cons_self
        have other : ¬e.isDigit = true := by simpa [fuse, both] using apart
        have alpha : e.toLower.isAlpha = true := by
          rw [Char.isAlpha_toLower_eq_isAlpha, isAlpha_of_not_isDigit letter' other]
        simp [isDigit_of_isAlpha alpha]
    · rw [Bool.not_eq_true] at both
      rw [both, Bool.false_and]

theorem isChain_splitWords_capitals {words : List (List Char)} (plain : Plain words) :
    (splitWords (words.flatMap capitalize)).IsChain fun word next => fuse word next = false := by
  induction words with
  | nil => exact .nil
  | cons word words ih =>
    obtain ⟨c, rest, rfl, -, -, others⟩ := plain_cons plain
    have later := ih others
    by_cases apart : ∀ next ∈ words.head?, fuse (c :: rest) next = false
    · rw [splitWords_apart plain apart, List.isChain_cons]
      refine ⟨?_, later⟩
      cases rest with
      | nil => exact fuse_splitWords others apart
      | cons d rest => exact fun _ _ => rfl
    · push Not at apart
      obtain ⟨next, head, fused⟩ := apart
      obtain ⟨words, rfl⟩ := List.head?_eq_some_iff.1 head
      obtain ⟨c, d, rest, ⟨⟩, rfl, -, -⟩ := exists_of_fuse (Bool.of_not_eq_false fused)
      obtain ⟨more, after, first⟩ := splitWords_capitals others
      rw [splitWords_fused plain (Bool.of_not_eq_false fused), first, extendFirst]
      rw [first] at later
      -- The word has grown beyond a single letter.
      exact List.isChain_cons.2 ⟨fun _ _ => rfl, (List.isChain_cons.1 later).2⟩

theorem plain_joinCamel {words : List (List Char)} (plain : Plain words) : Plain (splitWords (joinCamel words)) := by
  refine plain_splitWords fun c member => ?_
  have word := isWordChar_joinCamel (fun word known => (plain word known).2) c member
  exact ascii_of_isIdentifierChar (isIdentifierChar_of_isWordChar word)

theorem joinCamel_settled {words : List (List Char)} (plain : Plain words) :
    joinCamel (splitWords (joinCamel (splitWords (joinCamel words)))) = joinCamel (splitWords (joinCamel words)) := by
  rw [joinCamel_splitWords_iff (plain_joinCamel plain)]
  cases words with
  | nil => exact .nil
  | cons word words =>
    obtain ⟨c, rest, rfl, -, -, others⟩ := plain_cons plain
    rw [splitWords_joinCamel plain, List.tail_cons]
    exact isChain_splitWords_capitals others

theorem camel_camel_camel {name : String} (ascii : ∀ c ∈ name.toList, c.val < 128) :
    camel (camel (camel name)) = camel (camel name) := by
  have plain : Plain (bodyWords name) :=
    plain_splitWords fun c member => ascii c ((List.dropWhile_sublist _).subset member)
  simp only [camel, String.toList_ofList]
  rw [camelChars_camelChars (camelChars name.toList), camelChars_camelChars, takeWhile_camelChars,
    dropWhile_camelChars]
  exact congrArg (fun body => String.ofList (name.toList.takeWhile (· == '_') ++ body)) (joinCamel_settled plain)

theorem camel_camel_camel_initials :
    (∀ c ∈ "_a_B_C_D1_e_F_Gh".toList, c.val < 128) ∧
      camel (camel (camel "_a_B_C_D1_e_F_Gh")) = camel (camel "_a_B_C_D1_e_F_Gh") :=
  ⟨by simp, camel_camel_camel (by simp)⟩

example : camel "_a_B_C_D1_e_F_Gh" = "_aBCD1EFGh" ∧ camel "_aBCD1EFGh" = "_aBcd1EfGh" ∧
    camel "_aBcd1EfGh" = "_aBcd1EfGh" := by
  decide

end SyncSchema.Naming
