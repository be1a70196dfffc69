import SyncSchema.Proofs.Naming.Fixpoint

namespace SyncSchema.Naming
open Text
open scoped Computability

def one (p : Char → Bool) : Language Char :=
  {text | ∃ c, p c = true ∧ text = [c]}

/-- A capital, or a digit behind an underscore, and then small characters: `[A-Z][a-z0-9]*|_[0-9][a-z0-9]*`. -/
def laterWord : Language Char :=
  one Char.isUpper * (one isSmall)∗ + one (· == '_') * one Char.isDigit * (one isSmall)∗

/-- The names in camel case without leading underscores: `[a-z0-9]+([A-Z][a-z0-9]*|_[0-9][a-z0-9]*)*`. -/
def camelCased : Language Char :=
  one isSmall * (one isSmall)∗ * laterWord∗

def letters (text : List Char) : List Char :=
  (text.filter Char.isAlphanum).map Char.toLower

theorem singleton_mem_one {p : Char → Bool} {c : Char} (holds : p c = true) : [c] ∈ one p :=
  ⟨c, holds, rfl⟩

theorem mem_kstar_one {p : Char → Bool} {text : List Char} (holds : ∀ c ∈ text, p c = true) : text ∈ (one p)∗ := by
  have parts : text = (text.map fun c => [c]).flatten := by
    rw [← List.flatMap_def, List.flatMap_singleton']
  rw [parts]
  exact Language.join_mem_kstar (List.forall_mem_map.2 fun c member => singleton_mem_one (holds c member))

theorem lowered_mem_kstar {text : List Char} (alphanum : ∀ c ∈ text, c.isAlphanum = true) :
    text.map Char.toLower ∈ (one isSmall)∗ :=
  mem_kstar_one (List.forall_mem_map.2 fun c member => isSmall_toLower (alphanum c member))

theorem capitalize_mem_laterWord {c : Char} {rest : List Char} (letter : c.isAlphanum = true)
    (alphanum : ∀ d ∈ rest, d.isAlphanum = true) : capitalize (c :: rest) ∈ laterWord := by
  rw [capitalize_cons letter alphanum, capital, laterWord, Language.mem_add]
  have small := lowered_mem_kstar alphanum
  split
  · rename_i digit
    have underscore : ['_'] ∈ one (· == '_') := singleton_mem_one rfl
    have first : [c.toUpper] ∈ one Char.isDigit := singleton_mem_one (by rw [toUpper_of_isDigit digit, digit])
    have separated : ['_'] ++ [c.toUpper] ++ rest.map Char.toLower ∈
        one (· == '_') * one Char.isDigit * (one isSmall)∗ :=
      Language.append_mem_mul (Language.append_mem_mul underscore first) small
    exact .inr separated
  · rename_i other
    have upper : c.toUpper.isUpper = true := by
      rw [Char.isUpper_toUpper_eq_isAlpha, isAlpha_of_not_isDigit letter other]
    have capitalised : [c.toUpper] ++ rest.map Char.toLower ∈ one Char.isUpper * (one isSmall)∗ :=
      Language.append_mem_mul (singleton_mem_one upper) small
    exact .inl capitalised

theorem joinCamel_mem_camelCased {words : List (List Char)} (plain : Plain words) (nonempty : words ≠ []) :
    joinCamel words ∈ camelCased := by
  cases words with
  | nil => exact absurd rfl nonempty
  | cons word words =>
    obtain ⟨c, rest, rfl, letter, alphanum, others⟩ := plain_cons plain
    have first : (c :: rest).map Char.toLower ∈ one isSmall * (one isSmall)∗ :=
      Language.append_mem_mul (singleton_mem_one (isSmall_toLower letter)) (lowered_mem_kstar alphanum)
    have later : words.flatMap capitalize ∈ laterWord∗ := by
      rw [List.flatMap_def]
      refine Language.join_mem_kstar (List.forall_mem_map.2 fun word known => ?_)
      obtain ⟨d, rest, rfl⟩ := List.exists_cons_of_ne_nil (others word known).1
      have alphanum := List.forall_mem_cons.1 (others _ known).2
      exact capitalize_mem_laterWord alphanum.1 alphanum.2
    rw [joinCamel, lower_alphanum (plain _ List.mem_cons_self).2]
    exact Language.append_mem_mul first later

theorem letters_append (text more : List Char) : letters (text ++ more) = letters text ++ letters more := by
  rw [letters, List.filter_append, List.map_append, letters, letters]

theorem letters_alphanum {text : List Char} (alphanum : ∀ c ∈ text, c.isAlphanum = true) :
    letters text = text.map Char.toLower := by
  rw [letters, List.filter_eq_self.2 alphanum]

theorem letters_lowered {text : List Char} (alphanum : ∀ c ∈ text, c.isAlphanum = true) :
    letters (text.map Char.toLower) = text.map Char.toLower := by
  rw [letters_alphanum (List.forall_mem_map.2 fun c member => isAlphanum_toLower (alphanum c member)), List.map_map]
  exact List.map_congr_left fun c _ => Char.toLower_toLower_eq_toLower c

theorem letters_capitalize {c : Char} {rest : List Char} (letter : c.isAlphanum = true)
    (alphanum : ∀ d ∈ rest, d.isAlphanum = true) : letters (capitalize (c :: rest)) = (c :: rest).map Char.toLower := by
  have separator : letters (if c.isDigit then ['_'] else []) = [] := by split <;> rfl
  have first : letters [c.toUpper] = [c.toLower] := by
    rw [letters_alphanum (List.forall_mem_singleton.2 (isAlphanum_toUpper letter)), List.map_singleton,
      Char.toLower_toUpper_eq_toLower]
  rw [capitalize_cons letter alphanum, letters_append, separator, List.nil_append, capital,
    ← List.singleton_append, letters_append, first, letters_lowered alphanum]
  rfl

theorem letters_joinCamel {words : List (List Char)} (plain : Plain words) :
    letters (joinCamel words) = words.flatten.map Char.toLower := by
  have later {words : List (List Char)} (plain : Plain words) :
      letters (words.flatMap capitalize) = words.flatten.map Char.toLower := by
    induction words with
    | nil => rfl
    | cons word words ih =>
      obtain ⟨c, rest, rfl, letter, alphanum, others⟩ := plain_cons plain
      rw [List.flatMap_cons, letters_append, letters_capitalize letter alphanum, ih others, List.flatten_cons,
        List.map_append]
  cases words with
  | nil => rfl
  | cons word words =>
    obtain ⟨_, _, _, _, _, others⟩ := plain_cons plain
    have first := (plain word List.mem_cons_self).2
    rw [joinCamel, lower_alphanum first, letters_append, letters_lowered first, later others, List.flatten_cons,
      List.map_append]

theorem flatten_splitWords_ascii {text : List Char} (ascii : ∀ c ∈ text, c.val < 128) :
    (splitWords text).flatten = text.filter Char.isAlphanum := by
  rw [flatten_splitWords]
  exact List.filter_congr fun c member => isLetterOrNumber_of_ascii (ascii c member)

theorem letters_camelChars {name : List Char} (ascii : ∀ c ∈ name, c.val < 128) :
    letters (camelChars name) = letters name := by
  have behind : ∀ c ∈ name.dropWhile (· == '_'), c.val < 128 :=
    fun c member => ascii c ((List.dropWhile_sublist _).subset member)
  have whole : letters name = letters (name.takeWhile (· == '_')) ++ letters (name.dropWhile (· == '_')) := by
    rw [← letters_append, List.takeWhile_append_dropWhile]
  rw [whole, camelChars, letters_append, letters_joinCamel (plain_splitWords behind), flatten_splitWords_ascii behind]
  rfl

theorem joinCamel_splitWords_shaped {text : List Char} (ascii : ∀ c ∈ text, c.val < 128) :
    if text.any Char.isAlphanum then joinCamel (splitWords text) ∈ camelCased
    else joinCamel (splitWords text) = [] := by
  have words := flatten_splitWords_ascii ascii
  split
  · rename_i some
    refine joinCamel_mem_camelCased (plain_splitWords ascii) fun empty => ?_
    obtain ⟨c, member, letter⟩ := List.any_eq_true.1 some
    rw [empty, List.flatten_nil, eq_comm, List.filter_eq_nil_iff] at words
    exact words c member letter
  · rename_i none
    have empty : text.filter Char.isAlphanum = [] := by simpa using none
    rw [empty, List.flatten_eq_nil_iff] at words
    have wordless : splitWords text = [] :=
      List.eq_nil_iff_forall_not_mem.2 fun word known => (splitWords_words word known).1 (words word known)
    rw [wordless, joinCamel]

/-- Of an ASCII name, camel case keeps the leading underscores, and the letters and digits up to case. It takes the
first character of every word, since no word is empty. -/
theorem camel_shaped {name : String} (ascii : ∀ c ∈ name.toList, c.val < 128) :
    (∀ word ∈ bodyWords name, word ≠ []) ∧
      (∃ body, (camel name).toList = name.toList.takeWhile (· == '_') ++ body ∧
        if (name.toList.dropWhile (· == '_')).any Char.isAlphanum then body ∈ camelCased else body = []) ∧
      letters (camel name).toList = letters name.toList ∧
      ∀ other : String, (∀ c ∈ other.toList, c.val < 128) → camel other = camel name →
        other.toList.takeWhile (· == '_') = name.toList.takeWhile (· == '_') ∧
          letters other.toList = letters name.toList := by
  have behind : ∀ c ∈ name.toList.dropWhile (· == '_'), c.val < 128 :=
    fun c member => ascii c ((List.dropWhile_sublist _).subset member)
  refine ⟨fun word known => (splitWords_words word known).1, ⟨_, ?_, joinCamel_splitWords_shaped behind⟩, ?_, ?_⟩
  · rw [camel, String.toList_ofList, camelChars]
  · rw [camel, String.toList_ofList, letters_camelChars ascii]
  · intro other ascii' same
    rw [camel, camel, String.ofList_inj] at same
    rw [← takeWhile_camelChars other.toList, ← letters_camelChars ascii', same, takeWhile_camelChars,
      letters_camelChars ascii]
    exact ⟨rfl, rfl⟩

theorem camel_shaped_spellings :
    (∀ c ∈ "__XML-http_2x_".toList, c.val < 128) ∧ (∀ c ∈ "__xml Http.2x".toList, c.val < 128) ∧
      (∃ body ∈ camelCased, (camel "__XML-http_2x_").toList = "__".toList ++ body) ∧
      letters "__xml Http.2x".toList = letters "__XML-http_2x_".toList := by
  have ascii : ∀ c ∈ "__XML-http_2x_".toList, c.val < 128 := by simp
  have ascii' : ∀ c ∈ "__xml Http.2x".toList, c.val < 128 := by simp
  obtain ⟨-, ⟨body, chars, shaped⟩, -, others⟩ := camel_shaped ascii
  rw [if_pos (by decide)] at shaped
  exact ⟨ascii, ascii', ⟨body, shaped, chars⟩, (others _ ascii' (by decide)).2⟩

example : camel "__XML-http_2x_" = "__xmlHttp_2x" ∧ camel "_-_" = "_" := by
  decide

end SyncSchema.Naming
