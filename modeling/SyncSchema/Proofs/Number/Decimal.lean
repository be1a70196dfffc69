import Mathlib.Tactic.Ring
import Std.Data.String.ToInt
import SyncSchema.Number.Binary64

namespace SyncSchema

namespace Decimal

def cut (mark : Char) (text : List Char) : List Char × List Char :=
  (text.takeWhile (· != mark), (text.dropWhile (· != mark)).drop 1)

theorem cut_append {mark : Char} {before : List Char} (absent : mark ∉ before) (rest : List Char) :
    cut mark (before ++ mark :: rest) = (before, rest) := by
  have passes : ∀ c ∈ before, (c != mark) = true := by
    intro c member
    rw [bne_iff_ne]
    rintro rfl
    exact absent member
  simp [cut, List.takeWhile_append_of_pos passes, List.dropWhile_append_of_pos passes]

theorem cut_absent {mark : Char} {text : List Char} (absent : mark ∉ text) : cut mark text = (text, []) := by
  have passes : ∀ c ∈ text, (c != mark) = true := by
    intro c member
    rw [bne_iff_ne]
    rintro rfl
    exact absent member
  rw [cut, ← List.append_nil text, List.takeWhile_append_of_pos passes, List.dropWhile_append_of_pos passes]
  simp

def readExponent : List Char → Int
  | [] => 0
  | sign :: digits => if sign = '-' then -(Nat.ofDigitChars 10 digits 0 : Int) else Nat.ofDigitChars 10 digits 0

def reading (text : List Char) : Nat × Int :=
  let (mantissa, power) := cut 'e' text
  let (whole, fraction) := cut '.' mantissa
  stripZeros (Nat.ofDigitChars 10 (whole ++ fraction) 0) (readExponent power - fraction.length)

theorem stripZeros_mul_pow (n j : Nat) (exponent : Int) :
    stripZeros (n * 10 ^ j) exponent = stripZeros n (exponent + j) := by
  induction j generalizing exponent with
  | zero => simp
  | succ j ih =>
    by_cases zero : n = 0
    · simp [zero, stripZeros]
    · have product : n * 10 ^ (j + 1) = n * 10 ^ j * 10 := by ring
      have positive : n * 10 ^ j * 10 ≠ 0 := by simp [zero]
      rw [product, stripZeros, if_neg positive, if_pos (Nat.mul_mod_left _ 10), Nat.mul_div_cancel _ (by norm_num), ih]
      congr 1
      push_cast
      ring

theorem stripZeros_self (d : Decimal) : stripZeros d.digits d.exponent = (d.digits, d.exponent) := by
  rw [stripZeros]
  rcases d.normal with last | ⟨zero, exponent⟩
  · rw [if_neg (by rintro zero; simp [zero] at last), if_neg last]
  · rw [if_pos zero, zero, exponent]

def Numeral (digits : List Char) : Prop :=
  ∀ c ∈ digits, c.isDigit = true

theorem numeral_toDigits (n : Nat) : Numeral (Nat.toDigits 10 n) :=
  fun _ member => Nat.isDigit_of_mem_toDigits (by norm_num) (by norm_num) member

theorem numeral_zeros (n : Nat) : Numeral (List.replicate n '0') := by
  intro c member
  rw [List.eq_of_mem_replicate member]
  rfl

theorem Numeral.append {a b : List Char} (ha : Numeral a) (hb : Numeral b) : Numeral (a ++ b) := by
  intro c member
  rcases List.mem_append.1 member with member | member
  · exact ha c member
  · exact hb c member

theorem Numeral.absent {digits : List Char} (numeral : Numeral digits) (mark : Char)
    (unlike : mark.isDigit = false) : mark ∉ digits := by
  intro member
  rw [numeral mark member] at unlike
  contradiction

theorem readExponent_exponentText (exponent : Int) : readExponent (exponentText exponent) = exponent := by
  have padded : Nat.ofDigitChars 10 (if (Nat.toDigits 10 exponent.natAbs).length < 2
      then '0' :: Nat.toDigits 10 exponent.natAbs else Nat.toDigits 10 exponent.natAbs) 0 = exponent.natAbs := by
    split <;> simp [Nat.ofDigitChars_cons]
  rw [exponentText, readExponent, padded]
  by_cases negative : exponent < 0
  · rw [if_pos negative, if_pos rfl]
    omega
  · rw [if_neg negative, if_neg (by decide)]
    omega

theorem reading_point {whole fraction : List Char} (numeral : Numeral whole) (numeral' : Numeral fraction) :
    reading (whole ++ '.' :: fraction) =
      stripZeros (Nat.ofDigitChars 10 (whole ++ fraction) 0) (-fraction.length) := by
  have plain : 'e' ∉ whole ++ '.' :: fraction := by
    simp [numeral.absent 'e' rfl, numeral'.absent 'e' rfl]
  simp only [reading, cut_absent plain, cut_append (numeral.absent '.' rfl), readExponent, zero_sub]

theorem reading_positional {digits : List Char} (numeral : Numeral digits) (point : Int) :
    reading (positional digits point) =
      stripZeros (Nat.ofDigitChars 10 digits 0) (point - digits.length) := by
  rw [positional]
  split
  · rename_i before
    have zeros := (numeral_zeros (-point).toNat).append numeral
    rw [show '0' :: '.' :: (List.replicate (-point).toNat '0' ++ digits) =
      ['0'] ++ '.' :: (List.replicate (-point).toNat '0' ++ digits) from rfl, reading_point (by simp [Numeral]) zeros]
    congr 1
    · simp [Nat.ofDigitChars_cons, Nat.ofDigitChars_append]
    · simp only [List.length_append, List.length_replicate]
      omega
  · rename_i inside
    split
    · rename_i short
      have whole : Numeral (digits.take point.toNat) := fun c member => numeral c (List.mem_of_mem_take member)
      have fraction : Numeral (digits.drop point.toNat) := fun c member => numeral c (List.mem_of_mem_drop member)
      rw [reading_point whole fraction, List.take_append_drop]
      congr 1
      simp only [List.length_drop]
      omega
    · rename_i long
      have whole := numeral.append (numeral_zeros (point.toNat - digits.length))
      rw [show digits ++ List.replicate (point.toNat - digits.length) '0' ++ ['.', '0'] =
        (digits ++ List.replicate (point.toNat - digits.length) '0') ++ '.' :: ['0'] from rfl,
        reading_point whole (by simp [Numeral])]
      have value : Nat.ofDigitChars 10 (digits ++ List.replicate (point.toNat - digits.length) '0' ++ ['0']) 0 =
          Nat.ofDigitChars 10 digits 0 * 10 ^ (point.toNat - digits.length + 1) := by
        simp [Nat.ofDigitChars_cons, Nat.ofDigitChars_append]
        ring
      rw [value, stripZeros_mul_pow]
      congr 1
      simp only [List.length_singleton]
      omega

theorem reading_scientific {digits : List Char} (numeral : Numeral digits) (present : digits ≠ []) (point : Int) :
    reading (scientific digits point) =
      stripZeros (Nat.ofDigitChars 10 digits 0) (point - digits.length) := by
  obtain ⟨first, rest, rfl⟩ := List.exists_cons_of_ne_nil present
  have head : Numeral [first] := fun c member => numeral c (by simp_all)
  have tail : Numeral rest := fun c member => numeral c (List.mem_cons_of_mem _ member)
  cases rest with
  | nil =>
    have text : scientific [first] point = [first] ++ 'e' :: exponentText (point - 1) := rfl
    rw [text]
    simp only [reading, cut_append (head.absent 'e' rfl), cut_absent (head.absent '.' rfl),
      readExponent_exponentText, List.append_nil]
    congr 1
    simp
  | cons second rest =>
    have text : scientific (first :: second :: rest) point =
        ([first] ++ '.' :: second :: rest) ++ 'e' :: exponentText (point - 1) := by
      rw [scientific, if_neg (by simp)]
      rfl
    have plain : 'e' ∉ [first] ++ '.' :: second :: rest := by
      have here := head.absent 'e' rfl
      have there := tail.absent 'e' rfl
      intro member
      rcases List.mem_append.1 member with member | member
      · exact here member
      · exact there (List.mem_of_ne_of_mem (by decide) member)
    rw [text]
    simp only [reading, cut_append plain, cut_append (head.absent '.' rfl), readExponent_exponentText]
    congr 1
    simp only [List.length_cons]
    omega

def body (d : Decimal) : List Char :=
  let digits := Nat.toDigits 10 d.digits
  let point := digits.length + d.exponent
  if -4 < point && point ≤ 16 then positional digits point else scientific digits point

theorem text_eq (d : Decimal) : d.text = (if d.negative then ['-'] else []) ++ d.body := rfl

theorem reading_body (d : Decimal) : reading d.body = (d.digits, d.exponent) := by
  have numeral := numeral_toDigits d.digits
  have place : ((Nat.toDigits 10 d.digits).length + d.exponent : Int) - (Nat.toDigits 10 d.digits).length = d.exponent := by
    omega
  rw [body]
  split
  · rw [reading_positional numeral, Nat.ofDigitChars_ten_toDigits, place, stripZeros_self]
  · rw [reading_scientific numeral Nat.toDigits_ne_nil, Nat.ofDigitChars_ten_toDigits, place, stripZeros_self]

theorem positional_head (first : Char) (rest : List Char) (digit : first.isDigit = true) (point : Int) :
    ∃ c others, positional (first :: rest) point = c :: others ∧ c.isDigit = true := by
  rw [positional]
  split
  · exact ⟨'0', _, rfl, rfl⟩
  · rename_i inside
    obtain ⟨n, places⟩ : ∃ n, point.toNat = n + 1 := ⟨point.toNat - 1, by omega⟩
    rw [places]
    split
    · exact ⟨first, _, rfl, digit⟩
    · exact ⟨first, _, rfl, digit⟩

theorem body_head (d : Decimal) : ∃ c rest, d.body = c :: rest ∧ c.isDigit = true := by
  obtain ⟨first, rest, digits⟩ := List.exists_cons_of_ne_nil (Nat.toDigits_ne_nil (n := d.digits) (b := 10))
  have digit : first.isDigit = true := numeral_toDigits d.digits first (by simp [digits])
  simp only [body, digits]
  split
  · exact positional_head first rest digit _
  · exact ⟨first, _, rfl, digit⟩

theorem text_injective {d e : Decimal} (same : d.text = e.text) : d = e := by
  obtain ⟨c, rest, body, digit⟩ := d.body_head
  obtain ⟨c', rest', body', digit'⟩ := e.body_head
  have parts : d.negative = e.negative ∧ d.body = e.body := by
    rw [text_eq, text_eq] at same
    cases negative : d.negative <;> cases negative' : e.negative <;> simp only [negative, negative'] at same
    · exact ⟨rfl, by simpa using same⟩
    · simp only [body, Bool.false_eq_true, if_false, List.nil_append, if_true, List.singleton_append,
        List.cons.injEq] at same
      rw [same.1] at digit
      contradiction
    · simp only [body', Bool.false_eq_true, if_false, List.nil_append, if_true, List.singleton_append,
        List.cons.injEq] at same
      rw [← same.1] at digit'
      contradiction
    · exact ⟨rfl, by simpa using same⟩
  have read := d.reading_body
  rw [parts.2, reading_body, Prod.mk.injEq] at read
  cases d with
  | mk negative digits exponent normal =>
    cases e with
    | mk negative' digits' exponent' normal' =>
      rw [Decimal.mk.injEq]
      exact ⟨parts.1, read.1.symm, read.2.symm⟩

theorem point_mem_positional (digits : List Char) (point : Int) : '.' ∈ positional digits point := by
  rw [positional]
  split
  · simp
  · split <;> simp

theorem body_mark (d : Decimal) : '.' ∈ d.body ∨ 'e' ∈ d.body := by
  rw [body]
  split
  · exact .inl (point_mem_positional _ _)
  · exact .inr (by simp [scientific])

theorem text_mark (d : Decimal) : '.' ∈ d.text ∨ 'e' ∈ d.text := by
  rw [text_eq]
  exact d.body_mark.imp (List.mem_append_right _) (List.mem_append_right _)

def isWord (c : Char) : Bool :=
  c.isAlphanum || c == '-' || c == '+' || c == '.'

theorem isWord_of_isDigit {c : Char} (digit : c.isDigit = true) : isWord c = true := by
  simp [isWord, Char.isAlphanum, digit]

theorem Numeral.isWord {digits : List Char} (numeral : Numeral digits) : ∀ c ∈ digits, isWord c = true :=
  fun c member => isWord_of_isDigit (numeral c member)

theorem positional_isWord {digits : List Char} (numeral : Numeral digits) (point : Int) :
    ∀ c ∈ positional digits point, isWord c = true := by
  have zeros (n : Nat) := (numeral_zeros n).isWord
  rw [positional]
  split
  · simp only [List.forall_mem_cons, List.forall_mem_append]
    exact ⟨rfl, rfl, zeros _, numeral.isWord⟩
  · split
    · simp only [List.forall_mem_cons, List.forall_mem_append]
      exact ⟨fun c member => numeral.isWord c (List.mem_of_mem_take member), rfl,
        fun c member => numeral.isWord c (List.mem_of_mem_drop member)⟩
    · simp only [List.forall_mem_append]
      exact ⟨⟨numeral.isWord, zeros _⟩, List.all_eq_true.1 rfl⟩

theorem exponentText_isWord (exponent : Int) : ∀ c ∈ exponentText exponent, isWord c = true := by
  have digits := (numeral_toDigits exponent.natAbs).isWord
  rw [exponentText, List.forall_mem_cons]
  constructor
  · split <;> rfl
  · split
    · rw [List.forall_mem_cons]
      exact ⟨rfl, digits⟩
    · exact digits

theorem scientific_isWord {digits : List Char} (numeral : Numeral digits) (point : Int) :
    ∀ c ∈ scientific digits point, isWord c = true := by
  simp only [scientific, List.forall_mem_append, List.forall_mem_cons]
  refine ⟨⟨fun c member => numeral.isWord c (List.mem_of_mem_take member), ?_⟩, rfl, exponentText_isWord _⟩
  split
  · simp
  · rw [List.forall_mem_cons]
    exact ⟨rfl, fun c member => numeral.isWord c (List.mem_of_mem_drop member)⟩

theorem text_isWord (d : Decimal) : ∀ c ∈ d.text, isWord c = true := by
  have numeral := numeral_toDigits d.digits
  rw [text_eq, List.forall_mem_append, body]
  constructor
  · split <;> simp [isWord]
  · split
    · exact positional_isWord numeral _
    · exact scientific_isWord numeral _

end Decimal

theorem mem_repr_int {i : Int} {c : Char} (member : c ∈ i.repr.toList) : c.isDigit = true ∨ c = '-' := by
  rw [Int.repr_eq_if] at member
  split at member
  · rw [Nat.toList_repr] at member
    exact .inl (Decimal.numeral_toDigits _ c member)
  · rw [String.toList_append, Nat.toList_repr] at member
    rcases List.mem_append.1 member with member | member
    · exact .inr (by simpa using member)
    · exact .inl (Decimal.numeral_toDigits _ c member)

theorem repr_int_ne_nil (i : Int) : i.repr.toList ≠ [] := by
  rw [Int.repr_eq_if]
  split
  · rw [Nat.toList_repr]
    exact Nat.toDigits_ne_nil
  · simp

namespace Floating

def written (x : Floating) : List Char :=
  x.text "Infinity".toList "NaN".toList

theorem written_injective {x y : Floating} (same : x.written = y.written) : x = y := by
  -- Behind its sign a finite number starts with a digit, the other two values with a letter.
  have finite_ne {d : Decimal} {z : Floating} (other : ∀ e, z ≠ finite e) : (finite d).written ≠ z.written := by
    intro same
    obtain ⟨sign, c, rest, text, digit⟩ : ∃ (sign : Bool) (c : Char) (rest : List Char),
        (finite d).written = (if sign then ['-'] else []) ++ c :: rest ∧ c.isDigit = true := by
      obtain ⟨c, rest, body, digit⟩ := d.body_head
      exact ⟨d.negative, c, rest, by rw [← body]; rfl, digit⟩
    rw [text] at same
    cases z with
    | finite e => exact other e rfl
    | infinite negative =>
      cases sign <;> cases negative <;> simp [written, Floating.text] at same <;> simp [same.1] at digit
    | nan =>
      cases sign with
      | true => simp [written, Floating.text] at same
      | false =>
        simp [written, Floating.text] at same
        simp [same.1] at digit
  cases x with
  | finite d =>
    cases y with
    | finite e => rw [Decimal.text_injective same]
    | infinite negative => exact absurd same (finite_ne (by simp))
    | nan => exact absurd same (finite_ne (by simp))
  | infinite negative =>
    cases y with
    | finite e => exact absurd same.symm (finite_ne (by simp))
    | infinite negative' => cases negative <;> cases negative' <;> first | rfl | exact absurd same (by decide)
    | nan => cases negative <;> exact absurd same (by decide)
  | nan =>
    cases y with
    | finite e => exact absurd same.symm (finite_ne (by simp))
    | infinite negative => cases negative <;> exact absurd same (by decide)
    | nan => rfl

end Floating

end SyncSchema
