import SyncSchema.Json.Printer
import SyncSchema.Proofs.Number.Decimal
import SyncSchema.Proofs.Text.Prefix

namespace SyncSchema

namespace Text.Quoted

def hexValue (c : Char) : Nat :=
  if c.isDigit then c.toNat - 48 else c.toNat - 87

theorem hexValue_digitChar : ∀ n < 16, hexValue (Nat.digitChar n) = n := by
  decide

def unescape : List Char → Option (Char × List Char)
  | '\\' :: 'n' :: rest => some ('\n', rest)
  | '\\' :: 'r' :: rest => some ('\r', rest)
  | '\\' :: 't' :: rest => some ('\t', rest)
  | '\\' :: 'b' :: rest => some ('\x08', rest)
  | '\\' :: 'f' :: rest => some ('\x0c', rest)
  | '\\' :: 'u' :: '0' :: '0' :: high :: low :: rest => some (Char.ofNat (16 * hexValue high + hexValue low), rest)
  | '\\' :: c :: rest => some (c, rest)
  | c :: rest => some (c, rest)
  | [] => none

theorem unescape_escape (c : Char) (rest : List Char) : unescape (escape c ++ rest) = some (c, rest) := by
  by_cases quote : c = '"'
  · subst quote
    rfl
  by_cases backslash : c = '\\'
  · subst backslash
    rfl
  by_cases newline : c = '\n'
  · subst newline
    rfl
  by_cases carriage : c = '\r'
  · subst carriage
    rfl
  by_cases tab : c = '\t'
  · subst tab
    rfl
  by_cases backspace : c = '\x08'
  · subst backspace
    rfl
  by_cases feed : c = '\x0c'
  · subst feed
    rfl
  by_cases control : c.toNat < 32
  · have high := hexValue_digitChar (c.toNat / 16) (by omega)
    have low := hexValue_digitChar (c.toNat % 16) (by omega)
    simp only [escape, quote, backslash, newline, carriage, tab, backspace, feed, control, if_true, if_false]
    show some (Char.ofNat (16 * hexValue _ + hexValue _), rest) = some (c, rest)
    rw [high, low, Nat.div_add_mod, Char.ofNat_toNat]
  · simp [escape, quote, backslash, newline, carriage, tab, backspace, feed, control, unescape]

theorem escape_append_inj {c d : Char} {rest rest' : List Char} (same : escape c ++ rest = escape d ++ rest') :
    c = d ∧ rest = rest' := by
  have read := unescape_escape c rest
  rw [same, unescape_escape, Option.some.injEq, Prod.mk.injEq] at read
  exact ⟨read.1.symm, read.2.symm⟩

theorem escape_ne_quote (c : Char) (rest rest' : List Char) : escape c ++ rest ≠ '"' :: rest' := by
  intro same
  have read := unescape_escape c rest
  rw [same] at read
  obtain ⟨rfl, -⟩ : '"' = c ∧ rest' = rest := by simpa [unescape] using read
  cases same

theorem encode_append_inj {text text' rest rest' : List Char}
    (same : encode text ++ rest = encode text' ++ rest') : text = text' ∧ rest = rest' := by
  simp only [encode, List.cons_append, List.append_assoc, List.cons.injEq, true_and, List.nil_append] at same
  induction text generalizing text' with
  | nil =>
    cases text' with
    | nil => exact ⟨rfl, by simpa using same⟩
    | cons d text' =>
      rw [List.flatMap_cons, List.append_assoc] at same
      exact absurd same.symm (escape_ne_quote _ _ _)
  | cons c text ih =>
    cases text' with
    | nil =>
      rw [List.flatMap_cons, List.append_assoc] at same
      exact absurd same (escape_ne_quote _ _ _)
    | cons d text' =>
      rw [List.flatMap_cons, List.flatMap_cons, List.append_assoc, List.append_assoc] at same
      obtain ⟨rfl, same'⟩ := escape_append_inj same
      obtain ⟨rfl, rfl⟩ := ih same'
      exact ⟨rfl, rfl⟩

end Text.Quoted

namespace Json

open Decimal (isWord)

def isAtom : Json → Bool
  | .null | .bool _ | .int _ | .float _ => true
  | .str _ | .arr _ | .obj _ => false

def Follows (rest : List Char) : Prop :=
  Text.Stops isWord rest

theorem atom_isWord {a : Json} (atom : a.isAtom = true) : ∀ c ∈ a.compact, isWord c = true := by
  cases a with
  | null =>
    rw [compact]
    exact List.all_eq_true.1 rfl
  | bool t =>
    rw [compact]
    cases t <;> exact List.all_eq_true.1 rfl
  | int i =>
    intro c member
    rcases mem_repr_int (by simpa only [compact] using member) with digit | rfl
    · exact Decimal.isWord_of_isDigit digit
    · rfl
  | float x =>
    cases x with
    | finite d =>
      rw [compact]
      exact d.text_isWord
    | infinite negative =>
      rw [compact]
      cases negative <;> exact List.all_eq_true.1 rfl
    | nan =>
      rw [compact]
      exact List.all_eq_true.1 rfl
  | str _ | arr _ | obj _ => cases atom

theorem int_ne_float (i : Int) (x : Floating) : (int i).compact ≠ (float x).compact := by
  intro same
  simp only [compact] at same
  have plain {c : Char} (member : c ∈ x.text "Infinity".toList "NaN".toList) : c.isDigit = true ∨ c = '-' := by
    rw [← same] at member
    exact mem_repr_int member
  cases x with
  | finite d =>
    rcases d.text_mark with member | member
    · exact absurd (plain member) (by decide)
    · exact absurd (plain member) (by decide)
  | infinite negative =>
    have member : 'I' ∈ (Floating.infinite negative).text "Infinity".toList "NaN".toList := by
      cases negative <;> decide
    exact absurd (plain member) (by decide)
  | nan =>
    have member : 'N' ∈ Floating.nan.text "Infinity".toList "NaN".toList := by decide
    exact absurd (plain member) (by decide)

theorem number_head {a : Json} (number : (∃ i, a = .int i) ∨ ∃ x, a = .float x) :
    ∃ c rest, a.compact = c :: rest ∧ c ∉ ['n', 't', 'f'] := by
  have digit {c : Char} (digit : c.isDigit = true) : c ∉ ['n', 't', 'f'] := by
    intro member
    simp only [List.mem_cons, List.not_mem_nil, or_false] at member
    rcases member with rfl | rfl | rfl <;> contradiction
  rcases number with ⟨i, rfl⟩ | ⟨x, rfl⟩
  · obtain ⟨c, rest, text⟩ := List.exists_cons_of_ne_nil (repr_int_ne_nil i)
    refine ⟨c, rest, by simpa only [compact] using text, ?_⟩
    rcases mem_repr_int (i := i) (c := c) (by simp [text]) with isDigit | rfl
    · exact digit isDigit
    · decide
  · cases x with
    | finite d =>
      obtain ⟨c, rest, body, isDigit⟩ := d.body_head
      have text : (float (.finite d)).compact = (if d.negative then ['-'] else []) ++ c :: rest := by
        rw [← body, ← Decimal.text_eq]
        simp only [compact, Floating.text]
      rw [text]
      split
      · exact ⟨'-', _, rfl, by decide⟩
      · exact ⟨c, _, rfl, digit isDigit⟩
    | infinite negative =>
      cases negative with
      | true => exact ⟨'-', _, by simp only [compact]; rfl, by decide⟩
      | false => exact ⟨'I', _, by simp only [compact]; rfl, by decide⟩
    | nan => exact ⟨'N', _, by simp only [compact]; rfl, by decide⟩

theorem atom_injective {a b : Json} (atomA : a.isAtom = true) (atomB : b.isAtom = true)
    (same : a.compact = b.compact) : a = b := by
  -- The named values start with letters that no number starts with.
  have named {a b : Json} (number : (∃ i, b = .int i) ∨ ∃ x, b = .float x) (c : Char) (rest : List Char)
      (text : a.compact = c :: rest) (letter : c ∈ ['n', 't', 'f']) : a.compact ≠ b.compact := by
    obtain ⟨d, rest', text', other⟩ := number_head number
    rw [text, text']
    rintro ⟨⟩
    exact other letter
  have nulls {b : Json} (number : (∃ i, b = .int i) ∨ ∃ x, b = .float x) : null.compact ≠ b.compact :=
    named number 'n' _ (by simp only [compact]; rfl) (by decide)
  have bools (t : Bool) {b : Json} (number : (∃ i, b = .int i) ∨ ∃ x, b = .float x) : (bool t).compact ≠ b.compact := by
    cases t with
    | true => exact named number 't' _ (by simp only [compact]; rfl) (by decide)
    | false => exact named number 'f' _ (by simp only [compact]; rfl) (by decide)
  cases a with
  | null =>
    cases b with
    | null => rfl
    | bool t => cases t <;> simp [compact] at same
    | int i => exact absurd same (nulls (.inl ⟨i, rfl⟩))
    | float x => exact absurd same (nulls (.inr ⟨x, rfl⟩))
    | str _ | arr _ | obj _ => cases atomB
  | bool s =>
    cases b with
    | null => cases s <;> simp [compact] at same
    | bool t => cases s <;> cases t <;> simp [compact] at same ⊢
    | int i => exact absurd same (bools s (.inl ⟨i, rfl⟩))
    | float x => exact absurd same (bools s (.inr ⟨x, rfl⟩))
    | str _ | arr _ | obj _ => cases atomB
  | int i =>
    cases b with
    | null => exact absurd same.symm (nulls (.inl ⟨i, rfl⟩))
    | bool t => exact absurd same.symm (bools t (.inl ⟨i, rfl⟩))
    | int j =>
      simp only [compact] at same
      rw [Int.repr_inj.1 (String.toList_inj.1 same)]
    | float x => exact absurd same (int_ne_float i x)
    | str _ | arr _ | obj _ => cases atomB
  | float x =>
    cases b with
    | null => exact absurd same.symm (nulls (.inr ⟨x, rfl⟩))
    | bool t => exact absurd same.symm (bools t (.inr ⟨x, rfl⟩))
    | int i => exact absurd same.symm (int_ne_float i x)
    | float y =>
      simp only [compact] at same
      rw [Floating.written_injective same]
    | str _ | arr _ | obj _ => cases atomB
  | str _ | arr _ | obj _ => cases atomA

def opening (text : List Char) : Option Char :=
  text.head?.filter fun c => !isWord c

theorem atom_ne_nil {a : Json} (atom : a.isAtom = true) : a.compact ≠ [] := by
  cases a with
  | null => simp [compact]
  | bool t => cases t <;> simp [compact]
  | int i =>
    obtain ⟨c, rest, text, -⟩ := number_head (.inl ⟨i, rfl⟩)
    simp [text]
  | float x =>
    obtain ⟨c, rest, text, -⟩ := number_head (.inr ⟨x, rfl⟩)
    simp [text]
  | str _ | arr _ | obj _ => cases atom

theorem opening_atom {a : Json} (atom : a.isAtom = true) (rest : List Char) : opening (a.compact ++ rest) = none := by
  obtain ⟨c, others, text⟩ := List.exists_cons_of_ne_nil (atom_ne_nil atom)
  have word := atom_isWord atom c (by simp [text])
  simp [opening, text, word]

theorem opening_str (s : String) (rest : List Char) : opening ((str s).compact ++ rest) = some '"' := by
  rw [compact]
  rfl

theorem opening_arr (items : List Json) (rest : List Char) : opening ((arr items).compact ++ rest) = some '[' := by
  cases items <;> rw [compact] <;> rfl

theorem opening_obj (fields : List (String × Json)) (rest : List Char) :
    opening ((obj fields).compact ++ rest) = some '{' := by
  cases fields with
  | nil => rw [compact]; rfl
  | cons field fields =>
    obtain ⟨key, value⟩ := field
    rw [compact]
    rfl

theorem opening_ne_bracket (a : Json) (rest : List Char) : opening (a.compact ++ rest) ≠ some ']' := by
  cases a with
  | null | bool _ | int _ | float _ =>
    rw [opening_atom (by rfl)]
    exact (Option.some_ne_none _).symm
  | str s => simp [opening_str]
  | arr items => simp [opening_arr]
  | obj fields => simp [opening_obj]

theorem atom_append_inj {a b : Json} (atom : a.isAtom = true) {rest rest' : List Char} (follows : Follows rest)
    (follows' : Follows rest') (same : a.compact ++ rest = b.compact ++ rest') : a = b ∧ rest = rest' := by
  have opens := congrArg opening same
  rw [opening_atom atom] at opens
  cases b with
  | null | bool _ | int _ | float _ =>
    obtain ⟨text, rest_eq⟩ := Text.chars_append_inj (atom_isWord atom) (atom_isWord (by rfl)) follows follows' same
    exact ⟨atom_injective atom (by rfl) text, rest_eq⟩
  | str s => simp [opening_str] at opens
  | arr items => simp [opening_arr] at opens
  | obj fields => simp [opening_obj] at opens

theorem follows_compactItems (items : List Json) (rest : List Char) : Follows (compactItems items ++ rest) := by
  intro c head
  cases items with
  | nil =>
    obtain rfl : ']' = c := by simpa [compactItems] using head
    rfl
  | cons item items =>
    obtain rfl : ',' = c := by simpa [compactItems] using head
    rfl

theorem follows_compactFields (fields : List (String × Json)) (rest : List Char) :
    Follows (compactFields fields ++ rest) := by
  intro c head
  cases fields with
  | nil =>
    obtain rfl : '}' = c := by simpa [compactFields] using head
    rfl
  | cons field fields =>
    obtain ⟨key, value⟩ := field
    obtain rfl : ',' = c := by simpa [compactFields] using head
    rfl

mutual
/-- A value is told apart from what follows it. -/
theorem compact_append_inj (a b : Json) {rest rest' : List Char} (follows : Follows rest) (follows' : Follows rest')
    (same : a.compact ++ rest = b.compact ++ rest') : a = b ∧ rest = rest' := by
  have opens := congrArg opening same
  match a, b with
  | .null, b | .bool _, b | .int _, b | .float _, b => exact atom_append_inj (by rfl) follows follows' same
  | a, .null | a, .bool _ | a, .int _ | a, .float _ =>
    obtain ⟨rfl, rfl⟩ := atom_append_inj (by rfl) follows' follows same.symm
    exact ⟨rfl, rfl⟩
  | .str _, .arr _ => simp [opening_str, opening_arr] at opens
  | .str _, .obj _ => simp [opening_str, opening_obj] at opens
  | .arr _, .str _ => simp [opening_arr, opening_str] at opens
  | .arr _, .obj _ => simp [opening_arr, opening_obj] at opens
  | .obj _, .str _ => simp [opening_obj, opening_str] at opens
  | .obj _, .arr _ => simp [opening_obj, opening_arr] at opens
  | .str s, .str t =>
    simp only [compact] at same
    obtain ⟨text, rfl⟩ := Text.Quoted.encode_append_inj same
    rw [String.toList_inj.1 text]
    exact ⟨rfl, rfl⟩
  | .arr [], .arr [] =>
    simp only [compact, List.cons_append, List.nil_append, List.cons.injEq, true_and] at same
    exact ⟨rfl, same⟩
  | .arr [], .arr (y :: ys) =>
    simp only [compact, List.cons_append, List.append_assoc, List.nil_append, List.cons.injEq, true_and] at same
    exact absurd (congrArg opening same).symm (opening_ne_bracket y _)
  | .arr (x :: xs), .arr [] =>
    simp only [compact, List.cons_append, List.append_assoc, List.nil_append, List.cons.injEq, true_and] at same
    exact absurd (congrArg opening same) (opening_ne_bracket x _)
  | .arr (x :: xs), .arr (y :: ys) =>
    simp only [compact, List.cons_append, List.append_assoc, List.cons.injEq, true_and] at same
    obtain ⟨rfl, others⟩ := compact_append_inj x y (follows_compactItems xs rest) (follows_compactItems ys rest') same
    obtain ⟨rfl, rfl⟩ := compactItems_append_inj xs ys others
    exact ⟨rfl, rfl⟩
  | .obj [], .obj [] =>
    simp only [compact, List.cons_append, List.nil_append, List.cons.injEq, true_and] at same
    exact ⟨rfl, same⟩
  | .obj [], .obj ((_, _) :: _) => simp [compact, Text.Quoted.encode] at same
  | .obj ((_, _) :: _), .obj [] => simp [compact, Text.Quoted.encode] at same
  | .obj ((j, x) :: xs), .obj ((k, y) :: ys) =>
    simp only [compact, List.cons_append, List.append_assoc, List.cons.injEq, true_and] at same
    obtain ⟨text, others⟩ := Text.Quoted.encode_append_inj same
    simp only [List.cons.injEq, true_and] at others
    obtain ⟨rfl, others'⟩ :=
      compact_append_inj x y (follows_compactFields xs rest) (follows_compactFields ys rest') others
    obtain ⟨rfl, rfl⟩ := compactFields_append_inj xs ys others'
    rw [String.toList_inj.1 text]
    exact ⟨rfl, rfl⟩

theorem compactItems_append_inj (as bs : List Json) {rest rest' : List Char}
    (same : compactItems as ++ rest = compactItems bs ++ rest') : as = bs ∧ rest = rest' := by
  match as, bs with
  | [], [] =>
    simp only [compactItems, List.cons_append, List.nil_append, List.cons.injEq, true_and] at same
    exact ⟨rfl, same⟩
  | [], _ :: _ => simp [compactItems] at same
  | _ :: _, [] => simp [compactItems] at same
  | x :: xs, y :: ys =>
    simp only [compactItems, List.cons_append, List.append_assoc, List.cons.injEq, true_and] at same
    obtain ⟨rfl, others⟩ := compact_append_inj x y (follows_compactItems xs rest) (follows_compactItems ys rest') same
    obtain ⟨rfl, rfl⟩ := compactItems_append_inj xs ys others
    exact ⟨rfl, rfl⟩

theorem compactFields_append_inj (as bs : List (String × Json)) {rest rest' : List Char}
    (same : compactFields as ++ rest = compactFields bs ++ rest') : as = bs ∧ rest = rest' := by
  match as, bs with
  | [], [] =>
    simp only [compactFields, List.cons_append, List.nil_append, List.cons.injEq, true_and] at same
    exact ⟨rfl, same⟩
  | [], (_, _) :: _ => simp [compactFields] at same
  | (_, _) :: _, [] => simp [compactFields] at same
  | (j, x) :: xs, (k, y) :: ys =>
    simp only [compactFields, List.cons_append, List.append_assoc, List.cons.injEq, true_and] at same
    obtain ⟨text, others⟩ := Text.Quoted.encode_append_inj same
    simp only [List.cons.injEq, true_and] at others
    obtain ⟨rfl, others'⟩ :=
      compact_append_inj x y (follows_compactFields xs rest) (follows_compactFields ys rest') others
    obtain ⟨rfl, rfl⟩ := compactFields_append_inj xs ys others'
    rw [String.toList_inj.1 text]
    exact ⟨rfl, rfl⟩
end

theorem compact_injective {a b : Json} (same : a.compact = b.compact) : a = b := by
  have follows : Follows [] := by simp [Follows, Text.Stops]
  exact (compact_append_inj a b follows follows (congrArg (· ++ []) same)).1

theorem render_injective {a b : Json} (same : a.render = b.render) : a = b :=
  compact_injective (String.ofList_inj.1 same)

end Json

end SyncSchema
