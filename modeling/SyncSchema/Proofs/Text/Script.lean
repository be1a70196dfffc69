import SyncSchema.Json.Reader
import SyncSchema.Text.Quoted

namespace SyncSchema.Text.Script

def pointUnits (n : Nat) : List Nat :=
  if n < 0x10000 then [n] else [0xD800 + (n - 0x10000) / 1024, 0xDC00 + (n - 0x10000) % 1024]

def utf16 (text : List Char) : List Nat :=
  text.flatMap fun c => pointUnits c.toNat

def hexNumber? (digits : List Char) : Option Nat :=
  digits.foldlM (fun n c => (n * 16 + ·) <$> Json.Reader.hexValue? c) 0

def hexEscape? (width : Nat) (text : List Char) : Option (List Nat × List Char) :=
  if text.length < width then none
  else (hexNumber? (text.take width)).map fun n => ([n], text.drop width)

def pointEscape? (text : List Char) : Option (List Nat × List Char) :=
  let digits := text.takeWhile (· != '\x7d')
  match hexNumber? digits, text.dropWhile (· != '\x7d') with
  | some n, _ :: rest => if digits.isEmpty || 0x10FFFF < n then none else some (pointUnits n, rest)
  | _, _ => none

def isLineEnd (c : Char) : Bool :=
  c == '\n' || c == '\r' || c == '\u2028' || c == '\u2029'

def control? : Char → Option Nat
  | 'b' => some 8
  | 't' => some 9
  | 'n' => some 10
  | 'v' => some 11
  | 'f' => some 12
  | 'r' => some 13
  | _ => none

def single (c : Char) : List Nat :=
  match control? c with
  | some unit => [unit]
  | none => pointUnits c.toNat

/-- What an escape stands for and what comes after it. Octal escapes are none in a module. -/
def escape? : List Char → Option (List Nat × List Char)
  | [] => none
  | '0' :: rest => if rest.head?.any Char.isDigit then none else some ([0], rest)
  | 'x' :: rest => hexEscape? 2 rest
  | 'u' :: '\x7b' :: rest => pointEscape? rest
  | 'u' :: rest => hexEscape? 4 rest
  | '\r' :: '\n' :: rest => some ([], rest)
  | c :: rest =>
    if isLineEnd c then some ([], rest)
    else if c.isDigit then none
    else some (single c, rest)

section

variable {text rest : List Char} {units : List Nat}

theorem length_pointUnits (n : Nat) : 1 ≤ (pointUnits n).length ∧ (pointUnits n).length ≤ 2 := by
  rw [pointUnits]
  split <;> simp

theorem utf16_cons (c : Char) (rest : List Char) : utf16 (c :: rest) = pointUnits c.toNat ++ utf16 rest :=
  List.flatMap_cons

theorem length_utf16_cons (c : Char) (rest : List Char) :
    (utf16 (c :: rest)).length = (pointUnits c.toNat).length + (utf16 rest).length := by
  simp [utf16]

theorem length_utf16_append (text rest : List Char) :
    (utf16 (text ++ rest)).length = (utf16 text).length + (utf16 rest).length := by
  simp [utf16]

theorem length_le_utf16 (text : List Char) : text.length ≤ (utf16 text).length := by
  induction text with
  | nil => exact Nat.le_refl 0
  | cons c rest ih =>
    have := length_pointUnits c.toNat
    rw [length_utf16_cons, List.length_cons]
    omega

theorem hexEscape?_size {width : Nat} (read : hexEscape? width text = some (units, rest)) :
    units.length + (utf16 rest).length ≤ (utf16 text).length + 1 ∧ rest.length ≤ text.length := by
  rw [hexEscape?] at read
  split at read
  · cases read
  · obtain ⟨n, -, same⟩ := Option.map_eq_some_iff.1 read
    cases same
    have sizes := length_utf16_append (text.take width) (text.drop width)
    rw [List.take_append_drop] at sizes
    simp only [List.length_singleton, List.length_drop]
    omega

theorem pointEscape?_size (read : pointEscape? text = some (units, rest)) :
    units.length + (utf16 rest).length ≤ (utf16 text).length + 1 ∧ rest.length ≤ text.length := by
  have sizes := length_utf16_append (text.takeWhile (· != '\x7d')) (text.dropWhile (· != '\x7d'))
  have lengths := congrArg List.length (List.takeWhile_append_dropWhile (p := (· != '\x7d')) (l := text))
  rw [List.takeWhile_append_dropWhile] at sizes
  rw [pointEscape?] at read
  split at read
  · rename_i n c after digits stops
    split at read
    · cases read
    · cases read
      have few := length_pointUnits n
      have one := length_pointUnits c.toNat
      rw [stops, length_utf16_cons] at sizes
      rw [List.length_append, stops, List.length_cons] at lengths
      omega
  · cases read

theorem length_single (c : Char) : (single c).length ≤ (pointUnits c.toNat).length := by
  rw [single]
  split
  · exact (length_pointUnits c.toNat).1
  · exact Nat.le_refl _

theorem escape?_size (read : escape? text = some (units, rest)) :
    units.length + (utf16 rest).length ≤ (utf16 text).length ∧ rest.length < text.length := by
  unfold escape? at read
  split at read
  · cases read
  · split at read
    · cases read
    · cases read
      have one := length_pointUnits '0'.toNat
      simp only [length_utf16_cons, List.length_cons, List.length_nil]
      omega
  · have size := hexEscape?_size read
    have one := length_pointUnits 'x'.toNat
    rw [length_utf16_cons, List.length_cons]
    omega
  · have size := pointEscape?_size read
    have one := length_pointUnits 'u'.toNat
    rw [length_utf16_cons, length_utf16_cons, List.length_cons, List.length_cons]
    omega
  · have size := hexEscape?_size read
    have one := length_pointUnits 'u'.toNat
    rw [length_utf16_cons, List.length_cons]
    omega
  · cases read
    simp only [length_utf16_cons, List.length_cons, List.length_nil]
    omega
  · rename_i c after _ _ _ _ _
    have few := length_single c
    rw [length_utf16_cons, List.length_cons]
    split at read
    · cases read
      rw [List.length_nil]
      omega
    · split at read
      · cases read
      · cases read
        omega

end

def string? (mark : Char) : List Char → Option (List Nat × List Char)
  | [] => none
  | c :: rest =>
    if c = mark then some ([], rest)
    else if c = '\n' ∨ c = '\r' then none
    else if c = '\\' then
      match _found : escape? rest with
      | none => none
      | some (units, after) => (string? mark after).map (Prod.map (units ++ ·) id)
    else (string? mark rest).map (Prod.map (pointUnits c.toNat ++ ·) id)
termination_by text => text.length
decreasing_by
  · exact Nat.lt_succ_of_lt (escape?_size ‹_›).2
  · exact Nat.lt_succ_self _

def literal? : List Char → Option (List Nat × List Char)
  | '"' :: rest => string? '"' rest
  | '\'' :: rest => string? '\'' rest
  | _ => none

def Reads (text : List Char) (value : String) (rest : List Char) : Prop :=
  literal? text = some (utf16 value.toList, rest)

def isPlain (c : Char) : Bool :=
  c != '\'' && c != '\n' && c != '\r' && c != '\\'

section

variable {mark : Char} {text rest after : List Char} {units : List Nat}

theorem string?_mark (mark : Char) (rest : List Char) : string? mark (mark :: rest) = some ([], rest) := by
  rw [string?, if_pos rfl]

theorem string?_break {c : Char} (other : c ≠ mark) (breaks : c = '\n' ∨ c = '\r') (rest : List Char) :
    string? mark (c :: rest) = none := by
  rw [string?, if_neg other, if_pos breaks]

theorem string?_escape (other : '\\' ≠ mark) (escaped : escape? rest = some (units, after)) :
    string? mark ('\\' :: rest) = (string? mark after).map (Prod.map (units ++ ·) id) := by
  rw [string?, if_neg other, if_neg (by decide), if_pos rfl]
  split
  · rename_i none
    cases escaped.symm.trans none
  · rename_i units' after' found
    cases escaped.symm.trans found
    rfl

theorem string?_char {c : Char} (other : c ≠ mark) (goesOn : ¬(c = '\n' ∨ c = '\r')) (stands : c ≠ '\\')
    (rest : List Char) :
    string? mark (c :: rest) = (string? mark rest).map (Prod.map (pointUnits c.toNat ++ ·) id) := by
  rw [string?, if_neg other, if_neg goesOn, if_neg stands]

theorem map_prepend_eq_some {more : List Nat} {read : Option (List Nat × List Char)} :
    read.map (Prod.map (units ++ ·) id) = some (more, rest) ↔
      ∃ others, read = some (others, rest) ∧ units ++ others = more := by
  rw [Option.map_eq_some_iff]
  constructor
  · rintro ⟨⟨others, _⟩, found, same⟩
    obtain ⟨rfl, rfl⟩ := Prod.mk.inj same
    exact ⟨others, found, rfl⟩
  · rintro ⟨others, found, rfl⟩
    exact ⟨_, found, rfl⟩

theorem string?_size (read : string? mark text = some (units, rest)) :
    units.length + (utf16 rest).length < (utf16 text).length := by
  fun_induction string? mark text generalizing units with
  | case1 => cases read
  | case2 rest =>
    cases read
    have one := length_pointUnits mark.toNat
    rw [length_utf16_cons, List.length_nil]
    omega
  | case3 => cases read
  | case4 => cases read
  | case5 text first after escaped _ _ ih =>
    obtain ⟨others, found, rfl⟩ := map_prepend_eq_some.1 read
    have size := escape?_size escaped
    have size' := ih found
    rw [length_utf16_cons, List.length_append]
    omega
  | case6 c text _ _ _ ih =>
    obtain ⟨others, found, rfl⟩ := map_prepend_eq_some.1 read
    have size := ih found
    rw [length_utf16_cons, List.length_append]
    omega

theorem string?_backslash (other : '\\' ≠ mark) (read : string? mark ('\\' :: text) = some (units, rest)) :
    units.length + (utf16 rest).length < (utf16 text).length := by
  cases escaped : escape? text with
  | none =>
    rw [string?, if_neg other, if_neg (by decide), if_pos rfl] at read
    split at read
    · cases read
    · rename_i found
      cases escaped.symm.trans found
  | some taken =>
    obtain ⟨first, after⟩ := taken
    rw [string?_escape other escaped] at read
    obtain ⟨others, found, rfl⟩ := map_prepend_eq_some.1 read
    have size := escape?_size escaped
    have size' := string?_size found
    rw [List.length_append]
    omega

theorem isPlain_iff {c : Char} : isPlain c = true ↔ c ≠ '\'' ∧ ¬(c = '\n' ∨ c = '\r') ∧ c ≠ '\\' := by
  simp [isPlain, and_assoc]

theorem string?_bare_iff (text rest : List Char) :
    string? '\'' (text ++ '\'' :: rest) = some (utf16 text, rest) ↔ ∀ c ∈ text, isPlain c = true := by
  induction text with
  | nil => exact ⟨fun _ => List.forall_mem_nil _, fun _ => string?_mark '\'' rest⟩
  | cons c text ih =>
    rw [List.cons_append, List.forall_mem_cons, ← ih, isPlain_iff]
    constructor
    · intro read
      have other : c ≠ '\'' := by
        rintro rfl
        rw [string?_mark] at read
        have size := length_le_utf16 ('\'' :: text)
        rw [← (Prod.mk.inj (Option.some.inj read)).1] at size
        cases size
      have goesOn : ¬(c = '\n' ∨ c = '\r') := by
        intro breaks
        rw [string?_break other breaks] at read
        cases read
      have stands : c ≠ '\\' := by
        rintro rfl
        have size := string?_backslash (by decide) read
        have one : (pointUnits '\\'.toNat).length = 1 := rfl
        have one' : (pointUnits '\''.toNat).length = 1 := rfl
        rw [length_utf16_append, length_utf16_cons, length_utf16_cons, one, one'] at size
        omega
      rw [string?_char other goesOn stands, map_prepend_eq_some] at read
      obtain ⟨others, found, same⟩ := read
      refine ⟨⟨other, goesOn, stands⟩, ?_⟩
      rw [utf16_cons] at same
      rw [found, List.append_cancel_left same]
    · rintro ⟨⟨other, goesOn, stands⟩, read⟩
      rw [string?_char other goesOn stands, read]
      rfl

theorem hexValue?_digitChar : ∀ n < 16, Json.Reader.hexValue? (Nat.digitChar n) = some n := by
  decide

theorem escape?_control {c : Char} (control : c.toNat < 32) (rest : List Char) :
    escape? ('u' :: '0' :: '0' :: Nat.digitChar (c.toNat / 16) :: Nat.digitChar (c.toNat % 16) :: rest) =
      some (pointUnits c.toNat, rest) := by
  have high := hexValue?_digitChar (c.toNat / 16) (by omega)
  have low := hexValue?_digitChar (c.toNat % 16) (by omega)
  have zero : Json.Reader.hexValue? '0' = some 0 := by decide
  have point : pointUnits c.toNat = [c.toNat] := if_pos (by omega)
  rw [escape?]
  · simp [hexEscape?, hexNumber?, high, low, zero, point]
    omega
  · simp

theorem string?_quoted (c : Char) (rest : List Char) : string? '"' (Quoted.escape c ++ rest) =
    (string? '"' rest).map (Prod.map (pointUnits c.toNat ++ ·) id) := by
  have escaped {taken : List Char} (read : escape? taken = some (pointUnits c.toNat, rest)) :
      string? '"' ('\\' :: taken) = (string? '"' rest).map (Prod.map (pointUnits c.toNat ++ ·) id) :=
    string?_escape (by decide) read
  by_cases quote : c = '"'
  · subst quote
    exact escaped rfl
  by_cases backslash : c = '\\'
  · subst backslash
    exact escaped rfl
  by_cases newline : c = '\n'
  · subst newline
    exact escaped rfl
  by_cases carriage : c = '\r'
  · subst carriage
    exact escaped rfl
  by_cases tab : c = '\t'
  · subst tab
    exact escaped rfl
  by_cases backspace : c = '\x08'
  · subst backspace
    exact escaped rfl
  by_cases feed : c = '\x0c'
  · subst feed
    exact escaped rfl
  simp only [Quoted.escape, quote, backslash, newline, carriage, tab, backspace, feed, if_false]
  split
  · rename_i control
    exact escaped (escape?_control control rest)
  · exact string?_char quote (by simp [newline, carriage]) backslash rest

theorem string?_quote (text rest : List Char) :
    string? '"' (text.flatMap Quoted.escape ++ '"' :: rest) = some (utf16 text, rest) := by
  induction text with
  | nil => exact string?_mark '"' rest
  | cons c text ih =>
    rw [List.flatMap_cons, List.append_assoc, string?_quoted, ih]
    rfl

end

theorem toNat_valid (c : Char) : c.toNat < 0xD800 ∨ 0xDFFF < c.toNat ∧ c.toNat < 0x110000 :=
  c.valid

/-- No character is half of a pair, so pairs can be told from single units. -/
theorem pointUnits_append_inj {c d : Char} {rest rest' : List Nat}
    (same : pointUnits c.toNat ++ rest = pointUnits d.toNat ++ rest') : c = d ∧ rest = rest' := by
  have validC := toNat_valid c
  have validD := toNat_valid d
  rw [← Char.toNat_inj]
  rw [pointUnits, pointUnits] at same
  split at same <;> split at same
  · exact List.cons.inj same
  · have head := (List.cons.inj same).1
    omega
  · have head := (List.cons.inj same).1
    omega
  · obtain ⟨head, others⟩ := List.cons.inj same
    obtain ⟨next, others⟩ := List.cons.inj others
    exact ⟨by omega, others⟩

theorem utf16_injective : Function.Injective utf16 := by
  intro text text' same
  induction text generalizing text' with
  | nil =>
    cases text' with
    | nil => rfl
    | cons d text' =>
      have size := length_le_utf16 (d :: text')
      rw [← same] at size
      cases size
  | cons c text ih =>
    cases text' with
    | nil =>
      have size := length_le_utf16 (c :: text)
      rw [same] at size
      cases size
    | cons d text' =>
      rw [utf16_cons, utf16_cons] at same
      obtain ⟨rfl, others⟩ := pointUnits_append_inj same
      rw [ih others]

theorem Reads.unique {text rest rest' : List Char} {value value' : String} (reads : Reads text value rest)
    (reads' : Reads text value' rest') : value = value' ∧ rest = rest' := by
  obtain ⟨same, ends⟩ := Prod.mk.inj (Option.some.inj (reads.symm.trans reads'))
  exact ⟨String.toList_inj.1 (utf16_injective same), ends⟩

theorem reads_quote (value : String) (rest : List Char) : Reads ((quote value).toList ++ rest) value rest := by
  rw [Reads, quote, String.toList_ofList, Quoted.encode, List.cons_append, List.append_assoc]
  exact string?_quote value.toList rest

theorem reads_bare_iff (value : String) (rest : List Char) :
    Reads ('\'' :: (value.toList ++ '\'' :: rest)) value rest ↔ ∀ c ∈ value.toList, isPlain c = true :=
  string?_bare_iff value.toList rest

end SyncSchema.Text.Script
