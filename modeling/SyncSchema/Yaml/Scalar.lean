import SyncSchema.Yaml.Flaw
import SyncSchema.Yaml.Layout

namespace SyncSchema.Yaml

def joinLines (first : Char) (more : List Char) : List Char :=
  if first != '\n' then first :: more
  else if more.isEmpty then [' ']
  else more

namespace Plain

/-- What stands between two words of a plain scalar; on a new line, how far that line is indented. -/
structure Gap where
  text : List Char
  indent? : Option Nat
  rest : List Char

/-- Passes over empty lines. What they stand for is none where a document mark ends the scalar. -/
def emptyLines (read : List Char) (column : Nat) : List Char → Option (List Char) × Nat × List Char
  | [] => (some read.reverse, column, [])
  | c :: rest =>
    if c == ' ' then emptyLines read (column + 1) rest
    else if isBreak c then
      if startsMark rest then (none, 0, rest) else emptyLines (breakText c :: read) 0 rest
    else (some read.reverse, column, c :: rest)

theorem emptyLines_length (read : List Char) (column : Nat) (text : List Char) :
    (emptyLines read column text).2.2.length ≤ text.length := by
  fun_induction emptyLines read column text with
  | case1 => simp
  | case2 _ _ _ _ _ ih => simp; omega
  | case3 => simp
  | case4 _ _ _ _ _ _ _ ih => simp; omega
  | case5 => simp

def gap (text : List Char) : Gap :=
  match dropSpaces text with
  | [] => ⟨text, none, []⟩
  | c :: after =>
    if isBreak c then
      if startsMark after then ⟨[], some 0, after⟩
      else
        let (more, column, rest) := emptyLines [] 0 after
        ⟨(more.map (joinLines (breakText c))).getD [], some column, rest⟩
    else ⟨text.takeWhile (· == ' '), none, c :: after⟩

theorem gap_length (text : List Char) : (gap text).rest.length ≤ text.length := by
  have h : (dropSpaces text).length ≤ text.length := by
    rw [dropSpaces]; exact (List.dropWhile_sublist _).length_le
  unfold gap
  split
  · simp
  · rename_i c after e
    rw [e, List.length_cons] at h
    split
    · split
      · simp only; omega
      · exact Nat.le_trans (emptyLines_length [] 0 after) (by omega)
    · simp only [List.length_cons]; omega

def endsKey (inFlow : Bool) : List Char → Bool
  | c :: rest => startsBlank (c :: rest) || inFlow && ",[]\x7b\x7d".toList.contains c
  | [] => true

def wordLength (inFlow : Bool) : List Char → Nat
  | [] => 0
  | c :: rest =>
    if isSpaceOrTab c || isBreak c || c == ':' && endsKey inFlow rest ||
        inFlow && ",?[]\x7b\x7d".toList.contains c then 0
    else wordLength inFlow rest + 1

def Gap.isEnd (gap : Gap) (inFlow : Bool) (least : Nat) : Bool :=
  gap.text.isEmpty || gap.rest.head? == some '#' || !inFlow && gap.indent?.any (· < least)

def words (inFlow : Bool) (least : Nat) (before : List Char) (newLine : Bool) (text : List Char) :
    List Char × Bool × List Char :=
  let length := wordLength inFlow text
  if h : length = 0 ∨ text.length < length then ([], newLine, text)
  else
    let word := text.take length
    let next := gap (text.drop length)
    have : next.rest.length < text.length := by
      have : next.rest.length ≤ (text.drop length).length := gap_length (text.drop length)
      simp only [List.length_drop] at this
      omega
    if next.isEnd inFlow least then (before ++ word, next.indent?.isSome, next.rest)
    else
      let (more, newLine, rest) := words inFlow least next.text next.indent?.isSome next.rest
      (before ++ word ++ more, newLine, rest)
termination_by text.length

end Plain

namespace Quoted

def emptyLines (read : List Char) (atStart : Bool) (text : List Char) : Except Fault (List Char × List Char) :=
  if atStart && startsMark text then .error .malformed
  else
    match text with
    | [] => .ok (read.reverse, [])
    | c :: rest =>
      if isSpaceOrTab c then emptyLines read false rest
      else if isBreak c then emptyLines (breakText c :: read) true rest
      else .ok (read.reverse, c :: rest)

theorem emptyLines_length {read : List Char} {atStart : Bool} {text : List Char} {found : List Char × List Char}
    (h : emptyLines read atStart text = .ok found) : found.2.length ≤ text.length := by
  fun_induction emptyLines read atStart text with
  | case1 => cases h
  | case2 => cases h; simp
  | case3 _ _ _ _ _ _ ih => have := ih h; simp; omega
  | case4 _ _ _ _ _ _ _ ih => have := ih h; simp; omega
  | case5 => cases h; simp

def simpleEscape? : Char → Option Char
  | '0' => some '\x00'
  | 'a' => some '\x07'
  | 'b' => some '\x08'
  | 't' | '\t' => some '\t'
  | 'n' => some '\n'
  | 'v' => some '\x0b'
  | 'f' => some '\x0c'
  | 'r' => some '\r'
  | 'e' => some '\x1b'
  | ' ' => some ' '
  | '"' => some '"'
  | '\\' => some '\\'
  | '/' => some '/'
  | 'N' => some (Char.ofNat 0x85)
  | '_' => some (Char.ofNat 0xA0)
  | 'L' => some (Char.ofNat 0x2028)
  | 'P' => some (Char.ofNat 0x2029)
  | _ => none

def codeLength? : Char → Option Nat
  | 'x' => some 2
  | 'u' => some 4
  | 'U' => some 8
  | _ => none

def hexDigit? (c : Char) : Option Nat :=
  if c.isDigit then some (c.toNat - 48)
  else if 'a' ≤ c && c ≤ 'f' then some (c.toNat - 87)
  else if 'A' ≤ c && c ≤ 'F' then some (c.toNat - 55)
  else none

def character (code : Nat) : Except Fault Char :=
  if 0x110000 ≤ code then .error (.flaw (.codePoint code)) else .ok (Text.characterOf code)

def coded (length : Nat) (text : List Char) : Except Fault Char :=
  match (text.take length).mapM hexDigit? with
  | some digits =>
    if digits.length = length then character (digits.foldl (fun n d => n * 16 + d) 0) else .error .malformed
  | none => .error .malformed

def gap (text : List Char) : Except Fault (List Char × List Char) :=
  match text.dropWhile isSpaceOrTab with
  | [] => .error .malformed
  | c :: rest =>
    if isBreak c then (emptyLines [] true rest).map fun (more, rest) => (joinLines (breakText c) more, rest)
    else .ok (text.takeWhile isSpaceOrTab, c :: rest)

theorem gap_length {c : Char} {text : List Char} {found : List Char × List Char}
    (blank : isSpaceOrTab c || isBreak c) (h : gap (c :: text) = .ok found) :
    found.2.length ≤ text.length := by
  unfold gap at h
  split at h
  · cases h
  · rename_i d rest e
    have len : (d :: rest).length ≤ (c :: text).length := by
      rw [← e]; exact (List.dropWhile_sublist _).length_le
    simp only [List.length_cons] at len
    split at h
    · cases hl : emptyLines [] true rest with
      | error _ => rw [hl] at h; cases h
      | ok pair =>
        rw [hl] at h; cases h
        have := emptyLines_length hl
        simp only; omega
    · rename_i notBreak
      by_cases hs : isSpaceOrTab c
      · rw [List.dropWhile_cons_of_pos hs] at e
        have : (d :: rest).length ≤ text.length := by
          rw [← e]; exact (List.dropWhile_sublist _).length_le
        cases h; exact this
      · rw [List.dropWhile_cons_of_neg hs] at e
        cases e
        simp_all

def read (double : Bool) : List Char → Except Fault (List Char × List Char)
  | [] => .error .malformed
  | c :: rest =>
    if hb : isSpaceOrTab c || isBreak c then
      match hg : gap (c :: rest) with
      | .error fault => .error fault
      | .ok (blanks, after) =>
        have : after.length ≤ rest.length := gap_length hb hg
        (read double after).map fun (more, rest) => (blanks ++ more, rest)
    else if double then
      if c == '"' then .ok ([], rest)
      else if c == '\\' then
        match rest with
        | [] => .error .malformed
        | e :: after =>
          match simpleEscape? e, codeLength? e with
          | some image, _ => (read double after).map fun (more, rest) => (image :: more, rest)
          | none, some length => do
            let image ← coded length after
            (read double (after.drop length)).map fun (more, rest) => (image :: more, rest)
          | none, none =>
            if isBreak e then
              match hl : emptyLines [] true after with
              | .error fault => .error fault
              | .ok (breaks, after') =>
                have : after'.length ≤ after.length := emptyLines_length hl
                (read double after').map fun (more, rest) => (breaks ++ more, rest)
            else .error .malformed
      else (read double rest).map fun (more, rest) => (c :: more, rest)
    else if c == '\'' then
      match rest with
      | '\'' :: after => (read double after).map fun (more, rest) => ('\'' :: more, rest)
      | rest => .ok ([], rest)
    else (read double rest).map fun (more, rest) => (c :: more, rest)
termination_by text => text.length
decreasing_by all_goals simp_all <;> omega

end Quoted

namespace Block

inductive Chomping where
  | strip
  | clip
  | keep
deriving DecidableEq

structure Header where
  chomping : Chomping
  indent? : Option Nat

def chomping? : Char → Option Chomping
  | '+' => some .keep
  | '-' => some .strip
  | _ => none

def indentation? (c : Char) : Option Nat :=
  if c.isDigit then some (c.toNat - 48) else none

def signs : List Char → Header × List Char
  | [] => (⟨.clip, none⟩, [])
  | c :: rest =>
    match chomping? c, indentation? c with
    | some chomping, _ =>
      match rest with
      | d :: after =>
        match indentation? d with
        | some indent => (⟨chomping, some indent⟩, after)
        | none => (⟨chomping, none⟩, rest)
      | [] => (⟨chomping, none⟩, [])
    | none, some indent =>
      match rest with
      | d :: after =>
        match chomping? d with
        | some chomping => (⟨chomping, some indent⟩, after)
        | none => (⟨.clip, some indent⟩, rest)
      | [] => (⟨.clip, some indent⟩, [])
    | none, none => (⟨.clip, none⟩, c :: rest)

def header? (text : List Char) : Option (Header × List Char) :=
  let (header, rest) := signs text
  let line := dropComment (dropSpaces rest)
  if header.indent? = some 0 || !startsApart rest || !startsLine line then none else some (header, line.drop 1)

def emptyLines (indent : Nat) (read : List Char) (column : Nat) : List Char → List Char × Nat × List Char
  | [] => (read.reverse, column, [])
  | c :: rest =>
    if c == ' ' && column < indent then emptyLines indent read (column + 1) rest
    else if isBreak c then emptyLines indent (breakText c :: read) 0 rest
    else (read.reverse, column, c :: rest)

theorem emptyLines_length (indent : Nat) (read : List Char) (column : Nat) (text : List Char) :
    (emptyLines indent read column text).2.2.length ≤ text.length := by
  fun_induction emptyLines indent read column text with
  | case1 => simp
  | case2 _ _ _ _ _ ih => simp; omega
  | case3 _ _ _ _ _ _ ih => simp; omega
  | case4 => simp

/-- Empty lines when the indentation is still to be found: also the longest run of blanks at the start of a line. -/
def leadingLines (read : List Char) (longest column : Nat) : List Char → List Char × Nat × Nat × List Char
  | [] => (read.reverse, longest, column, [])
  | c :: rest =>
    if c == ' ' then leadingLines read (max longest (column + 1)) (column + 1) rest
    else if isBreak c then leadingLines (breakText c :: read) longest 0 rest
    else (read.reverse, longest, column, c :: rest)

structure Tail where
  lineBreak : List Char
  emptyLines : List Char
  rest : List Char

def startsText : List Char → Bool
  | [] => true
  | c :: _ => !isSpaceOrTab c

def joint (folded : Bool) (lineBreak : Char) (breaks line next : List Char) : List Char :=
  (if folded && lineBreak == '\n' && startsText line && startsText next then
    if breaks.isEmpty then [' '] else []
  else [lineBreak]) ++ breaks

def lines (folded : Bool) (indent : Nat) (text : List Char) : List Char × Tail :=
  let line := text.takeWhile (!isBreak ·)
  match h : dropLine text with
  | [] => (line, ⟨[], [], []⟩)
  | c :: after =>
    let found := emptyLines indent [] 0 after
    have : found.2.2.length < text.length := by
      have : found.2.2.length ≤ after.length := emptyLines_length indent [] 0 after
      have le : (dropLine text).length ≤ text.length := by
        rw [dropLine]; exact (List.dropWhile_sublist _).length_le
      rw [h, List.length_cons] at le
      omega
    if found.2.1 == indent && !found.2.2.isEmpty then
      let (more, tail) := lines folded indent found.2.2
      (line ++ joint folded (breakText c) found.1 text found.2.2 ++ more, tail)
    else (line, ⟨[breakText c], found.1, found.2.2⟩)
termination_by text.length

def Tail.text (tail : Tail) : Chomping → List Char
  | .strip => []
  | .clip => tail.lineBreak
  | .keep => tail.lineBreak ++ tail.emptyLines

def read (folded : Bool) (least : Nat) (text : List Char) : Except Fault (List Char × List Char) :=
  match header? text with
  | none => .error .malformed
  | some (header, text) =>
    let (breaks, indent, column, rest) :=
      match header.indent? with
      | some indent =>
        let (breaks, column, rest) := emptyLines (least + indent - 1) [] 0 text
        (breaks, least + indent - 1, column, rest)
      | none =>
        let (breaks, longest, column, rest) := leadingLines [] 0 0 text
        (breaks, max least longest, column, rest)
    if column == indent && !rest.isEmpty then
      let (body, tail) := lines folded indent rest
      .ok (breaks ++ body ++ tail.text header.chomping, tail.rest)
    else .ok ((Tail.mk [] breaks rest).text header.chomping, rest)

end Block

end SyncSchema.Yaml
