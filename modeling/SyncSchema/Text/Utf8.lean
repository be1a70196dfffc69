namespace SyncSchema.Text.Utf8

inductive Reason where
  | invalidStart
  | invalidContinuation
  | unexpectedEnd
deriving DecidableEq

structure Error where
  reason : Reason
  first : UInt8
  position : Nat
  length : Nat
deriving DecidableEq

def Reason.message : Reason → String
  | invalidStart => "invalid start byte"
  | invalidContinuation => "invalid continuation byte"
  | unexpectedEnd => "unexpected end of data"

def hexByte (b : UInt8) : String :=
  String.ofList [Nat.digitChar (b.toNat / 16), Nat.digitChar (b.toNat % 16)]

def Error.message (e : Error) : String :=
  if e.length = 1 then
    s!"'utf-8' codec can't decode byte 0x{hexByte e.first} in position {e.position}: {e.reason.message}"
  else
    s!"'utf-8' codec can't decode bytes in position {e.position}-{e.position + e.length - 1}: {e.reason.message}"

def shape? (b : UInt8) : Option (Nat × UInt8 × UInt8) :=
  if b < 0x80 then some (0, 0, 0)
  else if b < 0xC2 then none
  else if b < 0xE0 then some (1, 0x80, 0xBF)
  else if b < 0xF0 then some (2, if b = 0xE0 then 0xA0 else 0x80, if b = 0xED then 0x9F else 0xBF)
  else if b < 0xF5 then some (3, if b = 0xF0 then 0x90 else 0x80, if b = 0xF4 then 0x8F else 0xBF)
  else none

def leadBits (b : UInt8) (more : Nat) : Nat :=
  if more = 0 then b.toNat else b.toNat % (64 >>> more)

/-- Reads the followers of a first byte: their bits joined to `bits`, or what is wrong after `seen` bytes. -/
def followers (low high : UInt8) : Nat → Nat → Nat → List UInt8 → Except (Reason × Nat) (Nat × List UInt8)
  | 0, bits, _, bytes => .ok (bits, bytes)
  | _ + 1, _, seen, [] => .error (.unexpectedEnd, seen)
  | more + 1, bits, seen, b :: bytes =>
    if low ≤ b && b ≤ high then followers 0x80 0xBF more (bits * 64 + b.toNat % 64) (seen + 1) bytes
    else .error (.invalidContinuation, seen)

theorem followers_length {low high more bits seen bytes bits' rest}
    (h : followers low high more bits seen bytes = .ok (bits', rest)) : rest.length ≤ bytes.length := by
  induction more generalizing low high bits seen bytes with
  | zero => cases bytes <;> simp_all [followers]
  | succ more ih =>
    cases bytes with
    | nil => simp [followers] at h
    | cons b bytes =>
      rw [followers] at h
      split at h
      · have := ih h; simp; omega
      · cases h

def decodeFrom (position : Nat) : List UInt8 → Except Error (List Char)
  | [] => .ok []
  | b :: bytes =>
    match shape? b with
    | none => .error ⟨.invalidStart, b, position, 1⟩
    | some (more, low, high) =>
      match _h : followers low high more (leadBits b more) 1 bytes with
      | .error (reason, length) => .error ⟨reason, b, position, length⟩
      | .ok (bits, rest) =>
        match decodeFrom (position + more + 1) rest with
        | .error e => .error e
        | .ok cs => .ok (Char.ofNat bits :: cs)
termination_by bytes => bytes.length
decreasing_by
  have := followers_length (by assumption)
  simp only [List.length_cons]
  omega

def decode (bytes : List UInt8) : Except Error (List Char) :=
  decodeFrom 0 bytes

end SyncSchema.Text.Utf8

namespace SyncSchema.Text

def unifyLines : List Char → List Char
  | '\r' :: '\n' :: rest => '\n' :: unifyLines rest
  | '\r' :: rest => '\n' :: unifyLines rest
  | c :: rest => c :: unifyLines rest
  | [] => []

end SyncSchema.Text
