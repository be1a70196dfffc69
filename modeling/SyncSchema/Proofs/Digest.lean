import SyncSchema.Digest
import SyncSchema.Proofs.Json.Compact

namespace SyncSchema

namespace Text

theorem toList_loop (bytes : ByteArray) (i : Nat) (seen : List UInt8) :
    ByteArray.toList.loop bytes i seen = seen.reverse ++ bytes.data.toList.drop i := by
  induction i, seen using ByteArray.toList.loop.induct bytes with
  | case1 i seen inside ih =>
    have bound : i < bytes.data.toList.length := inside
    have byte : bytes.get! i = bytes.data.toList[i] := getElem!_pos bytes.data i inside
    rw [ByteArray.toList.loop, if_pos inside, ih, byte, List.drop_eq_getElem_cons bound, List.reverse_cons,
      List.append_assoc, List.singleton_append]
  | case2 i seen outside =>
    have bound : bytes.data.toList.length ≤ i := by simpa using outside
    rw [ByteArray.toList.loop, if_neg outside, List.drop_eq_nil_of_le bound, List.append_nil]

theorem toList_bytes (bytes : ByteArray) : bytes.toList = bytes.data.toList := by
  rw [ByteArray.toList, toList_loop, List.reverse_nil, List.nil_append, List.drop_zero]

theorem utf8_inj {s t : String} : s.toUTF8.toList = t.toUTF8.toList ↔ s = t := by
  rw [toList_bytes, toList_bytes, Array.toList_inj, ← ByteArray.ext_iff, String.toUTF8_eq_toByteArray,
    String.toUTF8_eq_toByteArray, String.toByteArray_inj]

end Text

namespace Digest

def digits (word : UInt32) : List Char :=
  (List.range 8).map fun i => Nat.digitChar ((word.toNat >>> (4 * (7 - i))) % 16)

theorem hex_eq (words : List UInt32) : hex words = String.ofList (words.flatMap digits) := rfl

theorem length_digits (word : UInt32) : (digits word).length = 8 := by
  rw [digits, List.length_map, List.length_range]

theorem mod_eq_of_nibbles {x y : Nat} (n : Nat) (same : ∀ i < n, (x >>> (4 * i)) % 16 = (y >>> (4 * i)) % 16) :
    x % 16 ^ n = y % 16 ^ n := by
  induction n with
  | zero => rw [Nat.pow_zero, Nat.mod_one, Nat.mod_one]
  | succ n ih =>
    have last := same n n.lt_succ_self
    rw [Nat.shiftRight_eq_div_pow, Nat.shiftRight_eq_div_pow, Nat.pow_mul] at last
    rw [Nat.mod_pow_succ, Nat.mod_pow_succ, ih fun i bound => same i (Nat.lt_succ_of_lt bound)]
    exact congrArg (y % 16 ^ n + 16 ^ n * ·) last

theorem digits_injective {v w : UInt32} (same : digits v = digits w) : v = w := by
  have nibbles : ∀ i < 8, (v.toNat >>> (4 * i)) % 16 = (w.toNat >>> (4 * i)) % 16 := by
    intro i bound
    simp only [digits, List.map_inj_left, List.mem_range] at same
    have value := congrArg Text.Quoted.hexValue (same (7 - i) (by omega))
    rwa [Text.Quoted.hexValue_digitChar _ (Nat.mod_lt _ (by decide)),
      Text.Quoted.hexValue_digitChar _ (Nat.mod_lt _ (by decide)), Nat.sub_sub_self (by omega)] at value
  have size : 2 ^ 32 = 16 ^ 8 := by decide
  have low := mod_eq_of_nibbles 8 nibbles
  rw [← size, Nat.mod_eq_of_lt v.toNat_lt, Nat.mod_eq_of_lt w.toNat_lt] at low
  exact UInt32.toNat_inj.1 low

theorem flatMap_digits_injective {u v : List UInt32} (length : u.length = v.length)
    (same : u.flatMap digits = v.flatMap digits) : u = v := by
  induction u generalizing v with
  | nil => exact (List.length_eq_zero_iff.1 length.symm).symm
  | cons word u ih =>
    cases v with
    | nil => cases length
    | cons word' v =>
      rw [List.flatMap_cons, List.flatMap_cons] at same
      obtain ⟨here, behind⟩ := List.append_inj same (by rw [length_digits, length_digits])
      rw [digits_injective here, ih (Nat.succ.inj length) behind]

theorem length_sha256 (bytes : List UInt8) : (sha256 bytes).length = 8 := rfl

def Collide (message message' : List UInt8) : Prop :=
  message ≠ message' ∧ sha256 message = sha256 message'

theorem hex_eq_iff {s t : String} :
    hex (sha256 s.toUTF8.toList) = hex (sha256 t.toUTF8.toList) ↔
      s = t ∨ Collide s.toUTF8.toList t.toUTF8.toList := by
  constructor
  · intro same
    rw [hex_eq, hex_eq, String.ofList_inj] at same
    by_cases text : s = t
    · exact .inl text
    · exact .inr ⟨Text.utf8_inj.not.2 text, flatMap_digits_injective (by rw [length_sha256, length_sha256]) same⟩
  · rintro (rfl | ⟨-, same⟩)
    · rfl
    · rw [same]

end Digest

end SyncSchema
