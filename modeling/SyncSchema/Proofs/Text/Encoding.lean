import Mathlib.Data.List.Basic
import Mathlib.Data.List.TakeWhile
import SyncSchema.Text.Point

namespace SyncSchema.Text

theorem dropWhile_isChar_iff {text : Points} : text.dropWhile Point.isChar = [] ↔ isEncodable text = true := by
  rw [List.dropWhile_eq_nil_iff, isEncodable, List.all_eq_true]

theorem encode_eq_error_iff {text : Points} : (∃ e, encode text = .error e) ↔ isEncodable text = false := by
  rw [encode, ← Bool.not_eq_true, ← dropWhile_isChar_iff]
  cases text.dropWhile Point.isChar <;> simp

end SyncSchema.Text
