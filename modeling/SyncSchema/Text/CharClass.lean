import SyncSchema.Text.LetterTable
import SyncSchema.Text.PrintableTable

namespace SyncSchema.Text

def isLetterOrNumber (c : Char) : Bool :=
  if c.val < 128 then c.isAlphanum else letterOrNumberRanges.has c.toNat

def isDigit (c : Char) : Bool :=
  if c.val < 128 then c.isDigit else digitRanges.has c.toNat

/-- Characters with a digit value that no positional numeral is made of. -/
def loneDigitRanges : Ranges :=
  [(0xB2, 0xB3), (0xB9, 0xB9), (0x1369, 0x1371), (0x19DA, 0x19DA), (0x2070, 0x2070), (0x2074, 0x2079),
    (0x2080, 0x2089), (0x2460, 0x2468), (0x2474, 0x247C), (0x2488, 0x2490), (0x24EA, 0x24EA),
    (0x24F5, 0x24FD), (0x24FF, 0x24FF), (0x2776, 0x277E), (0x2780, 0x2788), (0x278A, 0x2792),
    (0x10A40, 0x10A43), (0x10E60, 0x10E68), (0x11052, 0x1105A), (0x1F100, 0x1F10A)]

def isDecimalDigit (c : Char) : Bool :=
  isDigit c && !loneDigitRanges.has c.toNat

def decimalDigit? (c : Char) : Option Nat :=
  if c.val < 128 then if c.isDigit then some (c.toNat - 48) else none
  else if loneDigitRanges.has c.toNat then none
  else (digitRanges.start? c.toNat).map fun first => (c.toNat - first) % 10

def isBlank (c : Char) : Bool :=
  let n := c.toNat
  if n < 128 then n == 32 || 9 ≤ n && n ≤ 13 || 28 ≤ n && n ≤ 31
  else n == 0x85 || n == 0xA0 || n == 0x1680 || 0x2000 ≤ n && n ≤ 0x200A || n == 0x2028 ||
    n == 0x2029 || n == 0x202F || n == 0x205F || n == 0x3000

def isPrintable (c : Char) : Bool :=
  if c.val < 128 then 32 ≤ c.toNat && c.toNat < 127 else !unprintableRanges.has c.toNat

theorem isLetterOrNumber_of_ascii {c : Char} (h : c.val < 128) :
    isLetterOrNumber c = c.isAlphanum := by
  simp [isLetterOrNumber, h]

theorem isDigit_of_ascii {c : Char} (h : c.val < 128) : isDigit c = c.isDigit := by
  simp [isDigit, h]

def strip (text : String) : String :=
  let rest := text.toList.dropWhile isBlank
  String.ofList (rest.reverse.dropWhile isBlank).reverse

end SyncSchema.Text
