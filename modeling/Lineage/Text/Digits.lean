/-! # Numbers as digits

    `digits` writes a number in decimal digits and `ofDigits` reads decimal
    digits.  Sizes, which are counts and limits, are numbers below 2^64.
    Hexadecimal digits may be of either case when they are read. -/

namespace Lineage.Text

/-- Sizes are below this. -/
def sizeLimit : Nat := 0x10000000000000000

/-- The value of a decimal digit. -/
def digitValue (c : Char) : Nat := c.toNat - 48

/-- The decimal digits of a number. -/
def digits (n : Nat) : List Char :=
  if n < 10 then [Char.ofNat (48 + n)] else digits (n / 10) ++ [Char.ofNat (48 + n % 10)]

/-- The number that decimal digits write. -/
def ofDigits (cs : List Char) : Nat := cs.foldl (fun n c => 10 * n + digitValue c) 0

/-- The value of a hexadecimal digit. -/
def hexValue? (c : Char) : Option Nat :=
  if c.isDigit then some (digitValue c)
  else if 'a' ≤ c && c ≤ 'f' then some (c.toNat - 87)
  else if 'A' ≤ c && c ≤ 'F' then some (c.toNat - 55)
  else none

/-- A hexadecimal digit in lower case. -/
def hexDigit (n : Nat) : Char := if n < 10 then Char.ofNat (48 + n) else Char.ofNat (87 + n)

/-- The number that hexadecimal digits write; other characters count as 0. -/
def ofHex (cs : List Char) : Nat := cs.foldl (fun n c => 16 * n + (hexValue? c).getD 0) 0

theorem digitValue_ofNat {d : Nat} (h : d < 10) : digitValue (Char.ofNat (48 + d)) = d := by
  have hv : (48 + d).isValidChar := Or.inl (by omega)
  have hnat : (Char.ofNat (48 + d)).toNat = 48 + d := by
    rw [Char.ofNat, dif_pos hv]
    rfl
  rw [digitValue, hnat, Nat.add_sub_cancel_left]

end Lineage.Text
