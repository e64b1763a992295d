import Lineage.Dot.Output
import Mathlib.Data.List.Lex
import Mathlib.Data.String.Basic
import Mathlib.Tactic.SplitIfs

/-! # The bytes of a text

    A text is stored and sent as the bytes of its characters, one after the
    other (`bytesOf_eq_flatMap`), so joining texts joins their bytes.

    Texts are compared by code points here and by bytes elsewhere, which comes
    to the same (`bytesOf_lt_iff`).  The bytes of a character are its code point
    in base 64, with a first byte that also tells how many follow
    (`utf8EncodeChar_eq`): of two code points with as many bytes the first
    digit that differs decides (`digitBytes_lt`), and of others the first byte
    does (`leading_lt_or`), so what follows a character never decides. -/

namespace Lineage

theorem bytesOf_eq_flatMap (text : String) :
    bytesOf text = text.toList.flatMap String.utf8EncodeChar := by
  have hencode : text.toUTF8 = (text.toList.flatMap String.utf8EncodeChar).toByteArray := by
    show text.toByteArray = text.toList.utf8Encode
    rw [String.utf8Encode_toList]
  rw [bytesOf, hencode, List.data_toByteArray]

@[simp] theorem bytesOf_append (s t : String) : bytesOf (s ++ t) = bytesOf s ++ bytesOf t := by
  rw [bytesOf_eq_flatMap, String.toList_append, List.flatMap_append, ← bytesOf_eq_flatMap,
    ← bytesOf_eq_flatMap]

theorem length_bytesOf (text : String) : (bytesOf text).length = text.utf8ByteSize := rfl

/-! ## The bytes of a character -/

/-- The bytes after the first one: `k` digits of base 64, the lowest last. -/
def digitBytes (v : Nat) : Nat → List UInt8
  | 0 => []
  | k + 1 => digitBytes (v / 64) k ++ [UInt8.ofNat (v % 64 + 128)]

/-- How many bytes follow the first one of a code point. -/
def following (v : Nat) : Nat :=
  if v ≤ 0x7F then 0 else if v ≤ 0x7FF then 1 else if v ≤ 0xFFFF then 2 else 3

/-- The first byte of a code point: what the digits leave over, and a mark for
    how many they are. -/
def leading (v : Nat) : Nat := [0, 192, 224, 240].getD (following v) 0 + v / 64 ^ following v

/-- Code points are below this. -/
def codePointLimit : Nat := 0x110000

theorem toNat_val_lt (c : Char) : c.val.toNat < codePointLimit := by
  have hvalid := c.valid
  simp only [UInt32.isValidChar, Nat.isValidChar] at hvalid
  rw [codePointLimit]
  omega

theorem utf8EncodeChar_eq (c : Char) : String.utf8EncodeChar c =
    UInt8.ofNat (leading c.val.toNat) :: digitBytes c.val.toNat (following c.val.toNat) := by
  have hc := toNat_val_lt c
  simp only [String.utf8EncodeChar]
  generalize c.val.toNat = v at hc
  rw [codePointLimit] at hc
  rw [leading, following]
  split_ifs
  · simp [digitBytes]
  · have hmark : v / 64 % 32 + 192 = 192 + v / 64 := by omega
    simp [digitBytes, hmark]
  · have hmark : v / 4096 % 16 + 224 = 224 + v / 4096 := by omega
    simp [digitBytes, hmark]
  · have hmark : v / 262144 % 8 + 240 = 240 + v / 262144 := by omega
    simp [digitBytes, hmark, Nat.div_div_eq_div_mul]

theorem leading_lt_256 {v : Nat} (h : v < codePointLimit) : leading v < 256 := by
  rw [codePointLimit] at h
  rw [leading, following]
  split_ifs <;> simp <;> omega

/-- A greater code point has a greater first byte or as many digits. -/
theorem leading_lt_or {v w : Nat} (h : v < w) (hw : w < codePointLimit) :
    leading v < leading w ∨ following v = following w := by
  rw [codePointLimit] at hw
  simp only [leading, following]
  split_ifs <;> simp <;> omega

/-! ## The order of bytes -/

/-- Bytes that hold numbers are compared as these numbers, first byte first. -/
theorem ofNat_cons_lt {m n : Nat} (hm : m < 256) (hn : n < 256) {s t : List UInt8} :
    UInt8.ofNat m :: s < UInt8.ofNat n :: t ↔ m < n ∨ m = n ∧ s < t := by
  rw [List.cons_lt_cons_iff, UInt8.lt_iff_toNat_lt, ← UInt8.toNat_inj,
    UInt8.toNat_ofNat_of_lt' hm, UInt8.toNat_ofNat_of_lt' hn]

/-- Of two numbers the smaller one has the smaller digits, if what the digits
    leave over does not decide. -/
theorem digitBytes_lt {v w : Nat} (h : v < w) (k : Nat) (s t : List UInt8) :
    v / 64 ^ k < w / 64 ^ k ∨
      v / 64 ^ k = w / 64 ^ k ∧ digitBytes v k ++ s < digitBytes w k ++ t := by
  induction k generalizing v w s t with
  | zero => exact Or.inl (by simpa using h)
  | succ k ih =>
      have hdiv : ∀ n : Nat, n / 64 ^ (k + 1) = n / 64 / 64 ^ k := by
        intro n
        rw [Nat.pow_succ', Nat.div_div_eq_div_mul]
      rw [hdiv, hdiv, digitBytes, digitBytes, List.append_assoc, List.append_assoc]
      -- the lowest digit decides when all others are equal
      have hdigit : v / 64 < w / 64 ∨ v / 64 = w / 64 ∧ v % 64 < w % 64 := by omega
      rcases hdigit with hlt | ⟨heq, hlt⟩
      · exact ih hlt _ _
      · rw [heq]
        refine Or.inr ⟨rfl, List.append_left_lt ?_⟩
        exact (ofNat_cons_lt (by omega) (by omega)).mpr (Or.inl (by omega))

/-- The bytes of a smaller character are smaller, whatever follows. -/
theorem utf8EncodeChar_append_lt {c d : Char} (h : c < d) (s t : List UInt8) :
    String.utf8EncodeChar c ++ s < String.utf8EncodeChar d ++ t := by
  have hlt : c.val.toNat < d.val.toNat := h
  have hc := leading_lt_256 (toNat_val_lt c)
  have hd := leading_lt_256 (toNat_val_lt d)
  rw [utf8EncodeChar_eq, utf8EncodeChar_eq, List.cons_append, List.cons_append, ofNat_cons_lt hc hd]
  rcases leading_lt_or hlt (toNat_val_lt d) with hlead | hsame
  · exact Or.inl hlead
  · rw [leading, leading, hsame]
    rcases digitBytes_lt hlt (following d.val.toNat) s t with hover | ⟨hover, hdigits⟩
    · exact Or.inl (by omega)
    · exact Or.inr ⟨by rw [hover], hdigits⟩

theorem flatMap_utf8EncodeChar_lt {cs ds : List Char} (h : cs < ds) :
    cs.flatMap String.utf8EncodeChar < ds.flatMap String.utf8EncodeChar := by
  induction cs generalizing ds with
  | nil =>
      cases ds with
      | nil => exact absurd h (List.not_lt_nil [])
      | cons d ds =>
          rw [List.flatMap_nil, List.flatMap_cons, utf8EncodeChar_eq]
          exact List.nil_lt_cons _ _
  | cons c cs ih =>
      cases ds with
      | nil => exact absurd h (List.not_lt_nil _)
      | cons d ds =>
          rw [List.flatMap_cons, List.flatMap_cons]
          rcases List.cons_lt_cons_iff.mp h with hcd | ⟨rfl, hrest⟩
          · exact utf8EncodeChar_append_lt hcd _ _
          · exact List.append_left_lt (ih hrest)

theorem bytesOf_lt {s t : String} (h : s < t) : bytesOf s < bytesOf t := by
  rw [bytesOf_eq_flatMap, bytesOf_eq_flatMap]
  exact flatMap_utf8EncodeChar_lt (String.lt_iff_toList_lt.mp h)

/-- **Texts sort by their bytes as they do by their code points.** -/
theorem bytesOf_lt_iff {s t : String} : bytesOf s < bytesOf t ↔ s < t := by
  refine ⟨fun h => ?_, bytesOf_lt⟩
  rcases lt_trichotomy s t with hst | rfl | hts
  · exact hst
  · exact absurd h (List.lt_irrefl _)
  · exact absurd h (List.lt_asymm (bytesOf_lt hts))

end Lineage
