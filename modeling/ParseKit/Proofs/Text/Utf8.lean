import ParseKit.Text.Utf8

/-!
UTF-8 forth and back: decoding undoes encoding, whatever bytes follow. Main statements: `decode_encode_append`, and
that one encoded text begins another exactly where the texts themselves do.
-/

namespace ParseKit

namespace Utf8

theorem toNat_byte {n : Nat} (small : n < 256) : (UInt8.ofNat n).toNat = n := by
  rw [UInt8.toNat_ofNat']
  exact Nat.mod_eq_of_lt small

theorem continuation_fits {low high count value taken n : Nat} (rest : List UInt8) (small : n < 256)
    (least : low ≤ n) (most : n ≤ high) :
    continuation low high (count + 1) value taken (.ofNat n :: rest) =
      continuation 0x80 0xBF count (value * 0x40 + (n - 0x80)) (taken + 1) rest := by
  rw [continuation, toNat_byte small, if_pos ⟨least, most⟩]

theorem lead_two {n : Nat} (least : 0x80 ≤ n) (most : n < 0x800) :
    lead? (0xC0 + n / 64) = some (1, 0x80, 0xBF, n / 64) := by
  have h1 : ¬ 0xC0 + n / 64 < 0x80 := by omega
  have h2 : ¬ 0xC0 + n / 64 < 0xC2 := by omega
  have h3 : 0xC0 + n / 64 < 0xE0 := by omega
  rw [lead?, if_neg h1, if_neg h2, if_pos h3, Nat.add_sub_cancel_left]

theorem lead_three {n : Nat} (least : 0x800 ≤ n) (most : n < 0x10000) (whole : n < 0xD800 ∨ 0xDFFF < n) :
    ∃ low high, lead? (0xE0 + n / 4096) = some (2, low, high, n / 4096) ∧
      low ≤ 0x80 + n / 64 % 64 ∧ 0x80 + n / 64 % 64 ≤ high := by
  have h1 : ¬ 0xE0 + n / 4096 < 0x80 := by omega
  have h2 : ¬ 0xE0 + n / 4096 < 0xC2 := by omega
  have h3 : ¬ 0xE0 + n / 4096 < 0xE0 := by omega
  rw [lead?, if_neg h1, if_neg h2, if_neg h3]
  -- the first byte narrows the bounds of the second one below the shortest form and before the surrogates
  have cases : n / 4096 = 0 ∨ n / 4096 = 13 ∨ (n / 4096 ≠ 0 ∧ n / 4096 ≠ 13) := by omega
  rcases cases with same | same | ⟨notFirst, notLast⟩
  · refine ⟨0xA0, 0xBF, by simp [same], by omega, by omega⟩
  · refine ⟨0x80, 0x9F, by simp [same], by omega, by omega⟩
  · have h4 : ¬ 0xE0 + n / 4096 = 0xE0 := by omega
    have h5 : ¬ 0xE0 + n / 4096 = 0xED := by omega
    have h6 : 0xE0 + n / 4096 < 0xF0 := by omega
    rw [if_neg h4, if_neg h5, if_pos h6, Nat.add_sub_cancel_left]
    exact ⟨0x80, 0xBF, rfl, by omega, by omega⟩

theorem lead_four {n : Nat} (least : 0x10000 ≤ n) (most : n < 0x110000) :
    ∃ low high, lead? (0xF0 + n / 262144) = some (3, low, high, n / 262144) ∧
      low ≤ 0x80 + n / 4096 % 64 ∧ 0x80 + n / 4096 % 64 ≤ high := by
  have h1 : ¬ 0xF0 + n / 262144 < 0x80 := by omega
  have h2 : ¬ 0xF0 + n / 262144 < 0xC2 := by omega
  have h3 : ¬ 0xF0 + n / 262144 < 0xE0 := by omega
  have h4 : ¬ 0xF0 + n / 262144 = 0xE0 := by omega
  have h5 : ¬ 0xF0 + n / 262144 = 0xED := by omega
  have h6 : ¬ 0xF0 + n / 262144 < 0xF0 := by omega
  rw [lead?, if_neg h1, if_neg h2, if_neg h3, if_neg h4, if_neg h5, if_neg h6]
  have cases : n / 262144 = 0 ∨ n / 262144 = 4 ∨ (n / 262144 ≠ 0 ∧ n / 262144 < 4) := by omega
  rcases cases with same | same | ⟨notFirst, notLast⟩
  · refine ⟨0x90, 0xBF, by simp [same], by omega, by omega⟩
  · refine ⟨0x80, 0x8F, by simp [same], by omega, by omega⟩
  · have h7 : ¬ 0xF0 + n / 262144 = 0xF0 := by omega
    have h8 : 0xF0 + n / 262144 < 0xF4 := by omega
    rw [if_neg h7, if_pos h8, Nat.add_sub_cancel_left]
    exact ⟨0x80, 0xBF, rfl, by omega, by omega⟩

theorem item_one {n : Nat} (most : n < 0x80) (rest : List UInt8) :
    item (.ofNat n) rest = .char (Char.ofNat n) 1 := by
  have small : n < 256 := by omega
  rw [item, toNat_byte small, lead?, if_pos most]
  rfl

theorem item_two {n : Nat} (least : 0x80 ≤ n) (most : n < 0x800) (rest : List UInt8) :
    item (.ofNat (0xC0 + n / 64)) (.ofNat (0x80 + n % 64) :: rest) = .char (Char.ofNat n) 2 := by
  have small : 0xC0 + n / 64 < 256 := by omega
  have value : n / 64 * 0x40 + (0x80 + n % 64 - 0x80) = n := by omega
  rw [item, toNat_byte small, lead_two least most]
  simp only
  rw [continuation_fits rest (by omega) (by omega) (by omega), value]
  rfl

theorem item_three {n : Nat} (least : 0x800 ≤ n) (most : n < 0x10000) (whole : n < 0xD800 ∨ 0xDFFF < n)
    (rest : List UInt8) :
    item (.ofNat (0xE0 + n / 4096)) (.ofNat (0x80 + n / 64 % 64) :: .ofNat (0x80 + n % 64) :: rest) =
      .char (Char.ofNat n) 3 := by
  obtain ⟨low, high, lead, fits, fits'⟩ := lead_three least most whole
  have small : 0xE0 + n / 4096 < 256 := by omega
  have value : (n / 4096 * 0x40 + (0x80 + n / 64 % 64 - 0x80)) * 0x40 + (0x80 + n % 64 - 0x80) = n := by omega
  rw [item, toNat_byte small, lead]
  simp only
  rw [continuation_fits _ (by omega) fits fits', continuation_fits _ (by omega) (by omega) (by omega), value]
  rfl

theorem item_four {n : Nat} (least : 0x10000 ≤ n) (most : n < 0x110000) (rest : List UInt8) :
    item (.ofNat (0xF0 + n / 262144))
        (.ofNat (0x80 + n / 4096 % 64) :: .ofNat (0x80 + n / 64 % 64) :: .ofNat (0x80 + n % 64) :: rest) =
      .char (Char.ofNat n) 4 := by
  obtain ⟨low, high, lead, fits, fits'⟩ := lead_four least most
  have small : 0xF0 + n / 262144 < 256 := by omega
  have value : ((n / 262144 * 0x40 + (0x80 + n / 4096 % 64 - 0x80)) * 0x40 + (0x80 + n / 64 % 64 - 0x80)) * 0x40 +
      (0x80 + n % 64 - 0x80) = n := by omega
  rw [item, toNat_byte small, lead]
  simp only
  rw [continuation_fits _ (by omega) fits fits', continuation_fits _ (by omega) (by omega) (by omega),
    continuation_fits _ (by omega) (by omega) (by omega), value]
  rfl

theorem item_encodeChar (c : Char) (rest : List UInt8) :
    ∃ b bs, encodeChar c = b :: bs ∧ item b (bs ++ rest) = .char c (bs.length + 1) := by
  have whole : c.toNat < 0xD800 ∨ (0xDFFF < c.toNat ∧ c.toNat < 0x110000) := c.valid
  have same : Char.ofNat c.toNat = c := Char.ofNat_toNat c
  have sizes : c.toNat < 0x80 ∨ (0x80 ≤ c.toNat ∧ c.toNat < 0x800) ∨ (0x800 ≤ c.toNat ∧ c.toNat < 0x10000) ∨
      0x10000 ≤ c.toNat := by omega
  rcases sizes with most | ⟨least, most⟩ | ⟨least, most⟩ | least
  · have coded : encodeChar c = [.ofNat c.toNat] := by simp [encodeChar, most]
    have reads := item_one most rest
    rw [same] at reads
    exact ⟨_, _, coded, reads⟩
  · have h1 : ¬ c.toNat < 0x80 := by omega
    have coded : encodeChar c = [.ofNat (0xC0 + c.toNat / 64), .ofNat (0x80 + c.toNat % 64)] := by
      simp [encodeChar, h1, most]
    have reads := item_two least most rest
    rw [same] at reads
    exact ⟨_, _, coded, reads⟩
  · have h1 : ¬ c.toNat < 0x80 := by omega
    have h2 : ¬ c.toNat < 0x800 := by omega
    have coded : encodeChar c =
        [.ofNat (0xE0 + c.toNat / 4096), .ofNat (0x80 + c.toNat / 64 % 64), .ofNat (0x80 + c.toNat % 64)] := by
      simp [encodeChar, h1, h2, most]
    have reads := item_three least most (by omega) rest
    rw [same] at reads
    exact ⟨_, _, coded, reads⟩
  · have h1 : ¬ c.toNat < 0x80 := by omega
    have h2 : ¬ c.toNat < 0x800 := by omega
    have h3 : ¬ c.toNat < 0x10000 := by omega
    have coded : encodeChar c =
        [.ofNat (0xF0 + c.toNat / 262144), .ofNat (0x80 + c.toNat / 4096 % 64), .ofNat (0x80 + c.toNat / 64 % 64),
          .ofNat (0x80 + c.toNat % 64)] := by
      simp [encodeChar, h1, h2, h3]
    have reads := item_four least (by omega) rest
    rw [same] at reads
    exact ⟨_, _, coded, reads⟩

theorem decodeFrom_skip (skipped rest : List UInt8) : decodeFrom skipped.length (skipped ++ rest) = decodeFrom 0 rest := by
  induction skipped with
  | nil => rfl
  | cons b skipped ih => rw [List.length_cons, List.cons_append, decodeFrom, ih]

theorem encode_cons (c : Char) (s : Text) : encode (c :: s) = encodeChar c ++ encode s := List.flatMap_cons

theorem encode_append (s t : Text) : encode (s ++ t) = encode s ++ encode t := List.flatMap_append

theorem encodeChar_ne_nil (c : Char) : encodeChar c ≠ [] := by
  obtain ⟨b, bs, same, -⟩ := item_encodeChar c []
  simp [same]

theorem encode_eq_nil {s : Text} : encode s = [] ↔ s = [] := by
  cases s with
  | nil => simp [encode]
  | cons c s => simp [encode_cons, encodeChar_ne_nil]

theorem decode_encode_append (s : Text) (rest : List UInt8) : decode (encode s ++ rest) = s ++ decode rest := by
  induction s with
  | nil => rfl
  | cons c s ih =>
    obtain ⟨b, bs, same, reads⟩ := item_encodeChar c (encode s ++ rest)
    rw [encode_cons, same, List.append_assoc, List.cons_append, decode, decodeFrom, reads]
    simp only [Nat.add_sub_cancel]
    rw [decodeFrom_skip, ← decode, ih, List.cons_append]

@[simp]
theorem decode_encode (s : Text) : decode (encode s) = s := by
  have undone := decode_encode_append s []
  rw [List.append_nil] at undone
  rw [undone]
  exact List.append_nil s

/-- An encoded text only begins another one between characters. -/
theorem encode_prefix_iff {s t : Text} : encode s <+: encode t ↔ s <+: t := by
  constructor
  · rintro ⟨rest, joined⟩
    refine ⟨decode rest, ?_⟩
    rw [← decode_encode_append, joined, decode_encode]
  · rintro ⟨rest, rfl⟩
    rw [encode_append]
    exact List.prefix_append _ _

end Utf8

end ParseKit
