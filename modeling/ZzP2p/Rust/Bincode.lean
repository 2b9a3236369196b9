import ZzP2p.Lib.Format
import ZzP2p.Rust.Bytes

/-! The standard configuration of bincode 2. An integer up to 250 is its own byte; a larger one is
a marker and as many little-endian bytes as the marker says. Strings and byte vectors follow their
length, and an enumeration is the position of its variant. -/

namespace ZzP2p.Rust.Bincode

open Lib

/-- the least of the widths of 2, 4, 8 and 16 bytes that holds `n` -/
def width (levels n : ℕ) : Option ℕ := (List.range' 1 levels).find? (fun i => n < 256 ^ 2 ^ i)

def encodeVarint (levels n : ℕ) : Option Bytes :=
  if n ≤ 250 then some [UInt8.ofNat n]
  else (width levels n).bind (fun i =>
    ((Format.littleEndian (2 ^ i)).encode n).map (fun bytes => UInt8.ofNat (250 + i) :: bytes))

def decodeVarint (levels : ℕ) : Bytes → Option (ℕ × Bytes)
  | [] => none
  | b :: rest =>
    if b.toNat ≤ 250 then some (b.toNat, rest)
    else if b.toNat ≤ 250 + levels then (Format.littleEndian (2 ^ (b.toNat - 250))).decode rest
    else none

lemma width_eq_some {levels n i : ℕ} (h : width levels n = some i) : 1 ≤ i ∧ i ≤ levels := by
  have hmem := List.mem_of_find?_eq_some h
  rw [List.mem_range'_1] at hmem
  omega

lemma decodeVarint_marker {levels i : ℕ} (hl : levels ≤ 5) (hi : 1 ≤ i ∧ i ≤ levels) (bytes : Bytes) :
    decodeVarint levels (UInt8.ofNat (250 + i) :: bytes) = (Format.littleEndian (2 ^ i)).decode bytes := by
  have hb : (UInt8.ofNat (250 + i)).toNat = 250 + i := by
    rw [UInt8.toNat_ofNat']
    omega
  rw [decodeVarint, hb, if_neg (by omega), if_pos (by omega), Nat.add_sub_cancel_left]

def varint (levels : ℕ) (hl : levels ≤ 5) : Format ℕ where
  encode := encodeVarint levels
  decode := decodeVarint levels
  decode_encode {n bytes} h rest := by
    rw [encodeVarint] at h
    split at h
    · next hn =>
      obtain rfl := Option.some.inj h
      have hb : (UInt8.ofNat n).toNat = n := by
        rw [UInt8.toNat_ofNat']
        omega
      rw [List.singleton_append, decodeVarint, hb, if_pos hn]
    · obtain ⟨i, hi, hbytes⟩ := Option.bind_eq_some_iff.mp h
      obtain ⟨digits, hdigits, rfl⟩ := Option.map_eq_some_iff.mp hbytes
      rw [List.cons_append, decodeVarint_marker hl (width_eq_some hi),
        (Format.littleEndian (2 ^ i)).decode_encode hdigits]

lemma fits_varint {levels n : ℕ} (hl : levels ≤ 5) (h1 : 1 ≤ levels) (hn : n < 256 ^ 2 ^ levels) :
    (varint levels hl).Fits n (1 + 2 ^ levels) := by
  rw [Format.Fits, varint]
  by_cases hsmall : n ≤ 250
  · refine ⟨[UInt8.ofNat n], if_pos hsmall, ?_⟩
    exact Nat.le_add_right 1 _
  · have hw : (width levels n).isSome := by
      rw [width, List.find?_isSome]
      exact ⟨levels, List.mem_range'_1.mpr (by omega), by simpa using hn⟩
    obtain ⟨i, hi⟩ := Option.isSome_iff_exists.mp hw
    have hlt : n < 256 ^ 2 ^ i := by simpa using List.find?_some hi
    have hle : 2 ^ i ≤ 2 ^ levels := Nat.pow_le_pow_right (by omega) (width_eq_some hi).2
    refine ⟨UInt8.ofNat (250 + i) :: Format.leDigits (2 ^ i) n, ?_, ?_⟩
    · change encodeVarint levels n = _
      rw [encodeVarint, if_neg hsmall, hi, Option.bind_some, Format.littleEndian_encode hlt, Option.map_some]
    · rw [List.length_cons, Format.length_leDigits]
      omega

example : encodeVarint 3 300 = some [251, 44, 1] := rfl

def u8 : Format UInt8 := Format.byte

def u32 : Format UInt32 :=
  (varint 2 (by omega)).map UInt32.ofNat UInt32.toNat (fun _ => UInt32.ofNat_toNat)

def u64 : Format UInt64 :=
  (varint 3 (by omega)).map UInt64.ofNat UInt64.toNat (fun _ => UInt64.ofNat_toNat)

def u128 : Format (BitVec 128) :=
  (varint 4 (by omega)).map (BitVec.ofNat 128) BitVec.toNat (by simp)

def vec : Format Bytes := Format.counted (varint 3 (by omega))

def string : Format String := vec.refine fromUtf8 utf8 fromUtf8_utf8

def enum {α : Type} [DecidableEq α] (variants : List α) (h : ∀ a, a ∈ variants) : Format α :=
  Format.enum (varint 2 (by omega)) variants h

lemma fits_u32 (x : UInt32) : u32.Fits x 5 := fits_varint (by omega) (by omega) x.toNat_lt

lemma fits_u64 (x : UInt64) : u64.Fits x 9 := fits_varint (by omega) (by omega) x.toNat_lt

lemma fits_vec (bytes : Bytes) (h : bytes.length < 2 ^ 64) : vec.Fits bytes (9 + bytes.length) :=
  (fits_varint (by omega) (by omega) h).counted

lemma fits_string (s : String) (h : (utf8 s).length < 2 ^ 64) : string.Fits s (9 + (utf8 s).length) :=
  fits_vec (utf8 s) h

lemma fits_enum {α : Type} [DecidableEq α] {variants : List α} {h : ∀ a, a ∈ variants} (a : α)
    (hlength : variants.length ≤ 2 ^ 32) : (enum variants h).Fits a 5 :=
  fits_varint (by omega) (by omega) ((List.idxOf_lt_length_of_mem (h a)).trans_le hlength)

end ZzP2p.Rust.Bincode
