import ZzP2p.Lib.Format

/-! Byte strings as the standard library writes them: UTF-8 text, little-endian integers and
lower-case hexadecimal digests. -/

namespace ZzP2p.Rust

open Lib.Format

abbrev Bytes := List UInt8

abbrev Digest := Vector UInt8 32

/-- `sha256` does not send these two byte strings to one digest, unless they are the same -/
def NoCollision (sha256 : Bytes → Digest) (x y : Bytes) : Prop := sha256 x = sha256 y → x = y

def utf8 (s : String) : Bytes := s.toList.flatMap String.utf8EncodeChar

def fromUtf8 (bytes : Bytes) : Option String := String.fromUTF8? bytes.toByteArray

lemma fromUtf8_utf8 (s : String) : fromUtf8 (utf8 s) = some s := by
  have hs : (utf8 s).toByteArray = s.toByteArray := String.utf8Encode_toList
  rw [fromUtf8, hs, String.fromUTF8?, dif_pos s.isValidUTF8]
  rfl

lemma utf8_append (s t : String) : utf8 (s ++ t) = utf8 s ++ utf8 t := by
  simp [utf8]

lemma utf8_injective : Function.Injective utf8 := by
  intro s t h
  have hs := fromUtf8_utf8 s
  rw [h, fromUtf8_utf8] at hs
  exact (Option.some.inj hs).symm

def leBytes (x : UInt64) : Bytes := (List.range 8).map (fun i => (x >>> (8 * i.toUInt64)).toUInt8)

lemma leBytes_eq (x : UInt64) : leBytes x = leDigits 8 x.toNat := by
  simp only [leBytes, List.range, List.range.loop, List.map_cons, List.map_nil, leDigits,
    List.cons.injEq, and_true]
  refine ⟨?_, ?_, ?_, ?_, ?_, ?_, ?_, ?_⟩
  all_goals
    apply UInt8.toNat_inj.mp
    simp [UInt64.toNat_shiftRight, Nat.shiftRight_eq_div_pow, Nat.div_div_eq_div_mul]

@[simp] lemma length_leBytes (x : UInt64) : (leBytes x).length = 8 := rfl

lemma leBytes_injective : Function.Injective leBytes := by
  intro x y h
  rw [leBytes_eq, leBytes_eq] at h
  have hv := congrArg leValue h
  rw [leValue_leDigits x.toNat_lt, leValue_leDigits y.toNat_lt] at hv
  exact UInt64.toNat_inj.mp hv

lemma int64_leBytes_injective : Function.Injective (fun x : Int64 => leBytes x.toUInt64) := by
  intro x y h
  have hu : x.toUInt64 = y.toUInt64 := leBytes_injective h
  exact Int64.toBitVec.inj (congrArg UInt64.toBitVec hu)

def hexByte (b : UInt8) : List Char := [(b.toNat / 16).digitChar, (b.toNat % 16).digitChar]

def hex (d : Digest) : String := String.ofList (d.toList.flatMap hexByte)

lemma hex_length (d : Digest) : (hex d).toList.length = 64 := by
  have hf : ∀ l : List UInt8, (l.flatMap hexByte).length = 2 * l.length := by
    intro l
    induction l with
    | nil => rfl
    | cons b l ih => simp [hexByte, ih]; omega
  simp [hex, hf]

lemma hexByte_injective : Function.Injective hexByte := by
  intro b c h
  have hdigit : ∀ d e : Fin 16, d.val.digitChar = e.val.digitChar → d = e := by decide
  have hb := b.toNat_lt
  have hc := c.toNat_lt
  obtain ⟨hhigh, hlow⟩ := List.cons.inj h
  have hdiv := hdigit ⟨b.toNat / 16, by omega⟩ ⟨c.toNat / 16, by omega⟩ hhigh
  have hmod := hdigit ⟨b.toNat % 16, by omega⟩ ⟨c.toNat % 16, by omega⟩ (List.cons.inj hlow).1
  rw [Fin.mk.injEq] at hdiv hmod
  apply UInt8.toNat_inj.mp
  omega

lemma hex_injective : Function.Injective hex := by
  intro d e h
  have hflat : ∀ {l l' : List UInt8}, l.flatMap hexByte = l'.flatMap hexByte → l = l' := by
    intro l
    induction l with
    | nil => intro l' h; cases l' <;> simp_all [hexByte]
    | cons b l ih =>
      intro l' h
      cases l' with
      | nil => simp [hexByte] at h
      | cons c l' =>
        obtain ⟨hb, hl⟩ := List.append_inj h rfl
        rw [hexByte_injective hb, ih hl]
  exact Vector.toList_inj.mp (hflat (String.ofList_inj.mp h))

end ZzP2p.Rust
