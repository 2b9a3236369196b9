import Mathlib.Tactic

/-! Formats of byte strings. What an encoder writes, the decoder reads back, and it leaves what
follows. A value that is too large for its format has no encoding. -/

namespace ZzP2p.Lib

structure Format (α : Type) where
  encode : α → Option (List UInt8)
  decode : List UInt8 → Option (α × List UInt8)
  decode_encode : ∀ {a bytes}, encode a = some bytes → ∀ rest, decode (bytes ++ rest) = some (a, rest)

namespace Format

variable {α β : Type}

/-- decoding of a whole slice, which ignores trailing bytes -/
def decodeSlice (f : Format α) (bytes : List UInt8) : Option α := (f.decode bytes).map Prod.fst

lemma decodeSlice_encode (f : Format α) {a : α} {bytes : List UInt8} (h : f.encode a = some bytes) :
    f.decodeSlice bytes = some a := by
  have hd := f.decode_encode h []
  rw [List.append_nil] at hd
  rw [decodeSlice, hd, Option.map_some]

lemma encode_injective (f : Format α) {a b : α} {bytes : List UInt8} (ha : f.encode a = some bytes)
    (hb : f.encode b = some bytes) : a = b :=
  Option.some.inj ((f.decodeSlice_encode ha).symm.trans (f.decodeSlice_encode hb))

def Fits (f : Format α) (a : α) (n : ℕ) : Prop := ∃ bytes, f.encode a = some bytes ∧ bytes.length ≤ n

def byte : Format UInt8 where
  encode b := some [b]
  decode
    | [] => none
    | b :: rest => some (b, rest)
  decode_encode h rest := by
    obtain rfl := Option.some.inj h
    rfl

lemma fits_byte (b : UInt8) : byte.Fits b 1 := ⟨[b], rfl, le_rfl⟩

def seq (f : Format α) (g : Format β) : Format (α × β) where
  encode p := (f.encode p.1).bind (fun x => (g.encode p.2).map (fun y => x ++ y))
  decode bytes := (f.decode bytes).bind (fun p => (g.decode p.2).map (fun q => ((p.1, q.1), q.2)))
  decode_encode h rest := by
    obtain ⟨x, hx, hxy⟩ := Option.bind_eq_some_iff.mp h
    obtain ⟨y, hy, rfl⟩ := Option.map_eq_some_iff.mp hxy
    rw [List.append_assoc, f.decode_encode hx, Option.bind_some, g.decode_encode hy, Option.map_some]

lemma Fits.seq {f : Format α} {g : Format β} {a : α} {b : β} {m n : ℕ} (ha : f.Fits a m) (hb : g.Fits b n) :
    (f.seq g).Fits (a, b) (m + n) := by
  obtain ⟨x, hx, hm⟩ := ha
  obtain ⟨y, hy, hn⟩ := hb
  refine ⟨x ++ y, ?_, ?_⟩
  · simp only [Format.seq, hx, hy, Option.bind_some, Option.map_some]
  · rw [List.length_append]
    omega

/-- The values of `β` are written as the values of `α` that stand for them. -/
def refine (f : Format α) (read : α → Option β) (repr : β → α) (h : ∀ b, read (repr b) = some b) :
    Format β where
  encode b := f.encode (repr b)
  decode bytes := (f.decode bytes).bind (fun p => (read p.1).map (fun b => (b, p.2)))
  decode_encode he rest := by
    rw [f.decode_encode he, Option.bind_some, h, Option.map_some]

def map (f : Format α) (read : α → β) (repr : β → α) (h : ∀ b, read (repr b) = b) : Format β :=
  f.refine (fun a => some (read a)) repr (fun b => congrArg some (h b))

def enum [DecidableEq β] (tag : Format ℕ) (variants : List β) (h : ∀ b, b ∈ variants) : Format β :=
  tag.refine (fun i => variants[i]?) (fun b => variants.idxOf b) (fun b => List.getElem?_idxOf (h b))

def counted (len : Format ℕ) : Format (List UInt8) where
  encode bytes := (len.encode bytes.length).map (fun x => x ++ bytes)
  decode bytes := (len.decode bytes).bind (fun p =>
    if p.1 ≤ p.2.length then some (p.2.take p.1, p.2.drop p.1) else none)
  decode_encode h rest := by
    obtain ⟨x, hx, rfl⟩ := Option.map_eq_some_iff.mp h
    rw [List.append_assoc, len.decode_encode hx, Option.bind_some, if_pos (by simp), List.take_left,
      List.drop_left]

lemma Fits.counted {len : Format ℕ} {bytes : List UInt8} {n : ℕ} (h : len.Fits bytes.length n) :
    (counted len).Fits bytes (n + bytes.length) := by
  obtain ⟨x, hx, hn⟩ := h
  refine ⟨x ++ bytes, ?_, ?_⟩
  · simp only [Format.counted, hx, Option.map_some]
  · rw [List.length_append]
    omega

def leDigits : ℕ → ℕ → List UInt8
  | 0, _ => []
  | k + 1, n => UInt8.ofNat n :: leDigits k (n / 256)

def leValue : List UInt8 → ℕ
  | [] => 0
  | b :: bytes => b.toNat + 256 * leValue bytes

lemma length_leDigits (k n : ℕ) : (leDigits k n).length = k := by
  induction k generalizing n with
  | zero => rfl
  | succ k ih => rw [leDigits, List.length_cons, ih]

lemma leValue_leDigits {k n : ℕ} (h : n < 256 ^ k) : leValue (leDigits k n) = n := by
  induction k generalizing n with
  | zero =>
    have hn : n = 0 := by simpa using h
    rw [hn]
    rfl
  | succ k ih =>
    have hdiv : n / 256 < 256 ^ k := by
      rw [pow_succ] at h
      exact Nat.div_lt_of_lt_mul (by rwa [mul_comm] at h)
    rw [leDigits, leValue, ih hdiv, UInt8.toNat_ofNat']
    omega

def littleEndian (k : ℕ) : Format ℕ where
  encode n := if n < 256 ^ k then some (leDigits k n) else none
  decode bytes := if k ≤ bytes.length then some (leValue (bytes.take k), bytes.drop k) else none
  decode_encode {n bytes} h rest := by
    obtain ⟨hn, hbytes⟩ := Option.ite_none_right_eq_some.mp h
    obtain rfl := Option.some.inj hbytes
    have hlength := length_leDigits k n
    rw [if_pos (by rw [List.length_append, hlength]; omega), List.take_left' hlength, List.drop_left' hlength,
      leValue_leDigits hn]

lemma littleEndian_encode {k n : ℕ} (h : n < 256 ^ k) : (littleEndian k).encode n = some (leDigits k n) :=
  if_pos h

end Format

end ZzP2p.Lib
