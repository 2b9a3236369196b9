import ZzP2p.Rust.NetParser

/-! The readers of numbers, IPv4 addresses and IPv6 groups on the text that the library writes for
them. -/

namespace ZzP2p.Rust

open Lib.Numerals

variable {rest cs : List Char}

lemma readNumber_toDigits {radix : ℕ} (hr₁ : 1 < radix) (hr : radix ≤ 16) {maxDigits : Option ℕ}
    {allowZeroPrefix : Bool} {bound n : ℕ} (hn : n < bound)
    (hmax : ∀ max ∈ maxDigits, (Nat.toDigits radix n).length ≤ max) (hs : Stops radix rest) :
    readNumber radix maxDigits allowZeroPrefix bound (Nat.toDigits radix n ++ rest) =
      some (n, rest) := by
  simp only [readNumber, takeWhile_toDigits hr₁ hr n hs, dropWhile_toDigits hr₁ hr n hs,
    value_toDigits hr₁ hr]
  apply if_neg
  rintro (h | ⟨max, hm, h⟩ | ⟨-, h, hl⟩ | h)
  · exact Nat.toDigits_ne_nil h
  · exact absurd (hmax max hm) (Nat.not_le.mpr h)
  · obtain rfl := toDigits_head_zero hr₁ hr h
    simp at hl
  · omega

@[simp] lemma readGivenChar_cons (c : Char) (rest : List Char) :
    readGivenChar c (c :: rest) = some rest := if_pos rfl

lemma readOctet_text (o : UInt8) (hs : Stops 10 rest) :
    readOctet (decimal o.toNat ++ rest) = some (o, rest) := by
  have hlen : (Nat.toDigits 10 o.toNat).length ≤ 3 := by
    apply (Nat.length_toDigits_le_iff (by decide) (by decide)).mpr
    exact lt_of_lt_of_le o.toNat_lt (by decide)
  rw [readOctet, decimal, readNumber_toDigits (by decide) (by decide) o.toNat_lt (by simpa) hs]
  simp

lemma readGroup_text (g : UInt16) (hs : Stops 16 rest) :
    readGroup (lowerHex g.toNat ++ rest) = some (g, rest) := by
  have hlen : (Nat.toDigits 16 g.toNat).length ≤ 4 := by
    apply (Nat.length_toDigits_le_iff (by decide) (by decide)).mpr
    exact lt_of_lt_of_le g.toNat_lt (by decide)
  rw [readGroup, lowerHex, readNumber_toDigits (by decide) (by decide) g.toNat_lt (by simpa) hs]
  simp

lemma readPort_text (p : UInt16) (hs : Stops 10 rest) :
    readPort (':' :: decimal p.toNat ++ rest) = some (p, rest) := by
  have hn : readNumber 10 none true (2 ^ 16) (decimal p.toNat ++ rest) = some (p.toNat, rest) :=
    readNumber_toDigits (by decide) (by decide) p.toNat_lt (by simp) hs
  simp [readPort, hn, -Nat.reducePow]

lemma readScopeId_text (i : UInt32) (hs : Stops 10 rest) :
    readScopeId ('%' :: decimal i.toNat ++ rest) = some (i, rest) := by
  have hn : readNumber 10 none true (2 ^ 32) (decimal i.toNat ++ rest) = some (i.toNat, rest) :=
    readNumber_toDigits (by decide) (by decide) i.toNat_lt (by simp) hs
  simp [readScopeId, hn, -Nat.reducePow]

lemma stops_dot : Stops 10 ('.' :: rest) := by
  rw [stops_cons]
  decide

lemma readIpv4Addr_text (ip : Ipv4Addr) (hs : Stops 10 rest) :
    readIpv4Addr (ip.text ++ rest) = some (ip, rest) := by
  simp only [Ipv4Addr.text, List.append_assoc, List.cons_append]
  simp [readIpv4Addr, readOctet_text _ stops_dot, readOctet_text _ hs]

lemma readNumber_of_stops {radix : ℕ} {maxDigits : Option ℕ} {allowZeroPrefix : Bool} {bound : ℕ}
    (hs : Stops radix cs) : readNumber radix maxDigits allowZeroPrefix bound cs = none := by
  have ht : cs.takeWhile (isDigit radix) = [] := by
    cases cs with
    | nil => rfl
    | cons c cs => simp [(stops_cons radix c cs).mp hs]
  simp [readNumber, ht]

lemma readIpv4Addr_of_stops (hs : Stops 10 cs) : readIpv4Addr cs = none := by
  simp [readIpv4Addr, readOctet, readNumber_of_stops hs]

lemma readGroup_of_stops (hs : Stops 16 cs) : readGroup cs = none := by
  simp [readGroup, readNumber_of_stops hs]

lemma readIpv4Addr_of_no_dot (hd : '.' ∉ cs) : readIpv4Addr cs = none := by
  have hoctet : ∀ {o : UInt8} {rest : List Char}, readOctet cs = some (o, rest) → '.' ∉ rest := by
    intro o rest h hm
    simp only [readOctet, readNumber] at h
    split at h
    · simp at h
    · simp only [Option.map_some, Option.some.injEq, Prod.mk.injEq] at h
      exact hd (List.dropWhile_suffix (isDigit 10) |>.subset (h.2 ▸ hm))
  cases ho : readOctet cs with
  | none => simp [readIpv4Addr, ho]
  | some p =>
    obtain ⟨o, rest⟩ := p
    have hr : readGivenChar '.' rest = none := by
      cases rest with
      | nil => rfl
      | cons c rest => exact if_neg (fun he => hoctet ho (by simp [he]))
    simp [readIpv4Addr, ho, hr]

lemma readSeparator_ipv4_of_no_dot (first : Bool) (hd : '.' ∉ cs) :
    readSeparator first readIpv4Addr cs = none := by
  cases first with
  | true => exact readIpv4Addr_of_no_dot hd
  | false =>
    cases cs with
    | nil => rfl
    | cons c cs =>
      rw [List.mem_cons, not_or] at hd
      simp only [readSeparator, readGivenChar, Bool.false_eq_true, if_false]
      split
      · exact readIpv4Addr_of_no_dot hd.2
      · rfl

lemma readSeparator_group_of_stops (first : Bool) (hs : Stops 16 cs)
    (hc : ∀ cs', cs = ':' :: cs' → Stops 16 cs') : readSeparator first readGroup cs = none := by
  cases first with
  | true => exact readGroup_of_stops hs
  | false =>
    cases cs with
    | nil => rfl
    | cons c cs =>
      simp only [readSeparator, readGivenChar, Bool.false_eq_true, if_false]
      split
      · next he => exact readGroup_of_stops (hc cs (by rw [he]))
      · rfl

lemma notMem_toDigits {radix : ℕ} (hr₁ : 1 < radix) (hr : radix ≤ 16) {c : Char}
    (hc : isDigit radix c = false) (n : ℕ) : c ∉ Nat.toDigits radix n := by
  intro h
  simp [isDigit_of_mem_toDigits hr₁ hr h] at hc

lemma notMem_groupsText {c : Char} (hc : isDigit 16 c = false) (hs : c ≠ ':') (first : Bool)
    (gs : List UInt16) : c ∉ groupsText first gs := by
  induction gs generalizing first with
  | nil => simp [groupsText]
  | cons g gs ih =>
    simp only [groupsText, List.mem_append, not_or]
    refine ⟨⟨?_, notMem_toDigits (by decide) (by decide) hc _⟩, ih false⟩
    cases first <;> simp [hs]

lemma dot_notMem_groupsText (first : Bool) (gs : List UInt16) : '.' ∉ groupsText first gs :=
  notMem_groupsText (by decide) (by decide) first gs

lemma stops_groupsText (gs : List UInt16) (hs : Stops 16 rest) :
    Stops 16 (groupsText false gs ++ rest) := by
  cases gs with
  | nil => exact hs
  | cons g gs => exact (stops_cons _ _ _).mpr (by decide)

lemma readGroups_ipv4 {slots : ℕ} {first : Bool} {v4 : Ipv4Addr}
    (h : readSeparator first readIpv4Addr cs = some (v4, rest)) :
    readGroups (slots + 2) first cs =
      ([fromBeBytes v4.a v4.b, fromBeBytes v4.c v4.d], true, rest) := by
  simp [readGroups, h]

lemma readGroups_group {slots : ℕ} {first ipv4 : Bool} {g : UInt16} {gs : List UInt16}
    {cs' : List Char} (h4 : readSeparator first readIpv4Addr cs = none)
    (hg : readSeparator first readGroup cs = some (g, cs'))
    (hgs : readGroups slots false cs' = (gs, ipv4, rest)) :
    readGroups (slots + 1) first cs = (g :: gs, ipv4, rest) := by
  rw [readGroups, h4, ite_self]
  simp [hg, hgs]

lemma readGroups_end {slots : ℕ} {first : Bool} (h4 : readSeparator first readIpv4Addr cs = none)
    (hg : readSeparator first readGroup cs = none) :
    readGroups slots first cs = ([], false, cs) := by
  cases slots with
  | zero => rfl
  | succ slots =>
    rw [readGroups, h4, ite_self]
    simp [hg]

lemma readGroups_text (gs : List UInt16) {slots : ℕ} (first : Bool) (hlen : gs.length ≤ slots)
    (hd : '.' ∉ rest) (hs : Stops 16 rest)
    (he : gs.length < slots → ∀ f, readSeparator f readGroup rest = none) :
    readGroups slots first (groupsText first gs ++ rest) = (gs, false, rest) := by
  induction gs generalizing slots first with
  | nil =>
    cases slots with
    | zero => rfl
    | succ slots =>
      exact readGroups_end (readSeparator_ipv4_of_no_dot first hd) (he (by simp) first)
  | cons g gs ih =>
    obtain ⟨slots, rfl⟩ : ∃ k, slots = k + 1 := ⟨slots - 1, by rw [List.length_cons] at hlen; omega⟩
    rw [List.length_cons] at hlen he
    have hdot : '.' ∉ groupsText first (g :: gs) ++ rest := by
      rw [List.mem_append, not_or]
      exact ⟨dot_notMem_groupsText first (g :: gs), hd⟩
    have hg : readSeparator first readGroup (groupsText first (g :: gs) ++ rest) =
        some (g, groupsText false gs ++ rest) := by
      have hr := readGroup_text g (stops_groupsText gs hs)
      cases first <;> simpa [readSeparator, groupsText] using hr
    exact readGroups_group (readSeparator_ipv4_of_no_dot first hdot) hg
      (ih false (by omega) (fun h => he (by omega)))

lemma readIpv6Addr_full {ip : Ipv6Addr} {ipv4 : Bool}
    (h : readGroups 8 true cs = (ip.segments, ipv4, rest)) : readIpv6Addr cs = some (ip, rest) := by
  simp [readIpv6Addr, h, ip.length_eq, Ipv6Addr.ofList]

lemma readIpv6Addr_compressed {ip : Ipv6Addr} {head tail : List UInt16} {cs' : List Char}
    {ipv4 : Bool} (hh : readGroups 8 true cs = (head, false, ':' :: ':' :: cs'))
    (ht : readGroups (7 - head.length) true cs' = (tail, ipv4, rest)) (hl : head.length < 8)
    (hs : ip.segments = head ++ List.replicate (8 - head.length - tail.length) 0 ++ tail) :
    readIpv6Addr cs = some (ip, rest) := by
  have hip : Ipv6Addr.ofList (head ++ List.replicate (8 - head.length - tail.length) 0 ++ tail) =
      some ip := by
    rw [← hs]
    exact dif_pos ip.length_eq
  rw [List.append_assoc] at hip
  simp only [readIpv6Addr, hh, Nat.ne_of_lt hl, if_false, Bool.false_eq_true]
  simp [ht, hip]

end ZzP2p.Rust
