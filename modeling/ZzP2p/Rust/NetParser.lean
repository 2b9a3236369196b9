import ZzP2p.Lib.Numerals
import ZzP2p.Rust.Net

/-! The standard library's parser of socket addresses, as readers that return what they leave
unread. -/

namespace ZzP2p.Rust

open Lib.Numerals

def readNumber (radix : ℕ) (maxDigits : Option ℕ) (allowZeroPrefix : Bool) (bound : ℕ)
    (cs : List Char) : Option (ℕ × List Char) :=
  let digits := cs.takeWhile (isDigit radix)
  if digits = [] ∨ (∃ max ∈ maxDigits, max < digits.length) ∨
      (allowZeroPrefix = false ∧ digits.head? = some '0' ∧ 1 < digits.length) ∨
      bound ≤ value radix digits then none
  else some (value radix digits, cs.dropWhile (isDigit radix))

def readGivenChar (target : Char) : List Char → Option (List Char)
  | c :: rest => if c = target then some rest else none
  | [] => none

def readOctet (cs : List Char) : Option (UInt8 × List Char) :=
  (readNumber 10 (some 3) false (2 ^ 8) cs).map (fun (n, rest) => (UInt8.ofNat n, rest))

def readIpv4Addr (cs : List Char) : Option (Ipv4Addr × List Char) := do
  let (a, cs) ← readOctet cs
  let (b, cs) ← (readGivenChar '.' cs).bind readOctet
  let (c, cs) ← (readGivenChar '.' cs).bind readOctet
  let (d, cs) ← (readGivenChar '.' cs).bind readOctet
  some (⟨a, b, c, d⟩, cs)

def readGroup (cs : List Char) : Option (UInt16 × List Char) :=
  (readNumber 16 (some 4) true (2 ^ 16) cs).map (fun (n, rest) => (UInt16.ofNat n, rest))

def readSeparator {α : Type} (first : Bool) (inner : List Char → Option (α × List Char))
    (cs : List Char) : Option (α × List Char) :=
  if first then inner cs else (readGivenChar ':' cs).bind inner

/-- The groups read into `slots` slots, whether they end in an embedded IPv4 address, and the rest. -/
def readGroups : ℕ → Bool → List Char → List UInt16 × Bool × List Char
  | 0, _, cs => ([], false, cs)
  | slots + 1, first, cs =>
    match (if 0 < slots then readSeparator first readIpv4Addr cs else none) with
    | some (v4, rest) => ([fromBeBytes v4.a v4.b, fromBeBytes v4.c v4.d], true, rest)
    | none =>
      match readSeparator first readGroup cs with
      | some (g, rest) =>
        let (gs, ipv4, rest) := readGroups slots false rest
        (g :: gs, ipv4, rest)
      | none => ([], false, cs)

def Ipv6Addr.ofList (l : List UInt16) : Option Ipv6Addr :=
  if h : l.length = 8 then some ⟨l, h⟩ else none

def readIpv6Addr (cs : List Char) : Option (Ipv6Addr × List Char) := do
  let (head, headIpv4, cs) := readGroups 8 true cs
  if head.length = 8 then (Ipv6Addr.ofList head).map (fun ip => (ip, cs))
  else if headIpv4 then none
  else
    let cs ← (readGivenChar ':' cs).bind (readGivenChar ':')
    let (tail, _, cs) := readGroups (7 - head.length) true cs
    (Ipv6Addr.ofList (head ++ List.replicate (8 - head.length - tail.length) 0 ++ tail)).map
      (fun ip => (ip, cs))

def readIpAddr (cs : List Char) : Option (IpAddr × List Char) :=
  ((readIpv4Addr cs).map (fun (ip, rest) => (.v4 ip, rest))).or
    ((readIpv6Addr cs).map (fun (ip, rest) => (.v6 ip, rest)))

def readPort (cs : List Char) : Option (UInt16 × List Char) := do
  let cs ← readGivenChar ':' cs
  let (n, cs) ← readNumber 10 none true (2 ^ 16) cs
  some (UInt16.ofNat n, cs)

def readScopeId (cs : List Char) : Option (UInt32 × List Char) := do
  let cs ← readGivenChar '%' cs
  let (n, cs) ← readNumber 10 none true (2 ^ 32) cs
  some (UInt32.ofNat n, cs)

def readSocketAddrV4 (cs : List Char) : Option (SocketAddr × List Char) := do
  let (ip, cs) ← readIpv4Addr cs
  let (port, cs) ← readPort cs
  some (.v4 ip port, cs)

def readSocketAddrV6 (cs : List Char) : Option (SocketAddr × List Char) := do
  let cs ← readGivenChar '[' cs
  let (ip, cs) ← readIpv6Addr cs
  let (scopeId, cs) := (readScopeId cs).getD (0, cs)
  let cs ← readGivenChar ']' cs
  let (port, cs) ← readPort cs
  some (.v6 ip port 0 scopeId, cs)

def readSocketAddr (cs : List Char) : Option (SocketAddr × List Char) :=
  (readSocketAddrV4 cs).or (readSocketAddrV6 cs)

def parseWith {α : Type} (read : List Char → Option (α × List Char)) (s : String) : Option α :=
  match read s.toList with
  | some (x, []) => some x
  | _ => none

def SocketAddr.parse (s : String) : Option SocketAddr := parseWith readSocketAddr s

def IpAddr.parse (s : String) : Option IpAddr := parseWith readIpAddr s

section Colon

variable {cs rest : List Char}

lemma isDigit_colon (radix : ℕ) : isDigit radix ':' = false := by
  have hnone : toDigit radix ':' = none := rfl
  rw [isDigit, hnone]
  rfl

lemma readNumber_colon {radix bound n : ℕ} {maxDigits : Option ℕ} {allowZeroPrefix : Bool}
    (h : readNumber radix maxDigits allowZeroPrefix bound cs = some (n, rest)) :
    ':' ∈ cs ↔ ':' ∈ rest := by
  rw [readNumber] at h
  split at h
  · cases h
  · obtain ⟨-, rfl⟩ := Prod.mk.inj (Option.some.inj h)
    have hno : ':' ∉ cs.takeWhile (isDigit radix) := by
      intro hm
      have hd := List.all_eq_true.mp List.all_takeWhile ':' hm
      rw [isDigit_colon] at hd
      cases hd
    nth_rewrite 1 [← List.takeWhile_append_dropWhile (p := isDigit radix) (l := cs)]
    rw [List.mem_append, or_iff_right hno]

lemma readOctet_colon {o : UInt8} (h : readOctet cs = some (o, rest)) : ':' ∈ cs ↔ ':' ∈ rest := by
  obtain ⟨⟨n, rest'⟩, hn, he⟩ := Option.map_eq_some_iff.mp h
  obtain ⟨-, rfl⟩ := Prod.mk.inj he
  exact readNumber_colon hn

lemma readGivenChar_eq_some {c : Char} (h : readGivenChar c cs = some rest) : cs = c :: rest := by
  cases cs with
  | nil => cases h
  | cons d cs =>
    rw [readGivenChar] at h
    split at h
    · next hd => rw [hd, Option.some.inj h]
    · cases h

lemma readDotOctet_colon {o : UInt8} (h : (readGivenChar '.' cs).bind readOctet = some (o, rest)) :
    ':' ∈ cs ↔ ':' ∈ rest := by
  obtain ⟨cs', hdot, ho⟩ := Option.bind_eq_some_iff.mp h
  rw [readGivenChar_eq_some hdot, ← readOctet_colon ho]
  simp

lemma readIpv4Addr_colon {ip : Ipv4Addr} (h : readIpv4Addr cs = some (ip, rest)) :
    ':' ∈ cs ↔ ':' ∈ rest := by
  simp only [readIpv4Addr, Option.bind_eq_bind, Option.bind_eq_some_iff, Prod.exists, Option.some.injEq,
    Prod.mk.injEq] at h
  obtain ⟨a, cs₁, ha, b, cs₂, hb, c, cs₃, hc, d, cs₄, hd, -, rfl⟩ := h
  have hb' : (readGivenChar '.' cs₁).bind readOctet = some (b, cs₂) := Option.bind_eq_some_iff.mpr hb
  have hc' : (readGivenChar '.' cs₂).bind readOctet = some (c, cs₃) := Option.bind_eq_some_iff.mpr hc
  have hd' : (readGivenChar '.' cs₃).bind readOctet = some (d, cs₄) := Option.bind_eq_some_iff.mpr hd
  rw [readOctet_colon ha, readDotOctet_colon hb', readDotOctet_colon hc', readDotOctet_colon hd']

lemma readGivenChar_no_colon (h : ':' ∉ cs) : readGivenChar ':' cs = none := by
  by_contra hne
  obtain ⟨rest, hs⟩ := Option.ne_none_iff_exists'.mp hne
  exact h (by simp [readGivenChar_eq_some hs])

lemma readGroups_no_colon (h : ':' ∉ cs) (slots : ℕ) : readGroups slots false cs = ([], false, cs) := by
  cases slots with
  | zero => rfl
  | succ slots => simp [readGroups, readSeparator, readGivenChar_no_colon h]

/-- Without a colon there is at most one group or one embedded IPv4 address. -/
lemma readGroups_first_no_colon (h : ':' ∉ cs) (slots : ℕ) :
    (readGroups slots true cs).1.length ≤ 2 ∧
      ((readGroups slots true cs).2.1 = true ∨ ':' ∉ (readGroups slots true cs).2.2) := by
  cases slots with
  | zero => exact ⟨Nat.zero_le _, Or.inr h⟩
  | succ slots =>
    rw [readGroups]
    split
    · exact ⟨le_rfl, Or.inl rfl⟩
    · split
      · next g rest hg =>
        obtain ⟨⟨n, rest'⟩, hn, he⟩ := Option.map_eq_some_iff.mp hg
        obtain ⟨-, rfl⟩ := Prod.mk.inj he
        have hrest : ':' ∉ rest' := fun hm => h ((readNumber_colon hn).mpr hm)
        rw [readGroups_no_colon hrest]
        exact ⟨by simp, Or.inr hrest⟩
      · exact ⟨Nat.zero_le _, Or.inr h⟩

lemma readIpv6Addr_no_colon (h : ':' ∉ cs) : readIpv6Addr cs = none := by
  obtain ⟨hlen, hrest⟩ := readGroups_first_no_colon h 8
  rw [readIpv6Addr]
  generalize readGroups 8 true cs = groups at hlen hrest
  obtain ⟨head, headIpv4, rest⟩ := groups
  simp only at hlen hrest
  have hne : head.length ≠ 8 := by omega
  cases headIpv4 with
  | true => simp [hne]
  | false =>
    have hno : ':' ∉ rest := hrest.resolve_left nofun
    simp [hne, readGivenChar_no_colon hno]

lemma IpAddr.colon_iff {s : String} {ip : IpAddr} (h : IpAddr.parse s = some ip) :
    ':' ∉ s.toList ↔ ∃ v4, ip = .v4 v4 := by
  rw [IpAddr.parse, parseWith] at h
  split at h
  · next x hread =>
    obtain rfl := Option.some.inj h
    rw [readIpAddr] at hread
    cases h4 : readIpv4Addr s.toList with
    | some r =>
      obtain ⟨v4, rest⟩ := r
      simp only [h4, Option.map_some, Option.some_or, Option.some.injEq, Prod.mk.injEq] at hread
      obtain ⟨rfl, rfl⟩ := hread
      simp [readIpv4Addr_colon h4]
    | none =>
      simp only [h4, Option.map_none, Option.none_or] at hread
      obtain ⟨⟨v6, rest⟩, h6, he⟩ := Option.map_eq_some_iff.mp hread
      obtain ⟨rfl, rfl⟩ := Prod.mk.inj he
      refine iff_of_false (fun hno => ?_) nofun
      rw [readIpv6Addr_no_colon hno] at h6
      cases h6
  · cases h

end Colon

end ZzP2p.Rust
