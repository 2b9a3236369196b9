import ZzP2p.Rust.NetGroups

/-! The parser reads back the socket addresses that the library writes. -/

namespace ZzP2p.Rust

open Lib.Numerals

variable {rest cs : List Char}

def ZeroRun (segments : List UInt16) (s : Span) : Prop :=
  ∃ l r, segments = l ++ List.replicate s.len 0 ++ r ∧ l.length = s.start

lemma ZeroRun.append {segments : List UInt16} {s : Span} (h : ZeroRun segments s)
    (ss : List UInt16) : ZeroRun (segments ++ ss) s := by
  obtain ⟨l, r, rfl, hl⟩ := h
  exact ⟨l, r ++ ss, by simp, hl⟩

lemma zeroes_spec (ss : List UInt16) {pre : List UInt16} {current longest : Span}
    (hl : ZeroRun pre longest) (hc : ∃ l, pre = l ++ List.replicate current.len 0 ∧
      (current.len = 0 ∨ l.length = current.start)) :
    ZeroRun (pre ++ ss) (zeroes ss pre.length current longest) := by
  induction ss generalizing pre current longest with
  | nil => simpa [zeroes] using hl
  | cons s ss ih =>
    have hpre : pre ++ s :: ss = (pre ++ [s]) ++ ss := by simp
    have hlen : pre.length + 1 = (pre ++ [s]).length := by simp
    simp only [zeroes]
    rw [hpre, hlen]
    split
    · next hs =>
      subst hs
      obtain ⟨l, rfl, hcur⟩ := hc
      have hrun : (l ++ List.replicate current.len 0) ++ [(0 : UInt16)] =
          l ++ List.replicate (current.len + 1) 0 := by
        simp [List.replicate_succ']
      have hstart : l.length = if current.len = 0 then (l ++ List.replicate current.len
          (0 : UInt16)).length else current.start := by
        split
        · next h0 => simp [h0]
        · next h0 => exact hcur.resolve_left h0
      apply ih
      · split
        · exact ⟨l, [], by simpa using hrun, hstart⟩
        · exact hl.append [0]
      · exact ⟨l, hrun, Or.inr hstart⟩
    · exact ih (hl.append [s]) ⟨pre ++ [s], by simp, Or.inl rfl⟩

lemma zeroRun_zeroes (segments : List UInt16) : ZeroRun segments (zeroes segments 0 ⟨0, 0⟩ ⟨0, 0⟩) := by
  have hl : ZeroRun [] ⟨0, 0⟩ := ⟨[], [], rfl, rfl⟩
  exact zeroes_spec segments hl ⟨[], rfl, Or.inl rfl⟩

/-- what may follow an address inside the brackets of a socket address -/
structure Closes (rest : List Char) : Prop where
  no_dot : '.' ∉ rest
  head : ∃ c cs, rest = c :: cs ∧ (c = ']' ∨ c = '%')

lemma Closes.stops (h : Closes rest) {radix : ℕ} : Stops radix rest := by
  obtain ⟨c, cs, rfl, rfl | rfl⟩ := h.head
  · rw [stops_cons]
    rfl
  · rw [stops_cons]
    rfl

lemma Closes.no_group (h : Closes rest) (first : Bool) : readSeparator first readGroup rest = none := by
  apply readSeparator_group_of_stops first h.stops
  obtain ⟨c, cs, rfl, rfl | rfl⟩ := h.head
  · intro cs' he
    simp at he
  · intro cs' he
    simp at he

lemma stops_colon {radix : ℕ} : Stops radix (':' :: rest) := by
  rw [stops_cons]
  rfl

lemma readIpv6Addr_mapped {ip : Ipv6Addr} {v4 : Ipv4Addr} (hm : toIpv4Mapped ip.segments = some v4)
    (hr : Closes rest) : readIpv6Addr ("::ffff:".toList ++ (v4.text ++ rest)) = some (ip, rest) := by
  have hhead : ∀ cs, readGroups 8 true (':' :: ':' :: cs) = ([], false, ':' :: ':' :: cs) := by
    intro cs
    have hs : ∀ radix, Stops radix (':' :: ':' :: cs) := fun _ => stops_colon
    exact readGroups_end (readIpv4Addr_of_stops (hs 10)) (readGroup_of_stops (hs 16))
  have hno : readIpv4Addr ("ffff:".toList ++ (v4.text ++ rest)) = none :=
    readIpv4Addr_of_stops ((stops_cons 10 'f' _).mpr (by decide))
  have hf : readGroup ("ffff:".toList ++ (v4.text ++ rest)) = some (0xffff, ':' :: (v4.text ++ rest)) :=
    readGroup_text 0xffff stops_colon
  have hv : readSeparator false readIpv4Addr (':' :: (v4.text ++ rest)) = some (v4, rest) :=
    readIpv4Addr_text v4 hr.stops
  refine readIpv6Addr_compressed (hhead _) (readGroups_group hno hf (readGroups_ipv4 hv)) (by simp) ?_
  simp only [toIpv4Mapped] at hm
  split at hm
  · next x y hseg =>
    obtain rfl := Option.some.inj hm
    simp [hseg, fromBeBytes_octets, List.replicate_succ]
  · cases hm

lemma ZeroRun.parts {segments : List UInt16} {s : Span} (h : ZeroRun segments s) :
    segments = segments.take s.start ++ List.replicate s.len 0 ++ segments.drop (s.start + s.len) := by
  obtain ⟨l, r, hseg, hl⟩ := h
  have htake : segments.take s.start = l := by
    rw [hseg, ← hl, List.append_assoc]
    exact List.take_left
  have hdrop : segments.drop (s.start + s.len) = r := by
    have hpre : (l ++ List.replicate s.len (0 : UInt16)).length = s.start + s.len := by simp [hl]
    rw [hseg, ← hpre]
    exact List.drop_left
  rw [htake, hdrop]
  exact hseg

lemma readIpv6Addr_zeroRun {ip : Ipv6Addr} {l r : List UInt16} {n : ℕ} (hn : 1 < n)
    (hseg : ip.segments = l ++ List.replicate n 0 ++ r) (hr : Closes rest) :
    readIpv6Addr (groupsText true l ++ ("::".toList ++ (groupsText true r ++ rest))) = some (ip, rest) := by
  have hlen : l.length + n + r.length = 8 := by
    rw [← ip.length_eq, hseg]
    simp only [List.length_append, List.length_replicate]
  have hdot : '.' ∉ groupsText true r ++ rest := by
    rw [List.mem_append, not_or]
    exact ⟨dot_notMem_groupsText true r, hr.no_dot⟩
  have hhead : readGroups 8 true (groupsText true l ++ ("::".toList ++ (groupsText true r ++ rest))) =
      (l, false, ':' :: ':' :: (groupsText true r ++ rest)) := by
    apply readGroups_text l true (by omega)
    · simpa using hdot
    · exact stops_colon
    · intro _ f
      refine readSeparator_group_of_stops f stops_colon (fun cs' he => ?_)
      rw [← (List.cons.inj he).2]
      exact stops_colon
  have htail : readGroups (7 - l.length) true (groupsText true r ++ rest) = (r, false, rest) :=
    readGroups_text r true (by omega) hr.no_dot hr.stops (fun _ => hr.no_group)
  refine readIpv6Addr_compressed hhead htail (by omega) ?_
  rw [show 8 - l.length - r.length = n by omega]
  exact hseg

lemma readIpv6Addr_text (ip : Ipv6Addr) (hr : Closes rest) :
    readIpv6Addr (ip.text ++ rest) = some (ip, rest) := by
  cases hm : toIpv4Mapped ip.segments with
  | some v4 =>
    simp only [Ipv6Addr.text, hm, List.append_assoc]
    exact readIpv6Addr_mapped hm hr
  | none =>
    simp only [Ipv6Addr.text, hm]
    split
    · next hz =>
      rw [List.append_assoc, List.append_assoc]
      exact readIpv6Addr_zeroRun hz (zeroRun_zeroes ip.segments).parts hr
    · exact readIpv6Addr_full (readGroups_text ip.segments true (by simp [ip.length_eq])
        hr.no_dot hr.stops (fun _ => hr.no_group))

/-- the flow label is not written, so it is read back as zero -/
def SocketAddr.canonical : SocketAddr → SocketAddr
  | .v4 ip port => .v4 ip port
  | .v6 ip port _ scopeId => .v6 ip port 0 scopeId

lemma dot_notMem_decimal (n : ℕ) : '.' ∉ decimal n :=
  notMem_toDigits (by decide) (by decide) (by decide) n

lemma readSocketAddrV4_of_no_ipv4 (h : readIpv4Addr cs = none) : readSocketAddrV4 cs = none := by
  simp [readSocketAddrV4, h]

lemma readSocketAddrV6_text (ip : Ipv6Addr) (port : UInt16) (flowinfo scopeId : UInt32) :
    readSocketAddrV6 (SocketAddr.v6 ip port flowinfo scopeId).text =
      some (.v6 ip port 0 scopeId, []) := by
  have hport : readPort (':' :: decimal port.toNat) = some (port, []) := by
    simpa using readPort_text port (stops_nil 10)
  have hclose : ∀ cs, '.' ∉ cs → Closes (']' :: cs) := fun cs hd => ⟨by simpa using hd, _, _, rfl, Or.inl rfl⟩
  simp only [SocketAddr.text]
  split
  · next hz =>
    have hr := readIpv6Addr_text ip (hclose (':' :: decimal port.toNat)
      (by simpa using dot_notMem_decimal _))
    have hscope : readScopeId (']' :: ':' :: decimal port.toNat) = none := by
      simp [readScopeId, readGivenChar]
    simp [readSocketAddrV6, hr, hscope, hport, hz]
  · have hdot : '.' ∉ '%' :: (decimal scopeId.toNat ++ (']' :: ':' :: decimal port.toNat)) := by
      simp [dot_notMem_decimal]
    have hr := readIpv6Addr_text ip ⟨hdot, _, _, rfl, Or.inr rfl⟩
    have hscope : readScopeId ('%' :: (decimal scopeId.toNat ++ (']' :: ':' :: decimal port.toNat))) =
        some (scopeId, ']' :: ':' :: decimal port.toNat) :=
      readScopeId_text scopeId ((stops_cons 10 ']' _).mpr (by decide))
    simp [readSocketAddrV6, hr, hscope, hport]

lemma parse_display (s : SocketAddr) : SocketAddr.parse s.display = some s.canonical := by
  rw [SocketAddr.parse, parseWith, SocketAddr.display, String.toList_ofList]
  cases s with
  | v4 ip port =>
    have hip : readIpv4Addr (ip.text ++ ':' :: decimal port.toNat) = some (ip, ':' :: decimal port.toNat) :=
      readIpv4Addr_text ip stops_colon
    have hport : readPort (':' :: decimal port.toNat) = some (port, []) := by
      simpa using readPort_text port (stops_nil 10)
    simp [readSocketAddr, readSocketAddrV4, SocketAddr.text, hip, hport, SocketAddr.canonical]
  | v6 ip port flowinfo scopeId =>
    have hno : readSocketAddrV4 (SocketAddr.v6 ip port flowinfo scopeId).text = none := by
      apply readSocketAddrV4_of_no_ipv4
      apply readIpv4Addr_of_stops
      simp only [SocketAddr.text]
      split <;> exact (stops_cons 10 '[' _).mpr (by decide)
    simp [readSocketAddr, hno, readSocketAddrV6_text, SocketAddr.canonical]

lemma canonical_ip_port (s : SocketAddr) : s.canonical.ip = s.ip ∧ s.canonical.port = s.port := by
  cases s <;> exact ⟨rfl, rfl⟩

/-- An IPv6 address and a port without brackets are not a socket address. -/
lemma readSocketAddr_unbracketed (ip : Ipv6Addr) (hd : '.' ∉ rest) :
    readSocketAddr (ip.text ++ ':' :: rest) = none := by
  have hv4 : readIpv4Addr (ip.text ++ ':' :: rest) = none := by
    cases hm : toIpv4Mapped ip.segments with
    | some v4 =>
      simp only [Ipv6Addr.text, hm]
      exact readIpv4Addr_of_stops stops_colon
    | none =>
      apply readIpv4Addr_of_no_dot
      simp only [Ipv6Addr.text, hm]
      split <;> simp [dot_notMem_groupsText, hd]
  have hv6 : readGivenChar '[' (ip.text ++ ':' :: rest) = none := by
    have hhead : ∀ cs : List Char, '[' ∉ cs → readGivenChar '[' (cs ++ ':' :: rest) = none := by
      intro cs hcs
      cases cs with
      | nil => rfl
      | cons c cs => exact if_neg (fun he => hcs (by simp [he]))
    cases hm : toIpv4Mapped ip.segments with
    | some v4 =>
      simp only [Ipv6Addr.text, hm]
      rfl
    | none =>
      apply hhead
      simp only [Ipv6Addr.text, hm]
      split <;> simp [notMem_groupsText (by decide : isDigit 16 '[' = false) (by decide)]
  simp [readSocketAddr, readSocketAddrV4_of_no_ipv4 hv4, readSocketAddrV6, hv6]

lemma parse_hostPort (ip : IpAddr) (port : UInt16) :
    SocketAddr.parse (hostPort ip.display port) =
      match ip with
      | .v4 _ => some (SocketAddr.new ip port)
      | .v6 _ => none := by
  have htext : (hostPort ip.display port).toList = ip.text ++ ':' :: decimal port.toNat := by
    simp [hostPort, IpAddr.display, decimal]
  cases ip with
  | v4 ip =>
    have hs : hostPort (IpAddr.v4 ip).display port = (SocketAddr.v4 ip port).display := by
      rw [← String.toList_inj, htext, SocketAddr.display, String.toList_ofList]
      rfl
    rw [hs]
    exact parse_display (.v4 ip port)
  | v6 ip =>
    have hn := readSocketAddr_unbracketed ip (dot_notMem_decimal port.toNat)
    simp only [SocketAddr.parse, parseWith, htext, IpAddr.text, hn]

lemma parse_display_v4 (ip : Ipv4Addr) : IpAddr.parse (IpAddr.v4 ip).display = some (.v4 ip) := by
  have hip : readIpv4Addr ip.text = some (ip, []) := by
    simpa using readIpv4Addr_text ip (stops_nil 10)
  simp [IpAddr.parse, parseWith, IpAddr.display, readIpAddr, IpAddr.text, hip]

end ZzP2p.Rust
