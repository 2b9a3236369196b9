import Mathlib.Tactic

/-! Internet addresses as the standard library holds and writes them. -/

namespace ZzP2p.Rust

structure Ipv4Addr where
  a : UInt8
  b : UInt8
  c : UInt8
  d : UInt8
deriving DecidableEq

structure Ipv6Addr where
  segments : List UInt16
  length_eq : segments.length = 8
deriving DecidableEq

inductive IpAddr
  | v4 (ip : Ipv4Addr)
  | v6 (ip : Ipv6Addr)
deriving DecidableEq

inductive SocketAddr
  | v4 (ip : Ipv4Addr) (port : UInt16)
  | v6 (ip : Ipv6Addr) (port : UInt16) (flowinfo scopeId : UInt32)
deriving DecidableEq

namespace IpAddr

def isUnspecified : IpAddr → Bool
  | .v4 ip => ip = ⟨0, 0, 0, 0⟩
  | .v6 ip => ip.segments = List.replicate 8 0

def isLoopback : IpAddr → Bool
  | .v4 ip => ip.a = 127
  | .v6 ip => ip.segments = [0, 0, 0, 0, 0, 0, 0, 1]

end IpAddr

namespace SocketAddr

def new (ip : IpAddr) (port : UInt16) : SocketAddr :=
  match ip with
  | .v4 ip => .v4 ip port
  | .v6 ip => .v6 ip port 0 0

def ip : SocketAddr → IpAddr
  | .v4 ip _ => .v4 ip
  | .v6 ip _ _ _ => .v6 ip

def port : SocketAddr → UInt16
  | .v4 _ port => port
  | .v6 _ port _ _ => port

def isIpv4 : SocketAddr → Bool
  | .v4 _ _ => true
  | .v6 _ _ _ _ => false

@[simp] lemma new_ip (i : IpAddr) (p : UInt16) : (new i p).ip = i := by
  cases i <;> rfl

@[simp] lemma new_port (i : IpAddr) (p : UInt16) : (new i p).port = p := by
  cases i <;> rfl

end SocketAddr

def decimal (n : ℕ) : List Char := Nat.toDigits 10 n

def lowerHex (n : ℕ) : List Char := Nat.toDigits 16 n

def Ipv4Addr.text (ip : Ipv4Addr) : List Char :=
  decimal ip.a.toNat ++ '.' :: decimal ip.b.toNat ++ '.' :: decimal ip.c.toNat ++
    '.' :: decimal ip.d.toNat

structure Span where
  start : ℕ
  len : ℕ

/-- the longest run of zero segments, the first one of that length: the loop's state is the next
index, the run that ends there and the longest run so far -/
def zeroes : List UInt16 → ℕ → Span → Span → Span
  | [], _, _, longest => longest
  | s :: ss, i, current, longest =>
    if s = 0 then
      let current : Span := ⟨if current.len = 0 then i else current.start, current.len + 1⟩
      zeroes ss (i + 1) current (if current.len > longest.len then current else longest)
    else zeroes ss (i + 1) ⟨0, 0⟩ longest

def groupsText (first : Bool) : List UInt16 → List Char
  | [] => []
  | g :: gs => (if first then [] else [':']) ++ lowerHex g.toNat ++ groupsText false gs

def octets (x : UInt16) : UInt8 × UInt8 := (UInt8.ofNat (x.toNat / 256), UInt8.ofNat (x.toNat % 256))

def fromBeBytes (hi lo : UInt8) : UInt16 := UInt16.ofNat (256 * hi.toNat + lo.toNat)

lemma fromBeBytes_octets (x : UInt16) : fromBeBytes (octets x).1 (octets x).2 = x := by
  have hx := x.toNat_lt
  apply UInt16.toNat_inj.mp
  simp only [fromBeBytes, octets, UInt16.toNat_ofNat', UInt8.toNat_ofNat']
  omega

def toIpv4Mapped (segments : List UInt16) : Option Ipv4Addr :=
  match segments with
  | [0, 0, 0, 0, 0, 0xffff, x, y] =>
    some ⟨(octets x).1, (octets x).2, (octets y).1, (octets y).2⟩
  | _ => none

def Ipv6Addr.text (ip : Ipv6Addr) : List Char :=
  match toIpv4Mapped ip.segments with
  | some v4 => "::ffff:".toList ++ v4.text
  | none =>
    let z := zeroes ip.segments 0 ⟨0, 0⟩ ⟨0, 0⟩
    if z.len > 1 then
      groupsText true (ip.segments.take z.start) ++ "::".toList ++
        groupsText true (ip.segments.drop (z.start + z.len))
    else groupsText true ip.segments

def IpAddr.text : IpAddr → List Char
  | .v4 ip => ip.text
  | .v6 ip => ip.text

def SocketAddr.text : SocketAddr → List Char
  | .v4 ip port => ip.text ++ ':' :: decimal port.toNat
  | .v6 ip port _ scopeId =>
    if scopeId = 0 then '[' :: ip.text ++ "]:".toList ++ decimal port.toNat
    else '[' :: ip.text ++ '%' :: decimal scopeId.toNat ++ "]:".toList ++ decimal port.toNat

def IpAddr.display (ip : IpAddr) : String := String.ofList ip.text

def SocketAddr.display (s : SocketAddr) : String := String.ofList s.text

def hostPort (ip : String) (port : UInt16) : String := ip ++ ":" ++ toString port.toNat

end ZzP2p.Rust
