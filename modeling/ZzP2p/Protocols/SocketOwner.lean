import ZzP2p.Protocols.HandlerPairs
import ZzP2p.Protocols.SeedNetwork

/-! Whose socket a registry takes a socket address for. The commands of the command line register
the socket they dial under the dialing node; the handshake then registers it under the node that
answers. -/

namespace ZzP2p.Protocols.SocketOwner

open Rust Lib Lib.Runs NodeRegistry SeedNetwork

inductive Event
  | init (h : String)
  | cli (c : Conn)
  | returnConnect (c : Conn)
  | online (i : ℕ) (sessionId : Bytes) (withSeeds : Bool) (now : Clock)
  | deliver (i : ℕ) (now : Clock)

variable (sha256 : Bytes → Digest) (config : String → Config)

/-- `connect` of the command line, and `sync` for each address that is not yet connected -/
def cliConnect (s : Network) (c : Conn) : Network :=
  let t := s.table c.dialer
  SeedNetwork.step sha256 config
    (s.setTable c.dialer { t with registry := t.registry.register c.dialer c.target }) (.connect c)

def step (s : Network) : Event → Network
  | .init h => SeedNetwork.step sha256 config s (.init h)
  | .cli c => cliConnect sha256 config s c
  | .returnConnect c => SeedNetwork.step sha256 config s (.connect c)
  | .online i sessionId withSeeds now =>
    SeedNetwork.step sha256 config s (.online i sessionId withSeeds now)
  | .deliver i now => SeedNetwork.step sha256 config s (.deliver i now)

def OneOwner (reg : NodeRegistry) : Prop := ∀ socket a b, reg.Has a socket → reg.Has b socket → a = b

def LookupStable (reg : NodeRegistry) : Prop :=
  ∀ (nodes : AList (fun _ : String => NodeEntry)) (socket : SocketAddr),
    nodes.entries.Perm reg.nodes.entries →
      findNodeForSeed ⟨nodes⟩ socket = reg.findNodeForSeed socket

/-- Which node listens on a socket. The flow label of an IPv6 address plays no part. -/
structure Listening where
  owner : SocketAddr → String
  canonical : ∀ socket, owner socket.canonical = owner socket

variable (listening : Listening)

def Attributed (h : String) (reg : NodeRegistry) : Prop :=
  ∀ socket, reg.findNodeForSeed socket = some h → listening.owner socket = h

def OwnersAgree (s : Network) : Prop :=
  ∀ h, OneOwner (s.table h).registry ∧ LookupStable (s.table h).registry ∧
    Attributed listening h (s.table h).registry

structure Genuine (c : Conn) : Prop where
  target : listening.owner c.target = c.acceptor
  source : listening.owner (SocketAddr.new c.source.ip (config c.dialer).bind.port) = c.dialer
  announced : ∀ ip ∈ (config c.acceptor).intranetIps ++ (config c.acceptor).wanIps,
    ∀ seed ∈ announcedSeed c.target ip.display, listening.owner seed = c.acceptor

def Honest (_ : Network) : Event → Prop
  | .init h => ∀ p ∈ (initRegistry h (config h)).pairs, listening.owner p.2 = p.1
  | .cli c => Genuine config listening c ∧ listening.owner c.target = c.dialer
  | .returnConnect c => Genuine config listening c
  | _ => True

def Truthful (pairs : Set (String × SocketAddr)) : Prop := ∀ p ∈ pairs, listening.owner p.2 = p.1

def TruthfulSeeds (seeds : Option SeedsCommand) : Prop :=
  ∀ cmd ∈ seeds, Truthful listening (parsedPairs cmd.seeds)

structure TruthfulMessage (m : Message) : Prop where
  genuine : Genuine config listening m.conn
  body : match m.body with
    | .onLine cmd => cmd.sessionId ≠ [] ∧ m.toDialer = false ∧ cmd.port = (config m.conn.dialer).bind.port ∧
        TruthfulSeeds listening cmd.seeds
    | .onLineAck ack => m.toDialer = true ∧ ack.address = m.conn.acceptor ∧
        ack.intranetIps ++ ack.wanIps = ((config m.conn.acceptor).intranetIps ++
          (config m.conn.acceptor).wanIps).map IpAddr.display ∧ TruthfulSeeds listening ack.seeds
    | _ => False

structure Inv (s : Network) : Prop where
  registry : ∀ h, Truthful listening (s.table h).registry.pairs
  conns : ∀ c ∈ s.conns, Genuine config listening c
  flight : ∀ m ∈ s.flight, TruthfulMessage config listening m

variable {sha256 config listening} {s : Network} {reg : NodeRegistry}

lemma findNodeForSeed_eq_some_iff (h : OneOwner reg) {socket : SocketAddr} {a : String} :
    reg.findNodeForSeed socket = some a ↔ reg.Has a socket := by
  refine ⟨has_of_findNodeForSeed, fun ha => ?_⟩
  obtain ⟨b, hb⟩ := findNodeForSeed_isSome ha
  rw [hb, h socket b a (has_of_findNodeForSeed hb) ha]

lemma OneOwner.lookupStable (h : OneOwner reg) : LookupStable reg := by
  intro nodes socket hperm
  have hhas : ∀ a t, (⟨nodes⟩ : NodeRegistry).Has a t ↔ reg.Has a t := by
    intro a t
    rw [Has, Has, AList.perm_lookup hperm]
  have hone : OneOwner ⟨nodes⟩ := by
    intro t a b ha hb
    exact h t a b ((hhas a t).mp ha) ((hhas b t).mp hb)
  apply Option.ext
  intro a
  rw [findNodeForSeed_eq_some_iff hone, findNodeForSeed_eq_some_iff h, hhas]

lemma Truthful.oneOwner (h : Truthful listening reg.pairs) : OneOwner reg := by
  intro socket a b ha hb
  have hown : listening.owner socket = a := h (a, socket) ha
  have hown' : listening.owner socket = b := h (b, socket) hb
  rw [← hown, hown']

lemma Inv.ownersAgree (h : Inv config listening s) : OwnersAgree listening s := by
  intro a
  have hone : OneOwner (s.table a).registry := (h.registry a).oneOwner
  refine ⟨hone, hone.lookupStable, fun socket hf => ?_⟩
  exact h.registry a (a, socket) (has_of_findNodeForSeed hf)

end ZzP2p.Protocols.SocketOwner
