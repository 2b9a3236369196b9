import ZzP2p.Protocols.SeedMerge

/-! What the handshake, its acknowledgement and gossip do to the registry. The frame gives the
sender's address and the connection context the peer's socket address. -/

namespace ZzP2p.Protocols

open Rust

structure OnlineCommand where
  sessionId : Bytes
  port : UInt16
  seeds : Option SeedsCommand

structure OnlineAckCommand where
  address : String
  intranetIps : List String
  wanIps : List String
  seeds : Option SeedsCommand

variable (sha256 : Bytes → Digest)

def seedsFromRegistry (now : Clock) (reg : NodeRegistry) : SeedsCommand :=
  .new sha256 (seedRecords now reg)

def gossipHandler (localAddr sender : String) (peer : SocketAddr) (cmd : OnlineCommand)
    (reg : NodeRegistry) : NodeRegistry :=
  let reg := reg.register sender (SocketAddr.new peer.ip cmd.port)
  match cmd.seeds with
  | some seeds => (gossipMerge sha256 localAddr reg seeds).1
  | none => reg

def handshakeHandler (sender : String) (peer : SocketAddr) (cmd : OnlineCommand)
    (reg : NodeRegistry) : NodeRegistry :=
  let reg := (reg.tryConnect sender).2.registerWithDirection sender
    (SocketAddr.new peer.ip cmd.port) .inbound
  match cmd.seeds with
  | some seeds => handshakeMerge sha256 reg seeds
  | none => reg

def onlineHandler (localAddr sender : String) (peer : SocketAddr) (cmd : OnlineCommand)
    (reg : NodeRegistry) : NodeRegistry :=
  if cmd.sessionId = [] then gossipHandler sha256 localAddr sender peer cmd reg
  else handshakeHandler sha256 sender peer cmd reg

/-- the seed that an announced IP gives; loopback addresses give none -/
def announcedSeed (peer : SocketAddr) (ip : String) : Option SocketAddr :=
  if ((IpAddr.parse ip).map IpAddr.isLoopback).getD false then none
  else some ((SocketAddr.parse (hostPort ip peer.port)).getD peer)

def storeAnnounced (address : String) (peer : SocketAddr) (reg : NodeRegistry) (ip : String) :
    NodeRegistry :=
  (announcedSeed peer ip).elim reg (fun seed => (reg.addSeed address seed).2)

def onlineackHandler (peer : SocketAddr) (ack : OnlineAckCommand) (reg : NodeRegistry) :
    NodeRegistry :=
  let reg := (reg.tryConnect ack.address).2.registerWithDirection ack.address peer .outbound
  let reg := (ack.intranetIps ++ ack.wanIps).foldl (storeAnnounced ack.address peer) reg
  match ack.seeds with
  | some seeds => ackMerge sha256 reg seeds
  | none => reg

end ZzP2p.Protocols
