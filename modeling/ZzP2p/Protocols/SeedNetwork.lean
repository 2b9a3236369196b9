import ZzP2p.Lib.Runs
import ZzP2p.Lib.Sha256
import ZzP2p.Protocols.Dialable

/-! A network of honest nodes that learn seeds from each other: nodes start, connect, and deliver
handshakes, acknowledgements, gossip, ticks and seed synchronisation in any order. The announced
IPs are those of the network interfaces, and a connection is seen by its acceptor from a specified
address. -/

namespace ZzP2p.Protocols.SeedNetwork

open Rust Lib Lib.Runs NodeRegistry

structure Config where
  bind : SocketAddr
  intranetIps : List IpAddr
  wanIps : List IpAddr
  cliSeeds : List SocketAddr
  port_ne : bind.port ≠ 0
  ips_specified : ∀ ip ∈ intranetIps ++ wanIps, ip.isUnspecified = false

structure Conn where
  dialer : String
  acceptor : String
  target : SocketAddr
  source : SocketAddr
  target_port : target.port ≠ 0
  source_specified : source.ip.isUnspecified = false

inductive Body
  | onLine (cmd : OnlineCommand)
  | onLineAck (ack : OnlineAckCommand)
  | tick (seeds : Option SeedsCommand)
  | seedSyncRequest (set : SeedSet)
  | seedSyncResponse (set : SeedSet)

structure Message where
  conn : Conn
  toDialer : Bool
  body : Body

namespace Message

def dest (m : Message) : String := if m.toDialer then m.conn.dialer else m.conn.acceptor

def sender (m : Message) : String := if m.toDialer then m.conn.acceptor else m.conn.dialer

/-- the address of the other end, as the receiver's connection context has it -/
def peer (m : Message) : SocketAddr := if m.toDialer then m.conn.target else m.conn.source

end Message

structure Network where
  table : String → PeerTable
  conns : List Conn
  flight : List Message

inductive Event
  | init (h : String)
  | connect (c : Conn)
  | online (i : ℕ) (sessionId : Bytes) (withSeeds : Bool) (now : Clock)
  | broadcastSeeds (i : ℕ) (toDialer : Bool) (now : Clock)
  | tick (i : ℕ) (toDialer : Bool) (now : Clock)
  | seedSync (i : ℕ) (toDialer : Bool)
  | deliver (i : ℕ) (now : Clock)

def initRegistry (selfAddress : String) (c : Config) : NodeRegistry :=
  let reg := if c.bind.ip.isLoopback then empty else empty.register selfAddress c.bind
  (c.intranetIps ++ c.wanIps).foldl (fun reg ip =>
    if ip = c.bind.ip ∨ ip.isLoopback then reg
    else reg.register selfAddress (SocketAddr.new ip c.bind.port)) reg

def Network.setTable (s : Network) (h : String) (t : PeerTable) : Network :=
  { s with table := Function.update s.table h t }

def Network.post (s : Network) (m : Message) : Network := { s with flight := s.flight ++ [m] }

def Network.send (s : Network) (i : ℕ) (toDialer : Bool) (body : String → Body) : Network :=
  match s.conns[i]? with
  | some c => s.post ⟨c, toDialer, body (if toDialer then c.acceptor else c.dialer)⟩
  | none => s

variable (sha256 : Bytes → Digest) (config : String → Config)

def ackOf (h : String) (now : Clock) (reg : NodeRegistry) : OnlineAckCommand :=
  ⟨h, (config h).intranetIps.map IpAddr.display, (config h).wanIps.map IpAddr.display,
    some (seedsFromRegistry sha256 now reg)⟩

def tickSeeds (now : Clock) (reg : NodeRegistry) : Option SeedsCommand :=
  if seedRecords now reg = [] then none else some (seedsFromRegistry sha256 now reg)

def receive (s : Network) (m : Message) (now : Clock) : Network :=
  let t := s.table m.dest
  match m.body with
  | .onLine cmd =>
    let reg := onlineHandler sha256 m.dest m.sender m.peer cmd t.registry
    let s := s.setTable m.dest { t with registry := reg }
    if cmd.sessionId = [] then s
    else s.post ⟨m.conn, !m.toDialer, .onLineAck (ackOf sha256 config m.dest now reg)⟩
  | .onLineAck ack =>
    s.setTable m.dest { t with registry := onlineackHandler sha256 m.peer ack t.registry }
  | .tick seeds =>
    s.setTable m.dest { t with registry := seeds.elim t.registry (tickMerge sha256 t.registry) }
  | .seedSyncRequest set =>
    let (t, response) := seedSyncRequestHandler sha256 t set
    (s.setTable m.dest t).post ⟨m.conn, !m.toDialer, .seedSyncResponse response⟩
  | .seedSyncResponse set => s.setTable m.dest (seedSyncResponseHandler sha256 t set)

def step (s : Network) : Event → Network
  | .init h => s.setTable h ⟨initRegistry h (config h), (config h).cliSeeds⟩
  | .connect c => { s with conns := s.conns ++ [c] }
  | .online i sessionId withSeeds now =>
    if sessionId = [] then s
    else s.send i false (fun h => .onLine ⟨sessionId, (config h).bind.port,
      if withSeeds then some (seedsFromRegistry sha256 now (s.table h).registry) else none⟩)
  | .broadcastSeeds i toDialer now =>
    s.send i toDialer (fun h => .onLine ⟨[], 0,
      some (seedsFromRegistry sha256 now (s.table h).registry)⟩)
  | .tick i toDialer now =>
    s.send i toDialer (fun h => .tick (tickSeeds sha256 now (s.table h).registry))
  | .seedSync i toDialer =>
    s.send i toDialer (fun h =>
      .seedSyncRequest (deriveSeedSetFromRegistry sha256 (s.table h).registry))
  | .deliver i now =>
    match s.flight[i]? with
    | some m => receive sha256 config { s with flight := s.flight.eraseIdx i } m now
    | none => s

def start : Network := ⟨fun _ => ⟨empty, []⟩, [], []⟩

def SeedsAlwaysDialable (s : Network) : Prop := ∀ h, AllDialable (s.table h).registry

def Proper (s : Network) : Event → Prop
  | .init h => (config h).bind.ip.isUnspecified = false
  | .deliver i _ => match s.flight[i]? with
    | some ⟨_, _, .onLine cmd⟩ => cmd.sessionId ≠ []
    | some ⟨c, _, .onLineAck _⟩ => c.target.ip.isUnspecified = false
    | _ => True
  | _ => True

def hostConfig (host : UInt8) : Config where
  bind := .v4 ⟨10, 0, 0, host⟩ 80
  intranetIps := []
  wanIps := []
  cliSeeds := []
  port_ne := by simp [SocketAddr.port]
  ips_specified := by simp

def pairConfig (h : String) : Config := if h = "a" then hostConfig 1 else hostConfig 2

lemma pairConn_port : (SocketAddr.v4 ⟨10, 0, 0, 2⟩ 80).port ≠ 0 := by decide

def pairConn : Conn :=
  ⟨"a", "b", .v4 ⟨10, 0, 0, 2⟩ 80, .v4 ⟨10, 0, 0, 1⟩ 50000, pairConn_port, by decide⟩

end ZzP2p.Protocols.SeedNetwork
