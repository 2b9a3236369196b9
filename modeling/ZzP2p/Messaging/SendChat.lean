import ZzP2p.Messaging.FrameSend
import ZzP2p.Messaging.UserStore

/-! A request to send a chat message, up to its reply. The pending entry, the stored message and the
preview come first; then the message is tried on the connections at the seeds of the contact, and on
the other connections if none of them reports success. -/

namespace ZzP2p.Messaging.SendChat

open Rust Lib Protocols UserStore

structure Connection (A : Account) where
  addr : SocketAddr
  /-- the id of the node behind the connection, as text -/
  node : Option String
  context : Option (Context A)
  /-- another task holds the lock of the context -/
  busy : Bool

/-- what one call of `send_text_message` draws -/
structure Draw where
  timestamp : BitVec 128
  nonce : UInt64

/-- how `add_message` ends: an error comes before the file is touched, or with what is left in it -/
inductive Added
  | written
  | failed
  | torn (left : List ChatMessage)

/-- the tables of the network crate, the clock and the random numbers, as one request meets them -/
structure Surroundings (ι : Type) where
  registry : Option NodeRegistry
  findEntry : SocketAddr → Option ι
  entries : List ι
  direct : SocketAddr → Draw
  forward : ι → Draw
  now : ℤ
  added : Added

structure ChatUpdate where
  contact : String
  preview : String
deriving DecidableEq

/-- `messages` are those stored for the contact. -/
structure State (ι : Type) (A : Account) where
  node : Node
  connections : ι → Connection A
  messages : List ChatMessage
  wsSenders : Option (List ChatUpdate)

structure Reply where
  success : Bool
  text : String
deriving DecidableEq

structure Attempt (ι : Type) (A : Account) where
  connection : ι
  draw : Draw
  before : Context A
  result : Except FrameError Unit
  after : Context A

structure Outcome (ι : Type) (A : Account) where
  reply : Reply
  attempts : List (Attempt ι A)
  state : State ι A

def Attempt.succeeded {ι : Type} {A : Account} (a : Attempt ι A) : Bool := a.result.toBool

/-- the text up to a byte; there is none where the byte is inside a character -/
def sliceTo : ℕ → List Char → Option (List Char)
  | 0, _ => some []
  | _ + 1, [] => none
  | n + 1, c :: cs => if c.utf8Size ≤ n + 1 then (sliceTo (n + 1 - c.utf8Size) cs).map (c :: ·) else none

def preview (msgBody : String) : Option String :=
  if (utf8 msgBody).length > 50 then (sliceTo 50 msgBody.toList).map (fun cs => String.ofList cs ++ "...")
  else some msgBody

variable {ι : Type} {A : Account} (C : Codec) (M : MessageCodec)

def sendTextMessage (ctx : Context A) (r : Request) (draw : Draw) : Except FrameError Unit × Context A :=
  send C M M.encode ctx (some (r.command draw.timestamp)) .message .sendText true
    draw.nonce

/-- A connection without a context is not tried. -/
def attempt (r : Request) (connections : ι → Connection A) (i : ι) (draw : Draw) : Option (Attempt ι A) :=
  (connections i).context.map (fun ctx =>
    ⟨i, draw, ctx, (sendTextMessage C M ctx r draw).1, (sendTextMessage C M ctx r draw).2⟩)

def messageFrame (r : Request) (ctx : Context A) (draw : Draw) : Except FrameError Bytes :=
  prepareFrame C M M.encode ctx (some (r.command draw.timestamp)) .message .sendText true
    draw.nonce

/-- the attempt does not report success, or its connection took the frame -/
def Attempt.Honest (r : Request) (a : Attempt ι A) : Prop :=
  a.succeeded = true →
    ∃ bytes, messageFrame C M r a.before a.draw = .ok bytes ∧ Took a.before a.after bytes

variable {C M} {r : Request} {connections : ι → Connection A} {i : ι} {draw : Draw}
  {a : Attempt ι A}

lemma succeeded_iff : a.succeeded = true ↔ a.result = .ok () := by
  rw [Attempt.succeeded]
  cases a.result <;> simp [Except.toBool]

variable [DecidableEq ι]

def record (connections : ι → Connection A) (a : Attempt ι A) : ι → Connection A :=
  Function.update connections a.connection { connections a.connection with context := some a.after }

variable (C M) (E : Surroundings ι)

def sendDirect (r : Request) : List SocketAddr → (ι → Connection A) → List (Attempt ι A) × (ι → Connection A)
  | [], connections => ([], connections)
  | seedAddr :: rest, connections =>
    match (E.findEntry seedAddr).bind (fun i => attempt C M r connections i (E.direct seedAddr)) with
    | none => sendDirect r rest connections
    | some a =>
      if a.succeeded then ([a], record connections a)
      else
        let others := sendDirect r rest (record connections a)
        (a :: others.1, others.2)

def matchesTarget (targetAddrs : List SocketAddr) (toAddr : String) (c : Connection A) : Bool :=
  let matchesSocket := decide (c.addr ∈ targetAddrs)
  let matchesPeer := !c.busy && (c.context.bind (fun ctx => ctx.peerAddress) == some toAddr)
  targetAddrs.isEmpty || matchesSocket || matchesPeer

def sendForward (r : Request) (targetAddrs : List SocketAddr) :
    List ι → Finset String → (ι → Connection A) → List (Attempt ι A) × (ι → Connection A)
  | [], _, connections => ([], connections)
  | i :: rest, sentNodes, connections =>
    if matchesTarget targetAddrs r.receiver (connections i) = false then
      sendForward r targetAddrs rest sentNodes connections
    else if ∃ nid ∈ (connections i).node, nid ∈ sentNodes then
      sendForward r targetAddrs rest sentNodes connections
    else
      let sentNodes := (connections i).node.elim sentNodes (fun nid => insert nid sentNodes)
      match attempt C M r connections i (E.forward i) with
      | none => sendForward r targetAddrs rest sentNodes connections
      | some a =>
        let others := sendForward r targetAddrs rest sentNodes (record connections a)
        (a :: others.1, others.2)

def store (s : State ι A) (toAddr msgBody : String) : List ChatMessage :=
  match E.added with
  | .written => addMessage E.now s.messages toAddr msgBody true "sent"
  | .failed => s.messages
  | .torn left => left

def targets (toAddr : String) : List SocketAddr :=
  (E.registry.map (fun reg => reg.getSeedsForNode toAddr)).getD []

/-- a panic where there is no preview -/
def broadcast (wsSenders : Option (List ChatUpdate)) (toAddr msgBody : String) :
    Option (Option (List ChatUpdate)) :=
  match wsSenders with
  | none => some none
  | some events => (preview msgBody).map (fun text => some (events ++ [⟨toAddr, text⟩]))

def sendAll (s : State ι A) (r : Request) : List (Attempt ι A) × (ι → Connection A) :=
  let targetAddrs := targets E r.receiver
  let direct := sendDirect C M E r targetAddrs s.connections
  if direct.1.any Attempt.succeeded then direct
  else
    let forwarded := sendForward C M E r targetAddrs E.entries ∅ direct.2
    (direct.1 ++ forwarded.1, forwarded.2)

def chatRequest (s : State ι A) (toAddr msgBody : String) : Request :=
  ⟨s.node.address, toAddr, s.node.nextRequestId, msgBody⟩

def deliver (s : State ι A) (r : Request) : Outcome ι A :=
  let sent := sendAll C M E s r
  if sent.1.any Attempt.succeeded then
    ⟨⟨true, "Message sent"⟩, sent.1, { s with connections := sent.2 }⟩
  else
    ⟨⟨false, "Failed to send message: no matching connection or send error (check server logs)"⟩, sent.1,
      { s with connections := sent.2, node := removePending s.node r.requestId }⟩

/-- A panic has no outcome. -/
def handleSendChat (s : State ι A) (toAddr msgBody : String) : Option (Outcome ι A) :=
  if toAddr = "" ∨ msgBody = "" then some ⟨⟨false, "Missing 'to' or 'message'"⟩, [], s⟩
  else
    let r := chatRequest s toAddr msgBody
    let node := insertPending (beginSendChat s.node toAddr msgBody) r
    let messages := store E s toAddr msgBody
    (broadcast s.wsSenders toAddr msgBody).map (fun wsSenders =>
      deliver C M E ⟨node, s.connections, messages, wsSenders⟩ r)

variable {C M E}

variable {s : State ι A} {toAddr msgBody : String} {o : Outcome ι A}

end ZzP2p.Messaging.SendChat
