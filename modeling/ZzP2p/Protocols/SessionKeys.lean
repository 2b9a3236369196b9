import Mathlib.Tactic

/-! The session keys of two nodes that dial each other: the key table of the network crate, the
two handshake handlers and the messages in flight. The crate's key exchange is a parameter. -/

namespace ZzP2p.Protocols.SessionKeys

inductive Party
  | a | b
deriving DecidableEq

def Party.other : Party → Party
  | .a => .b
  | .b => .a

structure KeyExchange where
  Secret : Type
  PublicKey : Type
  SharedKey : Type
  isZero : PublicKey → Bool
  zeroKey : PublicKey
  publicKey : Secret → PublicKey
  dh : Secret → PublicKey → SharedKey
  /-- the secrets a party draws, in order -/
  secret : Party → ℕ → Secret

structure KeyExchange.Lawful (X : KeyExchange) : Prop where
  isZero_zeroKey : X.isZero X.zeroKey = true
  isZero_publicKey : ∀ s, X.isZero (X.publicKey s) = false
  dh_comm : ∀ s t, X.dh s (X.publicKey t) = X.dh t (X.publicKey s)
  dh_fresh : ∀ i j i' j', X.dh (X.secret .a i) (X.publicKey (X.secret .b j)) =
    X.dh (X.secret .a i') (X.publicKey (X.secret .b j')) → i = i' ∧ j = j'

abbrev SessionId := Party × ℕ

variable (X : KeyExchange)

structure PairedSessionKey where
  owner : Party
  drawn : ℕ
  temp : List (SessionId × X.Secret)
  main : Option X.SharedKey

variable {X}

def create (psk : PairedSessionKey X) : (SessionId × X.PublicKey) × PairedSessionKey X :=
  let secret := X.secret psk.owner psk.drawn
  let sid := (psk.owner, psk.drawn)
  ((sid, X.publicKey secret),
    { psk with drawn := psk.drawn + 1, temp := (sid, secret) :: psk.temp })

def establishBegins (psk : PairedSessionKey X) (pk : X.PublicKey) :
    Option X.PublicKey × PairedSessionKey X :=
  match psk.main with
  | some _ => (none, psk)
  | none =>
    let secret := X.secret psk.owner psk.drawn
    (some (X.publicKey secret),
      { psk with drawn := psk.drawn + 1, main := some (X.dh secret pk) })

def establishEnds (replaces : Bool) (psk : PairedSessionKey X) (sid : SessionId)
    (pk : X.PublicKey) : Bool × PairedSessionKey X :=
  match psk.temp.lookup sid with
  | none => (false, psk)
  | some secret =>
    let key := X.dh secret pk
    (true, { psk with main := some (if replaces then key else psk.main.getD key) })

variable (X)

inductive Message
  | onLine (sessionId : SessionId) (ephemeralPublicKey : X.PublicKey)
  | onLineAck (sessionId : SessionId) (ephemeralPublicKey : X.PublicKey)

structure Node where
  psk : PairedSessionKey X
  /-- a connection dialed by this node to the peer's listener is in the connection table -/
  outbound : Bool

/-- `queue d r` holds what is on its way to `r` over the connection that `d` dialed. -/
structure Network where
  node : Party → Node X
  queue : Party → Party → List (Message X)

variable {X}

def Network.setNode (s : Network X) (p : Party) (n : Node X) : Network X :=
  { s with node := Function.update s.node p n }

def Network.setQueue (s : Network X) (d r : Party) (q : List (Message X)) : Network X :=
  { s with queue := Function.update s.queue d (Function.update (s.queue d) r q) }

def Network.send (s : Network X) (d r : Party) (m : Message X) : Network X :=
  s.setQueue d r (s.queue d r ++ [m])

def dial (s : Network X) (p : Party) : Network X :=
  let ((sid, pk), psk) := create (s.node p).psk
  (s.setNode p ⟨psk, true⟩).send p p.other (.onLine sid pk)

-- a return connection takes a branch of its own, which makes the same `establish_begins` call
def onlineHandler (s : Network X) (r : Party) (sid : SessionId) (pk : X.PublicKey) : Network X :=
  let n := s.node r
  let (reply, psk) := establishBegins n.psk pk
  let s := (s.setNode r { n with psk := psk }).send r.other r.other
    (.onLineAck sid (reply.getD X.zeroKey))
  if n.outbound then s else dial s r

def onlineackHandler (replaces : Bool) (s : Network X) (r : Party) (sid : SessionId)
    (pk : X.PublicKey) : Network X :=
  if X.isZero pk then s
  else s.setNode r { s.node r with psk := (establishEnds replaces (s.node r).psk sid pk).2 }

structure Delivery where
  dialer : Party
  receiver : Party

def deliver (replaces : Bool) (s : Network X) (d : Delivery) : Network X :=
  match s.queue d.dialer d.receiver with
  | [] => s
  | m :: rest =>
    let s := s.setQueue d.dialer d.receiver rest
    match m with
    | .onLine sid pk => onlineHandler s d.receiver sid pk
    | .onLineAck sid pk => onlineackHandler replaces s d.receiver sid pk

variable (X) in
def idle : Network X where
  node p := ⟨⟨p, 0, [], none⟩, false⟩
  queue _ _ := []

variable (X) in
def start : Network X := dial (idle X) .a

def Network.key (s : Network X) (p : Party) : Option X.SharedKey := (s.node p).psk.main

def AllDelivered (s : Network X) : Prop := ∀ d r, s.queue d r = []

def KeysAgree (s : Network X) : Prop := ∃ k, s.key .a = some k ∧ s.key .b = some k

end ZzP2p.Protocols.SessionKeys
