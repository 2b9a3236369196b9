import ZzP2p.Messaging.SenderIdentity
import ZzP2p.Protocols.NodeRegistry

/-! Sending a command over a connection. The steps up to the encoded frame report their errors; what
becomes of the frame at the writer is not reported. The cipher of the session keys is a parameter. -/

namespace ZzP2p.Messaging

open Rust Lib Protocols

inductive WriterEvent
  | wrote (bytes : Bytes)
  | writeFailed
  | flushed
  | flushFailed
deriving DecidableEq

/-- a writer with its history, and whether its next calls fail -/
structure Writer where
  events : List WriterEvent
  writeError : Bool
  flushError : Bool
deriving DecidableEq

def Writer.writeAll (w : Writer) (bytes : Bytes) : Bool × Writer :=
  if w.writeError then (false, { w with events := w.events ++ [.writeFailed] })
  else (true, { w with events := w.events ++ [.wrote bytes] })

def Writer.flush (w : Writer) : Bool × Writer :=
  if w.flushError then (false, { w with events := w.events ++ [.flushFailed] })
  else (true, { w with events := w.events ++ [.flushed] })

structure GlobalContext (A : Account) where
  address : Option A.Secret
  /-- encryption under the session key of an address -/
  pairedSessionKeys : Option (Bytes → Bytes → Except FrameError Bytes)
  registry : Option NodeRegistry

structure Context (A : Account) where
  global : GlobalContext A
  addr : SocketAddr
  /-- the address of the peer that the handshake left in the context -/
  peerAddress : Option String
  writer : Option Writer

variable {A : Account} {α : Type} (C : Codec) (M : MessageCodec)

def encryptionKey (ctx : Context A) (addrStr : String) (action : Protocols.Action) (data : Bytes) : Bytes :=
  match action with
  | .sendText => match M.decode data with
    | some msg => utf8 msg.receiver
    | none => utf8 addrStr
  | .messageAck => match ctx.peerAddress with
    | some peerAddr => utf8 peerAddr
    | none => match ctx.global.registry with
      | some registry => utf8 ((registry.findNodeForSeed ctx.addr).getD addrStr)
      | none => utf8 addrStr
  | _ => utf8 addrStr

/-- `P2PFrame::send` up to the bytes that go to the writer -/
def prepareFrame (encode : α → Option Bytes) (ctx : Context A) (command : Option α) (entity : Entity)
    (action : Protocols.Action) (isEncrypt : Bool) (nonce : UInt64) : Except FrameError Bytes := do
  let data ← match command with
    | some cmd => (encode cmd).elim (.error .codec) .ok
    | none => .ok []
  let identity ← ctx.global.address.elim (.error (.anyhow "Address not set")) .ok
  let addrStr := A.address (A.publicKey identity)
  let bytes ← match isEncrypt, ctx.global.pairedSessionKeys with
    | true, some encrypt => encrypt (encryptionKey M ctx addrStr action data) data
    | _, _ => .ok data
  let frame ← build A C identity ⟨entity, action, bytes⟩ 1 nonce
  (C.encodeFrame frame).elim (.error .codec) .ok

def send (encode : α → Option Bytes) (ctx : Context A) (command : Option α) (entity : Entity)
    (action : Protocols.Action) (isEncrypt : Bool) (nonce : UInt64) : Except FrameError Unit × Context A :=
  match prepareFrame C M encode ctx command entity action isEncrypt nonce with
  | .error e => (.error e, ctx)
  | .ok bytes => (.ok (), match ctx.writer with
    -- a failed write is logged, and the result of the flush is dropped
    | some writer => { ctx with writer := some (writer.writeAll bytes).2.flush.2 }
    | none => ctx)

/-- the whole frame went to the writer and was flushed -/
def Took (ctx ctx' : Context A) (bytes : Bytes) : Prop :=
  ∃ w, ctx.writer = some w ∧ ctx'.writer = some { w with events := w.events ++ [.wrote bytes, .flushed] }

variable {C M} {encode : α → Option Bytes} {ctx : Context A} {command : Option α}
  {entity : Entity} {action : Protocols.Action} {isEncrypt : Bool} {nonce : UInt64} {bytes : Bytes}

lemma send_ok_iff : (send C M encode ctx command entity action isEncrypt nonce).1 = .ok () ↔
    ∃ bytes, prepareFrame C M encode ctx command entity action isEncrypt nonce = .ok bytes := by
  rw [send]
  cases prepareFrame C M encode ctx command entity action isEncrypt nonce with
  | error e => simp
  | ok bytes => simp

end ZzP2p.Messaging
