import ZzP2p.Rust.Bytes

/-! Commands, signed frames and the three places that accept a frame. Keys and signatures come
from the account crate and encodings from the codec of the network crate; both are parameters. -/

namespace ZzP2p.Protocols

open Rust

inductive Entity
  | node | message | witness | telephone | file
deriving DecidableEq

inductive Action
  | onLine | onLineAck | offLine | ack | update | nodeSync | nodeSyncRequest | nodeSyncResponse
  | seedSyncRequest | seedSyncResponse | seedSyncCommit
  | sendText | sendBinary | messageAck
  | sendEncrypted | sendEncryptedAck | readReceipt | deleteMessage
  | tick | tickAck | check | validate | validateAck
  | call | hangUp | accept | reject
deriving DecidableEq

structure P2PCommand where
  entity : Entity
  action : Action
  data : Bytes
deriving DecidableEq

structure FrameBody where
  version : UInt8
  address : String
  publicKey : Bytes
  nonce : UInt64
  dataLength : UInt32
  data : Bytes
deriving DecidableEq

structure P2PFrame where
  body : FrameBody
  signature : Bytes
deriving DecidableEq

inductive FrameError
  | codec
  | anyhow (message : String)
deriving DecidableEq

structure Account where
  Secret : Type
  PublicKey : Type
  Signature : Type
  publicKey : Secret → PublicKey
  toBytes : PublicKey → Bytes
  toPublicKey : Bytes → PublicKey
  address : PublicKey → String
  serializeCompact : Signature → Bytes
  toSignature : Bytes → Signature
  /-- the signature is one that the key makes over the message; there may be several of them -/
  Signs : Secret → Bytes → Signature → Prop
  signMessage : Secret → Bytes → Signature
  verifyMessage : PublicKey → Bytes → Signature → Bool

structure Account.Lawful (A : Account) : Prop where
  signs_signMessage : ∀ sk m, A.Signs sk m (A.signMessage sk m)
  verify_iff : ∀ pk m s, A.verifyMessage pk m s = true ↔ ∃ sk, A.publicKey sk = pk ∧ A.Signs sk m s
  toPublicKey_toBytes : ∀ pk, A.toPublicKey (A.toBytes pk) = pk
  toSignature_serialize : ∀ s, A.toSignature (A.serializeCompact s) = s

structure Codec where
  encodeBody : FrameBody → Option Bytes
  encodeFrame : P2PFrame → Option Bytes
  decodeFrame : Bytes → Option P2PFrame
  encodeCommand : P2PCommand → Option Bytes
  decodeCommand : Bytes → Option P2PCommand

variable (A : Account) (C : Codec)

def sign (body : FrameBody) (signer : A.Secret) : Except FrameError P2PFrame :=
  match C.encodeBody body with
  | some bytes => .ok ⟨body, A.serializeCompact (A.signMessage signer bytes)⟩
  | none => .error .codec

def verify (frame : P2PFrame) : Except FrameError P2PFrame :=
  match C.encodeBody frame.body with
  | some bytes =>
    let publicKey := A.toPublicKey frame.body.publicKey
    let signature := A.toSignature frame.signature
    if A.verifyMessage publicKey bytes signature then .ok frame
    else .error (.anyhow "Frame signature verification failed")
  | none => .error .codec

def verifyBytes (bytes : Bytes) : Except FrameError P2PFrame :=
  match C.decodeFrame bytes with
  | some frame => verify A C frame
  | none => .error .codec

def validate (frame : P2PFrame) : Bool :=
  match C.encodeBody frame.body with
  | some bytes =>
    A.verifyMessage (A.toPublicKey frame.body.publicKey) bytes (A.toSignature frame.signature)
  | none => false

def build (identity : A.Secret) (cmd : P2PCommand) (version : UInt8) (nonce : UInt64) :
    Except FrameError P2PFrame :=
  match C.encodeCommand cmd with
  | some cmdBytes =>
    sign A C ⟨version, A.address (A.publicKey identity), A.toBytes (A.publicKey identity), nonce,
      UInt32.ofNat cmdBytes.length, cmdBytes⟩ identity
  | none => .error .codec

def Accepted (f : P2PFrame) : Prop :=
  verify A C f = .ok f ∨ (∃ bytes, verifyBytes A C bytes = .ok f) ∨ validate A C f = true

variable {A C}

lemma verify_ok {f g : P2PFrame} (h : verify A C f = .ok g) : f = g ∧ validate A C f = true := by
  simp only [verify] at h
  cases he : C.encodeBody f.body with
  | none => simp [he] at h
  | some bytes =>
    simp only [he] at h
    split at h
    · next hv => exact ⟨Except.ok.inj h, by simpa [validate, he] using hv⟩
    · cases h

lemma verify_of_validate {f : P2PFrame} (h : validate A C f = true) : verify A C f = .ok f := by
  simp only [validate] at h
  cases he : C.encodeBody f.body with
  | none => simp [he] at h
  | some bytes => simpa [verify, he] using h

lemma accepted_iff {f : P2PFrame} : Accepted A C f ↔ validate A C f = true := by
  refine ⟨?_, fun h => Or.inr (Or.inr h)⟩
  rintro (h | ⟨bytes, h⟩ | h)
  · exact (verify_ok h).2
  · simp only [verifyBytes] at h
    cases hd : C.decodeFrame bytes with
    | none => simp [hd] at h
    | some g =>
      obtain ⟨rfl, hv⟩ := verify_ok (by simpa [hd] using h)
      exact hv
  · exact h

lemma validate_iff (hA : A.Lawful) {f : P2PFrame} :
    validate A C f = true ↔ ∃ sk m, C.encodeBody f.body = some m ∧
      A.publicKey sk = A.toPublicKey f.body.publicKey ∧ A.Signs sk m (A.toSignature f.signature) := by
  simp only [validate]
  cases he : C.encodeBody f.body with
  | none => simp
  | some bytes => simp [hA.verify_iff]

end ZzP2p.Protocols
