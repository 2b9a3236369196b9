import ZzP2p.Lib.BoundedSet
import ZzP2p.Lib.Numerals
import ZzP2p.Rust.Bytes

/-! The message and acknowledgement handlers of one node, from the decrypted command on, and the
request numbers and pending entries of the senders. Destinations of a send are left to the
network, so a handler returns what it sends and delivers. A handler runs as a whole, although it locks
the seen messages and the pending entries one after the other. -/

namespace ZzP2p.Messaging

open Rust Lib

def seenMessagesMax : ℕ := 10000

structure MessageCommand where
  sender : String
  receiver : String
  requestId : UInt64
  timestamp : BitVec 128
  message : String
deriving DecidableEq

structure IncomingMessage where
  sender : String
  content : String
  timestamp : BitVec 128
deriving DecidableEq

/-- what the sender of a pending entry was created for: a message up to the time of each copy -/
structure Request where
  sender : String
  receiver : String
  requestId : UInt64
  message : String
deriving DecidableEq

def MessageCommand.request (m : MessageCommand) : Request :=
  ⟨m.sender, m.receiver, m.requestId, m.message⟩

def Request.command (r : Request) (timestamp : BitVec 128) : MessageCommand :=
  ⟨r.sender, r.receiver, r.requestId, timestamp, r.message⟩

def timestampBytes (t : BitVec 128) : Bytes :=
  (List.range 16).map (fun i => UInt8.ofNat (t.toNat / 256 ^ i))

def dedupKey (sha256 : Bytes → Digest) (sender receiver message : String) (timestamp : BitVec 128) :
    String :=
  hex (sha256 (utf8 sender ++ utf8 "|" ++ utf8 receiver ++ utf8 "|" ++ utf8 message ++ utf8 "|" ++
    timestampBytes timestamp))

def messageKey (sha256 : Bytes → Digest) (m : MessageCommand) : String :=
  dedupKey sha256 m.sender m.receiver m.message m.timestamp

def ackKey (requestId : UInt64) : String := "ack:" ++ toString requestId.toNat

structure Node where
  address : String
  nextRequestId : UInt64
  seen : Option (Finset String)
  pending : Option (UInt64 → Option Request)
  /-- calls of `handle_send_chat` that have drawn a number and not yet inserted their entry -/
  drawn : List Request
  /-- calls of `handle_send_chat` past the insertion -/
  opened : List Request
  hasNode : Bool
  hasAppChannel : Bool

def recordSeen (seen : Option (Finset String)) (key : String) : Bool × Option (Finset String) :=
  match seen with
  | some s => ((BoundedSet.record seenMessagesMax s key).1,
      some (BoundedSet.record seenMessagesMax s key).2)
  | none => (true, none)

inductive Effect
  | sendAck (receiverAddr : String) (requestId : UInt64)
  | incoming (m : IncomingMessage)
  | resolve (r : Request)
  | forwardAck (requestId : UInt64)
deriving DecidableEq

def Node.entry (n : Node) (r : UInt64) : Option Request := n.pending.bind (fun p => p r)

def messageAckHandler (n : Node) (requestId : UInt64) : Node × List Effect :=
  match recordSeen n.seen (ackKey requestId) with
  | (false, seen) => ({ n with seen := seen }, [])
  | (true, seen) =>
    match n.pending with
    | some pending =>
      match pending requestId with
      | some r =>
        ({ n with seen := seen, pending := some (Function.update pending requestId none) }, [.resolve r])
      | none => ({ n with seen := seen }, [.forwardAck requestId])
    | none => ({ n with seen := seen }, [.forwardAck requestId])

def messageHandler (sha256 : Bytes → Digest) (n : Node) (m : MessageCommand) : Node × List Effect :=
  match recordSeen n.seen (messageKey sha256 m) with
  | (false, seen) => ({ n with seen := seen }, [])
  | (true, seen) =>
    let n := { n with seen := seen }
    if m.sender = n.address then (n, [])
    else if m.receiver = n.address then
      (n, (if n.hasNode then [.sendAck m.sender m.requestId] else []) ++
        (if n.hasAppChannel then [.incoming ⟨m.sender, m.message, m.timestamp⟩] else []))
    else (n, [])

def drawRequestId (n : Node) : UInt64 × Node :=
  (n.nextRequestId, { n with nextRequestId := n.nextRequestId + 1 })

def beginSendChat (n : Node) (toAddr content : String) : Node :=
  if toAddr = "" ∨ content = "" then n
  else
    let (requestId, n) := drawRequestId n
    { n with drawn := ⟨n.address, toAddr, requestId, content⟩ :: n.drawn }

def insertPending (n : Node) (r : Request) : Node :=
  if r ∈ n.drawn then
    { n with
      drawn := n.drawn.erase r
      opened := r :: n.opened
      pending := n.pending.map (fun p => Function.update p r.requestId (some r)) }
  else n

def removePending (n : Node) (requestId : UInt64) : Node :=
  { n with pending := n.pending.map (fun p => Function.update p requestId none) }

def freshNode (address : String) : Node where
  address := address
  nextRequestId := 1
  seen := some ∅
  pending := some (fun _ => none)
  drawn := []
  opened := []
  hasNode := true
  hasAppChannel := true

def Node.Filtered (n : Node) (key : String) : Prop := ∃ s, n.seen = some s ∧ key ∈ s

instance (n : Node) (key : String) : Decidable (n.Filtered key) :=
  match h : n.seen with
  | none => .isFalse (by simp [Node.Filtered, h])
  | some s => decidable_of_iff (key ∈ s) (by simp [Node.Filtered, h])

lemma recordSeen_of_filtered {n : Node} {key : String} (h : n.Filtered key) :
    recordSeen n.seen key = (false, n.seen) := by
  obtain ⟨s, hs, hk⟩ := h
  simp [recordSeen, hs, BoundedSet.record_of_mem hk]

lemma recordSeen_of_not_filtered {n : Node} {key : String} (h : ¬ n.Filtered key) :
    recordSeen n.seen key = (true, (recordSeen n.seen key).2) := by
  refine Prod.ext ?_ rfl
  cases hs : n.seen with
  | none => rfl
  | some s => exact BoundedSet.record_fst.mpr (fun hk => h ⟨s, hs, hk⟩)

lemma filtered_of_recordSeen {n n' : Node} {key k : String}
    (hn : n'.seen = (recordSeen n.seen key).2) (h : n'.Filtered k) : k = key ∨ n.Filtered k := by
  obtain ⟨s', hs', hk⟩ := h
  rw [hn] at hs'
  cases hs : n.seen with
  | none => simp [recordSeen, hs] at hs'
  | some s =>
    simp only [recordSeen, hs] at hs'
    rw [← Option.some.inj hs'] at hk
    exact (BoundedSet.mem_record hk).imp id (fun h => ⟨s, hs, h⟩)

@[simp] lemma removePending_entry (n : Node) (r r' : UInt64) :
    (removePending n r).entry r' = if r' = r then none else n.entry r' := by
  cases hp : n.pending with
  | none => simp [removePending, Node.entry, hp]
  | some p => simp [removePending, Node.entry, hp, Function.update_apply]

lemma messageAckHandler_of_filtered {n : Node} {r : UInt64} (h : n.Filtered (ackKey r)) :
    messageAckHandler n r = (n, []) := by
  simp [messageAckHandler, recordSeen_of_filtered h]

lemma messageAckHandler_resolve {n : Node} {r : UInt64} {q : Request} (h : ¬ n.Filtered (ackKey r))
    (hq : n.entry r = some q) :
    messageAckHandler n r = ({ removePending n r with seen := (recordSeen n.seen (ackKey r)).2 },
      [.resolve q]) := by
  obtain ⟨p, hp, hpr⟩ := Option.bind_eq_some_iff.mp hq
  rw [messageAckHandler, recordSeen_of_not_filtered h]
  simp [hp, hpr, removePending]

lemma messageAckHandler_forward {n : Node} {r : UInt64} (h : ¬ n.Filtered (ackKey r))
    (hq : n.entry r = none) :
    messageAckHandler n r = ({ n with seen := (recordSeen n.seen (ackKey r)).2 },
      [.forwardAck r]) := by
  rw [messageAckHandler, recordSeen_of_not_filtered h]
  cases hp : n.pending with
  | none => rfl
  | some p =>
    have hpr : p r = none := by simpa [Node.entry, hp] using hq
    simp only [hpr]

lemma messageAckHandler_seen (n : Node) (r : UInt64) :
    (messageAckHandler n r).1.seen = (recordSeen n.seen (ackKey r)).2 := by
  by_cases hf : n.Filtered (ackKey r)
  · rw [messageAckHandler_of_filtered hf, recordSeen_of_filtered hf]
  · cases he : n.entry r with
    | none => rw [messageAckHandler_forward hf he]
    | some q => rw [messageAckHandler_resolve hf he]

lemma messageAckHandler_static (n : Node) (r : UInt64) :
    (messageAckHandler n r).1.address = n.address ∧ (messageAckHandler n r).1.hasNode = n.hasNode ∧
      (messageAckHandler n r).1.hasAppChannel = n.hasAppChannel := by
  by_cases hf : n.Filtered (ackKey r)
  · simp [messageAckHandler_of_filtered hf]
  · cases he : n.entry r with
    | none => simp [messageAckHandler_forward hf he]
    | some q => simp [messageAckHandler_resolve hf he, removePending]

lemma messageHandler_of_filtered {sha256 : Bytes → Digest} {n : Node} {m : MessageCommand}
    (h : n.Filtered (messageKey sha256 m)) :
    messageHandler sha256 n m = (n, []) := by
  simp [messageHandler, recordSeen_of_filtered h]

lemma messageHandler_deliver {sha256 : Bytes → Digest} {n : Node} {m : MessageCommand}
    (h : ¬ n.Filtered (messageKey sha256 m))
    (hs : m.sender ≠ n.address) (hr : m.receiver = n.address) :
    (messageHandler sha256 n m).2 =
      (if n.hasNode then [.sendAck m.sender m.requestId] else []) ++
        (if n.hasAppChannel then [.incoming ⟨m.sender, m.message, m.timestamp⟩] else []) := by
  rw [messageHandler, recordSeen_of_not_filtered h]
  simp [hs, hr]

lemma mem_messageHandler {sha256 : Bytes → Digest} {n : Node} {m : MessageCommand} {e : Effect} :
    e ∈ (messageHandler sha256 n m).2 ↔
      (¬ n.Filtered (messageKey sha256 m) ∧ m.sender ≠ n.address ∧ m.receiver = n.address) ∧
        ((n.hasNode = true ∧ e = .sendAck m.sender m.requestId) ∨
          (n.hasAppChannel = true ∧ e = .incoming ⟨m.sender, m.message, m.timestamp⟩)) := by
  by_cases hf : n.Filtered (messageKey sha256 m)
  · simp [messageHandler_of_filtered hf, hf]
  · by_cases hs : m.sender = n.address
    · rw [messageHandler, recordSeen_of_not_filtered hf]
      simp [hs]
    · by_cases hr : m.receiver = n.address
      · rw [messageHandler_deliver hf hs hr]
        cases n.hasNode <;> cases n.hasAppChannel <;> simp [hf, hs, hr]
      · rw [messageHandler, recordSeen_of_not_filtered hf]
        simp [hs, hr]

lemma messageHandler_node (sha256 : Bytes → Digest) (n : Node) (m : MessageCommand) :
    (messageHandler sha256 n m).1 = { n with
      seen := (recordSeen n.seen (messageKey sha256 m)).2 } := by
  simp only [messageHandler]
  split
  · next h => rw [h]
  · next h =>
    rw [h]
    split_ifs <;> rfl

lemma ackKey_toList (r : UInt64) : (ackKey r).toList = "ack:".toList ++ Nat.toDigits 10 r.toNat := by
  simp [ackKey]

lemma ackKey_injective : Function.Injective ackKey := by
  intro a b h
  have hl := congrArg String.toList h
  rw [ackKey_toList, ackKey_toList, List.append_cancel_left_eq] at hl
  have hv := congrArg (Numerals.value 10) hl
  simp only [Numerals.value_toDigits (by decide : 1 < 10) (by decide)] at hv
  exact UInt64.toNat_inj.mp hv

lemma ackKey_ne_messageKey (sha256 : Bytes → Digest) (r : UInt64) (m : MessageCommand) :
    ackKey r ≠ messageKey sha256 m := by
  intro h
  have hl := congrArg (fun s => s.toList.length) h
  have hd : (Nat.toDigits 10 r.toNat).length ≤ 20 := by
    apply (Nat.length_toDigits_le_iff (by decide) (by decide)).mpr
    exact lt_of_lt_of_le r.toNat_lt (by decide)
  simp only [messageKey, dedupKey, hex_length, ackKey_toList, List.length_append] at hl
  have : "ack:".toList.length = 4 := by decide
  omega

end ZzP2p.Messaging
