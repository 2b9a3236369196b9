import ZzP2p.Lib.Runs
import ZzP2p.Protocols.SessionKeys

/-! Agreement of the two session keys over every delivery order. The network runs through nine
stages; the machine on stages is simulated by the handlers, and it is finite. -/

namespace ZzP2p.Protocols.SessionKeys

open Lib.Runs

def both {α : Type*} (x y : α) : Party → α
  | .a => x
  | .b => y

section

variable {α : Type*} (x y z : α)

@[simp] lemma both_a : both x y .a = x := rfl

@[simp] lemma both_b : both x y .b = y := rfl

@[simp] lemma update_both_a : Function.update (both x y) .a z = both z y := by
  funext p
  cases p <;> simp [both]

@[simp] lemma update_both_b : Function.update (both x y) .b z = both x z := by
  funext p
  cases p <;> simp [both]

end

inductive Stage
  | asked | answered
  | keyed | returned | settled
  | crossed | ackedA | ackedB | parted
deriving DecidableEq

def next : Stage → Delivery → Stage
  | .asked, ⟨.a, .b⟩ => .answered
  | .answered, ⟨.a, .a⟩ => .keyed
  | .answered, ⟨.b, .a⟩ => .crossed
  | .keyed, ⟨.b, .a⟩ => .returned
  | .returned, ⟨.b, .b⟩ => .settled
  | .crossed, ⟨.a, .a⟩ => .ackedA
  | .crossed, ⟨.b, .b⟩ => .ackedB
  | .ackedA, ⟨.b, .b⟩ => .parted
  | .ackedB, ⟨.a, .a⟩ => .parted
  | st, _ => st

variable (X : KeyExchange)

def sharedKey (i j : ℕ) : X.SharedKey := X.dh (X.secret .a i) (X.publicKey (X.secret .b j))

def dialer (drawn : ℕ) (key : Option X.SharedKey) : Node X :=
  ⟨⟨.a, drawn, [((.a, 0), X.secret .a 0)], key⟩, true⟩

def responder (key : X.SharedKey) : Node X :=
  ⟨⟨.b, 2, [((.b, 1), X.secret .b 1)], some key⟩, true⟩

def firstAck : Message X := .onLineAck (.a, 0) (X.publicKey (X.secret .b 0))

def returnOnLine : Message X := .onLine (.b, 1) (X.publicKey (X.secret .b 1))

def returnAck (pk : X.PublicKey) : Message X := .onLineAck (.b, 1) pk

def stateOf (replaces : Bool) : Stage → Network X
  | .asked =>
    ⟨both (dialer X 1 none) ⟨⟨.b, 0, [], none⟩, false⟩,
      both (both [] [.onLine (.a, 0) (X.publicKey (X.secret .a 0))]) (both [] [])⟩
  | .answered =>
    ⟨both (dialer X 1 none) (responder X (sharedKey X 0 0)),
      both (both [firstAck X] []) (both [returnOnLine X] [])⟩
  | .keyed =>
    ⟨both (dialer X 1 (some (sharedKey X 0 0))) (responder X (sharedKey X 0 0)),
      both (both [] []) (both [returnOnLine X] [])⟩
  | .returned =>
    ⟨both (dialer X 1 (some (sharedKey X 0 0))) (responder X (sharedKey X 0 0)),
      both (both [] []) (both [] [returnAck X X.zeroKey])⟩
  | .settled =>
    ⟨both (dialer X 1 (some (sharedKey X 0 0))) (responder X (sharedKey X 0 0)),
      both (both [] []) (both [] [])⟩
  | .crossed =>
    ⟨both (dialer X 2 (some (sharedKey X 1 1))) (responder X (sharedKey X 0 0)),
      both (both [firstAck X] []) (both [] [returnAck X (X.publicKey (X.secret .a 1))])⟩
  | .ackedA =>
    ⟨both (dialer X 2 (some (if replaces then sharedKey X 0 0 else sharedKey X 1 1)))
        (responder X (sharedKey X 0 0)),
      both (both [] []) (both [] [returnAck X (X.publicKey (X.secret .a 1))])⟩
  | .ackedB =>
    ⟨both (dialer X 2 (some (sharedKey X 1 1)))
        (responder X (if replaces then sharedKey X 1 1 else sharedKey X 0 0)),
      both (both [firstAck X] []) (both [] [])⟩
  | .parted =>
    ⟨both (dialer X 2 (some (if replaces then sharedKey X 0 0 else sharedKey X 1 1)))
        (responder X (if replaces then sharedKey X 1 1 else sharedKey X 0 0)),
      both (both [] []) (both [] [])⟩

variable {X}

lemma start_eq (replaces : Bool) : start X = stateOf X replaces .asked := by
  have hnode : (idle X).node = both ⟨⟨.a, 0, [], none⟩, false⟩ ⟨⟨.b, 0, [], none⟩, false⟩ := by
    funext p
    cases p <;> rfl
  have hqueue : (idle X).queue = both (both [] []) (both [] []) := by
    funext d r
    cases d <;> cases r <;> rfl
  simp only [start, dial, create, Network.setNode, Network.send, Network.setQueue, hnode, hqueue,
    both_a, both_b, update_both_a, update_both_b, Party.other, stateOf, dialer]
  rfl

lemma deliver_stateOf (hX : X.Lawful) (replaces : Bool) (st : Stage) (d : Delivery) :
    deliver replaces (stateOf X replaces st) d = stateOf X replaces (next st d) := by
  rcases d with ⟨_ | _, _ | _⟩ <;> cases st <;>
    simp [deliver, stateOf, next, onlineHandler, onlineackHandler, establishBegins, establishEnds,
      dial, create, Network.setNode, Network.setQueue, Network.send, Party.other, dialer, responder,
      firstAck, returnOnLine, returnAck, sharedKey, hX.isZero_zeroKey, hX.isZero_publicKey,
      hX.dh_comm]

def AckFirst (s : Network X) (d : Delivery) : Prop :=
  ∀ sid pk rest, s.queue d.dialer d.receiver = .onLine sid pk :: rest →
    s.queue d.receiver d.receiver = []

def Orderly : Stage → Prop
  | .crossed | .ackedA | .ackedB | .parted => False
  | _ => True

lemma orderly_next_iff (replaces : Bool) (st : Stage) (d : Delivery) (hst : Orderly st) :
    Orderly (next st d) ↔ AckFirst (stateOf X replaces st) d := by
  rcases d with ⟨_ | _, _ | _⟩ <;> cases st <;>
    simp_all [Orderly, next, AckFirst, stateOf, firstAck, returnOnLine, returnAck]

lemma not_orderly_next (st : Stage) (d : Delivery) (hst : ¬ Orderly st) : ¬ Orderly (next st d) := by
  rcases d with ⟨_ | _, _ | _⟩ <;> cases st <;> simp_all [Orderly, next]

lemma allDelivered_stateOf {replaces : Bool} {st : Stage} (h : AllDelivered (stateOf X replaces st)) :
    st = .settled ∨ st = .parted := by
  have haa := h .a .a
  have hab := h .a .b
  have hba := h .b .a
  have hbb := h .b .b
  cases st <;> simp_all [stateOf]

lemma keysAgree_settled (replaces : Bool) : KeysAgree (stateOf X replaces .settled) :=
  ⟨sharedKey X 0 0, rfl, rfl⟩

lemma not_keysAgree_parted (hX : X.Lawful) (replaces : Bool) :
    ¬ KeysAgree (stateOf X replaces .parted) := by
  rintro ⟨k, ha, hb⟩
  have he := Option.some.inj (ha.trans hb.symm)
  cases replaces with
  | true => exact absurd (hX.dh_fresh 0 0 1 1 he).1 (by decide)
  | false => exact absurd (hX.dh_fresh 1 1 0 0 he).1 (by decide)

lemma run_eq_stateOf (hX : X.Lawful) (replaces : Bool) (schedule : List Delivery) :
    schedule.foldl (deliver replaces) (start X) =
      stateOf X replaces (schedule.foldl next .asked) := by
  rw [start_eq replaces]
  exact foldl_simulates (deliver_stateOf hX replaces) .asked schedule

lemma ackFirst_iff_orderly (hX : X.Lawful) (replaces : Bool) (schedule : List Delivery) :
    Guarded (deliver replaces) AckFirst (start X) schedule ↔
      Orderly (schedule.foldl next .asked) := by
  have ho : Orderly .asked := trivial
  rw [start_eq replaces, guarded_simulates (deliver_stateOf hX replaces)]
  exact (guarded_iff_last (orderly_next_iff replaces) not_orderly_next ho schedule).symm

theorem keysAgree_iff_ackFirst (hX : X.Lawful) (replaces : Bool) (schedule : List Delivery)
    (hd : AllDelivered (schedule.foldl (deliver replaces) (start X))) :
    KeysAgree (schedule.foldl (deliver replaces) (start X)) ↔
      Guarded (deliver replaces) AckFirst (start X) schedule := by
  rw [run_eq_stateOf hX] at hd ⊢
  rw [ackFirst_iff_orderly hX]
  rcases allDelivered_stateOf hd with h | h
  · rw [h]
    exact iff_of_true (keysAgree_settled replaces) trivial
  · rw [h]
    exact iff_of_false (not_keysAgree_parted hX replaces) id

def pairExchange : KeyExchange where
  Secret := ℕ
  PublicKey := ℕ
  SharedKey := ℕ × ℕ
  isZero pk := pk == 0
  zeroKey := 0
  publicKey s := s + 1
  dh s pk := (min s (pk - 1), max s (pk - 1))
  secret p n := match p with
    | .a => 2 * n
    | .b => 2 * n + 1

lemma pairExchange_lawful : pairExchange.Lawful where
  isZero_zeroKey := rfl
  isZero_publicKey _ := rfl
  dh_comm s t := Prod.ext (Nat.min_comm s t) (Nat.max_comm s t)
  dh_fresh i j i' j' h := by
    simp only [pairExchange, Prod.mk.injEq] at h
    omega

lemma parted_allDelivered (replaces : Bool) : AllDelivered (stateOf X replaces .parted) := by
  intro d r
  cases d <;> cases r <;> rfl

lemma settled_allDelivered (replaces : Bool) : AllDelivered (stateOf X replaces .settled) := by
  intro d r
  cases d <;> cases r <;> rfl

theorem keysAgree_ack_before_return :
    KeysAgree (([⟨.a, .b⟩, ⟨.a, .a⟩, ⟨.b, .a⟩, ⟨.b, .b⟩] : List Delivery).foldl (deliver true)
      (start pairExchange)) := by
  apply (keysAgree_iff_ackFirst pairExchange_lawful true _ ?_).mpr
  · rw [ackFirst_iff_orderly pairExchange_lawful]
    trivial
  · rw [run_eq_stateOf pairExchange_lawful]
    exact settled_allDelivered true

theorem crossed_handshakes_disagree :
    ¬ (∀ X : KeyExchange, X.Lawful → ∀ schedule : List Delivery,
      AllDelivered (schedule.foldl (deliver true) (start X)) →
        KeysAgree (schedule.foldl (deliver true) (start X))) ∧
    ¬ (∀ X : KeyExchange, X.Lawful → ∀ schedule : List Delivery,
      AllDelivered (schedule.foldl (deliver false) (start X)) →
        KeysAgree (schedule.foldl (deliver false) (start X))) := by
  refine ⟨fun h => ?_, fun h => ?_⟩
  all_goals
    have hk := h pairExchange pairExchange_lawful [⟨.a, .b⟩, ⟨.b, .a⟩, ⟨.a, .a⟩, ⟨.b, .b⟩]
    rw [run_eq_stateOf pairExchange_lawful] at hk
    exact not_keysAgree_parted pairExchange_lawful _ (hk (parted_allDelivered _))

end ZzP2p.Protocols.SessionKeys
