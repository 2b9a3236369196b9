import Mathlib.Order.SupIndep
import ZzP2p.Lib.Runs

/-! Values that spread over a network. A node sends what it holds, the receiver joins it to what it
holds itself and may be asked to send the join back. Packets arrive in any order and may be lost. -/

namespace ZzP2p.Lib.Spread

open Runs

variable {ι α β γ : Type*}

structure Packet (ι α : Type*) where
  src : ι
  dest : ι
  payload : α
  asks : Bool

structure Network (ι α : Type*) where
  held : ι → α
  flight : List (Packet ι α)

inductive Event (ι : Type*)
  | send (src dest : ι)
  | deliver (k : ℕ)
  | lose (k : ℕ)

def start (held : ι → α) : Network ι α := ⟨held, []⟩

def receive [DecidableEq ι] [Max α] (held : ι → α) (p : Packet ι α) : ι → α :=
  Function.update held p.dest (held p.dest ⊔ p.payload)

def reply [Max α] (held : ι → α) (p : Packet ι α) : List (Packet ι α) :=
  if p.asks then [⟨p.dest, p.src, held p.dest ⊔ p.payload, false⟩] else []

def step [DecidableEq ι] [Max α] (s : Network ι α) : Event ι → Network ι α
  | .send src dest => { s with flight := s.flight ++ [⟨src, dest, s.held src, true⟩] }
  | .deliver k => match s.flight[k]? with
    | some p => ⟨receive s.held p, s.flight.eraseIdx k ++ reply s.held p⟩
    | none => s
  | .lose k => { s with flight := s.flight.eraseIdx k }

def Packet.map (f : α → β) (p : Packet ι α) : Packet ι β := ⟨p.src, p.dest, f p.payload, p.asks⟩

def Network.map (f : α → β) (s : Network ι α) : Network ι β :=
  ⟨fun i => f (s.held i), s.flight.map (Packet.map f)⟩

lemma reply_map [Max α] [Max β] {f : α → β} (hf : ∀ x y, f (x ⊔ y) = f x ⊔ f y) (held : ι → α)
    (p : Packet ι α) : reply (fun i => f (held i)) (p.map f) = (reply held p).map (Packet.map f) := by
  cases ha : p.asks <;> simp [reply, Packet.map, ha, hf]

variable [DecidableEq ι]

lemma receive_map [Max α] [Max β] {f : α → β} (hf : ∀ x y, f (x ⊔ y) = f x ⊔ f y) (held : ι → α)
    (p : Packet ι α) (i : ι) : receive (fun i => f (held i)) (p.map f) i = f (receive held p i) := by
  by_cases hi : i = p.dest
  · subst hi
    simp [receive, Packet.map, hf]
  · simp [receive, Packet.map, hi]

/-- A map that respects joins commutes with every step. -/
lemma step_map [Max α] [Max β] {f : α → β} (hf : ∀ x y, f (x ⊔ y) = f x ⊔ f y) (s : Network ι α)
    (e : Event ι) : step (s.map f) e = (step s e).map f := by
  cases e with
  | send src dest => simp [step, Network.map, Packet.map]
  | deliver k =>
    simp only [step, Network.map, List.getElem?_map]
    cases s.flight[k]? with
    | none => rfl
    | some p =>
      simp only [Option.map_some, reply_map hf, List.map_append, List.eraseIdx_map]
      congr 1
      funext i
      exact receive_map hf s.held p i
  | lose k => simp [step, Network.map, List.eraseIdx_map]

/-- the nodes whose first value has reached a node, carried along by the packets of the run -/
def origins (events : List (Event ι)) (i : ι) : Finset ι :=
  (events.foldl step (start (fun i => {i}))).held i

/-- What a node holds is the union of what the nodes that reached it held at the start. -/
lemma held_run (init : ι → Set γ) (events : List (Event ι)) (i : ι) :
    (events.foldl step (start init)).held i = ⋃ o ∈ origins events i, init o := by
  have hf : ∀ x y : Finset ι, ⋃ o ∈ x ⊔ y, init o = (⋃ o ∈ x, init o) ⊔ ⋃ o ∈ y, init o :=
    fun x y => Finset.set_biUnion_union x y init
  have hstart : start init = (start (fun i => ({i} : Finset ι))).map (fun x => ⋃ o ∈ x, init o) := by
    simp [start, Network.map]
  rw [hstart, foldl_simulates (step_map hf)]
  rfl

def exchange (p : ι × ι) : List (Event ι) := [.send p.1 p.2, .deliver 0, .deliver 0]

def exchanges (ps : List (ι × ι)) : List (Event ι) := ps.flatMap exchange

lemma flight_exchanges [Max α] (ps : List (ι × ι)) (held : ι → α) :
    ((exchanges ps).foldl step (start held)).flight = [] := by
  induction ps generalizing held with
  | nil => rfl
  | cons p ps ih =>
    rw [exchanges, List.flatMap_cons, List.foldl_append]
    exact ih _

lemma run_exchanges [Max α] (ps : List (ι × ι)) (held : ι → α) :
    (exchanges ps).foldl step (start held) = start ((exchanges ps).foldl step (start held)).held :=
  congrArg (Network.mk _) (flight_exchanges ps held)

/-- Origins compose: what reaches a node in the second part was gathered in the first. -/
lemma mem_origins_append (ps qs : List (ι × ι)) (i j : ι) :
    j ∈ origins (exchanges (ps ++ qs)) i ↔
      ∃ h ∈ origins (exchanges qs) i, j ∈ origins (exchanges ps) h := by
  have hcoe : ∀ x y : Finset ι, ((x ⊔ y : Finset ι) : Set ι) = (x : Set ι) ⊔ (y : Set ι) :=
    Finset.coe_union
  have hfirst := run_exchanges ps (fun i => ({i} : Finset ι))
  have hrun : ((origins (exchanges (ps ++ qs)) i : Finset ι) : Set ι) =
      ((exchanges qs).foldl step (start (fun h => (origins (exchanges ps) h : Set ι)))).held i := by
    have hmap : start (fun h => ((origins (exchanges ps) h : Finset ι) : Set ι)) =
        (start (origins (exchanges ps))).map (fun x : Finset ι => (x : Set ι)) := rfl
    rw [hmap, foldl_simulates (step_map hcoe), origins, exchanges, List.flatMap_append, List.foldl_append]
    change _ = (((exchanges qs).foldl step
      (start ((exchanges ps).foldl step (start fun i => ({i} : Finset ι))).held)).held i : Set ι)
    rw [← hfirst]
    rfl
  rw [← Finset.mem_coe, hrun, held_run]
  simp

/-- If the first part brings every value to one node and the second part brings that node's values
to every node, then every node ends up with all values. -/
lemma origins_gather {ps qs : List (ι × ι)} {h : ι} (hgather : ∀ j, j ∈ origins (exchanges ps) h)
    (hscatter : ∀ i, h ∈ origins (exchanges qs) i) (i j : ι) : j ∈ origins (exchanges (ps ++ qs)) i :=
  (mem_origins_append ps qs i j).mpr ⟨h, hscatter i, hgather j⟩

end ZzP2p.Lib.Spread
