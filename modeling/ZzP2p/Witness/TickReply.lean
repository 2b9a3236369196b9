import ZzP2p.Protocols.SeedBinding
import ZzP2p.Witness.SeedDigest

/-! The hash that a tick carries. A node that sends a tick puts the hash of its ring there; a node that
replies puts the hash of the seed list there, which is taken over other fields of the records. -/

namespace ZzP2p.Witness

open Lib Rust Protocols

/-- a tick with the fields that no comparison reads -/
structure TickMessage extends TickCommand where
  dailyEpoch : UInt64
  slot : UInt64
  challenge : Bytes

variable (sha256 : Bytes → Digest)

def buildTickCommand (node : Option NodeRegistry) (order : Order) (firstSeen : Clock) : TickMessage :=
  let seedRecords := node.elim [] (getWitnessRingFromRegistry order firstSeen)
  let ringHash := computeWitnessRingHash sha256 seedRecords
  { seeds := if seedRecords = [] then none else some (.new sha256 seedRecords)
    ringHash := ringHash
    dailyEpoch := 0
    slot := 0
    challenge := [] }

def tickReply (s : State) (tick : TickMessage) (h : Handling) : TickMessage :=
  let localRing := getWitnessRing sha256 s tick.toTickCommand h
  let mergedSeeds := SeedsCommand.new sha256 localRing
  { seeds := some mergedSeeds
    ringHash := mergedSeeds.hash
    dailyEpoch := tick.dailyEpoch
    slot := tick.slot
    challenge := [] }

def sockets (reg : NodeRegistry) : List SocketAddr := reg.getAllSeeds.map Prod.fst

/-- The tick carries the hash of the ring `ring` that its sender read in the registry `reg`, and whoever
has the same sockets when it handles the tick finds its own hash in it. -/
structure CarriesRingHash (reg : NodeRegistry) (ring : List SeedRecord) (tick : TickMessage) : Prop where
  hash : tick.ringHash = computeWitnessRingHash sha256 ring
  agrees : ∀ (s : State) (h : Handling),
    (sockets (registryAt sha256 s tick.toTickCommand h)).Perm (sockets reg) →
    computeWitnessRingHash sha256 (getWitnessRing sha256 s tick.toTickCommand h) = tick.ringHash

/-- seconds within the range of chrono's dates, some 262000 years before and after the year zero -/
def ChronoSecond (t : Int64) : Prop := -(2 : ℤ) ^ 43 ≤ t.toInt ∧ t.toInt < 2 ^ 43

instance (t : Int64) : Decidable (ChronoSecond t) := inferInstanceAs (Decidable (_ ∧ _))

def EndsInDigit (bytes : Bytes) : Prop := ∃ b ∈ bytes.getLast?, 48 ≤ b.toNat ∧ b.toNat ≤ 57

section Bytes

variable {sha256} {order : Order} {firstSeen : Clock} {t : Int64} {reg : NodeRegistry}

lemma EndsInDigit.ne_nil {bytes : Bytes} (h : EndsInDigit bytes) : bytes ≠ [] := by
  rintro rfl
  obtain ⟨b, hb, -⟩ := h
  cases hb

lemma endsInDigit_flatMap_iff {α : Type*} {f : α → Bytes} {l : List α} (hl : l ≠ [])
    (hf : ∀ x ∈ l, f x ≠ []) : EndsInDigit (l.flatMap f) ↔ EndsInDigit (f (l.getLast hl)) := by
  have hlast := hf _ (List.getLast_mem hl)
  have hbytes : l.flatMap f = l.dropLast.flatMap f ++ f (l.getLast hl) := by
    rw [← List.flatMap_singleton f (l.getLast hl), ← List.flatMap_append, List.dropLast_append_getLast]
  rw [EndsInDigit, hbytes, List.getLast?_append_of_ne_nil _ hlast, ← EndsInDigit]

lemma endsInDigit_sortedBytes {l : List String} (hl : l ≠ []) (h : ∀ x ∈ l, EndsInDigit (utf8 x)) :
    EndsInDigit (sortedBytes l) := by
  have hsorted : ∀ x ∈ l.insertionSort (· ≤ ·), EndsInDigit (utf8 x) := by
    intro x hx
    exact h x ((List.mem_insertionSort _).mp hx)
  have hne : l.insertionSort (· ≤ ·) ≠ [] := by
    rw [← List.length_pos_iff, List.length_insertionSort]
    exact List.length_pos_iff.mpr hl
  rw [sortedBytes, endsInDigit_flatMap_iff hne (fun x hx => (hsorted x hx).ne_nil)]
  exact hsorted _ (List.getLast_mem hne)

lemma endsInDigit_decimal (cs : List Char) (n : ℕ) :
    EndsInDigit (utf8 (String.ofList (cs ++ decimal n))) := by
  obtain ⟨s, d, hd, hn, -⟩ := Numerals.repr_last n
  have hdecimal : decimal n = s.toList ++ d.repr.toList := by
    rw [decimal, ← Nat.toList_repr, hn, String.toList_append]
  have hbytes : utf8 (String.ofList (cs ++ decimal n)) =
      utf8 (String.ofList (cs ++ s.toList)) ++ utf8 d.repr := by
    simp [utf8, hdecimal]
  have hdigit : ∃ b : UInt8, utf8 d.repr = [b] ∧ 48 ≤ b.toNat ∧ b.toNat ≤ 57 := by
    interval_cases d <;> exact ⟨_, rfl, by decide⟩
  obtain ⟨b, hb, hrange⟩ := hdigit
  refine ⟨b, ?_, hrange⟩
  rw [hbytes, hb, List.getLast?_concat]
  rfl

lemma endsInDigit_display (s : SocketAddr) : EndsInDigit (utf8 s.display) := by
  rw [SocketAddr.display]
  cases s with
  | v4 ip port =>
    have htext : (SocketAddr.v4 ip port).text = (ip.text ++ [':']) ++ decimal port.toNat := by
      simp [SocketAddr.text]
    rw [htext]
    exact endsInDigit_decimal _ _
  | v6 ip port flowinfo scopeId =>
    rw [SocketAddr.text]
    split
    · exact endsInDigit_decimal _ _
    · exact endsInDigit_decimal _ _

/-- Of a time within the range, the most significant byte is all zeroes or all ones. -/
lemma not_endsInDigit_leBytes (ht : ChronoSecond t) (bytes : Bytes) :
    ¬ EndsInDigit (bytes ++ leBytes t.toUInt64) := by
  rintro ⟨b, hb, hlo, hhi⟩
  have hlast : (bytes ++ leBytes t.toUInt64).getLast? = some (t.toUInt64 >>> 56).toUInt8 := by
    rw [leBytes, List.range_succ, List.map_append, ← List.append_assoc, List.map_singleton,
      List.getLast?_concat]
    rfl
  rw [hlast] at hb
  obtain rfl := Option.some.inj hb
  have hbyte : (t.toUInt64 >>> 56).toUInt8.toNat = t.toUInt64.toNat / 2 ^ 56 % 256 := by
    rw [UInt64.toNat_toUInt8, UInt64.toNat_shiftRight]
    rw [Nat.shiftRight_eq_div_pow]
    rfl
  have hint : t.toInt = if 2 * t.toUInt64.toNat < 2 ^ 64 then (t.toUInt64.toNat : ℤ)
      else (t.toUInt64.toNat : ℤ) - 2 ^ 64 := BitVec.toInt_eq_toNat_cond t.toBitVec
  obtain ⟨hmin, hmax⟩ := ht
  have hlt := t.toUInt64.toNat_lt
  rw [hbyte] at hlo hhi
  split at hint
  · omega
  · omega

lemma perm_addresses_ring : ((getWitnessRingFromRegistry order firstSeen reg).map SeedRecord.address).Perm
    ((sockets reg).map SocketAddr.display) := by
  have hmap : (seedRecords firstSeen reg).map SeedRecord.address = (sockets reg).map SocketAddr.display := by
    simp [seedRecords, sockets, Function.comp_def]
  rw [← hmap]
  exact (order.perm _).map _

lemma firstSeen_ring {seed : SeedRecord} (h : seed ∈ getWitnessRingFromRegistry order firstSeen reg) :
    ∃ p, seed.firstSeen = firstSeen p := by
  obtain ⟨p, -, rfl⟩ := List.mem_map.mp ((order.perm _).mem_iff.mp h)
  exact ⟨p, rfl⟩

lemma ring_eq_nil : getWitnessRingFromRegistry order firstSeen reg = [] ↔ reg.getAllSeeds = [] := by
  have hperm := order.perm (seedRecords firstSeen reg)
  rw [getWitnessRingFromRegistry, ← List.length_eq_zero_iff, hperm.length_eq, seedRecords, List.length_map,
    List.length_eq_zero_iff]

lemma endsInDigit_ringHashInput (h : getWitnessRingFromRegistry order firstSeen reg ≠ []) :
    EndsInDigit (ringHashInput (getWitnessRingFromRegistry order firstSeen reg)) := by
  apply endsInDigit_sortedBytes
  · exact fun he => h (List.map_eq_nil_iff.mp he)
  · intro x hx
    rw [perm_addresses_ring.mem_iff] at hx
    obtain ⟨s, -, rfl⟩ := List.mem_map.mp hx
    exact endsInDigit_display s

lemma not_endsInDigit_hashInput {seeds : List SeedRecord} (hne : seeds ≠ [])
    (ht : ∀ seed ∈ seeds, ChronoSecond seed.firstSeen) : ¬ EndsInDigit (SeedsCommand.hashInput seeds) := by
  have hbytes : ∀ seed ∈ seeds.insertionSort (fun a b => a.nodeAddress ≤ b.nodeAddress),
      utf8 seed.nodeAddress ++ leBytes seed.firstSeen.toUInt64 ≠ [] := by
    intro seed _ he
    have hlen := congrArg List.length he
    simp at hlen
  have hsorted : seeds.insertionSort (fun a b => a.nodeAddress ≤ b.nodeAddress) ≠ [] := by
    rw [← List.length_pos_iff, List.length_insertionSort]
    exact List.length_pos_iff.mpr hne
  rw [SeedsCommand.hashInput, endsInDigit_flatMap_iff hsorted hbytes]
  exact not_endsInDigit_leBytes (ht _ ((List.mem_insertionSort _).mp (List.getLast_mem hsorted))) _

/-- The two byte strings end differently, so they agree only where both are empty. -/
lemma hashInputs_eq_iff (ht : ∀ p, ChronoSecond (firstSeen p)) :
    SeedsCommand.hashInput (SeedsCommand.dedup (getWitnessRingFromRegistry order firstSeen reg) ∅) =
      ringHashInput (getWitnessRingFromRegistry order firstSeen reg) ↔ reg.getAllSeeds = [] := by
  have hnil : getWitnessRingFromRegistry order firstSeen reg = [] ↔ reg.getAllSeeds = [] := ring_eq_nil
  rw [← hnil]
  constructor
  · intro he
    by_contra hne
    have hdedup : SeedsCommand.dedup (getWitnessRingFromRegistry order firstSeen reg) ∅ ≠ [] := by
      obtain ⟨seed, seeds, hring⟩ := List.exists_cons_of_ne_nil hne
      rw [hring]
      simp [SeedsCommand.dedup]
    apply not_endsInDigit_hashInput hdedup
    · intro seed hseed
      obtain ⟨p, hp⟩ := firstSeen_ring (SeedsCommand.mem_of_mem_dedup hseed)
      rw [hp]
      exact ht p
    · rw [he]
      exact endsInDigit_ringHashInput hne
  · intro he
    rw [he]
    rfl

end Bytes

variable {sha256} in
lemma carriesRingHash_iff {reg : NodeRegistry} {ring : List SeedRecord} {tick : TickMessage}
    (hring : (ring.map SeedRecord.address).Perm ((sockets reg).map SocketAddr.display)) :
    CarriesRingHash sha256 reg ring tick ↔ tick.ringHash = computeWitnessRingHash sha256 ring := by
  refine ⟨fun h => h.hash, fun h => ⟨h, fun s h' hperm => ?_⟩⟩
  have hlocal : ((getWitnessRing sha256 s tick.toTickCommand h').map SeedRecord.address).Perm
      (ring.map SeedRecord.address) :=
    perm_addresses_ring.trans ((hperm.map SocketAddr.display).trans hring.symm)
  rw [h, computeWitnessRingHash, computeWitnessRingHash, insertionSort_congr hlocal]

theorem ring_hash_carried_iff (sha256 : Bytes → Digest) (s : State) (tick : TickMessage) (h : Handling)
    (hclock : ∀ p, ChronoSecond (h.firstSeen p))
    (hsha : NoCollision sha256
      (SeedsCommand.hashInput (SeedsCommand.dedup (getWitnessRing sha256 s tick.toTickCommand h) ∅))
      (ringHashInput (getWitnessRing sha256 s tick.toTickCommand h))) :
    (∀ (node : Option NodeRegistry) (order : Order) (firstSeen : Clock),
      CarriesRingHash sha256 (node.getD .empty) (node.elim [] (getWitnessRingFromRegistry order firstSeen))
        (buildTickCommand sha256 node order firstSeen)) ∧
    (CarriesRingHash sha256 (registryAt sha256 s tick.toTickCommand h)
        (getWitnessRing sha256 s tick.toTickCommand h) (tickReply sha256 s tick h) ↔
      (registryAt sha256 s tick.toTickCommand h).getAllSeeds = []) := by
  constructor
  · intro node order firstSeen
    refine (carriesRingHash_iff ?_).mpr rfl
    cases node with
    | none => exact .refl _
    | some reg => exact perm_addresses_ring
  · have hring : ((getWitnessRing sha256 s tick.toTickCommand h).map SeedRecord.address).Perm
        ((sockets (registryAt sha256 s tick.toTickCommand h)).map SocketAddr.display) := perm_addresses_ring
    have hinputs : SeedsCommand.hashInput
        (SeedsCommand.dedup (getWitnessRing sha256 s tick.toTickCommand h) ∅) =
          ringHashInput (getWitnessRing sha256 s tick.toTickCommand h) ↔
        (registryAt sha256 s tick.toTickCommand h).getAllSeeds = [] := hashInputs_eq_iff hclock
    rw [carriesRingHash_iff hring, ← hinputs]
    exact ⟨fun he => hsha he, fun he => congrArg sha256 he⟩

def plainHandling : Handling := ⟨[], ⟨id, List.Perm.refl⟩, 1700000000, 0⟩

lemma plain_clock (p : SocketAddr × String) : ChronoSecond (plainHandling.firstSeen p) := by
  have h : ChronoSecond 1700000000 := by decide
  exact h

def emptyTick : TickMessage := buildTickCommand Sha256.digest none plainHandling.order 0

theorem ring_hash_carried_empty :
    CarriesRingHash Sha256.digest .empty [] (tickReply Sha256.digest start emptyTick plainHandling) :=
  (ring_hash_carried_iff Sha256.digest start emptyTick plainHandling plain_clock (fun _ => rfl)).2.mpr rfl

theorem reply_carries_seed_hash :
    ¬ ∀ (sha256 : Bytes → Digest) (s : State) (tick : TickMessage) (h : Handling),
      (∀ p, ChronoSecond (h.firstSeen p)) → (tickReply sha256 s tick h).ringHash =
        computeWitnessRingHash sha256 (getWitnessRing sha256 s tick.toTickCommand h) := by
  intro h
  have he := h Sha256.digest { start with registry := NodeRegistry.empty.register "n" (.v4 ⟨1, 2, 3, 4⟩ 80) }
    emptyTick plainHandling plain_clock
  revert he
  decide +kernel

end ZzP2p.Witness
