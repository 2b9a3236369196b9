import Mathlib.Tactic.DeriveEncodable
import ZzP2p.Availability
import ZzP2p.ConnectTo
import ZzP2p.Rust.Text

/-! A node that is started, works and ends, again and again, on one storage. A start reads the identity
twice and both registries once; what it had learned is saved at some of its steps only, and an end
without `stop` saves nothing. -/

namespace ZzP2p.Lifecycle

open Rust Record IoStorage ConnectTo

variable {storage : Storage} {Identity : Type}

structure Process (Identity : Type) where
  /-- the identity in the global context -/
  address : Identity
  /-- the identity of the node itself -/
  id : Identity
  inner : NodeRegistry
  external : NodeRegistry

structure Machine (storage : Storage) (Identity : Type) where
  files : storage.State
  running : Option (Process Identity)

/-- what a start is given: the seeds of the command line, the identities that would be drawn, and the
readings of the clock -/
structure Start (Identity : Type) where
  seeds : Option String
  draws : Fin 4 → Identity
  innerClock : SocketAddr → ℤ
  externalClock : SocketAddr → ℤ
  innerReadings : ℕ → Readings
  externalReadings : ℕ → Readings

inductive Event (Identity : Type)
  | start (s : Start Identity)
  | connectTo (connect : SocketAddr → Except String Unit) (t t' : Readings) (peerAddr : String)
  | syncFromConnections (nowUtc : ℤ) (connections : List Connection)
  | stop
  | crash

def seedAddrs (seeds : Option String) : List SocketAddr :=
  seeds.elim [] (fun text => (text.toList.splitOn ',').filterMap (fun s => SocketAddr.parse (String.ofList (trim s))))

def addSeeds (readings : ℕ → Readings) (reg : NodeRegistry) (addrs : List SocketAddr) : NodeRegistry :=
  (addrs.zipIdx).foldl (fun reg p => reg.upsert ((readings p.2).call p.1 true)) reg

def syncScoped (isExtranet : IpAddr → Bool) (nowUtc : ℤ) (p : Process Identity) (c : Connection) :
    Process Identity :=
  if isExtranet c.addr.ip then { p with external := p.external.syncConnection nowUtc c }
  else { p with inner := p.inner.syncConnection nowUtc c }

def syncFromConnections (isExtranet : IpAddr → Bool) (nowUtc : ℤ) (connections : List Connection)
    (p : Process Identity) : Process Identity :=
  connections.foldl (syncScoped isExtranet nowUtc) p

section

variable (serde : (k : Kind) → Serde (k.Value Identity)) (opt : Opt) (isExtranet : IpAddr → Bool)

def saved (m : Machine storage Identity) (p : Process Identity) : Machine storage Identity :=
  let node := saveRegistries serde (ioStorageInit storage serde opt) ⟨p.inner, p.external, m.files⟩
  ⟨node.files, some p⟩

def init (s : Start Identity) (files : storage.State) : Machine storage Identity :=
  let ios := ioStorageInit storage serde opt
  let (address, files) := ios.read serde .freeWebMovementAddress STORAGE_ADDRESS (s.draws 0) files
  let (id, files) := ios.read serde .freeWebMovementAddress STORAGE_ADDRESS (s.draws 2) files
  let (innerNodes, files) := ios.read serde .nodeRecords STORAGE_INNER_SERVER (s.draws 0) files
  let (externalNodes, files) := ios.read serde .nodeRecords STORAGE_EXTERNAL_SERVER (s.draws 0) files
  let p : Process Identity :=
    { address := address.getD (s.draws 1)
      id := id.getD (s.draws 3)
      inner := .new (innerNodes.getD .empty) s.innerClock
      external := .new (externalNodes.getD .empty) s.externalClock }
  if s.seeds.isSome then
    saved serde opt ⟨files, none⟩ { p with
      inner := addSeeds s.innerReadings p.inner (seedAddrs s.seeds)
      external := addSeeds s.externalReadings p.external (seedAddrs s.seeds) }
  else ⟨files, some p⟩

def work (m : Machine storage Identity) (p : Process Identity) : Event Identity → Machine storage Identity
  | .start _ => m
  | .connectTo connect t t' peerAddr =>
    let (_, node) := ConnectTo.connectTo serde (ioStorageInit storage serde opt) connect t t' peerAddr
      ⟨p.inner, p.external, m.files⟩
    ⟨node.files, some { p with inner := node.inner, external := node.external }⟩
  -- the registries are not saved here: the call that would do it is never awaited
  | .syncFromConnections nowUtc connections =>
    { m with running := some (syncFromConnections isExtranet nowUtc connections p) }
  | .stop => { saved serde opt m p with running := none }
  | .crash => { m with running := none }

def step (m : Machine storage Identity) (e : Event Identity) : Machine storage Identity :=
  match m.running, e with
  | none, .start s => init serde opt s m.files
  | none, _ => m
  | some p, e => work serde opt isExtranet m p e

end

/-- What a storage of one's own would keep: the identity that was drawn first, and the registries at the
last save. -/
structure Kept (Identity : Type) where
  identity : Option Identity
  inner : NodeRegistry
  external : NodeRegistry

structure Ideal (Identity : Type) where
  kept : Kept Identity
  running : Option (NodeRegistry × NodeRegistry)

namespace Ideal

def save (s : Ideal Identity) (inner external : NodeRegistry) : Ideal Identity :=
  ⟨{ s.kept with inner := inner, external := external }, some (inner, external)⟩

def start (s : Ideal Identity) (e : Start Identity) : Ideal Identity :=
  let identity := s.kept.identity.getD (e.draws 0)
  let inner := NodeRegistry.new s.kept.inner e.innerClock
  let external := NodeRegistry.new s.kept.external e.externalClock
  let s := { s with kept := { s.kept with identity := some identity } }
  if e.seeds.isSome then
    s.save (addSeeds e.innerReadings inner (seedAddrs e.seeds))
      (addSeeds e.externalReadings external (seedAddrs e.seeds))
  else { s with running := some (inner, external) }

def sync (isExtranet : IpAddr → Bool) (nowUtc : ℤ) (regs : NodeRegistry × NodeRegistry) (c : Connection) :
    NodeRegistry × NodeRegistry :=
  if isExtranet c.addr.ip then (regs.1, regs.2.syncConnection nowUtc c)
  else (regs.1.syncConnection nowUtc c, regs.2)

def work (isExtranet : IpAddr → Bool) (s : Ideal Identity) (regs : NodeRegistry × NodeRegistry) :
    Event Identity → Ideal Identity
  | .start _ => s
  | .connectTo connect t t' peerAddr =>
    match SocketAddr.parse peerAddr with
    | none => s
    | some addr =>
      let inner := regs.1.upsert (t.call addr true)
      let external := regs.2.upsert (t'.call addr true)
      match connect addr with
      | .error _ => { s with running := some (inner, external) }
      | .ok () => s.save inner external
  | .syncFromConnections nowUtc connections =>
    { s with running := some (connections.foldl (sync isExtranet nowUtc) regs) }
  | .stop => { s.save regs.1 regs.2 with running := none }
  | .crash => { s with running := none }

def step (isExtranet : IpAddr → Bool) (s : Ideal Identity) (e : Event Identity) : Ideal Identity :=
  match s.running, e with
  | none, .start e => s.start e
  | none, _ => s
  | some regs, e => s.work isExtranet regs e

end Ideal

def addressFile (opt : Opt) : String := opt.addressFile.getD "address.json"

def innerFile (opt : Opt) : String := opt.innerServerFile.getD "inner-server-list.json"

def externalFile (opt : Opt) : String := opt.externalServerFile.getD "external-server-list.json"

def storageFiles (opt : Opt) : List String := [addressFile opt, innerFile opt, externalFile opt]

/-- A storage that works: it reads what is in the file, a save always succeeds and changes one of the three
files, and what was written can be read. -/
structure Lawful (storage : Storage) (serde : (k : Kind) → Serde (k.Value Identity)) (opt : Opt) : Prop where
  missing : ∀ {T : Type} (sd : Serde T) s file, storage.content s file = none →
    storage.read sd s file = .ok none
  present : ∀ {T : Type} (sd : Serde T) s file bytes v, storage.content s file = some bytes →
    sd.deserialize bytes = some v → storage.read sd s file = .ok (some v)
  replaces : ∀ {T : Type} (sd : Serde T) s file v, storage.content (storage.save sd s file v).2 file =
    some (sd.serialize v)
  others : ∀ {T : Type} (sd : Serde T) s v, ∀ file ∈ storageFiles opt, ∀ other ∈ storageFiles opt,
    other ≠ file → storage.content (storage.save sd s file v).2 other = storage.content s other
  round_trip : ∀ k v, (serde k).deserialize ((serde k).serialize v) = some v

structure Separate (opt : Opt) : Prop where
  inner : addressFile opt ≠ innerFile opt
  external : addressFile opt ≠ externalFile opt
  servers : innerFile opt ≠ externalFile opt

section

variable {serde : (k : Kind) → Serde (k.Value Identity)} {opt : Opt} {files : storage.State}

/-- A file that was never written stands for its default value. -/
def Holds (serde : (k : Kind) → Serde (k.Value Identity)) (files : storage.State) (file : String)
    (reg : NodeRegistry) : Prop :=
  storage.content files file = some ((serde .nodeRecords).serialize reg) ∨
    storage.content files file = none ∧ reg = .empty

structure Stored (serde : (k : Kind) → Serde (k.Value Identity)) (opt : Opt) (files : storage.State)
    (kept : Kept Identity) : Prop where
  identity : storage.content files (addressFile opt) =
    kept.identity.map (serde .freeWebMovementAddress).serialize
  inner : Holds serde files (innerFile opt) kept.inner
  external : Holds serde files (externalFile opt) kept.external

variable {k : Kind} {key path : String} {ios : IOStorage storage Identity} {random : Identity}

def fileEntry (storage : Storage) (serde : (k : Kind) → Serde (k.Value Identity)) (k : Kind) (path : String) :
    IOEntry storage Identity (k.Value Identity) :=
  storageEntry storage (serde k) path (fun random => defaultValue random k)

lemma read_present (h : Lawful storage serde opt) (hget : ios.get k key = some (fileEntry storage serde k path))
    {v : k.Value Identity} (hv : storage.content files path = some ((serde k).serialize v)) :
    ios.read serde k key random files = (some v, files) := by
  have hread := h.present (serde k) files path _ v hv (h.round_trip k v)
  simp only [IOStorage.read, hget, IoStorage.read, fileEntry, storageEntry, hread]

lemma read_missing (h : Lawful storage serde opt) (hget : ios.get k key = some (fileEntry storage serde k path))
    (hpath : path ∈ storageFiles opt) (hv : storage.content files path = none) :
    (ios.read serde k key random files).1 = some (defaultValue random k) ∧
      storage.content (ios.read serde k key random files).2 path =
        some ((serde k).serialize (defaultValue random k)) ∧
      ∀ other ∈ storageFiles opt, other ≠ path →
        storage.content (ios.read serde k key random files).2 other = storage.content files other := by
  have hread := h.missing (serde k) files path hv
  have hout : ios.read serde k key random files = (some (defaultValue random k),
      (storage.save (serde k) (storage.save (serde k) files path (defaultValue random k)).2 path
        (defaultValue random k)).2) := by
    simp only [IOStorage.read, hget, IoStorage.read, fileEntry, storageEntry, hread]
  rw [hout]
  refine ⟨rfl, h.replaces _ _ _ _, fun other hother hne => ?_⟩
  rw [h.others _ _ _ _ hpath _ hother hne, h.others _ _ _ _ hpath _ hother hne]

lemma read_registry (h : Lawful storage serde opt) {reg : NodeRegistry}
    (hget : ios.get .nodeRecords key = some (fileEntry storage serde .nodeRecords path))
    (hpath : path ∈ storageFiles opt) (hv : Holds serde files path reg) :
    (ios.read serde .nodeRecords key random files).1 = some reg ∧
      Holds serde (ios.read serde .nodeRecords key random files).2 path reg ∧
      ∀ other ∈ storageFiles opt, other ≠ path →
        storage.content (ios.read serde .nodeRecords key random files).2 other =
          storage.content files other := by
  rcases hv with hv | ⟨hv, rfl⟩
  · rw [read_present h hget hv]
    exact ⟨rfl, Or.inl hv, fun _ _ _ => rfl⟩
  · obtain ⟨hvalue, hfile, hothers⟩ := read_missing h hget hpath hv
    exact ⟨hvalue, Or.inl hfile, hothers⟩

lemma read_identity (h : Lawful storage serde opt) {identity : Option Identity}
    (hget : ios.get .freeWebMovementAddress key = some (fileEntry storage serde .freeWebMovementAddress path))
    (hpath : path ∈ storageFiles opt)
    (hv : storage.content files path = identity.map (serde .freeWebMovementAddress).serialize) :
    (ios.read serde .freeWebMovementAddress key random files).1 = some (identity.getD random) ∧
      storage.content (ios.read serde .freeWebMovementAddress key random files).2 path =
        some ((serde .freeWebMovementAddress).serialize (identity.getD random)) ∧
      ∀ other ∈ storageFiles opt, other ≠ path →
        storage.content (ios.read serde .freeWebMovementAddress key random files).2 other =
          storage.content files other := by
  cases identity with
  | none => exact read_missing h hget hpath hv
  | some v =>
    rw [read_present h hget hv]
    exact ⟨rfl, hv, fun _ _ _ => rfl⟩

lemma Holds.of_content {files files' : storage.State} {file : String} {reg : NodeRegistry}
    (h : Holds serde files file reg) (he : storage.content files' file = storage.content files file) :
    Holds serde files' file reg := by
  rw [Holds, he]
  exact h

lemma get_address : (ioStorageInit storage serde opt).get .freeWebMovementAddress STORAGE_ADDRESS =
    some (fileEntry storage serde .freeWebMovementAddress (addressFile opt)) := rfl

lemma get_inner : (ioStorageInit storage serde opt).get .nodeRecords STORAGE_INNER_SERVER =
    some (fileEntry storage serde .nodeRecords (innerFile opt)) := rfl

lemma get_external : (ioStorageInit storage serde opt).get .nodeRecords STORAGE_EXTERNAL_SERVER =
    some (fileEntry storage serde .nodeRecords (externalFile opt)) := rfl

lemma address_mem : addressFile opt ∈ storageFiles opt := List.mem_cons_self

lemma inner_mem : innerFile opt ∈ storageFiles opt := List.mem_cons_of_mem _ List.mem_cons_self

lemma external_mem : externalFile opt ∈ storageFiles opt :=
  List.mem_cons_of_mem _ (List.mem_cons_of_mem _ List.mem_cons_self)

lemma Stored.save (h : Lawful storage serde opt) (hs : Separate opt) {kept : Kept Identity}
    (hstored : Stored serde opt files kept) (inner external : NodeRegistry) :
    Stored serde opt (saveRegistries serde (ioStorageInit storage serde opt) ⟨inner, external, files⟩).files
      { kept with inner := inner, external := external } := by
  have hfiles : (saveRegistries serde (ioStorageInit storage serde opt) ⟨inner, external, files⟩).files =
      (storage.save (serde .nodeRecords) (storage.save (serde .nodeRecords) files (innerFile opt) inner).2
        (externalFile opt) external).2 := rfl
  rw [hfiles]
  refine ⟨?_, Or.inl ?_, Or.inl (h.replaces _ _ _ _)⟩
  · rw [h.others _ _ _ _ external_mem _ address_mem hs.external,
      h.others _ _ _ _ inner_mem _ address_mem hs.inner]
    exact hstored.identity
  · rw [h.others _ _ _ _ external_mem _ inner_mem hs.servers]
    exact h.replaces _ _ _ _

/-- A machine does what the ideal one does; the process has one identity, the one that is kept. -/
structure Follows (serde : (k : Kind) → Serde (k.Value Identity)) (opt : Opt) (m : Machine storage Identity)
    (s : Ideal Identity) : Prop where
  stored : Stored serde opt m.files s.kept
  running : (m.running = none ∧ s.running = none) ∨
    ∃ a regs, s.kept.identity = some a ∧ s.running = some regs ∧ m.running = some ⟨a, a, regs.1, regs.2⟩

lemma Stored.readAddress (h : Lawful storage serde opt) (hs : Separate opt) {kept : Kept Identity}
    (hstored : Stored serde opt files kept) (random : Identity) :
    let out := (ioStorageInit storage serde opt).read serde .freeWebMovementAddress STORAGE_ADDRESS random files
    out.1 = some (kept.identity.getD random) ∧
      Stored serde opt out.2 { kept with identity := some (kept.identity.getD random) } := by
  obtain ⟨hvalue, hfile, hothers⟩ := read_identity h get_address address_mem hstored.identity
  refine ⟨hvalue, hfile, ?_, ?_⟩
  · exact hstored.inner.of_content (hothers _ inner_mem hs.inner.symm)
  · exact hstored.external.of_content (hothers _ external_mem hs.external.symm)

lemma Stored.readInner (h : Lawful storage serde opt) (hs : Separate opt) {kept : Kept Identity}
    (hstored : Stored serde opt files kept) (random : Identity) :
    let out := (ioStorageInit storage serde opt).read serde .nodeRecords STORAGE_INNER_SERVER random files
    out.1 = some kept.inner ∧ Stored serde opt out.2 kept := by
  obtain ⟨hvalue, hfile, hothers⟩ := read_registry h get_inner inner_mem hstored.inner
  refine ⟨hvalue, ?_, hfile, hstored.external.of_content (hothers _ external_mem hs.servers.symm)⟩
  exact (hothers _ address_mem hs.inner).trans hstored.identity

lemma Stored.readExternal (h : Lawful storage serde opt) (hs : Separate opt) {kept : Kept Identity}
    (hstored : Stored serde opt files kept) (random : Identity) :
    let out := (ioStorageInit storage serde opt).read serde .nodeRecords STORAGE_EXTERNAL_SERVER random files
    out.1 = some kept.external ∧ Stored serde opt out.2 kept := by
  obtain ⟨hvalue, hfile, hothers⟩ := read_registry h get_external external_mem hstored.external
  refine ⟨hvalue, ?_, hstored.inner.of_content (hothers _ inner_mem hs.servers), hfile⟩
  exact (hothers _ address_mem hs.external).trans hstored.identity

lemma follows_saved (h : Lawful storage serde opt) (hs : Separate opt) {s : Ideal Identity} {a : Identity}
    {m : Machine storage Identity} (hstored : Stored serde opt m.files s.kept) (ha : s.kept.identity = some a)
    (inner external : NodeRegistry) :
    Follows serde opt (saved serde opt m ⟨a, a, inner, external⟩) (s.save inner external) :=
  ⟨hstored.save h hs inner external, Or.inr ⟨a, (inner, external), ha, rfl, rfl⟩⟩

lemma follows_init (h : Lawful storage serde opt) (hs : Separate opt) {s : Ideal Identity}
    (hstored : Stored serde opt files s.kept) (e : Start Identity) :
    Follows serde opt (init serde opt e files) (s.start e) := by
  obtain ⟨haddress, hstored₁⟩ := hstored.readAddress h hs (e.draws 0)
  obtain ⟨hid, hstored₂⟩ := hstored₁.readAddress h hs (e.draws 2)
  obtain ⟨hinner, hstored₃⟩ := hstored₂.readInner h hs (e.draws 0)
  obtain ⟨hexternal, hstored₄⟩ := hstored₃.readExternal h hs (e.draws 0)
  simp only [init, haddress, hid, hinner, hexternal, Option.getD_some, Ideal.start]
  split
  · exact follows_saved h hs hstored₄ rfl _ _
  · exact ⟨hstored₄, Or.inr ⟨_, _, rfl, rfl, rfl⟩⟩

lemma syncFromConnections_eq (isExtranet : IpAddr → Bool) (nowUtc : ℤ) (connections : List Connection)
    (a : Identity) (regs : NodeRegistry × NodeRegistry) :
    syncFromConnections isExtranet nowUtc connections ⟨a, a, regs.1, regs.2⟩ =
      ⟨a, a, (connections.foldl (Ideal.sync isExtranet nowUtc) regs).1,
        (connections.foldl (Ideal.sync isExtranet nowUtc) regs).2⟩ := by
  induction connections generalizing regs with
  | nil => rfl
  | cons c connections ih =>
    have hone : syncScoped isExtranet nowUtc ⟨a, a, regs.1, regs.2⟩ c =
        ⟨a, a, (Ideal.sync isExtranet nowUtc regs c).1, (Ideal.sync isExtranet nowUtc regs c).2⟩ := by
      simp only [syncScoped, Ideal.sync]
      split <;> rfl
    rw [syncFromConnections, List.foldl_cons, hone]
    exact ih _

lemma follows_work (h : Lawful storage serde opt) (hs : Separate opt) (isExtranet : IpAddr → Bool)
    {m : Machine storage Identity} {s : Ideal Identity} (hstored : Stored serde opt m.files s.kept)
    {a : Identity} {regs : NodeRegistry × NodeRegistry} (ha : s.kept.identity = some a)
    (hrunning : s.running = some regs) (hm : m.running = some ⟨a, a, regs.1, regs.2⟩) (e : Event Identity) :
    Follows serde opt (work serde opt isExtranet m ⟨a, a, regs.1, regs.2⟩ e) (s.work isExtranet regs e) := by
  cases e with
  | start e => exact ⟨hstored, Or.inr ⟨a, regs, ha, hrunning, hm⟩⟩
  | connectTo connect t t' peerAddr =>
    simp only [work, Ideal.work, ConnectTo.connectTo]
    cases SocketAddr.parse peerAddr with
    | none => exact ⟨hstored, Or.inr ⟨a, regs, ha, hrunning, rfl⟩⟩
    | some addr =>
      simp only
      cases connect addr with
      | error e => exact ⟨hstored, Or.inr ⟨a, _, ha, rfl, rfl⟩⟩
      | ok u => exact follows_saved h hs hstored ha _ _
  | syncFromConnections nowUtc connections =>
    refine ⟨hstored, Or.inr ⟨a, _, ha, rfl, ?_⟩⟩
    exact congrArg some (syncFromConnections_eq isExtranet nowUtc connections a regs)
  | stop => exact ⟨(follows_saved h hs hstored ha regs.1 regs.2).stored, Or.inl ⟨rfl, rfl⟩⟩
  | crash => exact ⟨hstored, Or.inl ⟨rfl, rfl⟩⟩

lemma follows_step (h : Lawful storage serde opt) (hs : Separate opt) (isExtranet : IpAddr → Bool)
    {m : Machine storage Identity} {s : Ideal Identity} (hf : Follows serde opt m s) (e : Event Identity) :
    Follows serde opt (step serde opt isExtranet m e) (s.step isExtranet e) := by
  rcases hf.running with ⟨hm, hr⟩ | ⟨a, regs, ha, hr, hm⟩
  · simp only [step, Ideal.step, hm, hr]
    cases e with
    | start e => exact follows_init h hs hf.stored e
    | connectTo _ _ _ _ | syncFromConnections _ _ | stop | crash => exact hf
  · simp only [step, Ideal.step, hm, hr]
    exact follows_work h hs isExtranet hf.stored ha hr hm e

def nothingKept : Ideal Identity := ⟨⟨none, .empty, .empty⟩, none⟩

lemma follows_run (h : Lawful storage serde opt) (hs : Separate opt) (isExtranet : IpAddr → Bool)
    (hempty : ∀ file ∈ storageFiles opt, storage.content files file = none) (events : List (Event Identity)) :
    Follows serde opt (events.foldl (step serde opt isExtranet) ⟨files, none⟩)
      (events.foldl (Ideal.step isExtranet) nothingKept) := by
  induction events using List.reverseRecOn with
  | nil =>
    have hinner : Holds serde files (innerFile opt) .empty := Or.inr ⟨hempty _ inner_mem, rfl⟩
    have hexternal : Holds serde files (externalFile opt) .empty := Or.inr ⟨hempty _ external_mem, rfl⟩
    exact ⟨⟨hempty _ address_mem, hinner, hexternal⟩, Or.inl ⟨rfl, rfl⟩⟩
  | append_singleton events e ih =>
    rw [List.foldl_concat, List.foldl_concat]
    exact follows_step h hs isExtranet ih e

lemma identity_save (s : Ideal Identity) (inner external : NodeRegistry) :
    (s.save inner external).kept.identity = s.kept.identity := rfl

lemma identity_step (isExtranet : IpAddr → Bool) {s : Ideal Identity} {a : Identity}
    (ha : s.kept.identity = some a) (e : Event Identity) : (s.step isExtranet e).kept.identity = some a := by
  cases hr : s.running with
  | none =>
    simp only [Ideal.step, hr]
    cases e with
    | start e =>
      simp only [Ideal.start, ha, Option.getD_some]
      split <;> rfl
    | connectTo _ _ _ _ | syncFromConnections _ _ | stop | crash => exact ha
  | some regs =>
    simp only [Ideal.step, hr]
    cases e with
    | connectTo connect t t' peerAddr =>
      simp only [Ideal.work]
      split
      · exact ha
      · split
        · exact ha
        · rw [identity_save, ha]
    | start _ | syncFromConnections _ _ | stop | crash => exact ha

lemma identity_run (isExtranet : IpAddr → Bool) {s : Ideal Identity} {a : Identity}
    (ha : s.kept.identity = some a) (events : List (Event Identity)) :
    (events.foldl (Ideal.step isExtranet) s).kept.identity = some a := by
  induction events generalizing s with
  | nil => exact ha
  | cons e events ih => exact ih (identity_step isExtranet ha e)

/-- On a storage that works a node does over all its starts, stops and crashes what it would do with a
memory that keeps its identity and the registries of the last save. -/
theorem restarts_follow_ideal (h : Lawful storage serde opt) (hs : Separate opt) (isExtranet : IpAddr → Bool)
    (hempty : ∀ file ∈ storageFiles opt, storage.content files file = none) (events : List (Event Identity)) :
    let m := events.foldl (step serde opt isExtranet) ⟨files, none⟩
    let s := events.foldl (Ideal.step isExtranet) nothingKept
    Stored serde opt m.files s.kept ∧
      m.running.map (fun p => (p.inner, p.external)) = s.running ∧
      ∀ p, m.running = some p → s.kept.identity = some p.address := by
  intro m s
  have hf : Follows serde opt m s := follows_run h hs isExtranet hempty events
  refine ⟨hf.stored, ?_⟩
  rcases hf.running with ⟨hm, hr⟩ | ⟨a, regs, ha, hr, hm⟩
  · rw [hm, hr]
    exact ⟨rfl, by simp⟩
  · rw [hm, hr]
    refine ⟨rfl, fun p hp => ?_⟩
    rw [← Option.some.inj hp]
    exact ha

lemma Follows.identity {m : Machine storage Identity} {s : Ideal Identity} (hf : Follows serde opt m s)
    {p : Process Identity} (hp : m.running = some p) :
    s.kept.identity = some p.address ∧ p.id = p.address := by
  rcases hf.running with ⟨hm, -⟩ | ⟨a, regs, ha, -, hm⟩
  · rw [hm] at hp
    cases hp
  · rw [hm] at hp
    rw [← Option.some.inj hp]
    exact ⟨ha, rfl⟩

/-- A node has one identity, wherever it looks for it, and has it again after every later start. -/
theorem identity_survives_restarts (h : Lawful storage serde opt) (hs : Separate opt)
    (isExtranet : IpAddr → Bool) (hempty : ∀ file ∈ storageFiles opt, storage.content files file = none)
    (events later : List (Event Identity)) {p p' : Process Identity}
    (hp : (events.foldl (step serde opt isExtranet) ⟨files, none⟩).running = some p)
    (hp' : ((events ++ later).foldl (step serde opt isExtranet) ⟨files, none⟩).running = some p') :
    p.id = p.address ∧ p'.address = p.address ∧ p'.id = p.address := by
  obtain ⟨ha, hid⟩ := (follows_run h hs isExtranet hempty events).identity hp
  obtain ⟨ha', hid'⟩ := (follows_run h hs isExtranet hempty (events ++ later)).identity hp'
  have hsame := identity_run isExtranet ha later
  rw [← List.foldl_append, ha', Option.some.injEq] at hsame
  exact ⟨hid, hsame, hid'.trans hsame⟩

end

instance encodableUInt8 : Encodable UInt8 := .ofLeftInverse UInt8.toNat UInt8.ofNat (fun _ => UInt8.ofNat_toNat)

instance encodableUInt16 : Encodable UInt16 := .ofLeftInverse UInt16.toNat UInt16.ofNat (fun _ => UInt16.ofNat_toNat)

instance encodableUInt32 : Encodable UInt32 := .ofLeftInverse UInt32.toNat UInt32.ofNat (fun _ => UInt32.ofNat_toNat)

instance encodableUInt64 : Encodable UInt64 := .ofLeftInverse UInt64.toNat UInt64.ofNat (fun _ => UInt64.ofNat_toNat)

deriving instance Encodable for Ipv4Addr

instance encodableIpv6Addr : Encodable Ipv6Addr :=
  .ofLeftInjection Ipv6Addr.segments (fun l => if h : l.length = 8 then some ⟨l, h⟩ else none)
    (fun ip => dif_pos ip.length_eq)

deriving instance Encodable for SocketAddr

deriving instance Encodable for Protocol

deriving instance Encodable for NodeRecord

instance encodableNodeRegistry : Encodable NodeRegistry :=
  .ofLeftInjection NodeRegistry.nodes
    (fun l => if h : (l.map NodeRecord.endpoint).Nodup then some ⟨l, h⟩ else none) (fun reg => dif_pos reg.nodup)

/-- values written as the digits of a number -/
def digits (T : Type) [Encodable T] : Serde T where
  serialize v := (Nat.digits 256 (Encodable.encode v)).map UInt8.ofNat
  deserialize bytes := Encodable.decode (Nat.ofDigits 256 (bytes.map UInt8.toNat))

lemma digits_round_trip {T : Type} [Encodable T] (v : T) :
    (digits T).deserialize ((digits T).serialize v) = some v := by
  have hbytes : ((Nat.digits 256 (Encodable.encode v)).map UInt8.ofNat).map UInt8.toNat =
      Nat.digits 256 (Encodable.encode v) := by
    rw [List.map_map, List.map_congr_left, List.map_id]
    intro d hd
    have hlt := Nat.digits_lt_base (by decide) hd
    simp [Nat.mod_eq_of_lt hlt]
  simp only [digits, hbytes, Nat.ofDigits_digits, Encodable.encodek]

def numbered : (k : Kind) → Serde (k.Value ℕ)
  | .freeWebMovementAddress => digits ℕ
  | .nodeRecords => digits NodeRegistry

lemma content_save {T : Type} (sd : Serde T) (files : String → Option Bytes) (file : String) (v : T) :
    (disk true).content ((disk true).save sd files file v).2 =
      Function.update files file (some (sd.serialize v)) := rfl

lemma lawful_disk (opt : Opt) : Lawful (disk true) numbered opt where
  missing sd files file h := by
    have hfile : (files : String → Option Bytes) file = none := h
    simp only [disk, hfile]
  present sd files file bytes v h hv := by
    have hfile : (files : String → Option Bytes) file = some bytes := h
    simp only [disk, hfile, hv, Option.elim_some]
  replaces sd files file v := (congrFun (content_save sd files file v) file).trans (Function.update_self _ _ _)
  others sd files v file _ other _ h :=
    (congrFun (content_save sd files file v) other).trans (Function.update_of_ne h _ _)
  round_trip k v := by
    cases k with
    | freeWebMovementAddress => exact digits_round_trip v
    | nodeRecords => exact digits_round_trip v

lemma separate_defaultFiles : Separate defaultFiles := ⟨by decide, by decide, by decide⟩

def firstStart (seeds : Option String) : Event ℕ :=
  .start ⟨seeds, fun i => 10 + i, fun _ => 0, fun _ => 0, fun _ => atOne, fun _ => atOne⟩

def fewStarts : List (Event ℕ) := [firstStart (some "1.2.3.4:80, x"), .crash, firstStart none]

def emptyMachine : Machine (disk true) ℕ := ⟨fun _ => none, none⟩

theorem restarts_follow_ideal_few :
    let m := fewStarts.foldl (step numbered defaultFiles (fun _ => false)) emptyMachine
    let s := fewStarts.foldl (Ideal.step (fun _ => false)) nothingKept
    Stored numbered defaultFiles m.files s.kept ∧
      m.running.map (fun p => (p.inner, p.external)) = s.running ∧ s.kept.identity = some 10 := by
  obtain ⟨hstored, hrunning, -⟩ := @restarts_follow_ideal (disk true) ℕ numbered defaultFiles (fun _ => none)
    (lawful_disk _) separate_defaultFiles (fun _ => false) (fun _ _ => rfl) fewStarts
  exact ⟨hstored, hrunning, rfl⟩

lemma isSome_running (events : List (Event ℕ))
    (h : (events.foldl (Ideal.step (fun _ => false)) nothingKept).running.isSome) :
    ∃ p, (events.foldl (step numbered defaultFiles (fun _ => false)) emptyMachine).running = some p := by
  have hf : Follows numbered defaultFiles (events.foldl (step numbered defaultFiles (fun _ => false)) emptyMachine)
      (events.foldl (Ideal.step (fun _ => false)) nothingKept) :=
    follows_run (lawful_disk _) separate_defaultFiles (fun _ => false) (fun _ _ => rfl) events
  rcases hf.running with ⟨-, hr⟩ | ⟨a, regs, -, -, hm⟩
  · rw [hr] at h
    cases h
  · exact ⟨_, hm⟩

theorem identity_survives_few_starts :
    ∃ p p', ([firstStart none].foldl (step numbered defaultFiles (fun _ => false)) emptyMachine).running = some p ∧
      (([firstStart none] ++ [.crash, firstStart none]).foldl (step numbered defaultFiles (fun _ => false))
        emptyMachine).running = some p' ∧ p'.address = p.address := by
  obtain ⟨p, hp⟩ := isSome_running [firstStart none] rfl
  obtain ⟨p', hp'⟩ := isSome_running ([firstStart none] ++ [.crash, firstStart none]) rfl
  have h := @identity_survives_restarts (disk true) ℕ numbered defaultFiles (fun _ => none) (lawful_disk _)
    separate_defaultFiles (fun _ => false) (fun _ _ => rfl) [firstStart none] [.crash, firstStart none] p p' hp hp'
  exact ⟨p, p', hp, hp', h.2.1⟩

end ZzP2p.Lifecycle
