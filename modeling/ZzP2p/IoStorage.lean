import Mathlib.Data.List.AList
import ZzP2p.Record
import ZzP2p.Rust.Bytes

/-! The files of a node: its identity and its two lists of servers. Each key is registered with a file
and with a closure that makes the default value. The storage below is a parameter. -/

namespace ZzP2p.IoStorage

open Rust

structure Serde (T : Type) where
  serialize : T → Bytes
  deserialize : Bytes → Option T

structure Storage where
  State : Type
  Error : Type
  content : State → String → Option Bytes
  read : {T : Type} → Serde T → State → String → Except Error (Option T)
  save : {T : Type} → Serde T → State → String → T → Except Error Unit × State

/-- A save that succeeds replaces the content of the file. -/
def Storage.Replaces (storage : Storage) : Prop :=
  ∀ {T : Type} (serde : Serde T) (s : storage.State) (file : String) (v : T),
    (storage.save serde s file v).1 = .ok () →
      storage.content (storage.save serde s file v).2 file = some (serde.serialize v)

/-- the types of the stored values, as they are told apart at run time -/
inductive Kind
  | freeWebMovementAddress | nodeRecords
deriving DecidableEq

abbrev Kind.Value (Identity : Type) : Kind → Type
  | .freeWebMovementAddress => Identity
  | .nodeRecords => Record.NodeRegistry

def STORAGE_ADDRESS : String := "address"

def STORAGE_INNER_SERVER : String := "inner_server"

def STORAGE_EXTERNAL_SERVER : String := "external_server"

structure Opt where
  addressFile : Option String
  innerServerFile : Option String
  externalServerFile : Option String

variable (storage : Storage) {T Identity : Type}

def read (serde : Serde T) (file : String) (f2 : String → storage.State → T × storage.State)
    (s : storage.State) : T × storage.State :=
  match storage.read serde s file with
  | .ok (some v) => (v, s)
  | .ok none =>
    -- only a missing file is written here
    let (v, s) := f2 file s
    (v, (storage.save serde s file v).2)
  | .error _ => f2 file s

structure IOEntry (Identity T : Type) where
  file : String
  -- the first argument is the identity that would be drawn
  f2 : Identity → String → storage.State → T × storage.State

def storageEntry (serde : Serde T) (path : String) (default : Identity → T) : IOEntry storage Identity T where
  file := path
  f2 random file s :=
    -- the macro saves in the closure, whoever calls it
    let v := default random
    (v, (storage.save serde s file v).2)

structure IOStorage (Identity : Type) where
  stores : AList (fun _ : String => (k : Kind) × IOEntry storage Identity (k.Value Identity))

namespace IOStorage

variable {storage} (ios : IOStorage storage Identity) (serde : (k : Kind) → Serde (k.Value Identity))

def new : IOStorage storage Identity := ⟨∅⟩

def insert (k : Kind) (key : String) (entry : IOEntry storage Identity (k.Value Identity)) :
    IOStorage storage Identity :=
  ⟨ios.stores.insert key ⟨k, entry⟩⟩

def get (k : Kind) (key : String) : Option (IOEntry storage Identity (k.Value Identity)) :=
  match ios.stores.lookup key with
  | some ⟨k', entry⟩ => if h : k' = k then some (h ▸ entry) else none
  | none => none

def read (k : Kind) (key : String) (random : Identity) (s : storage.State) :
    Option (k.Value Identity) × storage.State :=
  match ios.get k key with
  | some v =>
    let (t, s) := IoStorage.read storage (serde k) v.file (v.f2 random) s
    (some t, s)
  | none => (none, s)

def save (k : Kind) (t : k.Value Identity) (key : String) (s : storage.State) : storage.State :=
  match ios.get k key with
  | some v => (storage.save (serde k) s v.file t).2
  | none => s

end IOStorage

section

variable (serde : (k : Kind) → Serde (k.Value Identity))

def ioStorageInit (opt : Opt) : IOStorage storage Identity :=
  ((IOStorage.new.insert .freeWebMovementAddress STORAGE_ADDRESS
      (storageEntry storage (serde .freeWebMovementAddress) (opt.addressFile.getD "address.json")
        (fun random => random))).insert
    .nodeRecords STORAGE_INNER_SERVER
      (storageEntry storage (serde .nodeRecords) (opt.innerServerFile.getD "inner-server-list.json")
        (fun _ => .empty))).insert
    .nodeRecords STORAGE_EXTERNAL_SERVER
      (storageEntry storage (serde .nodeRecords) (opt.externalServerFile.getD "external-server-list.json")
        (fun _ => .empty))

def defaultValue (random : Identity) : (k : Kind) → k.Value Identity
  | .freeWebMovementAddress => random
  | .nodeRecords => .empty

variable {storage}

def FromMacro (ios : IOStorage storage Identity) : Prop :=
  ∀ k key entry, ios.get k key = some entry →
    ∃ path, entry = storageEntry storage (serde k) path (fun random => defaultValue random k)

variable {serde} {ios : IOStorage storage Identity} {k : Kind} {key : String}

lemma FromMacro.insert (h : FromMacro serde ios) (k : Kind) (key path : String) :
    FromMacro serde (ios.insert k key
      (storageEntry storage (serde k) path (fun random => defaultValue random k))) := by
  intro k' key' entry he
  by_cases hkey : key' = key
  · subst hkey
    simp only [IOStorage.get, IOStorage.insert, AList.lookup_insert] at he
    obtain ⟨rfl, he⟩ := Option.dite_none_right_eq_some.mp he
    exact ⟨path, (Option.some.inj he).symm⟩
  · apply h k' key' entry
    simpa only [IOStorage.get, IOStorage.insert, AList.lookup_insert_ne hkey] using he

lemma fromMacro_ioStorageInit (opt : Opt) : FromMacro serde (ioStorageInit storage serde opt) := by
  have hnew : FromMacro serde (IOStorage.new : IOStorage storage Identity) := by
    intro k key entry he
    simp [IOStorage.get, IOStorage.new] at he
  have haddress := hnew.insert .freeWebMovementAddress STORAGE_ADDRESS (opt.addressFile.getD "address.json")
  have hinner := haddress.insert .nodeRecords STORAGE_INNER_SERVER
    (opt.innerServerFile.getD "inner-server-list.json")
  exact hinner.insert .nodeRecords STORAGE_EXTERNAL_SERVER _

lemma isSome_get_insert {k' : Kind} {key' : String} {entry : IOEntry storage Identity (k'.Value Identity)} :
    ((ios.insert k' key' entry).get k key).isSome ↔
      if key = key' then k' = k else (ios.get k key).isSome := by
  by_cases hkey : key = key'
  · subst hkey
    simp only [IOStorage.get, IOStorage.insert, AList.lookup_insert, if_true]
    by_cases hk : k' = k <;> simp [hk]
  · simp only [IOStorage.get, IOStorage.insert, AList.lookup_insert_ne hkey, if_neg hkey]

lemma isSome_get_ioStorageInit (opt : Opt) : ((ioStorageInit storage serde opt).get k key).isSome ↔
    (k, key) ∈ [(Kind.freeWebMovementAddress, STORAGE_ADDRESS), (.nodeRecords, STORAGE_INNER_SERVER),
      (.nodeRecords, STORAGE_EXTERNAL_SERVER)] := by
  have hnew : ((IOStorage.new : IOStorage storage Identity).get k key).isSome = false := rfl
  simp only [ioStorageInit, isSome_get_insert, hnew, List.mem_cons, List.not_mem_nil, Prod.mk.injEq]
  have hinner : STORAGE_INNER_SERVER ≠ STORAGE_EXTERNAL_SERVER := by decide
  have haddress : STORAGE_ADDRESS ≠ STORAGE_EXTERNAL_SERVER := by decide
  have haddress' : STORAGE_ADDRESS ≠ STORAGE_INNER_SERVER := by decide
  grind

/-- The error branch of `read` does not save, but the closure that it calls does. -/
lemma FromMacro.read_error (h : FromMacro serde ios) {entry : IOEntry storage Identity (k.Value Identity)}
    (hkey : ios.get k key = some entry) {s : storage.State} {e : storage.Error}
    (he : storage.read (serde k) s entry.file = .error e) (random : Identity) :
    ios.read serde k key random s =
      (some (defaultValue random k), (storage.save (serde k) s entry.file (defaultValue random k)).2) := by
  obtain ⟨path, rfl⟩ := h k key entry hkey
  simp only [IOStorage.read, hkey, read, he]
  rfl

/-- A file that cannot be read is kept only when the storage refuses to save the default value, or when
the file holds that value already. -/
theorem read_error_keeps_file_iff (hreplaces : storage.Replaces) (opt : Opt)
    {entry : IOEntry storage Identity (k.Value Identity)}
    (hkey : (ioStorageInit storage serde opt).get k key = some entry) {s : storage.State} {e : storage.Error}
    (he : storage.read (serde k) s entry.file = .error e) (random : Identity) :
    let out := (ioStorageInit storage serde opt).read serde k key random s
    let saved := storage.save (serde k) s entry.file (defaultValue random k)
    (out.1 = some (defaultValue random k) ∧
        storage.content out.2 entry.file = storage.content s entry.file) ↔
      (∃ e', saved.1 = .error e' ∧ storage.content saved.2 entry.file = storage.content s entry.file) ∨
        saved.1 = .ok () ∧
          storage.content s entry.file = some ((serde k).serialize (defaultValue random k)) := by
  intro out saved
  have hout : out = (some (defaultValue random k), saved.2) :=
    (fromMacro_ioStorageInit opt).read_error hkey he random
  rw [hout]
  cases hsaved : saved.1 with
  | error e' =>
    constructor
    · rintro ⟨-, hsame⟩
      exact Or.inl ⟨e', rfl, hsame⟩
    · rintro (⟨e'', -, hsame⟩ | ⟨hok, -⟩)
      · exact ⟨rfl, hsame⟩
      · cases hok
  | ok u =>
    have hcontent : storage.content saved.2 entry.file = some ((serde k).serialize (defaultValue random k)) :=
      hreplaces (serde k) s entry.file (defaultValue random k) hsaved
    rw [hcontent]
    constructor
    · rintro ⟨-, hsame⟩
      exact Or.inr ⟨rfl, hsame.symm⟩
    · rintro (⟨e'', herror, -⟩ | ⟨-, hsame⟩)
      · cases herror
      · exact ⟨rfl, hsame.symm⟩

end

def disk (writable : Bool) : Storage where
  State := String → Option Bytes
  Error := String
  content files file := files file
  read serde files file :=
    match files file with
    | none => .ok none
    | some bytes => (serde.deserialize bytes).elim (.error "invalid content") (fun v => .ok (some v))
  save serde files file v :=
    if writable then (.ok (), Function.update files file (some (serde.serialize v)))
    else (.error "permission denied", files)

lemma disk_replaces (writable : Bool) : (disk writable).Replaces := by
  intro T serde files file v h
  cases writable with
  | true => exact Function.update_self file (some (serde.serialize v)) files
  | false => cases h

/-- Private keys are written between quotes; of the server lists only the empty one is needed here. -/
def quoted : (k : Kind) → Serde (k.Value Bytes)
  | .freeWebMovementAddress =>
    ⟨fun key => 34 :: key ++ [34], fun bytes =>
      if bytes.head? = some 34 ∧ bytes.tail.getLast? = some 34 then some bytes.tail.dropLast else none⟩
  | .nodeRecords => ⟨fun _ => utf8 "[]", fun bytes => if bytes = utf8 "[]" then some .empty else none⟩

def cutOff : String → Option Bytes := fun file => if file = "address.json" then some (utf8 "\"5f0c") else none

def defaultFiles : Opt := ⟨none, none, none⟩

def nodeFiles (writable : Bool) : IOStorage (disk writable) Bytes :=
  ioStorageInit (disk writable) quoted defaultFiles

def addressEntry (writable : Bool) : IOEntry (disk writable) Bytes Bytes :=
  storageEntry (disk writable) (quoted .freeWebMovementAddress) "address.json" (fun random => random)

theorem read_error_keeps_file_read_only :
    let files := (nodeFiles false).read quoted .freeWebMovementAddress STORAGE_ADDRESS (utf8 "77aa") cutOff
    files.1 = some (utf8 "77aa") ∧ files.2 "address.json" = some (utf8 "\"5f0c") := by
  have h := @read_error_keeps_file_iff (disk false) Bytes quoted .freeWebMovementAddress STORAGE_ADDRESS
    (disk_replaces false) defaultFiles (addressEntry false) rfl cutOff "invalid content" rfl (utf8 "77aa")
  exact h.mpr (Or.inl ⟨_, rfl, rfl⟩)

theorem read_error_replaces_file :
    (disk true).Replaces ∧
      (nodeFiles true).get .freeWebMovementAddress STORAGE_ADDRESS = some (addressEntry true) ∧
      (disk true).read (quoted .freeWebMovementAddress) cutOff "address.json" = .error "invalid content" ∧
      let files := (nodeFiles true).read quoted .freeWebMovementAddress STORAGE_ADDRESS (utf8 "77aa") cutOff
      files.1 = some (utf8 "77aa") ∧ files.2 "address.json" = some (utf8 "\"77aa\"") ∧
        files.2 "address.json" ≠ cutOff "address.json" := by
  refine ⟨disk_replaces true, rfl, rfl, rfl, rfl, ?_⟩
  change some (utf8 "\"77aa\"") ≠ some (utf8 "\"5f0c")
  decide

end ZzP2p.IoStorage
