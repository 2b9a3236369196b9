import ZzP2p.Lib.Collect
import ZzP2p.Protocols.RegistryMerge

/-! The connections shown by node and direction. A peer that has not told its node is given one by
its address: the node registered at the socket, the only candidate on the IP, or the only node among
the outbound peers on the IP that is not shown yet. -/

namespace ZzP2p.Web

open Lib Rust Protocols

structure PeerInfo extends NodeRegistry.PeerInfo where
  wanIps : List String
  intranetIps : List String
deriving DecidableEq

structure ConnectionInfo where
  inbound : List PeerInfo
  outbound : List PeerInfo
deriving DecidableEq

structure NodeConnectionGroup where
  nodeId : String
  addrs : String
  passed : String
deriving DecidableEq

structure ConnectionsByDirection where
  inbound : List NodeConnectionGroup
  outbound : List NodeConnectionGroup
deriving DecidableEq

/-- the orders in which the nodes and the seeds of each node are walked -/
structure RegistryOrder where
  nodes : MapOrder NodeEntry
  seeds : NodeEntry → MapOrder SocketAddr

def getNodes (order : RegistryOrder) (reg : NodeRegistry) : List NodeEntry :=
  order.nodes.arrange (reg.nodes.entries.map (fun e => e.2))

def seedRows (order : RegistryOrder) (reg : NodeRegistry) : List (SocketAddr × String) :=
  (getNodes order reg).flatMap (fun entry =>
    ((order.seeds entry).arrange entry.seeds.keys).map (fun seed => (seed, entry.address)))

/-- A later insertion at a socket replaces the earlier one. -/
def bySeed (rows : List (SocketAddr × String)) : List (SocketAddr × String) :=
  collect Prod.fst "" (fun _ r => r.2) rows

def byIp (rows : List (SocketAddr × String)) : List (IpAddr × List String) :=
  collect (fun r => r.1.ip) [] (fun nids r => nids ++ [r.2]) rows

variable (rows : List (SocketAddr × String))

def outboundRow (p : PeerInfo) : Option (SocketAddr × String) :=
  match SocketAddr.parse p.addr with
  | none => none
  | some addr => (p.nodeId.or (valueAt (bySeed rows) addr)).map (fun nid => (addr, nid))

def ipToOutboundNids (outbound : List PeerInfo) : List (IpAddr × List String) :=
  byIp (outbound.filterMap (outboundRow rows))

def resolveNid (outbound : List PeerInfo) (p : PeerInfo) (seen : Finset String) : Option String :=
  match p.nodeId, SocketAddr.parse p.addr with
  | some nid, _ => some nid
  | none, none => none
  | none, some addr =>
    match valueAt (bySeed rows) addr, valueAt (byIp rows) addr.ip with
    | some nid, _ => some nid
    | none, none => none
    | none, some [nid] => some nid
    | none, some _ =>
      match (valueAt (ipToOutboundNids rows outbound) addr.ip).map (fun nids => nids.filter (· ∉ seen)) with
      | some [nid] => some nid
      | _ => none

def connectionGroup (p : PeerInfo) (nid : String) : NodeConnectionGroup where
  nodeId := nid
  addrs := p.addr
  passed := ", ".intercalate (p.wanIps.map (· ++ " (wan)") ++ p.intranetIps.map (· ++ " (intranet)"))

def group (outbound : List PeerInfo) (localNodeId : String) :
    List PeerInfo → Finset String → List NodeConnectionGroup
  | [], _ => []
  | p :: peers, seen =>
    match resolveNid rows outbound p seen with
    | none => group outbound localNodeId peers seen
    | some nid =>
      if nid = localNodeId ∨ nid ∈ seen then group outbound localNodeId peers seen
      else connectionGroup p nid :: group outbound localNodeId peers (insert nid seen)

def groupConnectionsByDirection (order : RegistryOrder) (raw : ConnectionInfo) (reg : NodeRegistry)
    (localNodeId : String) : ConnectionsByDirection where
  inbound := group (seedRows order reg) raw.outbound localNodeId raw.inbound ∅
  outbound := group (seedRows order reg) raw.outbound localNodeId raw.outbound ∅

variable {rows} {outbound peers : List PeerInfo} {localNodeId nid : String} {seen : Finset String}
  {p : PeerInfo}

def nodeIds (groups : List NodeConnectionGroup) : List String := groups.map NodeConnectionGroup.nodeId

lemma resolveNid_explicit (h : p.nodeId = some nid) : resolveNid rows outbound p seen = some nid := by
  rw [resolveNid, h]

lemma not_mem_seen_of_group (h : nid ∈ nodeIds (group rows outbound localNodeId peers seen)) :
    nid ∉ seen ∧ nid ≠ localNodeId := by
  induction peers generalizing seen with
  | nil => simp [group, nodeIds] at h
  | cons p peers ih =>
    rw [group] at h
    split at h
    · exact ih h
    · next nid' _ =>
      split at h
      · exact ih h
      · next hnew =>
        push Not at hnew
        rcases List.mem_cons.mp h with rfl | h
        · exact ⟨hnew.2, hnew.1⟩
        · exact ⟨fun hs => (ih h).1 (Finset.mem_insert_of_mem hs), (ih h).2⟩

lemma nodup_group : (nodeIds (group rows outbound localNodeId peers seen)).Nodup := by
  induction peers generalizing seen with
  | nil => exact List.nodup_nil
  | cons p peers ih =>
    rw [group]
    split
    · exact ih
    · split
      · exact ih
      · exact List.nodup_cons.mpr
          ⟨fun h => (not_mem_seen_of_group h).1 (Finset.mem_insert_self _ _), ih⟩

lemma mem_group (hp : p ∈ peers) (hr : ∀ seen, resolveNid rows outbound p seen = some nid)
    (hl : nid ≠ localNodeId) :
    nid ∈ seen ∨ nid ∈ nodeIds (group rows outbound localNodeId peers seen) := by
  induction peers generalizing seen with
  | nil => simp at hp
  | cons q peers ih =>
    rw [group]
    rcases List.mem_cons.mp hp with rfl | hp
    · rw [hr seen]
      by_cases hs : nid ∈ seen
      · exact Or.inl hs
      · simp [hl, hs, nodeIds, connectionGroup]
    · split
      · exact ih hp
      · next nid' _ =>
        split
        · exact ih hp
        · have hrest : nid ∈ insert nid' seen ∨
              nid ∈ nodeIds (group rows outbound localNodeId peers (insert nid' seen)) := ih hp
          rcases hrest with h | h
          · rcases Finset.mem_insert.mp h with rfl | h
            · exact Or.inr (List.mem_cons_self ..)
            · exact Or.inl h
          · exact Or.inr (List.mem_cons_of_mem _ h)

structure ShownOnce (localNodeId : String) (peers : List PeerInfo) (groups : List NodeConnectionGroup) :
    Prop where
  nodup : (nodeIds groups).Nodup
  not_local : localNodeId ∉ nodeIds groups
  explicit : ∀ p ∈ peers, ∀ nid, p.nodeId = some nid → nid ≠ localNodeId → nid ∈ nodeIds groups

lemma shownOnce_group : ShownOnce localNodeId peers (group rows outbound localNodeId peers ∅) := by
  refine ⟨nodup_group, fun h => (not_mem_seen_of_group h).2 rfl, ?_⟩
  intro p hp nid hnid hl
  rcases mem_group hp (fun _ => resolveNid_explicit hnid) hl with h | h
  · exact absurd h (Finset.notMem_empty _)
  · exact h

theorem groups_shown_once (order : RegistryOrder) (raw : ConnectionInfo) (reg : NodeRegistry)
    (localNodeId : String) :
    let shown := groupConnectionsByDirection order raw reg localNodeId
    ShownOnce localNodeId raw.inbound shown.inbound ∧ ShownOnce localNodeId raw.outbound shown.outbound :=
  ⟨shownOnce_group, shownOnce_group⟩

/-! Attribution by address. -/

def registered (reg : NodeRegistry) : List (SocketAddr × String) :=
  reg.nodes.entries.flatMap (fun e => e.2.seeds.keys.map (fun seed => (seed, e.2.address)))

def seedsOn (reg : NodeRegistry) (ip : IpAddr) : List (SocketAddr × String) :=
  (registered reg).filter (fun r => r.1.ip = ip)

def FromIp (ip : IpAddr) (p : PeerInfo) : Prop :=
  p.nodeId = none ∧ ∃ addr, SocketAddr.parse p.addr = some addr ∧ addr.ip = ip

variable {addr : SocketAddr} {ip : IpAddr} {reg : NodeRegistry}

lemma seedRows_perm (order : RegistryOrder) (reg : NodeRegistry) :
    (seedRows order reg).Perm (registered reg) := by
  have hnodes : (getNodes order reg).Perm (reg.nodes.entries.map (fun e => e.2)) := order.nodes.perm _
  have hseeds : ∀ e : NodeEntry,
      (((order.seeds e).arrange e.seeds.keys).map (fun seed => (seed, e.address))).Perm
        (e.seeds.keys.map (fun seed => (seed, e.address))) :=
    fun e => ((order.seeds e).perm _).map _
  rw [seedRows, registered]
  refine (hnodes.flatMap (fun e _ => hseeds e)).trans (List.Perm.of_eq ?_)
  rw [List.flatMap_map]

lemma valueAt_byIp : valueAt (byIp rows) ip =
    if ip ∈ rows.map (fun r => r.1.ip) then some ((rows.filter (fun r => r.1.ip = ip)).map Prod.snd)
    else none := by
  have hpush : ∀ (l : List (SocketAddr × String)) (nids : List String),
      l.foldl (fun nids r => nids ++ [r.2]) nids = nids ++ l.map Prod.snd := by
    intro l
    induction l with
    | nil => simp
    | cons r l ih => simp [ih]
  rw [byIp, valueAt_collect, hpush, List.nil_append]

lemma valueAt_bySeed_eq_none : valueAt (bySeed rows) addr = none ↔ addr ∉ rows.map Prod.fst := by
  rw [bySeed, valueAt_collect]
  split
  · next h => simp only [reduceCtorEq, false_iff, not_not]; exact h
  · next h => simp only [true_iff]; exact h

lemma mem_of_valueAt_bySeed (h : valueAt (bySeed rows) addr = some nid) : (addr, nid) ∈ rows := by
  rw [bySeed, valueAt_collect] at h
  split at h
  · next hmem =>
    obtain ⟨r, hr, he⟩ := List.mem_map.mp hmem
    have hne : rows.filter (fun r => r.1 = addr) ≠ [] :=
      List.ne_nil_of_mem (List.mem_filter.mpr ⟨hr, by simpa using he⟩)
    rw [← List.dropLast_append_getLast hne, List.foldl_concat] at h
    have hlast := List.mem_filter.mp (List.getLast_mem hne)
    have hpair : (rows.filter (fun r => r.1 = addr)).getLast hne = (addr, nid) :=
      Prod.ext (by simpa using hlast.2) (Option.some.inj h)
    exact hpair ▸ hlast.1
  · simp at h

lemma resolveNid_iff (hid : p.nodeId = none) (haddr : SocketAddr.parse p.addr = some addr)
    (hon : addr.ip ∈ rows.map (fun r => r.1.ip)) (hall : ∀ r ∈ rows, r.1.ip = addr.ip → r.2 = nid) :
    resolveNid rows [] p seen = some nid ↔
      addr ∈ rows.map Prod.fst ∨ (rows.filter (fun r => r.1.ip = addr.ip)).length = 1 := by
  have hnone : valueAt (ipToOutboundNids rows []) addr.ip = none := rfl
  have hcandidates : valueAt (byIp rows) addr.ip =
      some ((rows.filter (fun r => r.1.ip = addr.ip)).map Prod.snd) := by
    rw [valueAt_byIp, if_pos hon]
  simp only [resolveNid, hid, haddr]
  cases hseed : valueAt (bySeed rows) addr with
  | some nid' =>
    have hrow := mem_of_valueAt_bySeed hseed
    have hmem : addr ∈ rows.map Prod.fst := List.mem_map_of_mem hrow
    have howner : nid' = nid := hall _ hrow rfl
    simp [howner, hmem]
  | none =>
    have hno : addr ∉ rows.map Prod.fst := valueAt_bySeed_eq_none.mp hseed
    simp only [hcandidates, hno, false_or]
    cases hf : rows.filter (fun r => r.1.ip = addr.ip) with
    | nil => simp [hnone]
    | cons r rest =>
      cases rest with
      | nil =>
        have hr := List.mem_filter.mp (hf ▸ List.mem_singleton_self r)
        simp [hall r hr.1 (by simpa using hr.2)]
      | cons q rest => simp [hnone]

theorem attributed_iff (order : RegistryOrder) (reg : NodeRegistry) (ip : IpAddr) (n localNodeId : String)
    (inbound : List PeerInfo) (seen : PeerInfo → Finset String) (hon : seedsOn reg ip ≠ [])
    (hall : ∀ r ∈ seedsOn reg ip, r.2 = n) :
    (∀ p ∈ inbound, FromIp ip p → resolveNid (seedRows order reg) [] p (seen p) = some n ∧
      (n ≠ localNodeId →
        n ∈ nodeIds (groupConnectionsByDirection order ⟨inbound, []⟩ reg localNodeId).inbound)) ↔
    ∀ p ∈ inbound, FromIp ip p →
      (∃ addr, SocketAddr.parse p.addr = some addr ∧ addr ∈ (registered reg).map Prod.fst) ∨
      (seedsOn reg ip).length = 1 := by
  have hperm := seedRows_perm order reg
  have hresolve : ∀ p, FromIp ip p → ∀ seen, resolveNid (seedRows order reg) [] p seen = some n ↔
      (∃ addr, SocketAddr.parse p.addr = some addr ∧ addr ∈ (registered reg).map Prod.fst) ∨
      (seedsOn reg ip).length = 1 := by
    rintro p ⟨hid, addr, haddr, rfl⟩ seen
    obtain ⟨r, hr⟩ := List.exists_mem_of_ne_nil _ hon
    have hr := List.mem_filter.mp hr
    rw [resolveNid_iff hid haddr]
    · rw [(hperm.map Prod.fst).mem_iff, (hperm.filter _).length_eq, seedsOn]
      simp [haddr]
    · exact List.mem_map.mpr ⟨r, hperm.mem_iff.mpr hr.1, by simpa using hr.2⟩
    · intro q hq hip
      exact hall q (List.mem_filter.mpr ⟨hperm.mem_iff.mp hq, by simpa using hip⟩)
  constructor
  · intro h p hp hfrom
    exact (hresolve p hfrom _).mp (h p hp hfrom).1
  · intro h p hp hfrom
    have hr := fun seen => (hresolve p hfrom seen).mpr (h p hp hfrom)
    refine ⟨hr _, fun hl => ?_⟩
    rcases mem_group hp hr hl with hs | hs
    · exact absurd hs (Finset.notMem_empty _)
    · exact hs

def listed : RegistryOrder := ⟨⟨id, .refl⟩, fun _ => ⟨id, .refl⟩⟩

def onPort (port : UInt16) : SocketAddr := .v4 ⟨1, 2, 3, 4⟩ port

def unnamedPeer : PeerInfo := ⟨⟨"1.2.3.4:5555", none⟩, [], []⟩

theorem attributed_single_seed :
    let reg := NodeRegistry.empty.register "n" (onPort 80)
    resolveNid (seedRows listed reg) [] unnamedPeer ∅ = some "n" ∧
    "n" ∈ nodeIds (groupConnectionsByDirection listed ⟨[unnamedPeer], []⟩ reg "me").inbound := by
  intro reg
  have h := (attributed_iff listed reg (.v4 ⟨1, 2, 3, 4⟩) "n" "me" [unnamedPeer] (fun _ => ∅)
    (by decide) (by decide)).mpr (fun _ _ _ => Or.inr (by decide))
  have hp := h unnamedPeer (List.mem_singleton_self _) ⟨rfl, onPort 5555, by decide, rfl⟩
  exact ⟨hp.1, hp.2 (by decide)⟩

theorem second_port_drops_peer :
    let reg := (NodeRegistry.empty.register "n" (onPort 80)).register "n" (onPort 81)
    (seedsOn reg (.v4 ⟨1, 2, 3, 4⟩) ≠ [] ∧ ∀ r ∈ seedsOn reg (.v4 ⟨1, 2, 3, 4⟩), r.2 = "n") ∧
    FromIp (.v4 ⟨1, 2, 3, 4⟩) unnamedPeer ∧
    resolveNid (seedRows listed reg) [] unnamedPeer ∅ = none ∧
    (groupConnectionsByDirection listed ⟨[unnamedPeer], []⟩ reg "me").inbound = [] := by
  refine ⟨⟨by decide, by decide⟩, ⟨rfl, onPort 5555, by decide, rfl⟩, by decide, by decide⟩

end ZzP2p.Web
