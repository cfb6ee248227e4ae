import SwitchLanPlay.Foundation.Machine
import SwitchLanPlay.Gateway.ProcessUdp

/-! The UDP side of the direct proxy. `ProxyBase` keeps a handle for each endpoint that consoles
send from until it was not used for 30 seconds; a timer drops those that have expired.
-/

namespace SwitchLanPlay.Gateway

open Function List
open Foundation Packet

abbrev UdpCacheKey := Ipv4Addr × Nat

/-- `udp` names the handle by the number of handles opened before. -/
structure DirectProxyUdp where
  udp : Nat
  src : Ipv4Addr
  srcport : Nat
  expireAt : Nat

def proxyUdpTableTtl : Nat := 30

def DirectProxyUdp.visit (item : DirectProxyUdp) (now : Nat) : DirectProxyUdp :=
  { item with expireAt := now + proxyUdpTableTtl }

def DirectProxyUdp.isExpire (item : DirectProxyUdp) (now : Nat) : Bool := item.expireAt < now

/-- `opened` is not in the source: the endpoints that handles were opened for, in order. A handle
is closed when it leaves the table.
-/
structure UdpProxy where
  cacheTable : UdpCacheKey → Option DirectProxyUdp
  opened : List UdpCacheKey

namespace UdpProxy

def empty : UdpProxy := ⟨fun _ => none, []⟩

def put (proxy : UdpProxy) (key : UdpCacheKey) (item : DirectProxyUdp) : UdpProxy :=
  { proxy with cacheTable := update proxy.cacheTable key (some item) }

/-- `newUdp` and `init`, with the entry in the table. -/
def newUdp (proxy : UdpProxy) (now : Nat) (key : UdpCacheKey) : UdpProxy × DirectProxyUdp :=
  let item := ⟨proxy.opened.length, key.1, key.2, now + proxyUdpTableTtl⟩
  ({ proxy.put key item with opened := proxy.opened ++ [key] }, item)

def getUdp (proxy : UdpProxy) (now : Nat) (key : UdpCacheKey) : UdpProxy × DirectProxyUdp :=
  match proxy.cacheTable key with
  | some item => if item.isExpire now then proxy.newUdp now key else (proxy, item)
  | none => proxy.newUdp now key

end UdpProxy

/-- A packet of a console, a datagram for the handle in the table under `key`, or the timer. -/
inductive UdpEvent where
  | packet (now : Nat) (data : Bytes)
  | received (now : Nat) (key sender : UdpCacheKey) (data : Bytes)
  | gc (now : Nat)

/-- A datagram that a handle sends, or a call of `send_udp_ex` for one that a handle gets. -/
inductive UdpOutput where
  | sent (udp : Nat) (call : UdpSend)
  | passedOn (udp : Nat) (sender dst : UdpCacheKey) (data : Bytes)

def UdpProxy.step (proxy : UdpProxy) : UdpEvent → UdpProxy × Option UdpOutput
  | .packet now data =>
    match processUdp data with
    | none => (proxy, none)
    | some call =>
      let key := (call.src, call.srcport)
      let (proxy, item) := proxy.getUdp now key
      (proxy.put key (item.visit now), some (.sent item.udp call))
  | .received now key sender data =>
    match proxy.cacheTable key with
    | none => (proxy, none)
    | some item =>
      (proxy.put key (item.visit now),
        some (.passedOn item.udp sender (item.src, item.srcport) data))
  | .gc now =>
    ({ proxy with cacheTable := fun key => (proxy.cacheTable key).filter (!·.isExpire now) }, none)

def udpProxy : Machine UdpProxy UdpEvent (Option UdpOutput) := ⟨UdpProxy.step⟩

variable {proxy : UdpProxy} {key : UdpCacheKey} {item : DirectProxyUdp}

/-- The item under `key` has a handle that was opened for `key`, and replies to it. -/
structure DirectProxyUdp.Serves (item : DirectProxyUdp) (opened : List UdpCacheKey)
    (key : UdpCacheKey) : Prop where
  opened : opened[item.udp]? = some key
  replies : (item.src, item.srcport) = key

def UdpProxy.Sound (proxy : UdpProxy) : Prop :=
  ∀ key item, proxy.cacheTable key = some item → item.Serves proxy.opened key

theorem opened_of_more {opened more : List UdpCacheKey} {udp : Nat} (extends_ : opened <+: more)
    (own : opened[udp]? = some key)
    : more[udp]? = some key := by
  obtain ⟨rest, rfl⟩ := extends_
  rw [getElem?_append_left (List.getElem?_eq_some_iff.mp own).1, own]

theorem UdpProxy.Sound.put (sound : proxy.Sound) (serves : item.Serves proxy.opened key)
    : (proxy.put key item).Sound := by
  intro other found
  simp only [UdpProxy.put, update_apply]
  split
  · rename_i same
    rintro ⟨rfl⟩
    exact same ▸ serves
  · exact sound other found

theorem UdpProxy.Sound.getUdp (sound : proxy.Sound) (now : Nat) (key : UdpCacheKey)
    : (proxy.getUdp now key).1.Sound
      ∧ (proxy.getUdp now key).2.Serves (proxy.getUdp now key).1.opened key
      ∧ proxy.opened <+: (proxy.getUdp now key).1.opened := by
  have more : proxy.opened <+: proxy.opened ++ [key] := List.prefix_append ..
  have grown : Sound { proxy with opened := proxy.opened ++ [key] } := fun other item found =>
    ⟨opened_of_more more (sound other item found).opened, (sound other item found).replies⟩
  have serves : (proxy.newUdp now key).2.Serves (proxy.opened ++ [key]) key :=
    ⟨getElem?_concat_length, rfl⟩
  unfold UdpProxy.getUdp
  split
  · rename_i item found
    split
    · exact ⟨grown.put serves, serves, more⟩
    · exact ⟨sound, sound key item found, List.prefix_rfl⟩
  · exact ⟨grown.put serves, serves, more⟩

/-- The handle was opened for the endpoint that is sent from or passed on to. -/
def UdpOutput.IsOf (opened : List UdpCacheKey) : UdpOutput → Prop
  | .sent udp call => opened[udp]? = some (call.src, call.srcport)
  | .passedOn udp _ dst _ => opened[udp]? = some dst

theorem UdpProxy.Sound.step (sound : proxy.Sound) (event : UdpEvent)
    : (proxy.step event).1.Sound
      ∧ proxy.opened <+: (proxy.step event).1.opened
      ∧ ∀ output ∈ (proxy.step event).2, output.IsOf (proxy.step event).1.opened := by
  cases event with
  | packet now data =>
    simp only [UdpProxy.step]
    split
    · exact ⟨sound, List.prefix_rfl, nofun⟩
    · rename_i call _
      obtain ⟨still, serves, more⟩ := sound.getUdp now (call.src, call.srcport)
      refine ⟨still.put ⟨serves.opened, serves.replies⟩, more, ?_⟩
      rintro _ ⟨rfl⟩
      exact serves.opened
  | received now key sender data =>
    simp only [UdpProxy.step]
    split
    · exact ⟨sound, List.prefix_rfl, nofun⟩
    · rename_i item found
      have serves := sound key item found
      refine ⟨sound.put ⟨serves.opened, serves.replies⟩, List.prefix_rfl, ?_⟩
      rintro _ ⟨rfl⟩
      exact serves.opened.trans (congrArg some serves.replies.symm)
  | gc now =>
    refine ⟨?_, List.prefix_rfl, nofun⟩
    intro key item kept
    exact sound key item (Option.filter_eq_some_iff.mp kept).1

theorem UdpProxy.sound_run (history : List UdpEvent)
    : (udpProxy.run .empty history).Sound
      ∧ ∀ output,
          some output ∈ udpProxy.outputs .empty history
          → output.IsOf (udpProxy.run .empty history).opened := by
  induction history using reverseRecOn with
  | nil => exact ⟨nofun, nofun⟩
  | append_singleton history event ih =>
    obtain ⟨still, more, new⟩ := ih.1.step event
    rw [Machine.run_concat, Machine.outputs_concat]
    refine ⟨still, ?_⟩
    intro output made
    rcases mem_append.mp made with before | now
    · have own := ih.2 output before
      cases output <;> exact opened_of_more more own
    · exact new output (mem_singleton.mp now).symm

/-- A handle sends for one endpoint only, and what it gets is passed on to that endpoint. -/
def RepliesReturn (outputs : List (Option UdpOutput)) : Prop :=
  ∀ udp call,
    some (.sent udp call) ∈ outputs
    → (∀ other,
        some (.sent udp other) ∈ outputs → (other.src, other.srcport) = (call.src, call.srcport))
      ∧ ∀ sender dst data,
          some (.passedOn udp sender dst data) ∈ outputs → dst = (call.src, call.srcport)

end SwitchLanPlay.Gateway
