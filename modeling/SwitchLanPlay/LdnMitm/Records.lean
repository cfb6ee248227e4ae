import SwitchLanPlay.Foundation.Layout
import SwitchLanPlay.LdnMitm.NetworkInfo

/-! The records of LDN packets read from their octets, and their fields as `LANDiscovery`
reads and writes them.
-/

namespace SwitchLanPlay.LdnMitm

open Foundation

def NodeInfo.layout : Layout NodeInfo 64 :=
  Layout.record
    {
      toFun := fun node =>
        (node.ipv4Address, node.macAddress, node.nodeId, node.isConnected, node.userName,
          node.unk1, node.localCommunicationVersion, node.unk2)
      invFun := fun (ipv4Address, macAddress, nodeId, isConnected, userName, unk1, version, unk2) =>
        ⟨ipv4Address, macAddress, nodeId, isConnected, userName, unk1, version, unk2⟩
      left_inv := fun _ => rfl
      right_inv := fun _ => rfl
    }
    (Layout.u32.pair <| (Layout.octets 6).pair <| Layout.u8.pair <| Layout.u8.pair <|
      (Layout.octets 33).pair <| Layout.u8.pair <| Layout.u16.pair <| Layout.octets 16)
    (by decide)

theorem NodeInfo.layout_val (node : NodeInfo) : (NodeInfo.layout node).val = node.toBytes := by
  simp [layout, toBytes, fieldBytes]

def CommonNetworkInfo.layout : Layout CommonNetworkInfo 48 :=
  Layout.record
    {
      toFun := fun common =>
        (common.bssid, common.ssid, common.channel, common.linkLevel, common.networkType,
          common.unk)
      invFun := fun (bssid, ssid, channel, linkLevel, networkType, unk) =>
        ⟨bssid, ssid, channel, linkLevel, networkType, unk⟩
      left_inv := fun _ => rfl
      right_inv := fun _ => rfl
    }
    ((Layout.octets 6).pair <| (Layout.octets 34).pair <| Layout.u16.pair <| Layout.u8.pair <|
      Layout.u8.pair <| Layout.octets 4)
    (by decide)

theorem CommonNetworkInfo.layout_val (common : CommonNetworkInfo)
    : (CommonNetworkInfo.layout common).val = common.toBytes := by
  simp [layout, toBytes]

def LdnNetworkInfo.layout : Layout LdnNetworkInfo 1072 :=
  Layout.record
    {
      toFun := fun ldn =>
        (ldn.unkRandom, ldn.securityMode, ldn.stationAcceptPolicy, ldn.unk1, ldn.nodeCountMax,
          ldn.nodeCount,
          (⟨ldn.nodes, ldn.nodes_length⟩
            : { nodes : List NodeInfo // nodes.length = LdnMitm.nodeCountMax }),
          ldn.unk2, ldn.advertiseDataSize, ldn.advertiseData, ldn.unk3)
      invFun := fun (unkRandom, securityMode, stationAcceptPolicy, unk1, nodeCountMax, nodeCount,
          nodes, unk2, advertiseDataSize, advertiseData, unk3) =>
        ⟨unkRandom, securityMode, stationAcceptPolicy, unk1, nodeCountMax, nodeCount, nodes.val,
          nodes.property, unk2, advertiseDataSize, advertiseData, unk3⟩
      left_inv := fun _ => rfl
      right_inv := fun _ => rfl
    }
    ((Layout.octets 16).pair <| Layout.u16.pair <| Layout.u8.pair <| (Layout.octets 3).pair <|
      Layout.u8.pair <| Layout.u8.pair <| (NodeInfo.layout.array LdnMitm.nodeCountMax).pair <|
      Layout.u16.pair <| Layout.u16.pair <| (Layout.octets 384).pair <| Layout.octets 148)
    (by decide)

theorem LdnNetworkInfo.layout_val (ldn : LdnNetworkInfo)
    : (LdnNetworkInfo.layout ldn).val
      = ldn.unkRandom ++ (le16 ldn.securityMode.toNat ++ ([ldn.stationAcceptPolicy]
        ++ (ldn.unk1 ++ ([ldn.nodeCountMax] ++ ([ldn.nodeCount]
        ++ (ldn.nodes.flatMap NodeInfo.toBytes ++ (le16 ldn.unk2.toNat
        ++ (le16 ldn.advertiseDataSize.toNat
        ++ (ldn.advertiseData.val ++ ldn.unk3.val))))))))) := by
  simp only [layout, Layout.record_val, Equiv.coe_fn_mk, Layout.pair_val,
    Layout.octets_val, Layout.u8_val, Layout.u16_val, Layout.array_val, NodeInfo.layout_val]

def NetworkInfo.layout : Layout NetworkInfo 1152 :=
  Layout.record
    {
      toFun := fun info => (info.networkId, info.common, info.ldn)
      invFun := fun (networkId, common, ldn) => ⟨networkId, common, ldn⟩
      left_inv := fun _ => rfl
      right_inv := fun _ => rfl
    }
    ((Layout.octets 32).pair <| CommonNetworkInfo.layout.pair LdnNetworkInfo.layout)
    (by decide)

theorem NetworkInfo.layout_val (info : NetworkInfo)
    : (NetworkInfo.layout info).val = info.toBytes := by
  simp only [layout, Layout.record_val, Equiv.coe_fn_mk, Layout.pair_val,
    Layout.octets_val, CommonNetworkInfo.layout_val, LdnNetworkInfo.layout_val,
    toBytes, headBytes, tailBytes, List.append_assoc,
    List.cons_append, List.nil_append]

structure ScanFilter where
  networkId : Block 32
  networkType : UInt32
  bssid : Block 6
  ssid : Block 34
  unk : Block 16
  flag : UInt32
deriving DecidableEq

def ScanFilter.layout : Layout ScanFilter 96 :=
  Layout.record
    {
      toFun := fun filter =>
        (filter.networkId, filter.networkType, filter.bssid, filter.ssid, filter.unk, filter.flag)
      invFun := fun (networkId, networkType, bssid, ssid, unk, flag) =>
        ⟨networkId, networkType, bssid, ssid, unk, flag⟩
      left_inv := fun _ => rfl
      right_inv := fun _ => rfl
    }
    ((Layout.octets 32).pair <| Layout.u32.pair <| (Layout.octets 6).pair <|
      (Layout.octets 34).pair <| (Layout.octets 16).pair <| Layout.u32)
    (by decide)

def localCommunicationId (networkId : Block 32) : Nat :=
  readLe32 networkId.val 0 + readLe32 networkId.val 4 * 4294967296

def sceneId (networkId : Block 32) : Nat := readLe16 networkId.val 10

def sessionId (networkId : Block 32) : Bytes := slice networkId.val 16 16

/-- `Ssid::operator==`: the length octet, and as many octets of the text. A length above 33 makes
`memcmp` read past the text; the texts are then compared as a whole.
-/
def ssidEq (left right : Block 34) : Bool :=
  readU8 left.val 0 = readU8 right.val 0
  ∧ slice left.val 1 (readU8 left.val 0) = slice right.val 1 (readU8 left.val 0)

/-- `scanFilterMatchesNetwork`, one conjunct for each flag. -/
def scanFilterMatchesNetwork (filter : Option ScanFilter) (info : NetworkInfo) : Bool :=
  match filter with
  | none => true
  | some filter =>
    (filter.flag &&& 1 ≠ 0
      → localCommunicationId filter.networkId = localCommunicationId info.networkId)
    ∧ (filter.flag &&& 2 ≠ 0 → sessionId filter.networkId = sessionId info.networkId)
    ∧ (filter.flag &&& 4 ≠ 0 → filter.networkType.toNat = info.common.networkType.toNat)
    ∧ (filter.flag &&& 16 ≠ 0 → ssidEq filter.ssid info.common.ssid)
    ∧ (filter.flag &&& 32 ≠ 0 → sceneId filter.networkId = sceneId info.networkId)

-- Nodes

instance : NeZero nodeCountMax := ⟨by decide⟩

namespace NetworkInfo

def node (info : NetworkInfo) (index : Fin nodeCountMax) : NodeInfo :=
  info.ldn.nodes.get (index.cast info.ldn.nodes_length.symm)

def withNodes (info : NetworkInfo) (nodes : Fin nodeCountMax → NodeInfo)
    : NetworkInfo :=
  {
    info with
    ldn := { info.ldn with nodes := List.ofFn nodes, nodes_length := List.length_ofFn }
  }

@[simp] theorem node_withNodes (info : NetworkInfo)
    (nodes : Fin nodeCountMax → NodeInfo)
    : (info.withNodes nodes).node = nodes := by
  funext index
  simp only [node, withNodes, List.get_ofFn]
  exact congrArg nodes (Fin.ext rfl)

def setNode (info : NetworkInfo) (index : Fin nodeCountMax) (node : NodeInfo)
    : NetworkInfo := info.withNodes (Function.update info.node index node)

def withNodeCount (info : NetworkInfo) (count : Nat) : NetworkInfo :=
  { info with ldn := { info.ldn with nodeCount := UInt8.ofNat count } }

@[simp] theorem node_withNodeCount (info : NetworkInfo) (count : Nat)
    : (info.withNodeCount count).node = info.node := rfl

end NetworkInfo

end SwitchLanPlay.LdnMitm
