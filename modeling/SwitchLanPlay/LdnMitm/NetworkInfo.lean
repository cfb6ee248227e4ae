import SwitchLanPlay.Foundation.Bytes

/-! The records `NodeInfo` and `NetworkInfo` that LDN packets carry, in their C layout. -/

namespace SwitchLanPlay.LdnMitm

open Foundation

/-- `NodeInfo`, 64 octets. The address is in host byte order. -/
structure NodeInfo where
  ipv4Address : UInt32
  macAddress : Block 6
  nodeId : UInt8
  isConnected : UInt8
  userName : Block 33
  unk1 : UInt8
  localCommunicationVersion : UInt16
  unk2 : Block 16
deriving DecidableEq

def NodeInfo.fieldBytes (node : NodeInfo) : Bytes :=
  node.macAddress ++ [node.nodeId, node.isConnected] ++ node.userName ++ [node.unk1]
    ++ le16 node.localCommunicationVersion.toNat ++ node.unk2

def NodeInfo.toBytes (node : NodeInfo) : Bytes := le32 node.ipv4Address.toNat ++ node.fieldBytes

structure CommonNetworkInfo where
  bssid : Block 6
  ssid : Block 34
  channel : UInt16
  linkLevel : UInt8
  networkType : UInt8
  unk : Block 4
deriving DecidableEq

def CommonNetworkInfo.toBytes (common : CommonNetworkInfo) : Bytes :=
  common.bssid ++ common.ssid ++ le16 common.channel.toNat
    ++ [common.linkLevel, common.networkType] ++ common.unk

def nodeCountMax : Nat := 8

structure LdnNetworkInfo where
  unkRandom : Block 16
  securityMode : UInt16
  stationAcceptPolicy : UInt8
  unk1 : Block 3
  nodeCountMax : UInt8
  nodeCount : UInt8
  nodes : List NodeInfo
  nodes_length : nodes.length = LdnMitm.nodeCountMax
  unk2 : UInt16
  advertiseDataSize : UInt16
  advertiseData : Block 384
  unk3 : Block 148
deriving DecidableEq

structure NetworkInfo where
  networkId : Block 32
  common : CommonNetworkInfo
  ldn : LdnNetworkInfo
deriving DecidableEq

def NetworkInfo.headBytes (info : NetworkInfo) : Bytes :=
  info.networkId ++ info.common.toBytes ++ info.ldn.unkRandom
    ++ le16 info.ldn.securityMode.toNat ++ [info.ldn.stationAcceptPolicy] ++ info.ldn.unk1
    ++ [info.ldn.nodeCountMax]

def NetworkInfo.tailBytes (info : NetworkInfo) : Bytes :=
  le16 info.ldn.unk2.toNat ++ le16 info.ldn.advertiseDataSize.toNat ++ info.ldn.advertiseData
    ++ info.ldn.unk3

def NetworkInfo.toBytes (info : NetworkInfo) : Bytes :=
  info.headBytes
    ++ (info.ldn.nodeCount :: (info.ldn.nodes.flatMap NodeInfo.toBytes ++ info.tailBytes))

def zeroBlock (size : Nat) : Block size := ⟨List.replicate size 0, List.length_replicate⟩

def NodeInfo.zero : NodeInfo := ⟨0, zeroBlock 6, 0, 0, zeroBlock 33, 0, 0, zeroBlock 16⟩

def NetworkInfo.zero : NetworkInfo where
  networkId := zeroBlock 32
  common := ⟨zeroBlock 6, zeroBlock 34, 0, 0, 0, zeroBlock 4⟩
  ldn :=
    ⟨zeroBlock 16, 0, 0, zeroBlock 3, 0, 0, List.replicate nodeCountMax .zero,
      List.length_replicate, 0, 0, zeroBlock 384, zeroBlock 148⟩

def NetworkInfo.hostedBy (info : NetworkInfo) (ipv4Address : UInt32) : NetworkInfo :=
  {
    info with
    ldn :=
      {
        info.ldn with
        nodeCount := 1
        nodes := info.ldn.nodes.set 0 { NodeInfo.zero with ipv4Address := ipv4Address }
        nodes_length := by rw [List.length_set]; exact info.ldn.nodes_length
      }
  }

@[simp] theorem NodeInfo.toBytes_length (node : NodeInfo) : node.toBytes.length = 64 := by
  simp [toBytes, fieldBytes]

@[simp] theorem NetworkInfo.headBytes_length (info : NetworkInfo)
    : info.headBytes.length = 103 := by
  simp [headBytes, CommonNetworkInfo.toBytes]

@[simp] theorem NetworkInfo.tailBytes_length (info : NetworkInfo)
    : info.tailBytes.length = 536 := by
  simp [tailBytes]

@[simp] theorem NetworkInfo.toBytes_length (info : NetworkInfo) : info.toBytes.length = 1152 := by
  have nodes := info.ldn.nodes_length
  simp [toBytes, nodes, LdnMitm.nodeCountMax]

end SwitchLanPlay.LdnMitm
