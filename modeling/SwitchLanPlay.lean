import SwitchLanPlay.Client.RoundTrip
import SwitchLanPlay.Client.IdReuse
import SwitchLanPlay.Server.Fragments
import SwitchLanPlay.LdnMitm.Datagrams
import SwitchLanPlay.Sysmodule.TwoConsoles
import SwitchLanPlay.Server.Coherence
import SwitchLanPlay.Sysmodule.Login
import SwitchLanPlay.LdnMitm.GateEvents
import SwitchLanPlay.LdnMitm.StationView
import SwitchLanPlay.LdnMitm.Scan
import SwitchLanPlay.Server.Challenge
import SwitchLanPlay.Client.Echo
import SwitchLanPlay.Sysmodule.SharedBuffer
import SwitchLanPlay.Sysmodule.CrossDelivery
import SwitchLanPlay.Sysmodule.ClosedOnce
import SwitchLanPlay.Sysmodule.SlotReuse
import SwitchLanPlay.Server.Reload
import SwitchLanPlay.Sysmodule.Gate
import SwitchLanPlay.Gateway.Receive
import SwitchLanPlay.Gateway.Shutdown
import SwitchLanPlay.Gateway.WriteLedger
import SwitchLanPlay.Setup.SavedRelay
import SwitchLanPlay.Rpc.FrameDelivery
import SwitchLanPlay.Client.Broadcast
import SwitchLanPlay.Sysmodule.Reassembly
import SwitchLanPlay.Client.EvictionOrder
import SwitchLanPlay.Sysmodule.RewriterFrame
import SwitchLanPlay.Client.CaptureSafety
import SwitchLanPlay.Client.ReceiveSafety
import SwitchLanPlay.Sysmodule.Forwarding
import SwitchLanPlay.Sysmodule.TapSafety
import SwitchLanPlay.LdnMitm.NodeReports
import SwitchLanPlay.Sysmodule.LobbyReplacement
import SwitchLanPlay.LdnMitm.Capacity
import SwitchLanPlay.LdnMitm.Truncation
import SwitchLanPlay.Client.EchoReply
import SwitchLanPlay.Gateway.FatalWrite
import SwitchLanPlay.Gateway.ProcessUdp
import SwitchLanPlay.Gateway.Socks5
import SwitchLanPlay.Rpc.Messages
import SwitchLanPlay.Rpc.ReadLine
import SwitchLanPlay.Rpc.ByteQueue
import SwitchLanPlay.Gateway.Socks5Udp
import SwitchLanPlay.Client.ParseIpPort
import SwitchLanPlay.Sysmodule.RestartBackoff
import SwitchLanPlay.Sysmodule.HostsFile
import SwitchLanPlay.Setup.RelayList
import SwitchLanPlay.Client.Sha1
import SwitchLanPlay.Gateway.UdpProxy
