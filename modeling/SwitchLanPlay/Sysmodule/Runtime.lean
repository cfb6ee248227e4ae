import SwitchLanPlay.Sysmodule.Capture

/-! The running sysmodule: the turns of its capture, receive and keepalive threads in any
order, from the state that `main` sets up. Says what a turn can change.
-/

namespace SwitchLanPlay.Sysmodule

open Foundation
open Packet

/-- What `main` reads from the configuration and the console, with the contents of the stack
that become `frame_buf`.
-/
structure Config where
  myIp : Ipv4Addr
  subnetNet : Ipv4Addr
  subnetMask : Ipv4Addr
  myMac : MacAddr
  wifiIp : Ipv4Addr
  username : Option Bytes
  key : Bytes
  frameBuf : Memory

def Config.start (config : Config) : LanPlay where
  packetCtx :=
    (packetInit bufferSize config.myIp config.subnetNet config.subnetMask 300).packetSetMac
      config.myMac
  sender := ⟨0, 0⟩
  nextRealBroadcast := true
  table := .init
  relayBuf := fun _ => 0
  username := config.username
  key := config.key
  wifiIp := config.wifiIp
  myIp := config.myIp
  myMac := config.myMac
  running := true
  frameBuf := config.frameBuf
  consecutiveFails := 0

/-- A turn of one of the threads, with what the system calls return in it. -/
inductive Event where
  | captured (now : Nat) (src : Ipv4Addr) (datagram : Bytes) (beyond : Memory)
      (sends : Bytes → Bool)
  | received (now : Nat) (datagram : Bytes) (sends : Bytes → Bool)
  | keepalive (result : SendResult)
  /-- `nifmGetCurrentIpAddress` reports an address to the capture thread. -/
  | refreshWifi (current : Ipv4Addr)
  /-- A receive call fails with `ENETDOWN`, `EPIPE` or `ENXIO`. -/
  | networkDown

/-- One turn. When `running` is cleared the threads have ended. -/
def LanPlay.step (sha1 : Bytes → Bytes) (lp : LanPlay) (event : Event) : LanPlay × Output :=
  if lp.running then
    match event with
    | .captured now src datagram beyond sends => lp.tapRecv sends now src datagram beyond
    | .received now datagram sends => lp.lanClientRecv sha1 sends now datagram
    | .keepalive result => lp.lanClientKeepalive result
    | .refreshWifi current =>
      (if current = noneIp then lp else { lp with wifiIp := current }, .none)
    | .networkDown => ({ lp with running := false }, .none)
  else (lp, .none)

def sysmodule (sha1 : Bytes → Bytes) : Machine LanPlay Event Output := ⟨LanPlay.step sha1⟩

-- What a turn can change

/-- The source address `process_ipv4` reads from a datagram; a datagram without a whole header
leaves older octets in its place.
-/
def LanPlay.capturedSource (lp : LanPlay) (datagram : Bytes) : Ipv4Addr :=
  let frameBuf := lp.frameBuf.write etherHeaderLen (datagram.take tapBufSize)
  readIpv4 ((frameBuf.shift etherOffEnd).read ipv4HeaderLen) ipv4OffSrc

structure SameSettings (before after : LanPlay) : Prop where
  bufferLen : after.packetCtx.bufferLen = before.packetCtx.bufferLen
  ip : after.packetCtx.ip = before.packetCtx.ip
  subnetNet : after.packetCtx.subnetNet = before.packetCtx.subnetNet
  subnetMask : after.packetCtx.subnetMask = before.packetCtx.subnetMask
  arpTtl : after.packetCtx.arpTtl = before.packetCtx.arpTtl
  myIp : after.myIp = before.myIp

theorem SameSettings.refl (lp : LanPlay) : SameSettings lp lp := ⟨rfl, rfl, rfl, rfl, rfl, rfl⟩

theorem SameSettings.trans {first second third : LanPlay} (front : SameSettings first second)
    (back : SameSettings second third)
    : SameSettings first third where
  bufferLen := back.bufferLen.trans front.bufferLen
  ip := back.ip.trans front.ip
  subnetNet := back.subnetNet.trans front.subnetNet
  subnetMask := back.subnetMask.trans front.subnetMask
  arpTtl := back.arpTtl.trans front.arpTtl
  myIp := back.myIp.trans front.myIp

variable (lp : LanPlay)

/-- Delivering a packet only clears the broadcast flag. -/
theorem LanPlay.lanClientProcess_changes (now : Nat) (packet : Memory) (len : Nat)
    : ∃ flag,
        (lp.lanClientProcess now packet len).1 = { lp with nextRealBroadcast := flag } := by
  unfold lanClientProcess lanClientOnBroadcast
  dsimp only
  split
  · exact ⟨lp.nextRealBroadcast, rfl⟩
  · split
    · split
      · exact ⟨false, rfl⟩
      · exact ⟨lp.nextRealBroadcast, rfl⟩
    · split <;> exact ⟨lp.nextRealBroadcast, rfl⟩

theorem LanPlay.lanClientProcessFrag_changes (now : Nat) (packet : Bytes)
    : ∃ flag table,
        (lp.lanClientProcessFrag now packet).1
        = { lp with nextRealBroadcast := flag, table := table } := by
  unfold lanClientProcessFrag
  cases collectFragment lp.table packet with
  | mk table handed =>
    cases handed with
    | none => exact ⟨lp.nextRealBroadcast, table, rfl⟩
    | some handed =>
      obtain ⟨flag, changed⟩ :=
        { lp with table := table }.lanClientProcess_changes now (.ofArray handed.buffer)
          handed.len
      exact ⟨flag, table, changed⟩

theorem LanPlay.lanClientSwitch_changes (sha1 : Bytes → Bytes) (sends : Bytes → Bool)
    (now len : Nat)
    : ∃ flag table,
        (lp.lanClientSwitch sha1 sends now len).1
        = { lp with nextRealBroadcast := flag, table := table } := by
  unfold lanClientSwitch
  dsimp only
  split
  · obtain ⟨flag, changed⟩ := lp.lanClientProcess_changes now (lp.relayBuf.shift 1) len
    exact ⟨flag, lp.table, changed⟩
  · exact lp.lanClientProcessFrag_changes now _
  · split <;> exact ⟨lp.nextRealBroadcast, lp.table, rfl⟩
  · exact ⟨lp.nextRealBroadcast, lp.table, rfl⟩

/-- The receive thread writes its buffer, the fragment table and the broadcast flag. -/
theorem LanPlay.lanClientRecv_changes (sha1 : Bytes → Bytes) (sends : Bytes → Bool) (now : Nat)
    (datagram : Bytes)
    : ∃ flag table relayBuf,
        (lp.lanClientRecv sha1 sends now datagram).1
        = { lp with nextRealBroadcast := flag, table := table, relayBuf := relayBuf } := by
  unfold lanClientRecv
  split
  · exact ⟨lp.nextRealBroadcast, lp.table, lp.relayBuf, rfl⟩
  · obtain ⟨flag, table, changed⟩ := lanClientSwitch_changes _ sha1 sends now _
    exact ⟨flag, table, _, changed⟩

theorem LanPlay.lanClientKeepalive_changes (result : SendResult)
    : ∃ flag fails running,
        (lp.lanClientKeepalive result).1
        = {
          lp with
          nextRealBroadcast := flag
          consecutiveFails := fails
          running := running
        } := by
  cases result with
  | sent => exact ⟨true, 0, lp.running, rfl⟩
  | unreachable => exact ⟨lp.nextRealBroadcast, lp.consecutiveFails, lp.running, rfl⟩
  | down => exact ⟨lp.nextRealBroadcast, lp.consecutiveFails, false, rfl⟩
  | failed =>
    simp only [lanClientKeepalive]
    split
    · exact ⟨lp.nextRealBroadcast, lp.consecutiveFails + 1, false, rfl⟩
    · exact ⟨true, lp.consecutiveFails + 1, lp.running, rfl⟩

theorem processIcmp_changes (ctx : PacketCtx) (now : Nat) (ipv4 : Ipv4)
    : ∃ identification,
        (processIcmp ctx now ipv4).1 = { ctx with identification := identification } := by
  unfold processIcmp
  dsimp only
  split
  · exact ⟨ctx.identification, rfl⟩
  · exact ⟨_, sendIpv4_ctx ..⟩

/-- Past `arp_set`, a captured packet changes neither settings nor ARP cache. -/
theorem LanPlay.routeIpv4_changes (sends : Bytes → Bool) (now : Nat) (ether : EtherFrame)
    (ipv4 : Ipv4)
    : SameSettings lp (lp.routeIpv4 sends now ether ipv4).1
      ∧ (lp.routeIpv4 sends now ether ipv4).1.packetCtx.arpList = lp.packetCtx.arpList := by
  unfold routeIpv4 lanClientSendIpv4
  dsimp only
  split
  · split
    · obtain ⟨identification, changed⟩ := processIcmp_changes lp.packetCtx now ipv4
      rw [changed]
      exact ⟨⟨rfl, rfl, rfl, rfl, rfl, rfl⟩, rfl⟩
    · exact ⟨.refl lp, rfl⟩
  · split
    · split
      · exact ⟨⟨rfl, rfl, rfl, rfl, rfl, rfl⟩, rfl⟩
      · split
        · exact ⟨.refl lp, rfl⟩
        · exact ⟨⟨rfl, rfl, rfl, rfl, rfl, rfl⟩, rfl⟩
    · exact ⟨.refl lp, rfl⟩

/-- The header built for a captured datagram is parsed back, and what stands behind it is the
received packet.
-/
theorem parseEther_captured (frameBuf beyond : Memory) (dst src : MacAddr)
    : let frame :=
        (frameBuf.write 0 (etherHeader dst src etherTypeIpv4)).followedBy
          (etherHeaderLen + tapBufSize) beyond
      (parseEther frame).src = src
      ∧ (parseEther frame).type = etherTypeIpv4
      ∧ (parseIpv4 (parseEther frame)).src
        = readIpv4 ((frameBuf.shift etherOffEnd).read ipv4HeaderLen) ipv4OffSrc := by
  intro frame
  have header : frame.read etherHeaderLen = etherHeader dst src etherTypeIpv4 := by
    have inside : 0 + etherHeaderLen ≤ etherHeaderLen + tapBufSize := by decide
    have start := Memory.read_followedBy
      (frameBuf.write 0 (etherHeader dst src etherTypeIpv4)) beyond inside
    have written := frameBuf.read_write_drop (etherHeader dst src etherTypeIpv4) 0
    rw [Memory.shift_zero, Memory.shift_zero] at start
    rw [Memory.shift_zero] at written
    exact start.trans written
  have payload : (frame.shift etherOffEnd).read ipv4HeaderLen
      = (frameBuf.shift etherOffEnd).read ipv4HeaderLen := by
    have inside : etherOffEnd + ipv4HeaderLen ≤ etherHeaderLen + tapBufSize := by decide
    have behind := frameBuf.shift_write (etherHeader dst src etherTypeIpv4)
    rw [etherHeader_length] at behind
    exact (Memory.read_followedBy _ beyond inside).trans
      (congrArg (Memory.read · ipv4HeaderLen) behind)
  refine ⟨?_, ?_, ?_⟩
  · rw [parseEther, header]
    rfl
  · have type := readBe16_etherHeader_append dst src etherTypeIpv4 []
    rw [List.append_nil] at type
    rw [parseEther, header]
    exact type
  · rw [parseIpv4, parseEther, payload]

namespace LanPlay

/-- A captured packet enters its sender into the ARP cache. -/
theorem processIpv4_changes (sends : Bytes → Bool) (now : Nat) (ether : EtherFrame)
    : SameSettings lp (lp.processIpv4 sends now ether).1
      ∧ (lp.processIpv4 sends now ether).1.packetCtx.arpList
        = grantLease noneIp lp.packetCtx.arpList now
            ⟨(parseIpv4 ether).src, ether.src, now + lp.packetCtx.arpTtl⟩ := by
  obtain ⟨same, kept⟩ := routeIpv4_changes
    { lp with packetCtx := arpSet lp.packetCtx now ether.src (parseIpv4 ether).src } sends now
    ether (parseIpv4 ether)
  unfold processIpv4
  dsimp only
  refine ⟨SameSettings.trans ?_ same, kept.trans (arpSet_arpList ..)⟩
  constructor <;> simp only [arpSet]

/-- Frames with the console's own hardware address are ignored. -/
theorem processEther_ipv4 (sends : Bytes → Bool) (now : Nat) {packet : Memory}
    (type : (parseEther packet).type = etherTypeIpv4)
    : lp.processEther sends now packet
      = if (parseEther packet).src = lp.packetCtx.mac then (lp, .none)
        else lp.processIpv4 sends now (parseEther packet) := by
  have notArp : ¬ etherTypeIpv4 = etherTypeArp := by decide
  simp only [processEther, type, notArp, if_false, if_true]

/-- The capture thread enters the sender of a datagram it does not drop. -/
theorem tapRecv_changes (sends : Bytes → Bool) (now : Nat) (src : Ipv4Addr) (datagram : Bytes)
    (beyond : Memory)
    : SameSettings lp (lp.tapRecv sends now src datagram beyond).1
      ∧ ((lp.tapRecv sends now src datagram beyond).1.packetCtx.arpList = lp.packetCtx.arpList
        ∨ (lp.tapRecv sends now src datagram beyond).1.packetCtx.arpList
          = grantLease noneIp lp.packetCtx.arpList now
              ⟨lp.capturedSource datagram, syntheticMac src, now + lp.packetCtx.arpTtl⟩) := by
  unfold tapRecv
  dsimp only
  split
  · exact ⟨⟨rfl, rfl, rfl, rfl, rfl, rfl⟩, Or.inl rfl⟩
  · split
    · exact ⟨⟨rfl, rfl, rfl, rfl, rfl, rfl⟩, Or.inl rfl⟩
    · split
      · exact ⟨⟨rfl, rfl, rfl, rfl, rfl, rfl⟩, Or.inl rfl⟩
      · obtain ⟨mac, type, source⟩ := parseEther_captured
          (lp.frameBuf.write etherHeaderLen (datagram.take tapBufSize)) beyond broadcastMac
          (syntheticMac src)
        rw [processEther_ipv4 _ sends now type]
        split
        · exact ⟨⟨rfl, rfl, rfl, rfl, rfl, rfl⟩, Or.inl rfl⟩
        · obtain ⟨same, entered⟩ := processIpv4_changes
            {
              lp with
              frameBuf :=
                (lp.frameBuf.write etherHeaderLen (datagram.take tapBufSize)).write 0
                  (etherHeader broadcastMac (syntheticMac src) etherTypeIpv4)
              packetCtx := lp.packetCtx.packetSetMac lp.myMac
            }
            sends now _
          refine ⟨⟨same.1, same.2, same.3, same.4, same.5, same.6⟩, Or.inr ?_⟩
          rw [entered, mac, source]
          rfl

/-- A turn keeps the settings; the ARP cache changes only by a captured datagram. -/
theorem step_changes (sha1 : Bytes → Bytes) (lp : LanPlay) (event : Event)
    : SameSettings lp (lp.step sha1 event).1
      ∧ ((lp.step sha1 event).1.packetCtx.arpList = lp.packetCtx.arpList
        ∨ ∃ now src datagram beyond sends,
            event = .captured now src datagram beyond sends
            ∧ (lp.step sha1 event).1.packetCtx.arpList
              = grantLease noneIp lp.packetCtx.arpList now
                  ⟨lp.capturedSource datagram, syntheticMac src,
                    now + lp.packetCtx.arpTtl⟩) := by
  unfold LanPlay.step
  split
  · cases event with
    | captured now src datagram beyond sends =>
      obtain ⟨same, kept | entered⟩ := lp.tapRecv_changes sends now src datagram beyond
      · exact ⟨same, Or.inl kept⟩
      · exact ⟨same, Or.inr ⟨now, src, datagram, beyond, sends, rfl, entered⟩⟩
    | received now datagram sends =>
      obtain ⟨flag, table, relayBuf, changed⟩ := lp.lanClientRecv_changes sha1 sends now datagram
      dsimp only
      rw [changed]
      exact ⟨⟨rfl, rfl, rfl, rfl, rfl, rfl⟩, Or.inl rfl⟩
    | keepalive result =>
      obtain ⟨flag, fails, running, changed⟩ := lp.lanClientKeepalive_changes result
      dsimp only
      rw [changed]
      exact ⟨⟨rfl, rfl, rfl, rfl, rfl, rfl⟩, Or.inl rfl⟩
    | refreshWifi current =>
      dsimp only
      split
      · exact ⟨.refl lp, Or.inl rfl⟩
      · exact ⟨⟨rfl, rfl, rfl, rfl, rfl, rfl⟩, Or.inl rfl⟩
    | networkDown => exact ⟨⟨rfl, rfl, rfl, rfl, rfl, rfl⟩, Or.inl rfl⟩
  · exact ⟨.refl lp, Or.inl rfl⟩

/-- Without a path MTU nothing is fragmented, so sending leaves no trace in the state. -/
theorem lanClientSendIpv4_lp {lp : LanPlay} (unlimited : lp.sender.pmtu = 0)
    (sends : Bytes → Bool) (packet : Memory) (len : Nat)
    : (lp.lanClientSendIpv4 sends packet len).1 = lp := by
  have sender : (lanClientSend sends lp.sender .ipv4 packet len).sender = lp.sender := by
    unfold lanClientSend
    rw [if_neg fun fragmented => by rw [unlimited] at fragmented; omega]
    dsimp only
    split <;> rfl
  unfold lanClientSendIpv4
  dsimp only
  rw [sender]

theorem routeIpv4_sender (unlimited : lp.sender.pmtu = 0) (sends : Bytes → Bool) (now : Nat)
    (ether : EtherFrame) (ipv4 : Ipv4)
    : (lp.routeIpv4 sends now ether ipv4).1.sender = lp.sender := by
  unfold routeIpv4
  dsimp only
  rw [lanClientSendIpv4_lp unlimited]
  split_ifs <;> rfl

theorem processEther_sender (unlimited : lp.sender.pmtu = 0) (sends : Bytes → Bool) (now : Nat)
    (packet : Memory)
    : (lp.processEther sends now packet).1.sender = lp.sender := by
  unfold processEther processIpv4
  dsimp only
  split_ifs
  · rfl
  · rfl
  · exact routeIpv4_sender _ (by exact unlimited) sends now _ _
  · rfl

/-- Without a path MTU no turn changes the sender. -/
theorem step_sender (sha1 : Bytes → Bytes) {lp : LanPlay}
    (unlimited : lp.sender.pmtu = 0) (event : Event)
    : (lp.step sha1 event).1.sender = lp.sender := by
  unfold LanPlay.step
  split
  · cases event with
    | captured now src datagram beyond sends =>
      dsimp only
      unfold tapRecv
      dsimp only
      split_ifs
      · rfl
      · rfl
      · rfl
      · exact processEther_sender _ (by exact unlimited) sends now _
    | received now datagram sends =>
      obtain ⟨flag, table, relayBuf, changed⟩ := lp.lanClientRecv_changes sha1 sends now datagram
      dsimp only
      rw [changed]
    | keepalive result =>
      obtain ⟨flag, fails, running, changed⟩ := lp.lanClientKeepalive_changes result
      dsimp only
      rw [changed]
    | refreshWifi current =>
      dsimp only
      split <;> rfl
    | networkDown => rfl
  · rfl

end LanPlay

-- Whole runs

def Config.stateAfter (sha1 : Bytes → Bytes) (config : Config) (history : List Event)
    : LanPlay := (sysmodule sha1).run config.start history

/-- The settings never change while the runtime is up. -/
theorem Config.stateAfter_settings (sha1 : Bytes → Bytes) (config : Config)
    (history : List Event)
    : SameSettings config.start (config.stateAfter sha1 history) :=
  (sysmodule sha1).run_invariant (SameSettings config.start)
    (fun lp event same => same.trans (lp.step_changes sha1 event).1) (.refl _) history

/-- An entry of the ARP cache goes back to a captured datagram: the datagram had its IP
address as source, and the entry ends 300 seconds later.
-/
def Captured (sha1 : Bytes → Bytes) (config : Config) (history : List Event) (item : ArpItem)
    : Prop :=
  ∃ before after now src datagram beyond sends,
    history = before ++ .captured now src datagram beyond sends :: after
    ∧ (config.stateAfter sha1 before).capturedSource datagram = item.key
    ∧ item.expireAt = now + 300

theorem Captured.concat {sha1 : Bytes → Bytes} {config : Config} {history : List Event}
    {item : ArpItem} (origin : Captured sha1 config history item) (event : Event)
    : Captured sha1 config (history ++ [event]) item := by
  obtain ⟨before, after, now, src, datagram, beyond, sends, split, source, ends⟩ := origin
  exact ⟨before, after ++ [event], now, src, datagram, beyond, sends, by simp [split], source,
    ends⟩

/-- In every reachable state each ARP entry is empty or goes back to a captured datagram.
Witness: induction on the history; only a captured datagram writes a slot.
-/
theorem Config.stateAfter_arpList (sha1 : Bytes → Bytes) (config : Config)
    (history : List Event) (index : Fin arpCacheLen)
    : ((config.stateAfter sha1 history).packetCtx.arpList index).expireAt = 0
      ∨ Captured sha1 config history
          ((config.stateAfter sha1 history).packetCtx.arpList index) := by
  induction history using List.reverseRecOn with
  | nil => exact Or.inl rfl
  | append_singleton history event ih =>
    have later := ih.imp_right (fun origin => origin.concat event)
    have state : config.stateAfter sha1 (history ++ [event])
        = ((config.stateAfter sha1 history).step sha1 event).1 :=
      (sysmodule sha1).run_concat config.start history event
    rw [state]
    obtain ⟨_, same | ⟨now, src, datagram, beyond, sends, rfl, entered⟩⟩ :=
      (config.stateAfter sha1 history).step_changes sha1 event
    · rw [same]
      exact later
    · rw [entered]
      rcases grantLease_slot noneIp (config.stateAfter sha1 history).packetCtx.arpList now
          ⟨(config.stateAfter sha1 history).capturedSource datagram, syntheticMac src,
            now + (config.stateAfter sha1 history).packetCtx.arpTtl⟩ index
        with old | new
      · rw [old]
        exact later
      · have ttl : (config.stateAfter sha1 history).packetCtx.arpTtl = 300 :=
          (config.stateAfter_settings sha1 history).arpTtl
        rw [new]
        exact Or.inr
          ⟨history, [], now, src, datagram, beyond, sends, rfl, rfl, by rw [ttl]⟩

end SwitchLanPlay.Sysmodule
