import SwitchLanPlay.Client.Pcap
import SwitchLanPlay.Packet.ArpHistory

/-! Broadcasts of the relay at the PC client: `lan_client_on_broadcast` sends a copy to every entry
that `arp_for_each` visits.
-/

namespace SwitchLanPlay.Client

open Foundation
open Packet

variable {count : Nat}

/-- A broadcast is sent to each live console once: the frames belong to a list without repetition
of the addresses that can be looked up.
-/
def PcapClient.ReachesLiveOnce (client : PcapClient count) (now : Nat) : Prop :=
  ∀ packet : Bytes,
    ∃ live : List (Ipv4Addr × MacAddr),
      live.Nodup
      ∧ (∀ ip mac,
          (ip, mac) ∈ live
          ↔ ip ≠ noneIp ∧ (arpGetMacByIp client.packetCtx now ip).1 = some mac)
      ∧ (client.lanClientOnBroadcast now packet).2
        = live.flatMap (fun console =>
            (sendEther client.packetCtx console.2 etherTypeIpv4 [packet]).toList)

theorem PcapClient.reachesLiveOnce {client : PcapClient count} {now : Nat}
    (relayed : client.nextRealBroadcast = false) (once : VisitsLiveOnce client.packetCtx now)
    : client.ReachesLiveOnce now := by
  intro packet
  obtain ⟨live, distinct, members, visits⟩ := once.exists_live
  refine ⟨live, distinct, members, ?_⟩
  unfold lanClientOnBroadcast
  rw [relayed, if_neg Bool.false_ne_true]
  exact visits (fun mac => (sendEther client.packetCtx mac etherTypeIpv4 [packet]).toList)

/-- After a history of `arp_set` calls `arp_for_each` visits each live console once, so that a
broadcast reaches it once, exactly when no entry for 0.0.0.0 runs and no call went to a slot in
front of an entry of its address that still runs.
-/
theorem broadcast_once_iff (client : PcapClient count) {ctx : PacketCtx}
    (fresh : ctx.arpList = arpListInit) {calls : List ArpSetCall}
    (ordered : Chronological calls) {now : Nat} (passed : ∀ call ∈ calls, call.time ≤ now)
    : (VisitsLiveOnce (arpSetting.run ctx calls) now
        ∧ (client.nextRealBroadcast = false
          → { client with packetCtx := arpSetting.run ctx calls }.ReachesLiveOnce now))
      ↔ (∀ index,
          ((arpSetting.run ctx calls).arpList index).key = noneIp
          → ((arpSetting.run ctx calls).arpList index).expireAt ≤ now)
        ∧ ¬ RenewedInFront ctx calls now := by
  rw [← doubled_iff_renewedInFront fresh ordered passed, ← visitsLiveOnce_iff]
  refine ⟨And.left, fun once => ⟨once, fun relayed => ?_⟩⟩
  exact PcapClient.reachesLiveOnce relayed once

def broadcastClient : PcapClient 1 := ⟨.empty, freshCtx, false⟩

def consoleCalls : List ArpSetCall := [⟨0, ⟨10, 13, 0, 8⟩, ⟨2, 0, 0, 0, 0, 8⟩⟩]

theorem broadcast_once_iff_one_console
    : VisitsLiveOnce (arpSetting.run freshCtx consoleCalls) 7
      ∧ { broadcastClient with packetCtx := arpSetting.run freshCtx consoleCalls }.ReachesLiveOnce
          7 := by
  have first : ¬ RenewedInFront freshCtx consoleCalls 7 := by
    rintro ⟨before, call, after, split, address, slot, later, _, _, same, _⟩
    cases before with
    | nil => exact address same.symm
    | cons _ rest => cases rest <;> simp [consoleCalls] at split
  have once := (@broadcast_once_iff 1 broadcastClient freshCtx rfl consoleCalls
    (List.pairwise_singleton _ _) 7 (by simp [consoleCalls])).mpr ⟨by decide +kernel, first⟩
  exact ⟨once.1, once.2 rfl⟩

/-- The second console is heard again after the entry of the first has run out: its new entry takes
that slot while its old entry still runs, and every broadcast is sent to it twice. An ARP probe is
visited as a console with the address 0.0.0.0.
-/
theorem broadcast_sent_twice
    : Chronological (renewalCalls ⟨2, 0, 0, 0, 0, 9⟩)
      ∧ (∀ call ∈ renewalCalls ⟨2, 0, 0, 0, 0, 9⟩, call.time ≤ 31)
      ∧ callCount (arpSetting.run freshCtx (renewalCalls ⟨2, 0, 0, 0, 0, 9⟩)) 31
            ⟨10, 13, 0, 9⟩ ⟨2, 0, 0, 0, 0, 9⟩
          = 2
      ∧ ¬ VisitsLiveOnce (arpSetting.run freshCtx (renewalCalls ⟨2, 0, 0, 0, 0, 9⟩)) 31
      ∧ callCount (arpSetting.run freshCtx [⟨0, noneIp, ⟨2, 0, 0, 0, 0, 8⟩⟩]) 0 noneIp
            ⟨2, 0, 0, 0, 0, 8⟩
          = 1 := by
  have twice
      : callCount (arpSetting.run freshCtx (renewalCalls ⟨2, 0, 0, 0, 0, 9⟩)) 31
            ⟨10, 13, 0, 9⟩ ⟨2, 0, 0, 0, 0, 9⟩
          = 2 := by
    decide +kernel
  refine ⟨renewalCalls_chronological _, renewalCalls_passed _ le_rfl, twice, ?_,
    by decide +kernel⟩
  intro once
  have atMost := once ⟨10, 13, 0, 9⟩ ⟨2, 0, 0, 0, 0, 9⟩
  rw [twice] at atMost
  split at atMost <;> omega

end SwitchLanPlay.Client
