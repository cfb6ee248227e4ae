import SwitchLanPlay.Foundation.LastMark
import SwitchLanPlay.LdnMitm.NodeEvents

/-! The changes of nodes that `getNetworkInfo` reports. `isNodeStateChanged` compares every
network with the last one and adds to what was not reported yet; a call for some of the nodes
clears these and no others.
-/

namespace SwitchLanPlay.LdnMitm

open Foundation

variable {lan : LANDiscovery}

/-- What concerns the changes of nodes: a network that is taken over, a change of role, and a call
of `getNetworkInfo` with room for `bufferCount` changes.
-/
inductive NodeCall where
  | update (info : NetworkInfo)
  | move (next : CommState)
  | read (bufferCount : Fin (nodeCountMax + 1))

def LANDiscovery.nodeStep (lan : LANDiscovery) : NodeCall → LANDiscovery × Option (List UInt8)
  | .update info => ({ lan with networkInfo := info }.onNetworkInfoChanged, none)
  | .move next => (lan.setState next, none)
  | .read bufferCount =>
    let outcome := lan.getNetworkInfoLatestUpdate bufferCount.val
    (outcome.1, outcome.2.toOption.map Prod.snd)

def nodeMachine : Machine LANDiscovery NodeCall (Option (List UInt8)) := ⟨LANDiscovery.nodeStep⟩

def ReportsDisconnect (change : UInt8) : Prop := change &&& 2 = 2

instance (change : UInt8) : Decidable (ReportsDisconnect change) :=
  inferInstanceAs (Decidable (_ = _))

-- What is there to report

def NodeCall.info? : NodeCall → Option NetworkInfo
  | .update info => some info
  | .move _ => none
  | .read _ => none

def lastFlag (index : Fin nodeCountMax) (history : List NodeCall) : UInt8 :=
  ((history.filterMap NodeCall.info?).getLast?.map
    (fun info => (info.node index).isConnected)).getD 0

def Turns (index : Fin nodeCountMax) (old new : UInt8) (before : List NodeCall) (call : NodeCall)
    : Prop :=
  ∃ info, call = .update info ∧ lastFlag index before = old ∧ (info.node index).isConnected = new

def NodeCall.Covers (index : Fin nodeCountMax) (call : NodeCall) : Prop :=
  ∃ bufferCount, call = .read bufferCount ∧ index.val < bufferCount.val

def Unreported (index : Fin nodeCountMax) (old new : UInt8) (history : List NodeCall) : Prop :=
  Outstanding (Turns index old new) (NodeCall.Covers index) history

theorem lastFlag_update (index : Fin nodeCountMax) (history : List NodeCall) (info : NetworkInfo)
    : lastFlag index (history ++ [.update info]) = (info.node index).isConnected := by
  simp [lastFlag, NodeCall.info?]

theorem lastFlag_other (index : Fin nodeCountMax) (history : List NodeCall) {call : NodeCall}
    (other : call.info? = none)
    : lastFlag index (history ++ [call]) = lastFlag index history := by
  simp [lastFlag, other]

section Concat

variable {index : Fin nodeCountMax} {old new : UInt8} {history : List NodeCall}

theorem unreported_update_iff {info : NetworkInfo}
    : Unreported index old new (history ++ [.update info])
      ↔ (lastFlag index history = old ∧ (info.node index).isConnected = new)
        ∨ Unreported index old new history := by
  rw [Unreported, outstanding_concat_iff]
  simp [Turns, NodeCall.Covers, Unreported]

theorem unreported_move_iff {next : CommState}
    : Unreported index old new (history ++ [.move next]) ↔ Unreported index old new history := by
  rw [Unreported, outstanding_concat_iff]
  simp [Turns, NodeCall.Covers, Unreported]

theorem unreported_read_iff {bufferCount : Fin (nodeCountMax + 1)}
    : Unreported index old new (history ++ [.read bufferCount])
      ↔ ¬ index.val < bufferCount.val ∧ Unreported index old new history := by
  rw [Unreported, outstanding_concat_iff]
  simp [Turns, NodeCall.Covers, Unreported]

end Concat

-- What the discovery notes

/-- Every node of the network is marked as connected or not, with one or zero. -/
def NetworkInfo.IsBinary (info : NetworkInfo) : Prop :=
  ∀ index, (info.node index).isConnected = 0 ∨ (info.node index).isConnected = 1

/-- The arrays hold what is there to report. -/
structure LANDiscovery.Notes (lan : LANDiscovery) (history : List NodeCall) : Prop where
  flag : ∀ index, lan.nodeLastStates index = lastFlag index history
  binary : ∀ index, lastFlag index history = 0 ∨ lastFlag index history = 1
  connect
    : ∀ index, ReportsConnect (lan.nodeChanges index) ↔ Unreported index 0 1 history
  disconnect
    : ∀ index, ReportsDisconnect (lan.nodeChanges index) ↔ Unreported index 1 0 history

theorem LANDiscovery.initNodeStateChange_notes (lan : LANDiscovery)
    : lan.initNodeStateChange.Notes [] where
  flag _ := rfl
  binary _ := .inl rfl
  connect _ := iff_of_false (by decide : ¬ ReportsConnect 0) (not_outstanding_nil _ _)
  disconnect _ := iff_of_false (by decide : ¬ ReportsDisconnect 0) (not_outstanding_nil _ _)

theorem reportsConnect_or_two (change : UInt8)
    : ReportsConnect (change ||| 2) ↔ ReportsConnect change := by
  have all : ∀ change : UInt8, ReportsConnect (change ||| 2) ↔ ReportsConnect change := by
    decide +kernel
  exact all change

theorem reportsDisconnect_or_one (change : UInt8)
    : ReportsDisconnect (change ||| 1) ↔ ReportsDisconnect change := by
  have all : ∀ change : UInt8, ReportsDisconnect (change ||| 1) ↔ ReportsDisconnect change := by
    decide +kernel
  exact all change

theorem reportsDisconnect_or_two (change : UInt8) : ReportsDisconnect (change ||| 2) := by
  have all : ∀ change : UInt8, ReportsDisconnect (change ||| 2) := by decide +kernel
  exact all change

namespace LANDiscovery

/-- What `isNodeStateChanged` adds for a node whose flag is zero or one. -/
theorem nodeChanges_noteNodeStates (lan : LANDiscovery) (index : Fin nodeCountMax)
    (binary
      : (lan.networkInfo.node index).isConnected = 0
        ∨ (lan.networkInfo.node index).isConnected = 1)
    : lan.noteNodeStates.nodeChanges index
      = if (lan.networkInfo.node index).isConnected = lan.nodeLastStates index then
          lan.nodeChanges index
        else if (lan.networkInfo.node index).isConnected = 1 then lan.nodeChanges index ||| 1
        else lan.nodeChanges index ||| 2 := by
  have differs : lan.differs index = true
      ↔ (lan.networkInfo.node index).isConnected ≠ lan.nodeLastStates index := by
    rw [LANDiscovery.differs, decide_eq_true_iff]
    refine or_iff_left ?_
    rcases binary with flag | flag <;> rw [flag] <;> decide
  simp only [noteNodeStates]
  by_cases same : (lan.networkInfo.node index).isConnected = lan.nodeLastStates index
  · rw [if_pos same, if_neg (fun changed => differs.mp changed same)]
  · rw [if_neg same, if_pos (differs.mpr same)]
    rcases binary with flag | flag <;> rw [flag] <;> rfl

/-- A network that is taken over adds the flags it turns. -/
theorem Notes.update {history : List NodeCall} (notes : lan.Notes history) {info : NetworkInfo}
    (binary : info.IsBinary)
    : LANDiscovery.Notes ({ lan with networkInfo := info }.onNetworkInfoChanged)
        (history ++ [.update info]) := by
  have changes (index : Fin nodeCountMax) :=
    nodeChanges_noteNodeStates { lan with networkInfo := info } index (binary index)
  rw [onNetworkInfoChanged_frame]
  refine ⟨fun index => ?_, fun index => ?_, fun index => ?_, fun index => ?_⟩
  · rw [lastFlag_update]
    exact nodeLastStates_noteNodeStates _ index
  · rw [lastFlag_update]
    exact binary index
  · dsimp only
    rw [changes, unreported_update_iff, ← notes.connect, notes.flag]
    rcases notes.binary index with old | old <;> rcases binary index with new | new <;>
      simp [old, new, reportsConnect_or_one, reportsConnect_or_two]
  · dsimp only
    rw [changes, unreported_update_iff, ← notes.disconnect, notes.flag]
    rcases notes.binary index with old | old <;> rcases binary index with new | new <;>
      simp [old, new, reportsDisconnect_or_one, reportsDisconnect_or_two]

theorem Notes.move {lan : LANDiscovery} {history : List NodeCall}
    (notes : lan.Notes history) (next : CommState)
    : (lan.setState next).Notes (history ++ [.move next]) := by
  rw [setState_frame]
  refine ⟨fun index => ?_, fun index => ?_, fun index => ?_, fun index => ?_⟩
  · rw [lastFlag_other index history rfl]
    exact notes.flag index
  · rw [lastFlag_other index history rfl]
    exact notes.binary index
  · rw [unreported_move_iff]
    exact notes.connect index
  · rw [unreported_move_iff]
    exact notes.disconnect index

/-- `getNetworkInfo` reports the first nodes and clears them. -/
theorem getNetworkInfoLatestUpdate_eq
    (role : lan.state = .accessPointCreated ∨ lan.state = .stationConnected)
    (bufferCount : Fin (nodeCountMax + 1))
    : lan.getNetworkInfoLatestUpdate bufferCount.val
      = ({
            lan with
            nodeChanges := fun index =>
              if index.val < bufferCount.val then 0 else lan.nodeChanges index
          }, .ok (lan.networkInfo, (List.ofFn lan.nodeChanges).take bufferCount.val)) := by
  have inRange : ¬ ((bufferCount.val : Int) < 0 ∨ (nodeCountMax : Int) < bufferCount.val) := by
    have bound := bufferCount.isLt
    omega
  unfold getNetworkInfoLatestUpdate getNetworkInfo
  rw [if_neg inRange, if_pos role]
  simp only [Nat.cast_lt, Int.toNat_natCast]

theorem Notes.read {history : List NodeCall} (notes : lan.Notes history)
    (role : lan.state = .accessPointCreated ∨ lan.state = .stationConnected)
    (bufferCount : Fin (nodeCountMax + 1))
    : (lan.getNetworkInfoLatestUpdate bufferCount.val).1.Notes
        (history ++ [.read bufferCount]) := by
  rw [getNetworkInfoLatestUpdate_eq role]
  refine ⟨fun index => ?_, fun index => ?_, fun index => ?_, fun index => ?_⟩
  · rw [lastFlag_other index history rfl]
    exact notes.flag index
  · rw [lastFlag_other index history rfl]
    exact notes.binary index
  · dsimp only
    rw [unreported_read_iff, ← notes.connect]
    split
    · rename_i covered
      exact iff_of_false (by decide) (fun kept => kept.1 covered)
    · rename_i kept
      exact (and_iff_right kept).symm
  · dsimp only
    rw [unreported_read_iff, ← notes.disconnect]
    split
    · rename_i covered
      exact iff_of_false (by decide) (fun kept => kept.1 covered)
    · rename_i kept
      exact (and_iff_right kept).symm

end LANDiscovery

def ReadsInNetwork (start : LANDiscovery) (history : List NodeCall) : Prop :=
  ∀ before call after,
    history = before ++ call :: after
    → ∀ bufferCount,
        call = .read bufferCount
        → (nodeMachine.run start before).state = .accessPointCreated
          ∨ (nodeMachine.run start before).state = .stationConnected

theorem nodeMachine_notes (lan : LANDiscovery) {history : List NodeCall}
    (binary : ∀ call ∈ history, ∀ info, call = .update info → info.IsBinary)
    (role : ReadsInNetwork lan.initNodeStateChange history)
    : (nodeMachine.run lan.initNodeStateChange history).Notes history := by
  induction history using List.reverseRecOn with
  | nil => exact lan.initNodeStateChange_notes
  | append_singleton history call ih =>
    obtain ⟨earlierBinary, lastBinary⟩ := forall_mem_concat.mp binary
    obtain ⟨earlierRole, lastRole⟩ := forall_split_concat_iff.mp role
    have notes := ih earlierBinary earlierRole
    rw [Machine.run_concat]
    cases call with
    | update info => exact notes.update (lastBinary info rfl)
    | move next => exact notes.move next
    | read bufferCount => exact notes.read (lastRole bufferCount rfl) bufferCount

def hostingDiscovery : LANDiscovery :=
  { LANDiscovery.fresh (fun _ => 0) (fun _ => 0) 0 0 with state := .accessPointCreated }

end SwitchLanPlay.LdnMitm
