import SwitchLanPlay.Rpc.LanPlay
import SwitchLanPlay.Rpc.WebSocket
import SwitchLanPlay.Setup.RelayAddress

/-! The commands of the RPC server (`RPCServerSession::onMessage`), their replies and the exception
that leaves one of them.
-/

namespace SwitchLanPlay.Rpc

open Foundation
open Server (utf8)
open Setup (isSpace skipSign charMinus decimal)

structure RpcConfig extends LanPlayConfig where
  fakeInternet : Bool
  broadcast : Bool
deriving DecidableEq, Repr

structure NetInterface where
  name : Bytes
  description : Bytes
  ips : List Bytes

structure LanPlayStatsItem where
  downloadByte : Nat
  downloadPacket : Nat
  uploadByte : Nat
  uploadPacket : Nat

/-- What the calls outside of the session answer: those of `lan_play_init` and `lan_play_close`,
`pcap_findalldevs`, and the counters with the clock.
-/
structure RpcCalls where
  init : InitCalls
  close : CloseCalls
  interfaces : Except Bytes (List NetInterface)
  client : LanPlayStatsItem
  packet : LanPlayStatsItem
  time : Nat

structure RpcLanPlay where
  lanPlay : LanPlay
  config : RpcConfig
  lastConfig : RpcConfig

-- Numbers

/-- The value of a digit or a letter in a base of at most 36. -/
def digitValue (octet : UInt8) : Nat :=
  if 48 ≤ octet ∧ octet ≤ 57 then octet.toNat - 48
  else if 97 ≤ octet ∧ octet ≤ 122 then octet.toNat - 87
  else if 65 ≤ octet ∧ octet ≤ 90 then octet.toNat - 55
  else 36

def scanBase (base : Nat) (text : Bytes) : Option Nat :=
  let digits := text.takeWhile (digitValue · < base)
  if digits = [] then none
  else some (digits.foldl (fun value digit => base * value + digitValue digit) 0)

/-- The number `strtol` reads with base 0: hexadecimal behind 0x, octal behind 0. -/
def scanInteger (text : Bytes) : Option Int :=
  let text := text.dropWhile isSpace
  let unsigned := skipSign text
  let value :=
    if unsigned.head? = some 48 ∧ (unsigned[1]? = some 120 ∨ unsigned[1]? = some 88)
        ∧ (scanBase 16 (unsigned.drop 2)).isSome then
      scanBase 16 (unsigned.drop 2)
    else if unsigned.head? = some 48 then scanBase 8 unsigned
    else scanBase 10 unsigned
  value.map fun value => if text.head? = some charMinus then -(value : Int) else value

inductive StoiError where
  | invalidArgument
  | outOfRange
deriving DecidableEq, Repr

/-- `std::stoi(text, nullptr, 0)`; a number that `strtol` cuts to a `long` is out of range as well.
-/
def stoi (text : Bytes) : Except StoiError Int :=
  match scanInteger (cString text) with
  | none => .error .invalidArgument
  | some value => if value < -2 ^ 31 ∨ 2 ^ 31 ≤ value then .error .outOfRange else .ok value

-- Replies

def escape (value : Bytes) : Bytes :=
  [34] ++ value.flatMap (fun octet => if octet = 34 then [92, 34] else [octet]) ++ [34]

def keyValue (key value : Bytes) : Bytes := key ++ [61] ++ value ++ [10]

def kv (key : String) (value : Bytes) : Bytes := keyValue (utf8 key) (escape value)

def kvInt (key : String) (value : Int) : Bytes :=
  keyValue (utf8 key) ((if value < 0 then [charMinus] else []) ++ decimal value.natAbs)

def kvBool (key : String) (value : Bool) : Bytes :=
  keyValue (utf8 key) (if value then utf8 "true" else utf8 "false")

def rpcError (value : Bytes) : Bytes := kv "error" value

def RpcConfig.text (config : RpcConfig) (section_ : String) : Bytes :=
  utf8 "[" ++ utf8 section_ ++ utf8 "]\n" ++ kv "relayServer" config.relayServer
    ++ kv "socks5Server" config.socks5Server ++ kvInt "pmtu" config.pmtu
    ++ kvBool "fakeInternet" config.fakeInternet ++ kvBool "broadcast" config.broadcast

def LanPlayStatsItem.text (stats : LanPlayStatsItem) : Bytes :=
  kvInt "downloadByte" stats.downloadByte ++ kvInt "downloadPacket" stats.downloadPacket
    ++ kvInt "uploadByte" stats.uploadByte ++ kvInt "uploadPacket" stats.uploadPacket

def RpcCalls.statsText (calls : RpcCalls) : Bytes :=
  utf8 "[stats]\n" ++ kvInt "time" calls.time ++ utf8 "[stats.client]\n" ++ calls.client.text
    ++ utf8 "[stats.packet]\n" ++ calls.packet.text

def NetInterface.text (netif : NetInterface) : Bytes :=
  utf8 "[[interfaces]]\n" ++ kv "name" netif.name ++ kv "description" netif.description
    ++ utf8 "ips=[\n" ++ netif.ips.flatMap (fun ip => utf8 "  " ++ escape ip ++ utf8 ",\n")
    ++ utf8 "]\n"

-- Commands

/-- The end of `onMessage`: a reply, an exception, or an exit of the process in a call. -/
inductive RpcOutcome where
  | replied (next : RpcLanPlay) (reply : Bytes)
  | threw (error : StoiError)
  | exited

namespace RpcLanPlay

def reply (server : RpcLanPlay) (outcome : LanPlay × Int) (reply : Bytes) : RpcOutcome :=
  .replied { server with lanPlay := outcome.1 }
    (if outcome.2 = 0 then reply else rpcError outcome.1.lastError)

def setConfig (server : RpcLanPlay) (config : RpcConfig) : RpcOutcome :=
  .replied { server with config := config } (config.text "config")

def start (server : RpcLanPlay) (calls : RpcCalls) : RpcOutcome :=
  match server.lanPlay.start server.config.toLanPlayConfig calls.init with
  | none => .exited
  | some outcome =>
    let running : Bool := server.lanPlay.status = .running
    RpcLanPlay.reply
      { server with lastConfig := if running then server.lastConfig else server.config }
      outcome (kv "status" (utf8 "Running"))

def listIf (server : RpcLanPlay) (calls : RpcCalls) : RpcOutcome :=
  match calls.interfaces with
  | .ok list => .replied server (list.flatMap NetInterface.text)
  | .error text => server.reply ({ server.lanPlay with lastError := text }, -1) []

def stats (server : RpcLanPlay) (calls : RpcCalls) : RpcOutcome :=
  if server.lanPlay.status = .none then
    server.reply ({ server.lanPlay with lastError := utf8 "Not running" }, -1) []
  else .replied server calls.statsText

/-- `pmtu`: only the exception for a text that is no number is caught. -/
def setPmtu (server : RpcLanPlay) (value : Bytes) : RpcOutcome :=
  match stoi value with
  | .ok pmtu => server.setConfig { server.config with pmtu := pmtu }
  | .error .invalidArgument => .replied server (rpcError (utf8 "stoi"))
  | .error .outOfRange => .threw .outOfRange

/-- `onMessage`, for the key and the value of a message. -/
def command (server : RpcLanPlay) (calls : RpcCalls) (version key value : Bytes)
    : RpcOutcome :=
  if key = utf8 "status" then
    .replied server
      (kv "status" (if server.lanPlay.status = .none then utf8 "None" else utf8 "Running"))
  else if key = utf8 "listIf" then server.listIf calls
  else if key = utf8 "version" then .replied server (kv "version" version)
  else if key = utf8 "start" then server.start calls
  else if key = utf8 "stop" then
    server.reply (server.lanPlay.stop calls.close) (kv "status" (utf8 "None"))
  else if key = utf8 "config" then .replied server (server.config.text "config")
  else if key = utf8 "lastConfig" then .replied server (server.lastConfig.text "lastConfig")
  else if key = utf8 "relayServer" then server.setConfig { server.config with relayServer := value }
  else if key = utf8 "socks5Server" then
    server.setConfig { server.config with socks5Server := value }
  else if key = utf8 "fakeInternet" then
    server.setConfig { server.config with fakeInternet := value = utf8 "true" }
  else if key = utf8 "broadcast" then
    server.setConfig { server.config with broadcast := value = utf8 "true" }
  else if key = utf8 "pmtu" then server.setPmtu value
  else if key = utf8 "stats" then server.stats calls
  else .replied server (rpcError (utf8 "command not found: " ++ key))

def onMessage (server : RpcLanPlay) (calls : RpcCalls) (version message : Bytes)
    : RpcOutcome := server.command calls version (before 61 message) (behind 61 message)

end RpcLanPlay

-- Answers

variable {server : RpcLanPlay} {calls : RpcCalls}

/-- A reply, which leaves the configuration as it is if it is an error. -/
def RpcLanPlay.Answered (server : RpcLanPlay) (outcome : RpcOutcome) : Prop :=
  ∃ next reply,
    outcome = .replied next reply ∧ (utf8 "error=" <+: reply → next.config = server.config)

theorem RpcLanPlay.answered_of_config {next : RpcLanPlay} (same : next.config = server.config)
    (reply : Bytes)
    : server.Answered (.replied next reply) := ⟨next, reply, rfl, fun _ => same⟩

theorem RpcLanPlay.Answered.branch {condition : Prop} [Decidable condition]
    {left right : RpcOutcome} (first : server.Answered left) (second : server.Answered right)
    : server.Answered (if condition then left else right) := by
  split
  · exact first
  · exact second

theorem RpcLanPlay.answered_setConfig (config : RpcConfig)
    : server.Answered (server.setConfig config) := by
  refine ⟨_, _, rfl, fun error => ?_⟩
  obtain ⟨rest, same⟩ := error
  have heads := congrArg List.head? same
  simp [RpcConfig.text, show utf8 "[" = [91] by decide,
    show utf8 "error=" = [101, 114, 114, 111, 114, 61] by decide] at heads

/-- The value of a message for the path MTU is a number that an `int` cannot hold. -/
def PmtuOutside (key value : Bytes) : Prop :=
  key = utf8 "pmtu"
  ∧ ∃ number, scanInteger (cString value) = some number ∧ (number < -2 ^ 31 ∨ 2 ^ 31 ≤ number)

namespace RpcLanPlay

theorem answered_setPmtu_iff (server : RpcLanPlay) (value : Bytes)
    : server.Answered (server.setPmtu value) ↔ ¬ PmtuOutside (utf8 "pmtu") value := by
  unfold setPmtu stoi PmtuOutside
  cases scanInteger (cString value) with
  | none => exact iff_of_true (answered_of_config rfl _) (by simp)
  | some number =>
    by_cases outside : number < -2 ^ 31 ∨ 2 ^ 31 ≤ number
    · simp only [if_pos outside]
      refine iff_of_false ?_ (not_not.mpr ⟨trivial, number, rfl, outside⟩)
      rintro ⟨next, reply, replied, -⟩
      cases replied
    · simp only [if_neg outside]
      refine iff_of_true (answered_setConfig _) ?_
      rintro ⟨-, found, same, wide⟩
      exact outside (Option.some.inj same ▸ wide)

def Returns (server : RpcLanPlay) (calls : RpcCalls) : Prop :=
  (server.lanPlay.start server.config.toLanPlayConfig calls.init).isSome

theorem answered_start (returns : server.Returns calls) : server.Answered (server.start calls) := by
  obtain ⟨outcome, started⟩ := Option.isSome_iff_exists.mp returns
  rw [RpcLanPlay.start, started]
  exact answered_of_config rfl _

theorem answered_listIf : server.Answered (server.listIf calls) := by
  unfold listIf
  split <;> exact answered_of_config rfl _

theorem answered_stats : server.Answered (server.stats calls) := by
  unfold stats
  split <;> exact answered_of_config rfl _

end RpcLanPlay

/-- Where the calls outside return, a message has a reply, which leaves the configuration as it is
if it is an error, if and only if it does not set the path MTU to a number out of range.
-/
theorem RpcLanPlay.onMessage_answered_iff (version message : Bytes) (returns : server.Returns calls)
    : server.Answered (server.onMessage calls version message)
      ↔ ¬ PmtuOutside (before 61 message) (behind 61 message) := by
  unfold onMessage
  generalize before 61 message = key, behind 61 message = value
  by_cases pmtu : key = utf8 "pmtu"
  · rw [pmtu, ← answered_setPmtu_iff]
    rfl
  · refine iff_of_true ?_ fun outside => pmtu outside.1
    rw [command]
    refine .branch (answered_of_config rfl _) (.branch answered_listIf ?_)
    refine .branch (answered_of_config rfl _) (.branch (answered_start returns) ?_)
    refine .branch (answered_of_config rfl _) (.branch (answered_of_config rfl _) ?_)
    refine .branch (answered_of_config rfl _) (.branch (answered_setConfig _) ?_)
    refine .branch (answered_setConfig _) (.branch (answered_setConfig _) ?_)
    refine .branch (answered_setConfig _) ?_
    rw [if_neg pmtu]
    exact .branch answered_stats (answered_of_config rfl _)

def newServer : RpcLanPlay := ⟨.init, ⟨⟨[], [], 0⟩, false, false⟩, ⟨⟨[], [], 0⟩, false, false⟩⟩

def emptyCalls : RpcCalls := ⟨answersOf true true, ⟨0, 0, 0⟩, .ok [], ⟨0, 0, 0, 0⟩, ⟨0, 0, 0, 0⟩, 0⟩

theorem RpcLanPlay.onMessage_answered_iff_pmtu
    : newServer.Answered (newServer.onMessage emptyCalls [] (utf8 "pmtu=0x5dc"))
      ↔ ¬ PmtuOutside (before 61 (utf8 "pmtu=0x5dc")) (behind 61 (utf8 "pmtu=0x5dc")) :=
  onMessage_answered_iff [] (utf8 "pmtu=0x5dc") rfl

/-- A number of more than 31 bits. -/
theorem out_of_range_escapes
    : newServer.onMessage emptyCalls [] (utf8 "pmtu=2147483648") = .threw .outOfRange :=
  rfl

end SwitchLanPlay.Rpc
