import RpcRace.Library.Run
import RpcRace.RpcConn

/-!
# Connection pairs

The model of `conn_pair.c`: each node has an active and a standby
connection, and a rotation timer that refreshes the standby and swaps the
two when both are idle.

The rotation timerfd fires whenever the environment says so; re-arming it
only moves a deadline and is left out, as are the log messages.
-/

namespace RpcRace.ConnectionPair

open RpcRace.Library.CString
open RpcRace.RpcConn

/-- `conn_pair_t`. -/
structure ConnPair where
  slots : Fin 2 → UpstreamConn
  activeIdx : Fin 2
  swapRequired : Bool

/-- The index of the slot that `conn_pair_init` makes active. -/
abbrev firstSlot : Fin 2 := 0

/-- The index of the slot that is the standby at first. -/
abbrev secondSlot : Fin 2 := 1

/-- The slot beside this one. -/
abbrev otherSlot (slot : Fin 2) : Fin 2 :=
  1 - slot

/-- The slot index `1 - active_idx`. -/
def ConnPair.standbyIdx (pair : ConnPair) : Fin 2 :=
  1 - pair.activeIdx

/-- `conn_pair_get_active`. -/
def connPairGetActive (pair : ConnPair) : UpstreamConn :=
  pair.slots pair.activeIdx

/-- Replace one slot. -/
def ConnPair.setSlot (pair : ConnPair) (slot : Fin 2) (conn : UpstreamConn) : ConnPair :=
  { pair with slots := Function.update pair.slots slot conn }

/-- `conn_pair_is_available`. -/
def connPairIsAvailable (pair : ConnPair) : Bool :=
  (connPairGetActive pair).state = .connected

/-- `conn_pair_tick`: swap if wanted and both connections are idle. -/
def connPairTick (pair : ConnPair) : ConnPair :=
  if pair.swapRequired ∧ (connPairGetActive pair).state = .connected ∧
      (pair.slots pair.standbyIdx).state = .connected then
    { pair with activeIdx := pair.standbyIdx, swapRequired := false }
  else pair

/-- `standby_on_connected` for the connection in `slot`. -/
def standbyOnConnected (pair : ConnPair) (slot : Fin 2) : ConnPair :=
  if slot ≠ pair.standbyIdx then pair
  else
    let active := (connPairGetActive pair).state
    -- recovery: the active connection is down, so swap at once
    if active ≠ .connected ∧ active ≠ .sending ∧ active ≠ .receiving then
      { pair with activeIdx := pair.standbyIdx, swapRequired := false }
    else connPairTick pair

/-- Run the `on_connected` callback installed in `slot`. -/
def runOnConnected (pair : ConnPair) (slot : Fin 2) : ConnPair :=
  match (pair.slots slot).onConnected with
  | .slotOnConnected => pair
  | .standbyOnConnected => standbyOnConnected pair slot

/-- `refresh_standby` acts only on an idle or closed standby. -/
def ConnPair.standbyRefreshable (pair : ConnPair) : Bool :=
  let state := (pair.slots pair.standbyIdx).state
  state = .connected || state = .disconnected

/-- The standby that `refresh_standby` reconnects: closed, with its callback installed. -/
def ConnPair.closedStandby (pair : ConnPair) : UpstreamConn :=
  let standby := pair.slots pair.standbyIdx
  let closed := if standby.state = .connected then rpcConnDisconnect standby else standby
  { closed with onConnected := .standbyOnConnected }

/-- `refresh_standby`. -/
def refreshStandby (pair : ConnPair) (result : ConnectResult) (fd : Nat) : ConnPair :=
  if pair.standbyRefreshable then
    let opened := rpcConnConnect pair.closedStandby result fd
    let refreshed := pair.setSlot pair.standbyIdx opened.1
    if opened.2 then runOnConnected refreshed pair.standbyIdx else refreshed
  else pair

/-- `rotation_timer_cb`. -/
def rotationTimerCb (pair : ConnPair) (result : ConnectResult) (fd : Nat) : ConnPair :=
  connPairTick { refreshStandby pair result fd with swapRequired := true }

/--
`conn_pair_report_error`; the C function returns whether the new active
connection is `CONN_CONNECTED`, which is `connPairIsAvailable` of the result.
-/
def connPairReportError (pair : ConnPair) : ConnPair :=
  { pair.setSlot pair.activeIdx (rpcConnDisconnect (connPairGetActive pair)) with
    activeIdx := pair.standbyIdx
    swapRequired := false }

/-- Uninitialised buffers and kernel answers that `conn_pair_init` meets. -/
structure PairBoot where
  recvBuf : Fin 2 → Memory
  connect : Fin 2 → ConnectResult

/-- `conn_pair_init`: both slots start to connect, slot zero first. -/
def connPairInit (boot : PairBoot) (fd : Fin 2 → Nat) : ConnPair :=
  let first :=
    rpcConnConnect (rpcConnInit (boot.recvBuf 0) .slotOnConnected) (boot.connect 0) (fd 0)
  let second :=
    rpcConnConnect (rpcConnInit (boot.recvBuf 1) .standbyOnConnected) (boot.connect 1) (fd 1)
  let pair : ConnPair := ⟨![first.1, second.1], 0, false⟩
  if second.2 then runOnConnected pair 1 else pair

end RpcRace.ConnectionPair
