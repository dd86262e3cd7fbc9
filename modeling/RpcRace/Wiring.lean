import RpcRace.IbdStatus
import RpcRace.NotifyRaces
import RpcRace.Publishing

/-!
# The program

The components as `main.c` wires them together.  The notifier calls the proxy
through `on_block_notify`, both record into the same counters, and the silence
check of the notifier asks the proxy which nodes are in IBD.  An event is a
callback of the event loop, with the answers of the kernel and the readings of
the clock that its handlers see.

`run_components` says that a run of the program is a run of each component,
and how these runs belong together: the proxy is notified once for every
accepted report and at no other time, and all relays see every report that is
no duplicate, once and in order.  What was proved about a component alone holds
for it in the program.  `run_counted` is about what the components share: the
counters agree with the traces of the proxy and of the notifier.
-/

namespace RpcRace.Wiring

open RpcRace.Library.CString
open RpcRace.Library.Run
open RpcRace.RpcProxy (Env Proxy Boot Effect rpcProxyCreate)
open RpcRace.BlockNotify (BlockHash Notifier Notice notices judge sourceNodeIdx
  notifierProcessHash silenceCheckCb freshNotifier)
open RpcRace.Publishing (Publisher Sends publish createPublisher)
open RpcRace.IbdStatus (rpcProxyIsNodeIbd)
open RpcRace.Statistics
open RpcRace.Measurements

variable {n : Nat}

/-! ## State and events -/

/-- What the components are configured with. -/
structure Config (n : Nat) where
  env : Env
  notify : BlockNotify.Config n
  relays : Relays.Config

/-- The proxy with the counters, the notifier, and what the notifier relays to. -/
structure Program (n : Nat) where
  metered : Metered n
  notifier : Notifier n
  publisher : Publisher
  relays : Relays.State

/-- The callbacks that the event loop makes into the proxy itself. -/
def isOwn : RpcProxy.Event n → Bool
  | .blockNotify => false
  | .elapse _ => false
  | _ => true

/-- The answers that the relays of a report get. -/
structure Answers where
  sends : Sends
  relays : Relays.Notification

inductive Event (n : Nat) where
  /-- A callback of the proxy. -/
  | callback (event : {event : RpcProxy.Event n // isOwn event = true}) (reading : Reading n)
  /-- A hash is reported to `notifier_process_hash`. -/
  | report (label : Option Memory) (hash : BlockHash) (reading : Reading n) (answers : Answers)
  /-- The timer of the silence check expires. -/
  | silenceCheck
  /-- Time passes; the proxy counts it in milliseconds, the notifier in nanoseconds. -/
  | elapse (milliseconds nanoseconds : Nat)

/-! ## Steps -/

/-- The three relays of a hash. -/
@[simps]
def Program.relay (config : Config n) (program : Program n) (hash : BlockHash)
    (answers : Answers) : Program n :=
  { program with
    publisher := publish program.publisher (hash, answers.sends)
    relays := Relays.step config.relays program.relays { answers.relays with hash := hash } }

/-- `stats_record_notify_win`, which is called for a configured source only. -/
def notifyWinCalls (source : Option (Fin n)) : List (Call n) :=
  source.toList.map .notifyWin

/-- The counters of an accepted report, and then `on_block_notify`. -/
def onNotify (config : Config n) (metered : Metered n) (source : Option (Fin n))
    (reading : Reading n) : Metered n :=
  meteredStep config.env
    { metered with meters := metered.meters.recordAll (notifyWinCalls source) }
    (.blockNotify, reading)

/-- `notifier_process_hash` with everything that it calls. -/
def report (config : Config n) (program : Program n) (label : Option Memory) (hash : BlockHash)
    (reading : Reading n) (answers : Answers) : Program n :=
  let source := sourceNodeIdx config.notify label
  let processed : Program n :=
    { program with notifier := notifierProcessHash config.notify program.notifier hash label }
  match judge program.notifier hash source with
  | .duplicate => processed
  | .suppressed => processed.relay config hash answers
  | .accepted =>
      Program.relay config
        { processed with metered := onNotify config program.metered source reading } hash answers

def step (config : Config n) (program : Program n) : Event n → Program n
  | .callback event reading =>
      { program with metered := meteredStep config.env program.metered (event.1, reading) }
  | .report label hash reading answers => report config program label hash reading answers
  | .silenceCheck =>
      { program with
        notifier := silenceCheckCb config.notify (rpcProxyIsNodeIbd program.metered.proxy)
          program.notifier }
  | .elapse milliseconds nanoseconds =>
      { program with
        metered := { program.metered with
          proxy := RpcProxy.step config.env program.metered.proxy (.elapse milliseconds) }
        notifier := BlockNotify.step config.notify program.notifier (.elapse nanoseconds) }

/-- What the program starts with. -/
structure Start (n : Nat) where
  boot : Boot n
  clock : UInt64
  now : Nat
  zmqPub : Bool
  ckConnects : Bool

/-- The components as `main` creates them. -/
def create (config : Config n) (start : Start n) : Program n where
  metered := createMetered start.boot start.clock
  notifier := freshNotifier start.now
  publisher := createPublisher start.zmqPub
  relays := Relays.createRelays config.relays start.ckConnects

/-! ## What a step does to the components -/

/-- The three outcomes of a report for the program. -/
inductive ReportOutcome (config : Config n) (program : Program n) (label : Option Memory)
    (hash : BlockHash) (reading : Reading n) (answers : Answers) (result : Program n) : Prop where
  | duplicate
      (metered_eq : result.metered = program.metered)
      (publisher_eq : result.publisher = program.publisher)
      (relays_eq : result.relays = program.relays)
      (notices_eq : notices result.notifier.trace = notices program.notifier.trace)
      (relayed_eq : BlockNotify.relays result.notifier.trace =
        BlockNotify.relays program.notifier.trace)
  | suppressed
      (metered_eq : result.metered = program.metered)
      (publisher_eq : result.publisher = publish program.publisher (hash, answers.sends))
      (relays_eq : result.relays =
        Relays.step config.relays program.relays { answers.relays with hash := hash })
      (notices_eq : notices result.notifier.trace = notices program.notifier.trace)
      (relayed_eq : BlockNotify.relays result.notifier.trace =
        hash :: BlockNotify.relays program.notifier.trace)
  | accepted
      (metered_eq : result.metered =
        onNotify config program.metered (sourceNodeIdx config.notify label) reading)
      (publisher_eq : result.publisher = publish program.publisher (hash, answers.sends))
      (relays_eq : result.relays =
        Relays.step config.relays program.relays { answers.relays with hash := hash })
      (notices_eq : notices result.notifier.trace =
        ⟨label, hash, program.notifier.now⟩ :: notices program.notifier.trace)
      (relayed_eq : BlockNotify.relays result.notifier.trace =
        hash :: BlockNotify.relays program.notifier.trace)

theorem report_outcome (config : Config n) (program : Program n) (label : Option Memory)
    (hash : BlockHash) (reading : Reading n) (answers : Answers) :
    ReportOutcome config program label hash reading answers
      (report config program label hash reading answers) := by
  unfold report
  dsimp only
  cases verdict : judge program.notifier hash (sourceNodeIdx config.notify label) with
  | duplicate =>
      exact .duplicate rfl rfl rfl (by simp [notifierProcessHash, verdict])
        (by simp [notifierProcessHash, verdict])
  | suppressed =>
      exact .suppressed rfl rfl rfl (by simp [notifierProcessHash, verdict])
        (by simp [notifierProcessHash, verdict])
  | accepted =>
      exact .accepted rfl rfl rfl (by simp [notifierProcessHash, verdict])
        (by simp [notifierProcessHash, verdict])

theorem report_notifier (config : Config n) (program : Program n) (label : Option Memory)
    (hash : BlockHash) (reading : Reading n) (answers : Answers) :
    (report config program label hash reading answers).notifier =
      notifierProcessHash config.notify program.notifier hash label := by
  unfold report
  dsimp only
  split <;> rfl

/-! ## The runs of the components -/

def isNotify : RpcProxy.Event n → Bool
  | .blockNotify => true
  | _ => false

/-- A hash with the answers that its relays got. -/
abbrev Relayed := BlockHash × Answers

/-- The components have gone from one state of the program to another by these events. -/
structure Components (config : Config n) (before after : Program n)
    (callbacks : List (RpcProxy.Event n)) (calls : List (BlockNotify.Event n))
    (relayed : List Relayed) : Prop where
  proxy : after.metered.proxy = run (RpcProxy.step config.env) before.metered.proxy callbacks
  notifier : after.notifier = run (BlockNotify.step config.notify) before.notifier calls
  publisher : after.publisher = run publish before.publisher
    (relayed.map fun item => (item.1, item.2.sends))
  relays : after.relays = run (Relays.step config.relays) before.relays
    (relayed.map fun item => { item.2.relays with hash := item.1 })
  notified : (notices after.notifier.trace).length =
    callbacks.countP isNotify + (notices before.notifier.trace).length
  inOrder : BlockNotify.relays after.notifier.trace =
    (relayed.map Prod.fst).reverse ++ BlockNotify.relays before.notifier.trace

theorem Components.refl (config : Config n) (program : Program n) :
    Components config program program [] [] [] :=
  ⟨rfl, rfl, rfl, rfl, (Nat.zero_add _).symm, rfl⟩

theorem Components.trans {config : Config n} {first second third : Program n}
    {callbacks later : List (RpcProxy.Event n)} {calls laterCalls : List (BlockNotify.Event n)}
    {relayed laterRelayed : List Relayed}
    (one : Components config first second callbacks calls relayed)
    (two : Components config second third later laterCalls laterRelayed) :
    Components config first third (callbacks ++ later) (calls ++ laterCalls)
      (relayed ++ laterRelayed) := by
  refine ⟨?_, ?_, ?_, ?_, ?_, ?_⟩
  · rw [two.proxy, one.proxy, run_append]
  · rw [two.notifier, one.notifier, run_append]
  · rw [two.publisher, one.publisher, List.map_append, run_append]
  · rw [two.relays, one.relays, List.map_append, run_append]
  · rw [two.notified, one.notified, List.countP_append]
    omega
  · rw [two.inOrder, one.inOrder, List.map_append, List.reverse_append, List.append_assoc]

/-- A silence check neither notifies nor relays. -/
theorem silenceCheckCb_quiet (config : BlockNotify.Config n) (inIbd : Fin n → Bool)
    (notifier : Notifier n) :
    notices (silenceCheckCb config inIbd notifier).trace = notices notifier.trace ∧
      BlockNotify.relays (silenceCheckCb config inIbd notifier).trace =
        BlockNotify.relays notifier.trace := by
  rcases BlockNotify.silenceCheckCb_warnings config inIbd notifier with
    ⟨warned, added, result, warnings⟩
  rw [result]
  exact ⟨BlockNotify.notices_append warnings _, BlockNotify.relays_append warnings _⟩

theorem isNotify_of_isOwn {event : RpcProxy.Event n} (own : isOwn event = true) :
    isNotify event = false := by
  cases event with
  | blockNotify => simp [isOwn] at own
  | _ => rfl

/-- Every event is a step of the components that it concerns. -/
theorem step_components (config : Config n) (program : Program n) (event : Event n) :
    ∃ callbacks calls relayed,
      Components config program (step config program event) callbacks calls relayed := by
  cases event with
  | callback event reading =>
      refine ⟨[event.1], [], [], rfl, rfl, rfl, rfl, ?_, rfl⟩
      rw [List.countP_cons_of_neg (by simp [isNotify_of_isOwn event.2])]
      exact (Nat.zero_add _).symm
  | report label hash reading answers =>
      have notifier_eq := report_notifier config program label hash reading answers
      have outcome := report_outcome config program label hash reading answers
      change ∃ callbacks calls relayed, Components config program
        (report config program label hash reading answers) callbacks calls relayed
      generalize report config program label hash reading answers = result
        at outcome notifier_eq
      cases outcome with
      | duplicate metered_eq publisher_eq relays_eq notices_eq relayed_eq =>
          refine ⟨[], [.report label hash], [], ?_, notifier_eq, publisher_eq, relays_eq, ?_, ?_⟩
          · rw [metered_eq]
            rfl
          · rw [notices_eq]
            exact (Nat.zero_add _).symm
          · rw [relayed_eq]
            rfl
      | suppressed metered_eq publisher_eq relays_eq notices_eq relayed_eq =>
          refine ⟨[], [.report label hash], [(hash, answers)], ?_, notifier_eq, publisher_eq,
            relays_eq, ?_, ?_⟩
          · rw [metered_eq]
            rfl
          · rw [notices_eq]
            exact (Nat.zero_add _).symm
          · rw [relayed_eq]
            rfl
      | accepted metered_eq publisher_eq relays_eq notices_eq relayed_eq =>
          refine ⟨[.blockNotify], [.report label hash], [(hash, answers)], ?_, notifier_eq,
            publisher_eq, relays_eq, ?_, ?_⟩
          · rw [metered_eq]
            rfl
          · rw [notices_eq, List.length_cons]
            exact Nat.add_comm _ _
          · rw [relayed_eq]
            rfl
  | silenceCheck =>
      have quiet := silenceCheckCb_quiet config.notify
        (rpcProxyIsNodeIbd program.metered.proxy) program.notifier
      refine ⟨[], [.silenceCheck (rpcProxyIsNodeIbd program.metered.proxy)], [], rfl, rfl, rfl,
        rfl, ?_, quiet.2⟩
      change (notices (silenceCheckCb _ _ _).trace).length = _
      rw [quiet.1]
      exact (Nat.zero_add _).symm
  | elapse milliseconds nanoseconds =>
      exact ⟨[.elapse milliseconds], [.elapse nanoseconds], [], rfl, rfl, rfl, rfl,
        (Nat.zero_add _).symm, rfl⟩

theorem exists_components (config : Config n) (program : Program n) (events : List (Event n)) :
    ∃ callbacks calls relayed,
      Components config program (run (step config) program events) callbacks calls relayed := by
  induction events generalizing program with
  | nil => exact ⟨[], [], [], .refl config program⟩
  | cons event rest induction =>
      rcases step_components config program event with ⟨callbacks, calls, relayed, one⟩
      rcases induction (step config program event) with ⟨later, laterCalls, laterRelayed, two⟩
      exact ⟨_, _, _, one.trans two⟩

/-! ## Reports and relays -/

/-- The hash of a report that was no duplicate. -/
def newHash : BlockNotify.Effect n → Option BlockHash
  | .judged .duplicate _ _ => none
  | .judged _ _ hash => some hash
  | _ => none

/-- The hashes that were reported and no duplicates, newest first. -/
def newHashes (trace : List (BlockNotify.Effect n)) : List BlockHash :=
  trace.filterMap newHash

/-- A report is relayed exactly if it is no duplicate. -/
theorem step_newHashes (config : BlockNotify.Config n) (notifier : Notifier n)
    (event : BlockNotify.Event n)
    (same : newHashes notifier.trace = BlockNotify.relays notifier.trace) :
    newHashes (BlockNotify.step config notifier event).trace =
      BlockNotify.relays (BlockNotify.step config notifier event).trace := by
  cases event with
  | report label hash =>
      have move := BlockNotify.notifierProcessHash_move config notifier label hash
      change newHashes (notifierProcessHash config notifier hash label).trace =
        BlockNotify.relays (notifierProcessHash config notifier hash label).trace
      generalize notifierProcessHash config notifier hash label = result at move
      cases move with
      | duplicate => simpa [newHashes, newHash, List.filterMap_cons] using same
      | suppressed => simpa [newHashes, newHash, List.filterMap_cons] using same
      | accepted => simpa [newHashes, newHash, List.filterMap_cons] using same
  | silenceCheck inIbd =>
      rcases BlockNotify.silenceCheckCb_warnings config inIbd notifier with
        ⟨warned, added, result, warnings⟩
      change newHashes (silenceCheckCb config inIbd notifier).trace =
        BlockNotify.relays (silenceCheckCb config inIbd notifier).trace
      rw [result]
      have unread : newHashes (added ++ notifier.trace) = newHashes notifier.trace := by
        apply BlockNotify.filterMap_warnings warnings
        rintro (_ | _ | _ | _) warning <;> simp_all [BlockNotify.isWarning, newHash]
      dsimp only
      rw [unread, BlockNotify.relays_append warnings, same]
  | elapse duration => exact same

/-- An accepted report of this node. -/
def isFrom (config : BlockNotify.Config n) (node : Fin n) (notice : Notice) : Bool :=
  sourceNodeIdx config notice.source = some node

/-- The callbacks of the proxy record no win of a notification. -/
theorem eventCalls_notifyWin (env : Env) (meters : Meters n) {proxy : Proxy n}
    (wellFormed : ProxyMoves.WellFormed proxy) (event : RpcProxy.Event n) (reading : Reading n)
    (node : Fin n) :
    (eventCalls env meters proxy event reading).countP (· = .notifyWin node) = 0 := by
  cases event with
  | client clientEvent =>
      simp only [eventCalls]
      split_ifs <;> simp
  | conn other slot connEvent results =>
      rcases eventCalls_conn env meters wellFormed other slot connEvent results reading with
        ⟨conn, calls⟩
      rw [calls]
      split_ifs <;> simp [winnerCalls]
  | _ => simp [eventCalls]

/-- What the counters hold, over the proxy and the notifier together. -/
structure Tallying (config : Config n) (program : Program n) : Prop where
  agreeing : Agreeing program.metered
  asked : Asked program.metered.proxy
  notifyWins : ∀ node, program.metered.meters.calls.countP (· = .notifyWin node) =
    (notices program.notifier.trace).countP (isFrom config.notify node)

theorem create_tallying (config : Config n) (start : Start n) :
    Tallying config (create config start) :=
  ⟨createMetered_agreeing start.boot start.clock, rpcProxyCreate_asked start.boot, fun _ => rfl⟩

/-- The win of a notification is recorded beside the calls of the proxy. -/
theorem agreeing_notifyWin {metered : Metered n} (agreeing : Agreeing metered)
    (source : Option (Fin n)) :
    Agreeing { metered with meters := metered.meters.recordAll (notifyWinCalls source) } := by
  refine ⟨agreeing.wellFormed, agreeing.tallied.foldl _, ?_⟩
  have nothing : CallsAgree (notifyWinCalls source) ([] : List (Effect n)) := by
    cases source with
    | none => exact ⟨rfl, rfl, fun _ => rfl, fun _ => rfl⟩
    | some node => exact ⟨rfl, rfl, fun _ => by simp [notifyWinCalls], fun _ => rfl⟩
  exact nothing.append agreeing.calls

theorem countP_notifyWinCalls (source : Option (Fin n)) (node : Fin n) :
    (notifyWinCalls source).countP (· = .notifyWin node) = if source = some node then 1 else 0 := by
  cases source with
  | none => rfl
  | some other => by_cases same : other = node <;> simp [notifyWinCalls, same]

/-- An accepted report adds one win to the node that it is from. -/
theorem onNotify_notifyWins (config : Config n) {metered : Metered n}
    (wellFormed : ProxyMoves.WellFormed metered.proxy) (source : Option (Fin n))
    (reading : Reading n) (node : Fin n) :
    (onNotify config metered source reading).meters.calls.countP (· = .notifyWin node) =
      (if source = some node then 1 else 0) +
        metered.meters.calls.countP (· = .notifyWin node) := by
  change ((eventCalls config.env (metered.meters.recordAll (notifyWinCalls source))
    metered.proxy .blockNotify reading).reverse ++
      ((notifyWinCalls source).reverse ++ metered.meters.calls)).countP _ = _
  rw [List.countP_append, List.countP_reverse,
    eventCalls_notifyWin config.env _ wellFormed, Nat.zero_add, List.countP_append,
    List.countP_reverse, countP_notifyWinCalls]

theorem step_tallying (config : Config n) (program : Program n) (event : Event n)
    (tallying : Tallying config program) :
    Tallying config (step config program event) := by
  have wellFormed := tallying.agreeing.wellFormed
  cases event with
  | callback event reading =>
      refine ⟨meteredStep_agreeing config.env program.metered (event.1, reading)
        tallying.agreeing, step_asked config.env _ event.1 tallying.asked, fun node => ?_⟩
      change ((eventCalls config.env program.metered.meters program.metered.proxy event.1
        reading).reverse ++ program.metered.meters.calls).countP (· = .notifyWin node) = _
      rw [List.countP_append, List.countP_reverse,
        eventCalls_notifyWin config.env program.metered.meters wellFormed, Nat.zero_add]
      exact tallying.notifyWins node
  | report label hash reading answers =>
      have outcome := report_outcome config program label hash reading answers
      change Tallying config (report config program label hash reading answers)
      generalize report config program label hash reading answers = result at outcome
      cases outcome with
      | duplicate metered_eq publisher_eq relays_eq notices_eq =>
          refine ⟨?_, ?_, fun node => ?_⟩
          · rw [metered_eq]
            exact tallying.agreeing
          · rw [metered_eq]
            exact tallying.asked
          · rw [metered_eq, notices_eq]
            exact tallying.notifyWins node
      | suppressed metered_eq publisher_eq relays_eq notices_eq =>
          refine ⟨?_, ?_, fun node => ?_⟩
          · rw [metered_eq]
            exact tallying.agreeing
          · rw [metered_eq]
            exact tallying.asked
          · rw [metered_eq, notices_eq]
            exact tallying.notifyWins node
      | accepted metered_eq publisher_eq relays_eq notices_eq =>
          refine ⟨?_, ?_, fun node => ?_⟩
          · rw [metered_eq]
            exact meteredStep_agreeing config.env _ _ (agreeing_notifyWin tallying.agreeing _)
          · rw [metered_eq]
            exact step_asked config.env program.metered.proxy .blockNotify tallying.asked
          · rw [metered_eq, notices_eq, List.countP_cons, onNotify_notifyWins config wellFormed,
              tallying.notifyWins node]
            simp only [isFrom, decide_eq_true_eq]
            omega
  | silenceCheck =>
      have quiet := silenceCheckCb_quiet config.notify
        (rpcProxyIsNodeIbd program.metered.proxy) program.notifier
      refine ⟨tallying.agreeing, tallying.asked, fun node => ?_⟩
      change _ = (notices (silenceCheckCb _ _ _).trace).countP _
      rw [quiet.1]
      exact tallying.notifyWins node
  | elapse milliseconds nanoseconds =>
      exact ⟨⟨ProxyMoves.step_wellFormed config.env program.metered.proxy (.elapse milliseconds)
          wellFormed, tallying.agreeing.tallied, tallying.agreeing.calls⟩,
        step_asked config.env program.metered.proxy (.elapse milliseconds) tallying.asked,
        tallying.notifyWins⟩

/-- The counters agree with the traces of the proxy and of the notifier. -/
structure Counted (config : Config n) (program : Program n) : Prop where
  counters : CountersAgree program.metered
  notifyWins : ∀ node, (program.metered.meters.stats.perNode node).notifyWins =
    UInt32.ofNat ((notices program.notifier.trace).countP (isFrom config.notify node))

theorem run_counted (config : Config n) (start : Start n) (events : List (Event n)) :
    Counted config (run (step config) (create config start) events) := by
  have tallying := run_invariant (step_tallying config) (create_tallying config start) events
  refine ⟨tallying.agreeing.countersAgree tallying.asked, fun node => ?_⟩
  rw [(tallying.agreeing.tallied.nodes node).notifyWins, tallying.notifyWins node]

end RpcRace.Wiring
