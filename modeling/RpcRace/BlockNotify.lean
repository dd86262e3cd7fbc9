import RpcRace.Library.CString
import RpcRace.Library.Run

/-!
# Block notifications

The model of the decisions of `notifier.c`: which reported hash is a
duplicate, which one the grace period suppresses, what is relayed downstream,
when the proxy is notified, and when a node counts as silent.

The monotonic clock moves only by `elapse`, so it never runs backwards; a
`uint64_t` of nanoseconds lasts for centuries and its wrap-around is left out.
`trace` records, newest first, the verdict on every call, the calls of
`on_notify` and of the three relay functions, and the warnings.  The protocol
name, the statistics and the log texts are left out.
-/

namespace RpcRace.BlockNotify

open RpcRace.Library.CString
open RpcRace.Library.Run

/-- `HASH_SIZE`. -/
def hashSize : Nat := 32

/-- A block hash: `HASH_SIZE` bytes, which `memcmp` compares. -/
abbrev BlockHash := { bytes : Memory // bytes.length = hashSize }

/-- `NOTIFY_GRACE_PERIOD_NS`. -/
def notifyGracePeriodNs : Nat := 10 * 1000000000

/-- `SILENCE_THRESHOLD_NS`. -/
def silenceThresholdNs : Nat := 60 * 1000000000

/-- The part of `node_config_t` that the notifier reads. -/
structure NodeConfig where
  label : Memory
  zmqPort : Nat
deriving DecidableEq, Repr

/-- The nodes of `config_t`. -/
structure Config (n : Nat) where
  nodes : Fin n → NodeConfig

/-- The three ways `notifier_process_hash` goes. -/
inductive Verdict where
  | duplicate
  | suppressed
  | accepted
deriving DecidableEq, Repr

/-- What the notifier does to the outside world. -/
inductive Effect (n : Nat) where
  /-- `notifier_process_hash` was called and decided; its log line. -/
  | judged (verdict : Verdict) (source : Option Memory) (hash : BlockHash)
  /-- `on_notify` was called for a hash of this source. -/
  | notified (source : Option Memory) (hash : BlockHash) (time : Nat)
  /-- `relay_zmq_pub`, `relay_http_notify` and `relay_ck_notify` were called. -/
  | relayed (hash : BlockHash)
  /-- `silence_check_cb` warned about a node, whose last report was this one. -/
  | warned (node : Fin n) (reported : Option BlockHash) (accepted : BlockHash)
deriving DecidableEq

/-- The fields of `struct notifier` behind these decisions, the clock and the trace. -/
structure Notifier (n : Nat) where
  lastHash : BlockHash
  hasLastHash : Bool
  nodeLastHash : Fin n → BlockHash
  nodeHasHash : Fin n → Bool
  nodeHashChangedNs : Fin n → Nat
  firstNotifyNs : Nat
  silenceWarned : Fin n → Bool
  graceActive : Bool
  graceStartNs : Nat
  graceWinnerNodeIdx : Option (Fin n)
  now : Nat
  trace : List (Effect n)

variable {n : Nat}

/-- A hash of zero bytes. -/
def zeroHash : BlockHash :=
  ⟨List.replicate hashSize 0, List.length_replicate⟩

/-- The fields as `notifier_create` sets them, at some time of the clock. -/
def freshNotifier (now : Nat) : Notifier n where
  lastHash := zeroHash
  hasLastHash := false
  nodeLastHash _ := zeroHash
  nodeHasHash _ := false
  nodeHashChangedNs _ := 0
  firstNotifyNs := 0
  silenceWarned _ := false
  graceActive := false
  graceStartNs := 0
  graceWinnerNodeIdx := none
  now := now
  trace := []

/-- Record one effect. -/
@[simps]
def Notifier.emit (notifier : Notifier n) (effect : Effect n) : Notifier n :=
  { notifier with trace := effect :: notifier.trace }

/-! ## `notifier_process_hash` -/

/-- `is_duplicate`. -/
def isDuplicate (notifier : Notifier n) (hash : BlockHash) : Bool :=
  notifier.hasLastHash && notifier.lastHash = hash

/-- `source_node_idx`: the first configured node with this label. -/
def sourceNodeIdx (config : Config n) (label : Option Memory) : Option (Fin n) :=
  label.bind fun label => (List.finRange n).find? fun node => (config.nodes node).label = label

/-- Less than the grace period has passed since the last accepted notification. -/
def withinGrace (notifier : Notifier n) : Bool :=
  notifier.graceActive && notifier.now - notifier.graceStartNs < notifyGracePeriodNs

/-- The decision of `notifier_process_hash` for a hash from this source. -/
def judge (notifier : Notifier n) (hash : BlockHash) (source : Option (Fin n)) : Verdict :=
  if isDuplicate notifier hash then .duplicate
  else if withinGrace notifier ∧ source ≠ notifier.graceWinnerNodeIdx then .suppressed
  else .accepted

/-- The per-node tracking, which both the duplicate path and the other paths do. -/
@[simps]
def Notifier.track (notifier : Notifier n) (node : Fin n) (hash : BlockHash) : Notifier n :=
  { notifier with
    nodeLastHash := Function.update notifier.nodeLastHash node hash
    nodeHasHash := Function.update notifier.nodeHasHash node true
    nodeHashChangedNs :=
      if notifier.nodeHasHash node = false ∨ notifier.nodeLastHash node ≠ hash then
        Function.update notifier.nodeHashChangedNs node notifier.now
      else notifier.nodeHashChangedNs }

/-- Track the source, if it is a configured node. -/
def Notifier.trackSource (notifier : Notifier n) (source : Option (Fin n)) (hash : BlockHash) :
    Notifier n :=
  match source with
  | none => notifier
  | some node => notifier.track node hash

/-- The global state of an accepted notification. -/
@[simps]
def Notifier.accept (notifier : Notifier n) (hash : BlockHash) (source : Option (Fin n)) :
    Notifier n :=
  { notifier with
    lastHash := hash
    hasLastHash := true
    firstNotifyNs := notifier.now
    silenceWarned := fun _ => false
    graceActive := true
    graceStartNs := notifier.now
    graceWinnerNodeIdx := source }

/--
`notifier_process_hash`; a null `node_label` is `none`.  The C function
returns one exactly if the verdict is `accepted`.
-/
def notifierProcessHash (config : Config n) (notifier : Notifier n) (hash : BlockHash)
    (label : Option Memory) : Notifier n :=
  let source := sourceNodeIdx config label
  let verdict := judge notifier hash source
  let tracked := (notifier.trackSource source hash).emit (.judged verdict label hash)
  match verdict with
  | .duplicate => tracked
  | .suppressed => tracked.emit (.relayed hash)
  | .accepted =>
      ((tracked.accept hash source).emit (.notified label hash notifier.now)).emit (.relayed hash)

/-! ## `silence_check_cb` -/

/-- The hash a node reported last. -/
def Notifier.reported (notifier : Notifier n) (node : Fin n) : Option BlockHash :=
  if notifier.nodeHasHash node then some (notifier.nodeLastHash node) else none

/-- A node that the loop of `silence_check_cb` warns about. -/
def looksSilent (config : Config n) (inIbd : Fin n → Bool) (notifier : Notifier n)
    (node : Fin n) : Bool :=
  (config.nodes node).zmqPort ≠ 0 && !inIbd node && !notifier.silenceWarned node &&
    !(notifier.nodeHasHash node && notifier.firstNotifyNs ≤ notifier.nodeHashChangedNs node)

/-- One iteration of the loop of `silence_check_cb`. -/
def silenceStep (config : Config n) (inIbd : Fin n → Bool) (notifier : Notifier n)
    (node : Fin n) : Notifier n :=
  if looksSilent config inIbd notifier node then
    { notifier with
      silenceWarned := Function.update notifier.silenceWarned node true
      trace := .warned node (notifier.reported node) notifier.lastHash :: notifier.trace }
  else notifier

/-- `silence_check_cb`; `inIbd` is `rpc_proxy_is_node_ibd`. -/
def silenceCheckCb (config : Config n) (inIbd : Fin n → Bool) (notifier : Notifier n) :
    Notifier n :=
  if notifier.firstNotifyNs = 0 then notifier
  else if notifier.now - notifier.firstNotifyNs < silenceThresholdNs then notifier
  else (List.finRange n).foldl (silenceStep config inIbd) notifier

/-! ## Runs -/

/-- What happens to the notifier. -/
inductive Event (n : Nat) where
  /-- A hash is reported, over ZMQ or over HTTP. -/
  | report (label : Option Memory) (hash : BlockHash)
  | silenceCheck (inIbd : Fin n → Bool)
  | elapse (duration : Nat)

/-- One call into the notifier, or the passing of time. -/
def step (config : Config n) (notifier : Notifier n) : Event n → Notifier n
  | .report label hash => notifierProcessHash config notifier hash label
  | .silenceCheck inIbd => silenceCheckCb config inIbd notifier
  | .elapse duration => { notifier with now := notifier.now + duration }

/-! ## What a call does -/

section TrackSource

variable (notifier : Notifier n) (source : Option (Fin n)) (hash : BlockHash)

@[simp]
theorem trackSource_lastHash : (notifier.trackSource source hash).lastHash = notifier.lastHash := by
  cases source <;> rfl

@[simp]
theorem trackSource_hasLastHash :
    (notifier.trackSource source hash).hasLastHash = notifier.hasLastHash := by
  cases source <;> rfl

@[simp]
theorem trackSource_firstNotifyNs :
    (notifier.trackSource source hash).firstNotifyNs = notifier.firstNotifyNs := by
  cases source <;> rfl

@[simp]
theorem trackSource_graceActive :
    (notifier.trackSource source hash).graceActive = notifier.graceActive := by
  cases source <;> rfl

@[simp]
theorem trackSource_graceStartNs :
    (notifier.trackSource source hash).graceStartNs = notifier.graceStartNs := by
  cases source <;> rfl

@[simp]
theorem trackSource_graceWinnerNodeIdx :
    (notifier.trackSource source hash).graceWinnerNodeIdx = notifier.graceWinnerNodeIdx := by
  cases source <;> rfl

@[simp]
theorem trackSource_now : (notifier.trackSource source hash).now = notifier.now := by
  cases source <;> rfl

@[simp]
theorem trackSource_trace : (notifier.trackSource source hash).trace = notifier.trace := by
  cases source <;> rfl

end TrackSource

/-- The three outcomes of `notifier_process_hash`. -/
inductive ReportMove (config : Config n) (notifier : Notifier n) (label : Option Memory)
    (hash : BlockHash) : Notifier n → Prop where
  | duplicate (known : isDuplicate notifier hash = true) :
      ReportMove config notifier label hash
        ((notifier.trackSource (sourceNodeIdx config label) hash).emit
          (.judged .duplicate label hash))
  | suppressed (new : isDuplicate notifier hash = false) (within : withinGrace notifier = true)
      (other : sourceNodeIdx config label ≠ notifier.graceWinnerNodeIdx) :
      ReportMove config notifier label hash
        (((notifier.trackSource (sourceNodeIdx config label) hash).emit
          (.judged .suppressed label hash)).emit (.relayed hash))
  | accepted (new : isDuplicate notifier hash = false)
      (winner : withinGrace notifier = true →
        sourceNodeIdx config label = notifier.graceWinnerNodeIdx) :
      ReportMove config notifier label hash
        (((((notifier.trackSource (sourceNodeIdx config label) hash).emit
          (.judged .accepted label hash)).accept hash (sourceNodeIdx config label)).emit
            (.notified label hash notifier.now)).emit (.relayed hash))

theorem notifierProcessHash_move (config : Config n) (notifier : Notifier n)
    (label : Option Memory) (hash : BlockHash) :
    ReportMove config notifier label hash (notifierProcessHash config notifier hash label) := by
  unfold notifierProcessHash
  dsimp only
  cases verdict : judge notifier hash (sourceNodeIdx config label) with
  | duplicate =>
      unfold judge at verdict
      split_ifs at verdict with known
      exact .duplicate known
  | suppressed =>
      unfold judge at verdict
      split_ifs at verdict with known within
      exact .suppressed (by simpa using known) within.1 within.2
  | accepted =>
      unfold judge at verdict
      split_ifs at verdict with known suppressed
      refine .accepted (by simpa using known) fun within => ?_
      by_contra other
      exact suppressed ⟨within, other⟩

/-- The call of `notifier_process_hash` that a record stands for. -/
def processCall : Effect n → Option (Option Memory × BlockHash)
  | .judged _ source hash => some (source, hash)
  | _ => none

/-- The calls of `notifier_process_hash` in a trace, newest first. -/
def processCalls (trace : List (Effect n)) : List (Option Memory × BlockHash) :=
  trace.filterMap processCall

/-- A call of `notifier_process_hash` records itself. -/
theorem processCalls_notifierProcessHash (config : Config n) (notifier : Notifier n)
    (hash : BlockHash) (label : Option Memory) :
    processCalls (notifierProcessHash config notifier hash label).trace =
      (label, hash) :: processCalls notifier.trace := by
  have move := notifierProcessHash_move config notifier label hash
  generalize notifierProcessHash config notifier hash label = result at move
  cases move with
  | duplicate => simp [processCalls, processCall]
  | suppressed => simp [processCalls, processCall, List.filterMap_cons]
  | accepted => simp [processCalls, processCall, List.filterMap_cons]

/-- A ZMQ node that has not reported a new hash since the accepted one. -/
def Unheard (config : Config n) (notifier : Notifier n) (node : Fin n) : Prop :=
  (config.nodes node).zmqPort ≠ 0 ∧
    ¬ (notifier.nodeHasHash node = true ∧
      notifier.firstNotifyNs ≤ notifier.nodeHashChangedNs node)

/-- The loop of `silence_check_cb` only warns, and only about unheard nodes. -/
theorem foldl_silenceStep (config : Config n) (inIbd : Fin n → Bool) (nodes : List (Fin n))
    (notifier : Notifier n) :
    ∃ warned added,
      nodes.foldl (silenceStep config inIbd) notifier =
        { notifier with silenceWarned := warned, trace := added ++ notifier.trace } ∧
      ∀ effect ∈ added, ∃ node, Unheard config notifier node ∧
        effect = .warned node (notifier.reported node) notifier.lastHash := by
  induction nodes generalizing notifier with
  | nil => exact ⟨notifier.silenceWarned, [], rfl, by simp⟩
  | cons node rest induction =>
      rw [List.foldl_cons, silenceStep]
      split_ifs with silent
      · rcases induction { notifier with
          silenceWarned := Function.update notifier.silenceWarned node true
          trace := .warned node (notifier.reported node) notifier.lastHash :: notifier.trace }
          with ⟨warned, added, result, unheard⟩
        refine ⟨warned, added ++ [.warned node (notifier.reported node) notifier.lastHash], ?_, ?_⟩
        · rw [result, List.append_assoc]
          rfl
        · refine List.forall_mem_append.mpr ⟨unheard, ?_⟩
          simp only [List.mem_singleton]
          rintro effect rfl
          refine ⟨node, ?_, rfl⟩
          simp only [looksSilent, Bool.and_eq_true, decide_eq_true_eq, Bool.not_eq_true'] at silent
          refine ⟨silent.1.1.1, ?_⟩
          rintro ⟨has, changed⟩
          simp [has, changed] at silent
      · exact induction notifier

/-- What `silence_check_cb` leaves. -/
theorem silenceCheckCb_eq (config : Config n) (inIbd : Fin n → Bool) (notifier : Notifier n) :
    ∃ warned added,
      silenceCheckCb config inIbd notifier =
        { notifier with silenceWarned := warned, trace := added ++ notifier.trace } ∧
      ∀ effect ∈ added, ∃ node, Unheard config notifier node ∧ notifier.firstNotifyNs ≠ 0 ∧
        effect = .warned node (notifier.reported node) notifier.lastHash := by
  unfold silenceCheckCb
  split_ifs with never early
  · exact ⟨notifier.silenceWarned, [], rfl, by simp⟩
  · exact ⟨notifier.silenceWarned, [], rfl, by simp⟩
  · rcases foldl_silenceStep config inIbd (List.finRange n) notifier with
      ⟨warned, added, result, unheard⟩
    refine ⟨warned, added, result, fun effect member => ?_⟩
    rcases unheard effect member with ⟨node, silent, equal⟩
    exact ⟨node, silent, never, equal⟩

/-! ## Relays -/

/-- The hash that a record relays. -/
def relayedHash : Effect n → Option BlockHash
  | .relayed hash => some hash
  | _ => none

/-- The hashes relayed downstream, newest first. -/
def relays (trace : List (Effect n)) : List BlockHash :=
  trace.filterMap relayedHash

section Relays

variable (source : Option Memory) (hash : BlockHash) (trace : List (Effect n))

@[simp]
theorem relays_judged (verdict : Verdict) :
    relays (.judged verdict source hash :: trace) = relays trace :=
  rfl

@[simp]
theorem relays_notified (time : Nat) :
    relays (.notified source hash time :: trace) = relays trace :=
  rfl

@[simp]
theorem relays_relayed : relays (.relayed hash :: trace) = hash :: relays trace :=
  rfl

end Relays

/-- No two relays in a row carry the same hash. -/
def RelaysDiffer (notifier : Notifier n) : Prop :=
  (relays notifier.trace).IsChain fun newer older => newer ≠ older

instance (notifier : Notifier n) : Decidable (RelaysDiffer notifier) :=
  inferInstanceAs (Decidable (List.IsChain _ _))

/-- The hash of the last notification that was no duplicate, if it was suppressed. -/
def lastSuppressed : List (Effect n) → Option BlockHash
  | [] => none
  | .judged .suppressed _ hash :: _ => some hash
  | .judged .accepted _ _ :: _ => none
  | _ :: past => lastSuppressed past

/-- The hash of a suppressed notification is not reported again before another new one. -/
def NotRepeated (notifier : Notifier n) (event : Event n) : Prop :=
  match event with
  | .report _ hash => lastSuppressed notifier.trace ≠ some hash
  | _ => True

instance (notifier : Notifier n) (event : Event n) : Decidable (NotRepeated notifier event) :=
  match event with
  | .report _ _ => inferInstanceAs (Decidable (_ ≠ _))
  | .silenceCheck _ => .isTrue trivial
  | .elapse _ => .isTrue trivial

/-- The last relay is that of the last suppressed notification, or of the last accepted one. -/
structure Relaying (notifier : Notifier n) : Prop where
  differ : RelaysDiffer notifier
  newest : (relays notifier.trace).head? =
    (lastSuppressed notifier.trace).or
      (if notifier.hasLastHash then some notifier.lastHash else none)
  unknown : ∀ hash, lastSuppressed notifier.trace = some hash → isDuplicate notifier hash = false

theorem isDuplicate_eq_false {notifier : Notifier n} {hash : BlockHash} :
    isDuplicate notifier hash = false ↔
      (if notifier.hasLastHash then some notifier.lastHash else none) ≠ some hash := by
  unfold isDuplicate
  cases notifier.hasLastHash <;> simp

/-- A new hash can be relayed next exactly if it is not the last suppressed one. -/
theorem Relaying.differ_cons_iff {notifier : Notifier n} (relaying : Relaying notifier)
    {hash : BlockHash} (new : isDuplicate notifier hash = false) :
    (hash :: relays notifier.trace).IsChain (fun newer older => newer ≠ older) ↔
      lastSuppressed notifier.trace ≠ some hash := by
  rw [List.isChain_cons, relaying.newest]
  refine (and_iff_left relaying.differ).trans ?_
  cases suppressed : lastSuppressed notifier.trace with
  | some other =>
      simp only [Option.some_or, Option.mem_def, Option.some.injEq, forall_eq']
      exact ne_comm.trans (by simp)
  | none =>
      have accepted := isDuplicate_eq_false.mp new
      simp only [Option.none_or, ne_eq, reduceCtorEq, not_false_eq_true, iff_true]
      rintro other member rfl
      exact accepted member

/-- A warning. -/
def isWarning : Effect n → Bool
  | .warned _ _ _ => true
  | _ => false

/-- `silence_check_cb` only adds warnings. -/
theorem silenceCheckCb_warnings (config : Config n) (inIbd : Fin n → Bool)
    (notifier : Notifier n) :
    ∃ warned added,
      silenceCheckCb config inIbd notifier =
        { notifier with silenceWarned := warned, trace := added ++ notifier.trace } ∧
      ∀ effect ∈ added, isWarning effect = true := by
  rcases silenceCheckCb_eq config inIbd notifier with ⟨warned, added, result, unheard⟩
  refine ⟨warned, added, result, fun effect member => ?_⟩
  rcases unheard effect member with ⟨node, -, -, rfl⟩
  rfl

section Warnings

variable {added : List (Effect n)} (warnings : ∀ effect ∈ added, isWarning effect = true)

include warnings

/-- Warnings leave what is read off the other records. -/
theorem filterMap_warnings {Record : Type} (read : Effect n → Option Record)
    (unread : ∀ effect, isWarning effect = true → read effect = none) (trace : List (Effect n)) :
    (added ++ trace).filterMap read = trace.filterMap read := by
  have nothing : added.filterMap read = [] :=
    List.filterMap_eq_nil_iff.mpr fun effect member => unread effect (warnings effect member)
  rw [List.filterMap_append, nothing]
  rfl

theorem relays_append (trace : List (Effect n)) : relays (added ++ trace) = relays trace := by
  apply filterMap_warnings warnings
  rintro (_ | _ | _ | _) warning <;> simp_all [isWarning, relayedHash]

theorem processCalls_append (trace : List (Effect n)) :
    processCalls (added ++ trace) = processCalls trace := by
  apply filterMap_warnings warnings
  rintro (_ | _ | _ | _) warning <;> simp_all [isWarning, processCall]

theorem lastSuppressed_append (trace : List (Effect n)) :
    lastSuppressed (added ++ trace) = lastSuppressed trace := by
  induction added with
  | nil => rfl
  | cons effect rest induction =>
      have warning := warnings effect List.mem_cons_self
      cases effect with
      | warned => exact induction fun other member => warnings other (List.mem_cons_of_mem _ member)
      | _ => simp [isWarning] at warning

end Warnings

/-- A call relays a new hash, or leaves the relays as they are. -/
theorem step_relaying (config : Config n) (notifier : Notifier n) (event : Event n)
    (relaying : Relaying notifier) (guarded : NotRepeated notifier event) :
    Relaying (step config notifier event) := by
  cases event with
  | report label hash =>
      have move := notifierProcessHash_move config notifier label hash
      change Relaying (notifierProcessHash config notifier hash label)
      generalize notifierProcessHash config notifier hash label = result at move
      cases move with
      | duplicate known =>
          constructor
          · simpa [RelaysDiffer] using relaying.differ
          · simpa [lastSuppressed] using relaying.newest
          · simpa [lastSuppressed, isDuplicate] using relaying.unknown
      | suppressed new within other =>
          constructor
          · simpa [RelaysDiffer] using (relaying.differ_cons_iff new).mpr guarded
          · simp [lastSuppressed]
          · simpa [lastSuppressed, isDuplicate] using new
      | accepted new winner =>
          constructor
          · simpa [RelaysDiffer] using (relaying.differ_cons_iff new).mpr guarded
          · simp [lastSuppressed]
          · simp [lastSuppressed]
  | silenceCheck inIbd =>
      rcases silenceCheckCb_warnings config inIbd notifier with ⟨warned, added, result, warnings⟩
      change Relaying (silenceCheckCb config inIbd notifier)
      rw [result]
      constructor
      · simpa [RelaysDiffer, relays_append warnings] using relaying.differ
      · simpa [relays_append warnings, lastSuppressed_append warnings] using relaying.newest
      · simpa [lastSuppressed_append warnings, isDuplicate] using relaying.unknown
  | elapse duration => exact ⟨relaying.differ, relaying.newest, relaying.unknown⟩

/-- A repeated suppressed hash is relayed twice in a row. -/
theorem notRepeated_of_relaysDiffer (config : Config n) (notifier : Notifier n)
    (event : Event n) (relaying : Relaying notifier)
    (after : RelaysDiffer (step config notifier event)) :
    NotRepeated notifier event := by
  cases event with
  | report label hash =>
      intro repeated
      have new := relaying.unknown hash repeated
      refine (relaying.differ_cons_iff new).mp ?_ repeated
      have move := notifierProcessHash_move config notifier label hash
      change RelaysDiffer (notifierProcessHash config notifier hash label) at after
      generalize notifierProcessHash config notifier hash label = result at move after
      cases move with
      | duplicate known =>
          rw [new] at known
          contradiction
      | suppressed => simpa [RelaysDiffer] using after
      | accepted => simpa [RelaysDiffer] using after
  | silenceCheck inIbd => trivial
  | elapse duration => trivial

/--
No hash is relayed twice in a row, exactly if no suppressed hash is reported
again before another new one.
-/
theorem relaysDiffer_iff_notRepeated (config : Config n) (now : Nat) (events : List (Event n)) :
    Throughout (step config) RelaysDiffer (freshNotifier now) events ↔
      Along (step config) NotRepeated (freshNotifier now) events := by
  have fresh : Relaying (freshNotifier now : Notifier n) :=
    ⟨List.IsChain.nil, rfl, fun hash suppressed => by
      simp [freshNotifier, lastSuppressed] at suppressed⟩
  exact throughout_iff_along (step_relaying config) (fun _ relaying => relaying.differ)
    (notRepeated_of_relaysDiffer config) fresh events

/-- A configuration of ZMQ nodes with these labels. -/
def exampleConfig (labels : Fin n → String) : Config n where
  nodes node := ⟨ascii (labels node), 28332⟩

/-- A hash of equal bytes. -/
def exampleHash (byte : Byte) : BlockHash :=
  ⟨List.replicate hashSize byte, List.length_replicate⟩

/-- A node of the configuration or another peer reports a hash. -/
def reports (label : String) (byte : Byte) : Event n :=
  .report (some (ascii label)) (exampleHash byte)

/-- Within the grace period of one node, two others report the next block. -/
def burst : List (Event 3) :=
  [reports "first" 1, .elapse 1000000000, reports "second" 2, reports "third" 2]

/-- The burst is relayed twice. -/
theorem burst_not_relaysDiffer :
    ¬ Throughout (step (exampleConfig !["first", "second", "third"])) RelaysDiffer
      (freshNotifier 0) burst := by
  have twice : ¬ RelaysDiffer (run (step (exampleConfig !["first", "second", "third"]))
      (freshNotifier 0) burst) := by
    decide +kernel
  intro everywhere
  exact twice (throughout_end everywhere)

/-! ## Notifies -/

/-- A call of `on_notify`. -/
structure Notice where
  source : Option Memory
  hash : BlockHash
  time : Nat
deriving DecidableEq

/-- The call that a record stands for. -/
def noticeOf : Effect n → Option Notice
  | .notified source hash time => some ⟨source, hash, time⟩
  | _ => none

/-- The calls of `on_notify`, newest first. -/
def notices (trace : List (Effect n)) : List Notice :=
  trace.filterMap noticeOf

/-- Two calls within the grace period come from one source and are about two hashes. -/
def BreaksThrough (newer older : Notice) : Prop :=
  newer.time - older.time < notifyGracePeriodNs →
    newer.source = older.source ∧ newer.hash ≠ older.hash

instance : DecidableRel BreaksThrough := fun _ _ =>
  inferInstanceAs (Decidable (_ → _))

/-- Only the source of an accepted notification breaks through its grace period. -/
def WinnerOnly (notifier : Notifier n) : Prop :=
  (notices notifier.trace).IsChain BreaksThrough

instance (notifier : Notifier n) : Decidable (WinnerOnly notifier) :=
  inferInstanceAs (Decidable (List.IsChain _ _))

/-- The source of the last accepted notification. -/
def lastSource (notifier : Notifier n) : Option (Option Memory) :=
  (notices notifier.trace).head?.map Notice.source

/--
A source that matches no configured node does not report a new hash in the
grace period of another source that matches none.
-/
def OneStranger (config : Config n) (notifier : Notifier n) (event : Event n) : Prop :=
  match event with
  | .report label hash =>
      withinGrace notifier = true → isDuplicate notifier hash = false →
      notifier.graceWinnerNodeIdx = none → sourceNodeIdx config label = none →
      lastSource notifier = some label
  | _ => True

instance (config : Config n) (notifier : Notifier n) (event : Event n) :
    Decidable (OneStranger config notifier event) :=
  match event with
  | .report _ _ => inferInstanceAs (Decidable (_ → _ → _ → _ → _))
  | .silenceCheck _ => .isTrue trivial
  | .elapse _ => .isTrue trivial

section Notices

variable (source : Option Memory) (hash : BlockHash) (trace : List (Effect n))

@[simp]
theorem notices_judged (verdict : Verdict) :
    notices (.judged verdict source hash :: trace) = notices trace :=
  rfl

@[simp]
theorem notices_notified (time : Nat) :
    notices (.notified source hash time :: trace) = ⟨source, hash, time⟩ :: notices trace :=
  rfl

@[simp]
theorem notices_relayed : notices (.relayed hash :: trace) = notices trace :=
  rfl

end Notices

theorem notices_append {added : List (Effect n)}
    (warnings : ∀ effect ∈ added, isWarning effect = true) (trace : List (Effect n)) :
    notices (added ++ trace) = notices trace := by
  apply filterMap_warnings warnings
  rintro (_ | _ | _ | _) warning <;> simp_all [isWarning, noticeOf]

/-- The grace fields describe the last call of `on_notify`. -/
structure Gracing (config : Config n) (notifier : Notifier n) : Prop where
  spaced : WinnerOnly notifier
  past : notifier.graceStartNs ≤ notifier.now
  newest : ∀ notice, (notices notifier.trace).head? = some notice →
    notifier.graceActive = true ∧ notice.time = notifier.graceStartNs ∧
      notifier.hasLastHash = true ∧ notice.hash = notifier.lastHash ∧
      sourceNodeIdx config notice.source = notifier.graceWinnerNodeIdx
  started : notifier.graceActive = true → notices notifier.trace ≠ []

/-- A label that matches a node is the label of that node. -/
theorem label_of_sourceNodeIdx {config : Config n} {label : Option Memory} {node : Fin n}
    (found : sourceNodeIdx config label = some node) :
    label = some (config.nodes node).label := by
  rcases Option.bind_eq_some_iff.mp found with ⟨text, rfl, first⟩
  have matches_ := List.find?_some first
  simp only [decide_eq_true_eq] at matches_
  rw [matches_]

/-- An accepted notification may follow the last one exactly if it is no other stranger's. -/
theorem Gracing.spaced_cons_iff {config : Config n} {notifier : Notifier n}
    (gracing : Gracing config notifier) {label : Option Memory} {hash : BlockHash}
    (new : isDuplicate notifier hash = false)
    (winner : withinGrace notifier = true →
      sourceNodeIdx config label = notifier.graceWinnerNodeIdx) :
    (⟨label, hash, notifier.now⟩ :: notices notifier.trace).IsChain BreaksThrough ↔
      OneStranger config notifier (.report label hash) := by
  rw [List.isChain_cons]
  refine (and_iff_left gracing.spaced).trans ?_
  constructor
  · intro spaced within _ _ _
    have active : notifier.graceActive = true := by
      simp only [withinGrace, Bool.and_eq_true] at within
      exact within.1
    rcases List.exists_cons_of_ne_nil (gracing.started active) with ⟨notice, older, split⟩
    have last : (notices notifier.trace).head? = some notice := by rw [split]; rfl
    have time_eq := (gracing.newest notice last).2.1
    have same := (spaced notice last (by simpa [time_eq, withinGrace, active] using within)).1
    rw [lastSource, last, Option.map_some, ← same]
  · intro stranger notice last close
    rcases gracing.newest notice last with ⟨active, time_eq, has, hash_eq, source_eq⟩
    have within : withinGrace notifier = true := by
      simp only [withinGrace, active, Bool.true_and, decide_eq_true_eq, ← time_eq]
      exact close
    have label_idx := winner within
    constructor
    · cases idx : notifier.graceWinnerNodeIdx with
      | none =>
          have same := stranger within new idx (label_idx.trans idx)
          rw [lastSource, last, Option.map_some, Option.some.injEq] at same
          exact same.symm
      | some node =>
          rw [idx] at label_idx source_eq
          exact (label_of_sourceNodeIdx label_idx).trans (label_of_sourceNodeIdx source_eq).symm
    · intro equal
      have known : isDuplicate notifier hash = true := by
        simp only [isDuplicate, has, Bool.true_and, decide_eq_true_eq]
        exact hash_eq.symm.trans equal.symm
      rw [new] at known
      contradiction

theorem step_gracing (config : Config n) (notifier : Notifier n) (event : Event n)
    (gracing : Gracing config notifier) (guarded : OneStranger config notifier event) :
    Gracing config (step config notifier event) := by
  cases event with
  | report label hash =>
      have move := notifierProcessHash_move config notifier label hash
      change Gracing config (notifierProcessHash config notifier hash label)
      generalize notifierProcessHash config notifier hash label = result at move
      cases move with
      | duplicate known =>
          constructor
          · simpa [WinnerOnly] using gracing.spaced
          · simpa using gracing.past
          · simpa using gracing.newest
          · simpa using gracing.started
      | suppressed new within other =>
          constructor
          · simpa [WinnerOnly] using gracing.spaced
          · simpa using gracing.past
          · simpa using gracing.newest
          · simpa using gracing.started
      | accepted new winner =>
          constructor
          · simpa [WinnerOnly] using (gracing.spaced_cons_iff new winner).mpr guarded
          · simp
          · simp
          · simp
  | silenceCheck inIbd =>
      rcases silenceCheckCb_warnings config inIbd notifier with ⟨warned, added, result, warnings⟩
      change Gracing config (silenceCheckCb config inIbd notifier)
      rw [result]
      constructor
      · simpa [WinnerOnly, notices_append warnings] using gracing.spaced
      · exact gracing.past
      · simpa [notices_append warnings] using gracing.newest
      · simpa [notices_append warnings] using gracing.started
  | elapse duration =>
      exact ⟨gracing.spaced, gracing.past.trans (Nat.le_add_right _ _), gracing.newest,
        gracing.started⟩

/-- A second stranger that breaks through the grace period of the first is notified. -/
theorem oneStranger_of_winnerOnly (config : Config n) (notifier : Notifier n) (event : Event n)
    (gracing : Gracing config notifier) (after : WinnerOnly (step config notifier event)) :
    OneStranger config notifier event := by
  cases event with
  | report label hash =>
      intro within new winner stranger
      have same : sourceNodeIdx config label = notifier.graceWinnerNodeIdx :=
        stranger.trans winner.symm
      refine (gracing.spaced_cons_iff new fun _ => same).mp ?_ within new winner stranger
      have move := notifierProcessHash_move config notifier label hash
      change WinnerOnly (notifierProcessHash config notifier hash label) at after
      generalize notifierProcessHash config notifier hash label = result at move after
      cases move with
      | duplicate known =>
          rw [new] at known
          contradiction
      | suppressed _ _ other => exact absurd same other
      | accepted => simpa [WinnerOnly] using after
  | silenceCheck inIbd => trivial
  | elapse duration => trivial

/--
Only the winning source breaks through the grace period, exactly if no two
sources that match no configured node meet in one.
-/
theorem winnerOnly_iff_oneStranger (config : Config n) (now : Nat) (events : List (Event n)) :
    Throughout (step config) WinnerOnly (freshNotifier now) events ↔
      Along (step config) (OneStranger config) (freshNotifier now) events := by
  have fresh : Gracing config (freshNotifier now) :=
    ⟨List.IsChain.nil, Nat.zero_le _, fun notice last => by simp [freshNotifier, notices] at last,
      fun active => by simp [freshNotifier] at active⟩
  exact throughout_iff_along (step_gracing config) (fun _ gracing => gracing.spaced)
    (oneStranger_of_winnerOnly config) fresh events

/-- Two peers that match no configured node report two blocks within a second. -/
def twoStrangers : List (Event 1) :=
  [reports "10.0.0.8" 1, .elapse 1000000000, reports "10.0.0.9" 2]

/-- The second peer breaks through the grace period of the first. -/
theorem twoStrangers_not_winnerOnly :
    ¬ Throughout (step (exampleConfig !["first"])) WinnerOnly (freshNotifier 0) twoStrangers := by
  have broken : ¬ WinnerOnly (run (step (exampleConfig !["first"])) (freshNotifier 0)
      twoStrangers) := by
    decide +kernel
  intro everywhere
  exact broken (throughout_end everywhere)

/-! ## Silence warnings -/

/-- The warning is not about a node whose last report is the accepted hash. -/
def Deserved : Effect n → Prop
  | .warned _ reported accepted => reported ≠ some accepted
  | _ => True

instance (effect : Effect n) : Decidable (Deserved effect) :=
  match effect with
  | .warned _ _ _ => inferInstanceAs (Decidable (_ ≠ _))
  | .judged _ _ _ | .notified _ _ _ | .relayed _ => .isTrue trivial

/-- No warning so far was a false alarm. -/
def NoFalseAlarm (notifier : Notifier n) : Prop :=
  ∀ effect ∈ notifier.trace, Deserved effect

instance (notifier : Notifier n) : Decidable (NoFalseAlarm notifier) :=
  inferInstanceAs (Decidable (∀ _ ∈ _, _))

/--
A new hash that the grace period does not suppress is not already the last
one that a ZMQ node has reported.
-/
def FirstReport (config : Config n) (notifier : Notifier n) (event : Event n) : Prop :=
  match event with
  | .report label hash =>
      isDuplicate notifier hash = false →
      (withinGrace notifier = true →
        sourceNodeIdx config label = notifier.graceWinnerNodeIdx) →
      ∀ node, (config.nodes node).zmqPort ≠ 0 → notifier.reported node ≠ some hash
  | _ => True

instance (config : Config n) (notifier : Notifier n) (event : Event n) :
    Decidable (FirstReport config notifier event) :=
  match event with
  | .report _ _ => inferInstanceAs (Decidable (_ → _))
  | .silenceCheck _ => .isTrue trivial
  | .elapse _ => .isTrue trivial

/-- A ZMQ node with the accepted hash has changed to it since it was accepted. -/
structure Listening (config : Config n) (notifier : Notifier n) : Prop where
  deserved : NoFalseAlarm notifier
  past : notifier.firstNotifyNs ≤ notifier.now
  accepted : notifier.firstNotifyNs ≠ 0 → notifier.hasLastHash = true
  heard : notifier.hasLastHash = true → ∀ node, (config.nodes node).zmqPort ≠ 0 →
    notifier.reported node = some notifier.lastHash →
    notifier.firstNotifyNs ≤ notifier.nodeHashChangedNs node

theorem trackSource_reported (notifier : Notifier n) (source : Option (Fin n)) (hash : BlockHash)
    (node : Fin n) :
    (notifier.trackSource source hash).reported node =
      if source = some node then some hash else notifier.reported node := by
  cases source with
  | none => rfl
  | some other =>
      by_cases same : node = other
      · subst same
        simp [Notifier.trackSource, Notifier.reported]
      · simp [Notifier.trackSource, Notifier.reported, same, Ne.symm same]

theorem trackSource_nodeHashChangedNs (notifier : Notifier n) (source : Option (Fin n))
    (hash : BlockHash) (node : Fin n) :
    (notifier.trackSource source hash).nodeHashChangedNs node =
      if source = some node ∧ notifier.reported node ≠ some hash then notifier.now
      else notifier.nodeHashChangedNs node := by
  cases source with
  | none => rfl
  | some other =>
      by_cases same : node = other
      · subst same
        cases has : notifier.nodeHasHash node with
        | false => simp [Notifier.trackSource, Notifier.reported, has]
        | true =>
            by_cases equal : notifier.nodeLastHash node = hash <;>
              simp [Notifier.trackSource, Notifier.reported, has, equal]
      · simp only [Notifier.trackSource, Notifier.track_nodeHashChangedNs, Option.some.injEq,
          Ne.symm same, false_and, if_false]
        split_ifs <;> simp [same]

@[simp]
theorem emit_reported (notifier : Notifier n) (effect : Effect n) (node : Fin n) :
    (notifier.emit effect).reported node = notifier.reported node :=
  rfl

@[simp]
theorem accept_reported (notifier : Notifier n) (hash : BlockHash) (source : Option (Fin n))
    (node : Fin n) :
    (notifier.accept hash source).reported node = notifier.reported node :=
  rfl

theorem Listening.report {config : Config n} {notifier result : Notifier n}
    {label : Option Memory} {hash : BlockHash} (listening : Listening config notifier)
    (move : ReportMove config notifier label hash result)
    (first : FirstReport config notifier (.report label hash)) :
    Listening config result := by
  cases move with
  | duplicate known =>
      constructor
      · simpa [NoFalseAlarm, Deserved] using listening.deserved
      · simpa using listening.past
      · simpa using listening.accepted
      · intro _ node zmq reported
        simp only [isDuplicate, Bool.and_eq_true, decide_eq_true_eq] at known
        simp only [emit_reported, trackSource_reported, Notifier.emit_lastHash,
          trackSource_lastHash] at reported
        simp only [Notifier.emit_firstNotifyNs, trackSource_firstNotifyNs,
          Notifier.emit_nodeHashChangedNs, trackSource_nodeHashChangedNs]
        split_ifs with moved
        · exact listening.past
        · apply listening.heard known.1 node zmq
          split_ifs at reported with source
          · rw [known.2]
            by_contra different
            exact moved ⟨source, different⟩
          · exact reported
  | suppressed new within other =>
      constructor
      · simpa [NoFalseAlarm, Deserved] using listening.deserved
      · simpa using listening.past
      · simpa using listening.accepted
      · intro has node zmq reported
        simp only [Notifier.emit_hasLastHash, trackSource_hasLastHash] at has
        simp only [emit_reported, trackSource_reported, Notifier.emit_lastHash,
          trackSource_lastHash] at reported
        simp only [Notifier.emit_firstNotifyNs, trackSource_firstNotifyNs,
          Notifier.emit_nodeHashChangedNs, trackSource_nodeHashChangedNs]
        by_cases source : sourceNodeIdx config label = some node
        · rw [if_pos source] at reported
          simp [isDuplicate, has, Option.some.inj reported] at new
        · rw [if_neg source] at reported
          rw [if_neg fun moved => source moved.1]
          exact listening.heard has node zmq reported
  | accepted new winner =>
      constructor
      · simpa [NoFalseAlarm, Deserved] using listening.deserved
      · simp
      · simp
      · intro _ node zmq reported
        have fresh := first new winner node zmq
        simp only [emit_reported, accept_reported, trackSource_reported, Notifier.emit_lastHash,
          Notifier.accept_lastHash] at reported
        simp only [Notifier.emit_firstNotifyNs, Notifier.accept_firstNotifyNs, Notifier.emit_now,
          trackSource_now, Notifier.emit_nodeHashChangedNs, Notifier.accept_nodeHashChangedNs,
          trackSource_nodeHashChangedNs]
        by_cases source : sourceNodeIdx config label = some node
        · rw [if_pos ⟨source, fresh⟩]
        · rw [if_neg source] at reported
          exact absurd reported fresh

theorem step_listening (config : Config n) (notifier : Notifier n) (event : Event n)
    (listening : Listening config notifier) (first : FirstReport config notifier event) :
    Listening config (step config notifier event) := by
  cases event with
  | report label hash =>
      exact listening.report (notifierProcessHash_move config notifier label hash) first
  | silenceCheck inIbd =>
      rcases silenceCheckCb_eq config inIbd notifier with ⟨warned, added, result, unheard⟩
      change Listening config (silenceCheckCb config inIbd notifier)
      rw [result]
      refine ⟨List.forall_mem_append.mpr ⟨?_, listening.deserved⟩, listening.past,
        listening.accepted, listening.heard⟩
      intro effect member
      rcases unheard effect member with ⟨node, ⟨zmq, silent⟩, notified, rfl⟩
      intro reported
      have heard := listening.heard (listening.accepted notified) node zmq reported
      refine silent ⟨?_, heard⟩
      by_contra never
      simp [Notifier.reported, never] at reported
  | elapse duration =>
      exact ⟨listening.deserved, listening.past.trans (Nat.le_add_right _ _), listening.accepted,
        listening.heard⟩

/--
No node is called silent while its last report is the accepted hash, as long
as no hash is accepted after a ZMQ node has already reported it.
-/
theorem noFalseAlarm_of_firstReport (config : Config n) (now : Nat) (events : List (Event n))
    (guarded : Along (step config) (FirstReport config) (freshNotifier now) events) :
    Throughout (step config) NoFalseAlarm (freshNotifier now) events := by
  have fresh : Listening config (freshNotifier now) :=
    ⟨fun effect member => absurd member List.not_mem_nil, Nat.zero_le _,
      fun notified => absurd rfl notified, fun has => by simp [freshNotifier] at has⟩
  apply Throughout.mono fun notifier (listening : Listening config notifier) => listening.deserved
  exact throughout_of_along (step_listening config) fresh guarded

/-- A minute after both nodes have reported a block, one reports the next and the other does not. -/
def oneSilent : List (Event 2) :=
  [.elapse 1000000000, reports "first" 1, reports "second" 1, .elapse 60000000000,
    reports "first" 2, .elapse 60000000000, .silenceCheck fun _ => false]

theorem noFalseAlarm_of_firstReport_oneSilent :
    Along (step (exampleConfig !["first", "second"]))
        (FirstReport (exampleConfig !["first", "second"])) (freshNotifier 0) oneSilent ∧
      Throughout (step (exampleConfig !["first", "second"])) NoFalseAlarm (freshNotifier 0)
        oneSilent := by
  have guarded : Along (step (exampleConfig !["first", "second"]))
      (FirstReport (exampleConfig !["first", "second"])) (freshNotifier 0) oneSilent := by
    decide +kernel
  exact ⟨guarded, noFalseAlarm_of_firstReport _ 0 oneSilent guarded⟩

/--
One node reports a block in the grace period of the other, which reports it
a second later and is accepted.
-/
def earlyReport : List (Event 2) :=
  [.elapse 1000000000, reports "first" 1, .elapse 1000000000, reports "second" 2,
    .elapse 1000000000, reports "first" 2, .elapse 60000000000, .silenceCheck fun _ => false]

/-- The node that was first with the block is called silent. -/
theorem earlyReport_not_noFalseAlarm :
    ¬ Throughout (step (exampleConfig !["first", "second"])) NoFalseAlarm (freshNotifier 0)
      earlyReport := by
  have warned : ¬ NoFalseAlarm (run (step (exampleConfig !["first", "second"]))
      (freshNotifier 0) earlyReport) := by
    decide +kernel
  intro everywhere
  exact warned (throughout_end everywhere)

end RpcRace.BlockNotify
