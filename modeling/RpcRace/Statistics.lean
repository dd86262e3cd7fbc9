import RpcRace.Library.Numeral
import RpcRace.ConfigLoad

/-!
# The statistics

The model of `stats.c`: the counters, the functions that record into them,
and the JSON document made of them.  Node indices are in range by their type.
`Call` names the recording functions, so that a list of calls, newest first,
is what has been recorded; `Tallied` says what the counters hold then.

The document is written by the vendored `yyjson_mut_write` without flags: no
white space, strings escaped where JSON asks for it, and nothing at all if a
string is no UTF-8.  What it takes for UTF-8 is a parameter.
-/

namespace RpcRace.Statistics

open RpcRace.Library.CString
open RpcRace.Library.Numeral
open RpcRace.ConfigLoad (maxNodes FieldText)

variable {n : Nat}

/-! ## Counters -/

/-- `node_stats_t`. -/
structure NodeStats where
  gbtResponseTimeUs : UInt64
  gbtTotalTimeUs : UInt64
  gbtWins : UInt32
  gbtLastTxCount : UInt32
  lastResponseTimeUs : UInt64
  gbtLastSinceNotifyUs : UInt64
  notifyWins : UInt32
deriving DecidableEq, Repr

/-- `struct stats`, with the first `node_count` nodes. -/
structure Stats (n : Nat) where
  perNode : Fin n → NodeStats
  lastNotifyToGbtUs : UInt64
  lastNotifyTimeNs : UInt64
  totalRaces : UInt32
  totalRpcRequests : UInt32
  startTimeNs : UInt64

/-- `stats_create`, which reads the clock. -/
def statsCreate (now : UInt64) : Stats n where
  perNode _ := ⟨0, 0, 0, 0, 0, 0, 0⟩
  lastNotifyToGbtUs := 0
  lastNotifyTimeNs := 0
  totalRaces := 0
  totalRpcRequests := 0
  startTimeNs := now

/-- Change the counters of one node. -/
@[simps]
def Stats.modify (stats : Stats n) (node : Fin n) (change : NodeStats → NodeStats) : Stats n :=
  { stats with
    perNode := Function.update stats.perNode node (change (stats.perNode node)) }

/-- `stats_record_gbt`. -/
def statsRecordGbt (stats : Stats n) (node : Fin n) (responseTimeUs : UInt64)
    (txCount : UInt32) (sinceNotifyUs : UInt64) : Stats n :=
  stats.modify node fun counters =>
    { counters with
      gbtResponseTimeUs := responseTimeUs
      gbtTotalTimeUs := counters.gbtTotalTimeUs + responseTimeUs
      gbtLastTxCount := txCount
      lastResponseTimeUs := responseTimeUs
      gbtLastSinceNotifyUs := sinceNotifyUs }

/-- `stats_record_race_win`. -/
def statsRecordRaceWin (stats : Stats n) (node : Fin n) : Stats n :=
  { stats.modify node fun counters => { counters with gbtWins := counters.gbtWins + 1 } with
    totalRaces := stats.totalRaces + 1 }

/-- `stats_record_notify_win`. -/
def statsRecordNotifyWin (stats : Stats n) (node : Fin n) : Stats n :=
  stats.modify node fun counters => { counters with notifyWins := counters.notifyWins + 1 }

/-- `stats_record_notify_to_gbt`. -/
def statsRecordNotifyToGbt (stats : Stats n) (elapsedUs : UInt64) : Stats n :=
  { stats with lastNotifyToGbtUs := elapsedUs }

/-- `stats_record_request`. -/
def statsRecordRequest (stats : Stats n) : Stats n :=
  { stats with totalRpcRequests := stats.totalRpcRequests + 1 }

/-- `stats_record_notify_time`. -/
def statsRecordNotifyTime (stats : Stats n) (notifyTimeNs : UInt64) : Stats n :=
  { stats with lastNotifyTimeNs := notifyTimeNs }

/-- A call of one of the recording functions. -/
inductive Call (n : Nat) where
  | gbt (node : Fin n) (responseTimeUs : UInt64) (txCount : UInt32) (sinceNotifyUs : UInt64)
  | raceWin (node : Fin n)
  | notifyWin (node : Fin n)
  | notifyToGbt (elapsedUs : UInt64)
  | request
  | notifyTime (notifyTimeNs : UInt64)
deriving DecidableEq, Repr

/-- What a call does. -/
def Stats.record (stats : Stats n) : Call n → Stats n
  | .gbt node responseTimeUs txCount sinceNotifyUs =>
      statsRecordGbt stats node responseTimeUs txCount sinceNotifyUs
  | .raceWin node => statsRecordRaceWin stats node
  | .notifyWin node => statsRecordNotifyWin stats node
  | .notifyToGbt elapsedUs => statsRecordNotifyToGbt stats elapsedUs
  | .request => statsRecordRequest stats
  | .notifyTime notifyTimeNs => statsRecordNotifyTime stats notifyTimeNs

/-! ## Tallies -/

def isRaceWin : Call n → Bool
  | .raceWin _ => true
  | _ => false

/-- The response time that a call records for this node. -/
def gbtTime (node : Fin n) : Call n → Option UInt64
  | .gbt other time _ _ => if other = node then some time else none
  | _ => none

/-- The response times recorded for a node, newest first. -/
def gbtTimes (node : Fin n) (calls : List (Call n)) : List UInt64 :=
  calls.filterMap (gbtTime node)

/-- The counters of a node hold what the calls have recorded, as far as their words reach. -/
structure NodeTallied (node : Fin n) (calls : List (Call n)) (counters : NodeStats) : Prop where
  wins : counters.gbtWins = UInt32.ofNat (calls.countP (· = .raceWin node))
  notifyWins : counters.notifyWins = UInt32.ofNat (calls.countP (· = .notifyWin node))
  totalTime : counters.gbtTotalTimeUs = (gbtTimes node calls).sum
  lastTime : counters.gbtResponseTimeUs = (gbtTimes node calls).headD 0

/-- So do the counters of all nodes, and the counts of requests and races. -/
structure Tallied (calls : List (Call n)) (stats : Stats n) : Prop where
  requests : stats.totalRpcRequests = UInt32.ofNat (calls.countP (· = .request))
  races : stats.totalRaces = UInt32.ofNat (calls.countP isRaceWin)
  nodes : ∀ node, NodeTallied node calls (stats.perNode node)

theorem statsCreate_tallied (now : UInt64) : Tallied ([] : List (Call n)) (statsCreate now) :=
  ⟨rfl, rfl, fun _ => ⟨rfl, rfl, rfl, rfl⟩⟩

/-- The node that a call is about. -/
def Call.about : Call n → Option (Fin n)
  | .gbt node _ _ _ => some node
  | .raceWin node => some node
  | .notifyWin node => some node
  | _ => none

theorem ofNat_countP_cons {calls : List (Call n)} {kind : Call n → Bool} {call : Call n}
    (counted : kind call = true) :
    UInt32.ofNat ((call :: calls).countP kind) = UInt32.ofNat (calls.countP kind) + 1 := by
  rw [List.countP_cons_of_pos counted, UInt32.ofNat_add]
  rfl

/-- A call changes the counters of the node it is about, and of no other. -/
theorem record_perNode_of_ne (stats : Stats n) {call : Call n} {node : Fin n}
    (other : call.about ≠ some node) :
    (stats.record call).perNode node = stats.perNode node := by
  have update : ∀ change next, some next ≠ some node →
      (stats.modify next change).perNode node = stats.perNode node := by
    intro change next different
    rw [Stats.modify_perNode, Function.update_of_ne]
    rintro rfl
    exact different rfl
  cases call with
  | gbt next =>
      rw [Stats.record, statsRecordGbt]
      exact update _ next other
  | raceWin next =>
      rw [Stats.record, statsRecordRaceWin]
      dsimp only
      exact update _ next other
  | notifyWin next =>
      rw [Stats.record, statsRecordNotifyWin]
      exact update _ next other
  | notifyToGbt => rfl
  | request => rfl
  | notifyTime => rfl

theorem NodeTallied.cons_of_ne {node : Fin n} {calls : List (Call n)} {counters : NodeStats}
    (tallied : NodeTallied node calls counters) {call : Call n} (other : call.about ≠ some node) :
    NodeTallied node (call :: calls) counters := by
  have noWin : call ≠ .raceWin node := by
    rintro rfl
    exact other rfl
  have noNotify : call ≠ .notifyWin node := by
    rintro rfl
    exact other rfl
  have times_eq : gbtTimes node (call :: calls) = gbtTimes node calls := by
    cases call with
    | gbt next =>
        have different : next ≠ node := by
          rintro rfl
          exact other rfl
        simp [gbtTimes, gbtTime, different]
    | _ => rfl
  refine ⟨?_, ?_, ?_, ?_⟩
  · rw [List.countP_cons_of_neg (by simpa using noWin), tallied.wins]
  · rw [List.countP_cons_of_neg (by simpa using noNotify), tallied.notifyWins]
  · rw [times_eq, tallied.totalTime]
  · rw [times_eq, tallied.lastTime]

/-- A call about a node is added to its tally. -/
theorem NodeTallied.record {stats : Stats n} {calls : List (Call n)} {call : Call n}
    {node : Fin n} (tallied : NodeTallied node calls (stats.perNode node))
    (about : call.about = some node) :
    NodeTallied node (call :: calls) ((stats.record call).perNode node) := by
  cases call with
  | gbt next time txCount since =>
      obtain rfl : next = node := Option.some.inj about
      rw [Stats.record, statsRecordGbt, Stats.modify_perNode, Function.update_self]
      refine ⟨?_, ?_, ?_, ?_⟩
      · simpa using tallied.wins
      · simpa using tallied.notifyWins
      · simp [gbtTimes, gbtTime, tallied.totalTime, add_comm]
      · simp [gbtTimes, gbtTime]
  | raceWin next =>
      obtain rfl : next = node := Option.some.inj about
      rw [Stats.record, statsRecordRaceWin, Stats.modify_perNode, Function.update_self]
      refine ⟨?_, ?_, tallied.totalTime, tallied.lastTime⟩
      · rw [ofNat_countP_cons (by simp), ← tallied.wins]
      · simpa using tallied.notifyWins
  | notifyWin next =>
      obtain rfl : next = node := Option.some.inj about
      rw [Stats.record, statsRecordNotifyWin, Stats.modify_perNode, Function.update_self]
      refine ⟨?_, ?_, tallied.totalTime, tallied.lastTime⟩
      · simpa using tallied.wins
      · rw [ofNat_countP_cons (by simp), ← tallied.notifyWins]
  | notifyToGbt => simp [Call.about] at about
  | request => simp [Call.about] at about
  | notifyTime => simp [Call.about] at about

theorem Tallied.record {calls : List (Call n)} {stats : Stats n} (tallied : Tallied calls stats)
    (call : Call n) :
    Tallied (call :: calls) (stats.record call) := by
  refine ⟨?_, ?_, ?_⟩
  · cases call with
    | request =>
        rw [ofNat_countP_cons (by simp), ← tallied.requests]
        rfl
    | _ =>
        rw [List.countP_cons_of_neg (by simp)]
        exact tallied.requests
  · cases call with
    | raceWin node =>
        rw [ofNat_countP_cons rfl, ← tallied.races]
        rfl
    | _ =>
        rw [List.countP_cons_of_neg (by simp [isRaceWin])]
        exact tallied.races
  · intro node
    by_cases about : call.about = some node
    · exact (tallied.nodes node).record about
    · rw [record_perNode_of_ne stats about]
      exact (tallied.nodes node).cons_of_ne about

/-- The calls of one callback, the oldest first, on top of the earlier ones. -/
theorem Tallied.foldl {calls : List (Call n)} {stats : Stats n} (tallied : Tallied calls stats)
    (added : List (Call n)) :
    Tallied (added.reverse ++ calls) (added.foldl Stats.record stats) := by
  induction added generalizing calls stats with
  | nil => exact tallied
  | cons call rest induction =>
      rw [List.reverse_cons, List.append_assoc]
      exact induction (tallied.record call)

/-! ## Averages -/

/-- `avg_us`. -/
def NodeStats.avgUs (counters : NodeStats) : UInt64 :=
  if 0 < counters.gbtWins then counters.gbtTotalTimeUs / counters.gbtWins.toUInt64 else 0

/-- A sum of words that fits a word is the sum of the numbers. -/
theorem toNat_sum {words : List UInt64} (fits : (words.map UInt64.toNat).sum < 2 ^ 64) :
    words.sum.toNat = (words.map UInt64.toNat).sum := by
  induction words with
  | nil => rfl
  | cons word rest induction =>
      rw [List.map_cons, List.sum_cons] at fits ⊢
      rw [List.sum_cons, UInt64.toNat_add, induction (by omega), Nat.mod_eq_of_lt fits]

/-- The average is the mean of the recorded times, rounded down, while no counter wraps. -/
theorem NodeTallied.avgUs_eq {node : Fin n} {calls : List (Call n)} {counters : NodeStats}
    (tallied : NodeTallied node calls counters)
    (paired : calls.countP (· = .raceWin node) = (gbtTimes node calls).length)
    (few : (gbtTimes node calls).length < 2 ^ 32)
    (fits : ((gbtTimes node calls).map UInt64.toNat).sum < 2 ^ 64) :
    counters.avgUs.toNat =
      ((gbtTimes node calls).map UInt64.toNat).sum / (gbtTimes node calls).length := by
  have wins : counters.gbtWins.toNat = (gbtTimes node calls).length := by
    rw [tallied.wins, paired, UInt32.toNat_ofNat', Nat.mod_eq_of_lt few]
  unfold NodeStats.avgUs
  split_ifs with some_
  · rw [UInt64.toNat_div, UInt32.toNat_toUInt64, wins, tallied.totalTime, toNat_sum fits]
  · rw [UInt32.lt_iff_toNat_lt, wins] at some_
    have none_ : gbtTimes node calls = [] :=
      List.eq_nil_of_length_eq_zero (Nat.eq_zero_of_not_pos some_)
    simp [none_]

/-! ## The document -/

/-- The upper-case digits of `esc_hex_char_table`. -/
def upperHexPair (byte : Byte) : Memory :=
  [(ascii "0123456789ABCDEF").getD (byte.toNat / 16) 0,
    (ascii "0123456789ABCDEF").getD (byte.toNat % 16) 0]

/-- How a byte of a string is written: `enc_table_cpy` and its tables. -/
def escapeByte (byte : Byte) : Memory :=
  if byte = 8 then ascii "\\b"
  else if byte = 9 then ascii "\\t"
  else if byte = 10 then ascii "\\n"
  else if byte = 12 then ascii "\\f"
  else if byte = 13 then ascii "\\r"
  else if byte = 34 then ascii "\\\""
  else if byte = 92 then ascii "\\\\"
  else if byte < 32 then ascii "\\u00" ++ upperHexPair byte
  else [byte]

/-- `write_str` of UTF-8. -/
def quoted (text : Memory) : Memory :=
  34 :: (text.flatMap escapeByte ++ [34])

/-- `write_num` of an unsigned number. -/
def number (value : UInt64) : Memory :=
  decimalText value.toNat

def member (key : String) (value : Memory) : Memory :=
  quoted (ascii key) ++ 58 :: value

def object (members : List Memory) : Memory :=
  123 :: (List.intercalate [44] members ++ [125])

def array (items : List Memory) : Memory :=
  91 :: (List.intercalate [44] items ++ [93])

/-- The object of one node. -/
def nodeObject (label state : Memory) (counters : NodeStats) : Memory :=
  object
    [member "label" (quoted label),
      member "race_gbt" (object
        [member "avg_us" (number counters.avgUs),
          member "last_us" (number counters.gbtResponseTimeUs),
          member "since_notify_us" (number counters.gbtLastSinceNotifyUs),
          member "wins" (number counters.gbtWins.toUInt64),
          member "last_tx_count" (number counters.gbtLastTxCount.toUInt64)]),
      member "notify_wins" (number counters.notifyWins.toUInt64),
      member "state" (quoted state)]

/-- The root object. -/
def statsObject (labels states : Fin n → Memory) (now : UInt64) (stats : Stats n) : Memory :=
  object
    [member "uptime_seconds" (number ((now - stats.startTimeNs) / 1000000000)),
      member "total_rpc_requests" (number stats.totalRpcRequests.toUInt64),
      member "total_gbt_races" (number stats.totalRaces.toUInt64),
      member "last_notify_to_gbt_us" (number stats.lastNotifyToGbtUs),
      member "nodes" (array ((List.finRange n).map fun node =>
        nodeObject (labels node) (states node) (stats.perNode node)))]

/-- `stats_serialize_json` into a buffer of `cap` bytes; `none` is the result `-1`. -/
def statsSerializeJson (isUtf8 : Memory → Bool) (labels states : Fin n → Memory) (now : UInt64)
    (cap : Nat) (stats : Stats n) : Option Memory :=
  if (List.finRange n).all (fun node => isUtf8 (labels node)) = false then none
  else if cap ≤ (statsObject labels states now stats).length then none
  else some (statsObject labels states now stats)

/-! ## The size of the document -/

theorem length_escapeByte_le (byte : Byte) : (escapeByte byte).length ≤ 6 := by
  revert byte
  apply forall_byte
  decide +kernel

theorem length_quoted_le (text : Memory) : (quoted text).length ≤ 6 * text.length + 2 := by
  have escaped : (text.flatMap escapeByte).length ≤ 6 * text.length := by
    induction text with
    | nil => simp
    | cons byte rest induction =>
        have first := length_escapeByte_le byte
        rw [List.flatMap_cons, List.length_append, List.length_cons]
        omega
  rw [quoted, List.length_cons, List.length_append, List.length_singleton]
  omega

theorem length_number_le (value : UInt64) : (number value).length ≤ 20 := by
  apply length_decimalText_le (by norm_num)
  have small := value.toNat_lt
  omega

theorem length_member_le (key : String) {value : Memory} {size : Nat}
    (small : value.length ≤ size) :
    (member key value).length ≤ 6 * (ascii key).length + 3 + size := by
  have name := length_quoted_le (ascii key)
  rw [member, List.length_append, List.length_cons]
  omega

theorem length_numberMember_le (key : String) (value : UInt64) :
    (member key (number value)).length ≤ 6 * (ascii key).length + 3 + 20 :=
  length_member_le key (length_number_le value)

/-- Members within their bounds, and a comma for each. -/
theorem length_intercalate_le {texts : List Memory} {sizes : List Nat}
    (small : List.Forall₂ (fun text size => text.length ≤ size) texts sizes) :
    (List.intercalate [(44 : Byte)] texts).length ≤ sizes.sum + sizes.length := by
  induction small with
  | nil => simp
  | @cons text size rest others first later induction =>
      cases later with
      | nil => simpa using Nat.le_succ_of_le first
      | @cons next _ _ _ _ _ =>
          rw [List.intercalate_cons_cons, List.length_append, List.length_append,
            List.length_singleton, List.sum_cons, List.length_cons]
          omega

theorem length_object_le {texts : List Memory} {sizes : List Nat}
    (small : List.Forall₂ (fun text size => text.length ≤ size) texts sizes) :
    (object texts).length ≤ sizes.sum + sizes.length + 2 := by
  have inner := length_intercalate_le small
  rw [object, List.length_cons, List.length_append, List.length_singleton]
  omega

theorem length_array_le {texts : List Memory} (size : Nat)
    (small : ∀ text ∈ texts, text.length ≤ size) :
    (array texts).length ≤ texts.length * (size + 1) + 2 := by
  have inner : (List.intercalate [(44 : Byte)] texts).length ≤
      (texts.map fun _ => size).sum + (texts.map fun _ => size).length := by
    apply length_intercalate_le
    rw [List.forall₂_map_right_iff, List.forall₂_same]
    exact small
  rw [List.map_const', List.sum_replicate, smul_eq_mul, List.length_replicate] at inner
  rw [array, List.length_cons, List.length_append, List.length_singleton, mul_add, mul_one]
  omega

theorem length_nodeObject_le {label state : Memory} (shortLabel : label.length ≤ 63)
    (shortState : state.length ≤ 12) (counters : NodeStats) :
    (nodeObject label state counters).length ≤ 1058 := by
  have labelMember : (member "label" (quoted label)).length ≤ 6 * 5 + 3 + 380 :=
    length_member_le "label" ((length_quoted_le label).trans (by omega))
  have stateMember : (member "state" (quoted state)).length ≤ 6 * 5 + 3 + 74 :=
    length_member_le "state" ((length_quoted_le state).trans (by omega))
  have race := length_object_le
    (.cons (length_numberMember_le "avg_us" counters.avgUs)
      (.cons (length_numberMember_le "last_us" counters.gbtResponseTimeUs)
        (.cons (length_numberMember_le "since_notify_us" counters.gbtLastSinceNotifyUs)
          (.cons (length_numberMember_le "wins" counters.gbtWins.toUInt64)
            (.cons (length_numberMember_le "last_tx_count" counters.gbtLastTxCount.toUInt64) .nil)))))
  exact length_object_le
    (.cons labelMember
      (.cons (length_member_le "race_gbt" race)
        (.cons (length_numberMember_le "notify_wins" counters.notifyWins.toUInt64)
          (.cons stateMember .nil))))

/-- `HTTP_MAX_RESPONSE`. -/
def maxResponse : Nat := 65536

/-- The document of as many nodes as there may be fits the buffer for it. -/
theorem length_statsObject_lt {labels states : Fin n → Memory} (few : n ≤ maxNodes)
    (shortLabels : ∀ node, (labels node).length ≤ 63)
    (shortStates : ∀ node, (states node).length ≤ 12) (now : UInt64) (stats : Stats n) :
    (statsObject labels states now stats).length < maxResponse := by
  have nodes : (array ((List.finRange n).map fun node =>
      nodeObject (labels node) (states node) (stats.perNode node))).length ≤ 16 * 1059 + 2 := by
    refine (length_array_le 1058 ?_).trans ?_
    · simp only [List.mem_map]
      rintro text ⟨node, -, rfl⟩
      exact length_nodeObject_le (shortLabels node) (shortStates node) _
    · rw [List.length_map, List.length_finRange]
      have bound : n ≤ 16 := few
      omega
  have whole := length_object_le
    (.cons (length_numberMember_le "uptime_seconds" ((now - stats.startTimeNs) / 1000000000))
      (.cons (length_numberMember_le "total_rpc_requests" stats.totalRpcRequests.toUInt64)
        (.cons (length_numberMember_le "total_gbt_races" stats.totalRaces.toUInt64)
          (.cons (length_numberMember_le "last_notify_to_gbt_us" stats.lastNotifyToGbtUs)
            (.cons (length_member_le "nodes" nodes) .nil)))))
  exact lt_of_le_of_lt whole (by decide +kernel)

/-- With labels of a configuration the document is always written. -/
theorem statsSerializeJson_eq {isUtf8 : Memory → Bool} {labels : Fin n → FieldText 64}
    {states : Fin n → Memory} (few : n ≤ maxNodes)
    (text : ∀ node, isUtf8 (labels node).text = true)
    (shortStates : ∀ node, (states node).length ≤ 12) (now : UInt64) (stats : Stats n) :
    statsSerializeJson isUtf8 (fun node => (labels node).text) states now maxResponse stats =
      some (statsObject (fun node => (labels node).text) states now stats) := by
  have fits := length_statsObject_lt few (fun node => Nat.le_of_lt_succ (labels node).fits)
    shortStates now stats
  have valid : (List.finRange n).all (fun node => isUtf8 (labels node).text) = true :=
    List.all_eq_true.mpr fun node _ => text node
  rw [statsSerializeJson, if_neg (by simp [valid]), if_neg (Nat.not_le.mpr fits)]

end RpcRace.Statistics
