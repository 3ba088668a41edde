import Kaigi.Session.Authorization

/-!
# The counters of a session only grow

No event resets the presence sequence, the policy epoch, the epoch of a permission
snapshot or one of the key epochs, and a frame from before the counter that it carries
changes nothing.
-/

set_option autoImplicit false

namespace Kaigi.Session

/-- No counter of the second state is below that of the first. -/
structure Advances (before after : SessionView) : Prop where
  presenceSequence : before.presenceSequence ≤ after.presenceSequence
  policyEpoch : before.policyEpoch ≤ after.policyEpoch
  currentEpoch : before.e2eeState.currentEpoch ≤ after.e2eeState.currentEpoch
  lastAckEpoch : before.e2eeState.lastAckEpoch ≤ after.e2eeState.lastAckEpoch
  snapshot : ∀ name snapshot, before.permissionSnapshots name = some snapshot →
    ∃ newer, after.permissionSnapshots name = some newer ∧ snapshot.epoch ≤ newer.epoch

theorem Advances.refl (state : SessionView) : Advances state state where
  presenceSequence := Int.le_refl _
  policyEpoch := Int.le_refl _
  currentEpoch := Int.le_refl _
  lastAckEpoch := Int.le_refl _
  snapshot := fun _ snapshot found => ⟨snapshot, found, Int.le_refl _⟩

theorem Advances.trans {first second third : SessionView} (before : Advances first second)
    (after : Advances second third) : Advances first third where
  presenceSequence := Int.le_trans before.presenceSequence after.presenceSequence
  policyEpoch := Int.le_trans before.policyEpoch after.policyEpoch
  currentEpoch := Int.le_trans before.currentEpoch after.currentEpoch
  lastAckEpoch := Int.le_trans before.lastAckEpoch after.lastAckEpoch
  snapshot := by
    intro name snapshot found
    obtain ⟨newer, kept, older⟩ := before.snapshot name snapshot found
    obtain ⟨newest, last, old⟩ := after.snapshot name newer kept
    exact ⟨newest, last, Int.le_trans older old⟩

variable {state content : SessionView} {event : ProtocolEvent}

theorem Update.advances (update : Update Linux.rules state event content) :
    Advances state content := by
  have unchanged := Advances.refl state
  cases update with
  | presence frame newer => exact { unchanged with presenceSequence := Int.le_of_lt newer }
  | policy frame accepted fresh => exact { unchanged with policyEpoch := fresh }
  | epoch frame accepted => exact { unchanged with currentEpoch := Int.le_max_left _ _ }
  | acknowledgement ackEpoch participantId sentAtMs =>
      exact { unchanged with lastAckEpoch := Int.le_max_left _ _ }
  | snapshot name effectivePermissions epoch newer =>
      refine { unchanged with snapshot := fun other snapshot found => ?_ }
      by_cases same : other = name
      · subst same
        exact ⟨_, Function.update_self .., Int.le_of_lt (newer snapshot found)⟩
      · exact ⟨snapshot, (Function.update_of_ne same ..).trans found, Int.le_refl _⟩
  | quiet | config | grant | revoke | moderation | payment | settlement =>
      exact { unchanged with }

theorem step_advances (state : SessionView) (event : ProtocolEvent) (nowMs : Int) :
    Advances state (step Linux.rules state event nowMs) := by
  obtain ⟨content, update, _, _, _, marked⟩ := step_reaches Linux.rules state event nowMs
  rw [marked]
  exact { update.advances with }

theorem follow_advances (state : SessionView) (calls : List Call) :
    Advances state (follow Linux.rules state calls) := by
  induction calls generalizing state with
  | nil => exact .refl state
  | cons call calls ih =>
      rw [follow_cons]
      exact (step_advances state call.event call.nowMs).trans (ih _)

namespace Linux

/-- A frame from before the counter that it carries. -/
inductive Stale (state : ClientState) : ProtocolFrame → Prop where
  | presence (frame : PresenceDeltaFrame) (older : frame.sequence ≤ state.presenceSequence) :
      Stale state (.participantPresenceDelta frame)
  | snapshot (participantId : String) (effectivePermissions : List String) (epoch : Int)
      (stored : PermissionSnapshot)
      (found : state.permissionSnapshots.get? participantId = some stored)
      (older : epoch ≤ stored.epoch) :
      Stale state (.permissionsSnapshot participantId effectivePermissions epoch)
  | policy (frame : SessionPolicyFrame) (entitled : Entitled state frame.guard)
      (older : frame.policyEpoch < state.policyEpoch) :
      Stale state (.sessionPolicy frame)

theorem reduceFrame_stale {state : ClientState} {frame : ProtocolFrame} {nowMs : Int}
    (stale : Stale state frame) : reduceFrame state frame nowMs = state := by
  cases stale with
  | presence frame older => simp only [reduceFrame, applyPresenceDelta, older, ↓reduceIte]
  | snapshot participantId effectivePermissions epoch stored found older =>
      simp [reduceFrame, applyPermissionsSnapshot, found, Int.not_lt.mpr older]
  | policy frame entitled older =>
      have passed := passes_iff.mpr entitled
      unfold passes at passed
      rw [← hasRequiredSignature_view, ← actorIsAuthorized_view, Bool.and_eq_true] at passed
      have present : hasRequiredSignature frame.signature state = true := passed.1
      have allowed : actorIsAuthorized frame.updatedBy state = true := passed.2
      simp [reduceFrame, applySessionPolicy, present, allowed, older]

/-- Along every run the counters grow, and at each moment of it an older frame changes
nothing. -/
theorem counters_monotone (config : MeetingConfig) (before after : List Call) :
    Advances (run config before).view (run config (before ++ after)).view ∧
      ∀ frame, Stale (run config before) frame →
        ∀ nowMs, reduce (run config before) (.frameReceived frame) nowMs = run config before := by
  constructor
  · rw [run_view, run_view, follow_append]
    exact follow_advances ..
  · intro frame stale nowMs
    exact reduceFrame_stale stale

/-- The host enters the room. -/
def exampleDelta : PresenceDeltaFrame where
  joined := [exampleParticipant "alice" .host]
  left := []
  roleChanges := []
  sequence := 1

theorem counters_monotone_example :
    Advances (run exampleConfig [⟨.frameReceived (.participantPresenceDelta exampleDelta), 1⟩]).view
        (run exampleConfig [⟨.frameReceived (.participantPresenceDelta exampleDelta), 1⟩,
          ⟨.manualDisconnected, 2⟩]).view ∧
      reduce (run exampleConfig [⟨.frameReceived (.participantPresenceDelta exampleDelta), 1⟩])
          (.frameReceived (.participantPresenceDelta { exampleDelta with joined := [] })) 2 =
        run exampleConfig [⟨.frameReceived (.participantPresenceDelta exampleDelta), 1⟩] := by
  have monotone := counters_monotone exampleConfig
    [⟨.frameReceived (.participantPresenceDelta exampleDelta), 1⟩] [⟨.manualDisconnected, 2⟩]
  exact ⟨monotone.1, monotone.2 _ (.presence _ (by decide)) 2⟩

end Linux

end Kaigi.Session
