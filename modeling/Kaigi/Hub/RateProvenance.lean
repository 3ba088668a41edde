import Kaigi.Hub.ModeSeparation
import Kaigi.Hub.PolicyProvenance
import Kaigi.Hub.RoomSettings

/-!
# The provenance of the rate

What a minute costs and how many screens may be shared is what the host last asked for, brought
above the floors of the hub. The first anonymous hello adds the fee for anonymity to the rate,
once, and from then on the rate is frozen.
-/

set_option autoImplicit false

namespace Kaigi.Hub

open Collections Wire Interleaving

/-- The configuration that the event gets accepted. -/
def Event.configures (event : Event) : Option RoomConfigUpdateFrame :=
  match event.op with
  | .roomConfigUpdate update _ => event.before.room.bind fun room =>
      if room.helloSeen event.connId = true ∧ room.hostConnId = some event.connId then some update
      else none
  | _ => none

/-- The rate that a configuration leaves, where `rate` was the rate before. -/
def configureRate (hub : HubState) (rate : Nat) (update : RoomConfigUpdateFrame) : Nat :=
  (update.ratePerMinuteNano.map fun asked => normalizeRateForPolicy asked hub.allowFreeCalls).getD
    rate

def configureShares (shares : Nat) (update : RoomConfigUpdateFrame) : Nat :=
  (update.maxScreenShares.map fun limit => max limit 1).getD shares

/-- The rate and the number of screens that were configured since the room opened. -/
def configuredSince (hub : HubState) : List Event → Nat × Nat
  | [] => (hub.billing.defaultRatePerMinuteNano, 1)
  | event :: earlier =>
      match event.before.room, event.configures with
      | none, _ => (hub.billing.defaultRatePerMinuteNano, 1)
      | some _, none => configuredSince hub earlier
      | some _, some update =>
          (configureRate hub (configuredSince hub earlier).1 update,
            configureShares (configuredSince hub earlier).2 update)

/-- What anonymity costs on top of the configured rate. -/
def anonymityFee (hub : HubState) (anonymous : Bool) : Nat :=
  if anonymous then hub.billing.anonZkExtraFeePerMinuteNano else 0

theorem applyAnonymousZkSurcharge_ok {base fee rate : Nat}
    (surcharge : applyAnonymousZkSurcharge base fee = .ok rate) :
    rate = base + fee ∧ (0 < fee → rate ≤ u64Max) := by
  unfold applyAnonymousZkSurcharge at surcharge
  split at surcharge
  · next free =>
      cases surcharge
      exact ⟨by omega, fun charged => by omega⟩
  · split at surcharge
    · cases surcharge
    · next fits =>
        cases surcharge
        exact ⟨rfl, fun _ => Nat.le_of_not_gt fits⟩

section Steps

variable {hub : HubState} {room : RoomState}

theorem Event.configures_eq_some {event : Event} (found : event.before.room = some room)
    {update : RoomConfigUpdateFrame} :
    event.configures = some update ↔ (∃ nowMs, event.op = .roomConfigUpdate update nowMs) ∧
      room.helloSeen event.connId = true ∧ room.hostConnId = some event.connId := by
  unfold Event.configures
  split
  · next other nowMs op =>
      rw [found, Option.bind_some, Option.ite_none_right_eq_some, op]
      constructor
      · rintro ⟨met, same⟩
        cases same
        exact ⟨⟨nowMs, rfl⟩, met⟩
      · rintro ⟨⟨atMs, same⟩, met⟩
        cases same
        exact ⟨met, rfl⟩
  · next other =>
      constructor
      · intro impossible
        cases impossible
      · rintro ⟨⟨nowMs, op⟩, _⟩
        exact absurd op (other update nowMs)

/-- What a step can do to the settings that the rate depends on. -/
inductive RateStep (hub : HubState) (event : Event) (room after : RoomState) : Prop where
  | kept : event.configures = none → after.ratePerMinuteNano = room.ratePerMinuteNano →
      after.maxScreenShares = room.maxScreenShares → after.anonymousMode = room.anonymousMode →
      RateStep hub event room after
  | configured {update : RoomConfigUpdateFrame} : event.configures = some update →
      after.ratePerMinuteNano = configureRate hub room.ratePerMinuteNano update →
      after.maxScreenShares = configureShares room.maxScreenShares update →
      after.anonymousMode = room.anonymousMode → RateStep hub event room after
  | surcharged : event.configures = none → room.anonymousMode = false →
      after.anonymousMode = true → after.maxScreenShares = room.maxScreenShares →
      applyAnonymousZkSurcharge room.ratePerMinuteNano hub.billing.anonZkExtraFeePerMinuteNano =
        .ok after.ratePerMinuteNano → RateStep hub event room after

theorem Event.rateStep {event : Event} {after : RoomState}
    (found : event.before.room = some room) (left : (event.after hub).room = some after) :
    RateStep hub event room after := by
  have step := Event.settingsStep found left
  have unconfigured (other : ∀ update nowMs, event.op ≠ .roomConfigUpdate update nowMs) :
      event.configures = none := by
    rw [Option.eq_none_iff_forall_ne_some]
    intro update configured
    obtain ⟨⟨nowMs, op⟩, _⟩ := (Event.configures_eq_some found).mp configured
    exact other update nowMs op
  generalize made : settingsOf after = settings at step
  have rate := congrArg Settings.ratePerMinuteNano made
  have shares := congrArg Settings.maxScreenShares made
  have mode := congrArg Settings.anonymousMode made
  obtain ⟨actor, task, op, before⟩ := event
  dsimp only at found step
  cases step with
  | kept _ refused =>
      refine .kept ?_ rate shares mode
      rw [Option.eq_none_iff_forall_ne_some]
      intro update configured
      obtain ⟨⟨nowMs, same⟩, met⟩ := (Event.configures_eq_some found).mp configured
      exact refused update nowMs same met
  | quiet | noticed | turnedAway =>
      exact .kept (unconfigured fun _ _ same => by cases same) rate shares mode
  | configured joined hosts =>
      refine .configured ?_ rate shares mode
      exact (Event.configures_eq_some found).mpr ⟨⟨_, rfl⟩, joined, hosts⟩
  | surcharged transparent surcharge =>
      refine .surcharged (unconfigured fun _ _ same => by cases same) transparent mode shares ?_
      change after.ratePerMinuteNano = _ at rate
      rw [rate]
      exact surcharge

/-- Only the host of a transparent room configures it. -/
theorem Lawful.configures {earlier : List Event} {event : Event} (lawful : Lawful hub earlier event)
    (separated : event.before.Separated) (found : event.before.room = some room)
    {update : RoomConfigUpdateFrame} (configured : event.configures = some update) :
    room.anonymousMode = false := by
  obtain ⟨⟨nowMs, op⟩, joined, _⟩ := (Event.configures_eq_some found).mp configured
  obtain ⟨participant, present, seen⟩ : ∃ participant,
      room.participants.get? event.connId = some participant ∧ participant.helloSeen = true := by
    simpa [RoomState.helloSeen, Option.any_eq_true] using joined
  have transparent := lawful.transparent (by rw [op]; rfl) room participant found present
  have modes := (separated room found).anonymous
  cases mode : room.anonymousMode with
  | false => rfl
  | true =>
      have anonymous := (modes mode event.connId _ (members_groupOf present) seen).1
      rw [← transparent]
      exact anonymous.symm

end Steps

section Traces

variable {hub : HubState} {history : List Event}

/-- The rate is the configured one and the fee for anonymity. -/
structure Priced (hub : HubState) (history : List Event) (room : RoomState) : Prop where
  rate : room.ratePerMinuteNano =
    (configuredSince hub history).1 + anonymityFee hub room.anonymousMode
  shares : room.maxScreenShares = (configuredSince hub history).2
  fits : room.anonymousMode = true → 0 < hub.billing.anonZkExtraFeePerMinuteNano →
    room.ratePerMinuteNano ≤ u64Max

theorem Trace.priced (trace : Trace hub history) {room : RoomState}
    (found : (sharedAfter hub history).room = some room) : Priced hub history room := by
  induction trace generalizing room with
  | start => cases found
  | @step earlier event past same lawful ih =>
      cases before : event.before.room with
      | none =>
          have opened := Event.settings_opened before found
          have mode : room.anonymousMode = false := congrArg Settings.anonymousMode opened
          have rate : room.ratePerMinuteNano = hub.billing.defaultRatePerMinuteNano :=
            congrArg Settings.ratePerMinuteNano opened
          have shares : room.maxScreenShares = 1 := congrArg Settings.maxScreenShares opened
          refine ⟨?_, ?_, fun anonymous => ?_⟩
          · rw [rate, mode]
            simp [configuredSince, before, anonymityFee]
          · rw [shares]
            simp [configuredSince, before]
          · rw [mode] at anonymous
            cases anonymous
      | some old =>
          have priced := ih (same ▸ before)
          cases Event.rateStep before found with
          | kept unconfigured rate shares mode =>
              have since :
                  configuredSince hub (event :: earlier) = configuredSince hub earlier := by
                simp [configuredSince, before, unconfigured]
              refine ⟨?_, ?_, fun anonymous charged => ?_⟩
              · rw [since, rate, mode, priced.rate]
              · rw [since, shares, priced.shares]
              · rw [rate]
                exact priced.fits (mode ▸ anonymous) charged
          | @configured update configured rate shares mode =>
              have transparent := lawful.configures (same ▸ past.separated) before configured
              have free : anonymityFee hub old.anonymousMode = 0 := by
                rw [transparent]
                rfl
              refine ⟨?_, ?_, fun anonymous => ?_⟩
              · rw [rate, mode, free, priced.rate, free]
                simp [configuredSince, before, configured]
              · rw [shares, priced.shares]
                simp [configuredSince, before, configured]
              · rw [mode, transparent] at anonymous
                cases anonymous
          | surcharged unconfigured transparent anonymous shares surcharge =>
              have since :
                  configuredSince hub (event :: earlier) = configuredSince hub earlier := by
                simp [configuredSince, before, unconfigured]
              obtain ⟨raised, fits⟩ := applyAnonymousZkSurcharge_ok surcharge
              refine ⟨?_, ?_, fun _ => fits⟩
              · rw [since, raised, priced.rate, transparent, anonymous]
                simp [anonymityFee]
              · rw [since, shares, priced.shares]

/-- What was configured is above the floors. -/
theorem configuredSince_floors {rate : Nat}
    (initial : normalizeInitialRate rate hub.allowFreeCalls =
      .ok hub.billing.defaultRatePerMinuteNano) (history : List Event) :
    1 ≤ (configuredSince hub history).2 ∧
      (hub.allowFreeCalls = false → 1 ≤ (configuredSince hub history).1) := by
  have default : hub.allowFreeCalls = false → 1 ≤ hub.billing.defaultRatePerMinuteNano := by
    intro charged
    rw [charged] at initial
    unfold normalizeInitialRate at initial
    split at initial
    · cases initial
    · rw [← Except.ok.inj initial]
      exact le_normalizeRateForPolicy rate
  induction history with
  | nil => exact ⟨Nat.le_refl 1, default⟩
  | cons event earlier ih =>
      simp only [configuredSince]
      split
      · exact ⟨Nat.le_refl 1, default⟩
      · exact ih
      · next update _ _ =>
          constructor
          · unfold configureShares
            cases update.maxScreenShares with
            | none => exact ih.1
            | some limit => exact Nat.le_max_right limit 1
          · intro charged
            unfold configureRate
            cases update.ratePerMinuteNano with
            | none => exact ih.2 charged
            | some asked =>
                rw [charged]
                exact le_normalizeRateForPolicy asked

/-- The rate of an anonymous room is frozen as long as it is there. -/
theorem Trace.frozenRate {newer older : List Event} (trace : Trace hub (newer ++ older))
    (persists : Persists hub newer older) {first second : RoomState}
    (was : (sharedAfter hub older).room = some first) (anonymous : first.anonymousMode = true)
    (found : (sharedAfter hub (newer ++ older)).room = some second) :
    second.anonymousMode = true ∧ second.ratePerMinuteNano = first.ratePerMinuteNano ∧
      second.maxScreenShares = first.maxScreenShares := by
  induction newer generalizing second with
  | nil =>
      rw [List.nil_append, was] at found
      cases found
      exact ⟨anonymous, rfl, rfl⟩
  | cons event rest ih =>
      cases trace with
      | step past same lawful =>
          obtain ⟨old, before⟩ := Option.ne_none_iff_exists'.mp
            (persists rest (List.suffix_cons event rest))
          obtain ⟨mode, rate, shares⟩ := ih past persists.of_cons before
          have there : event.before.room = some old := same ▸ before
          cases Event.rateStep there found with
          | kept _ sameRate sameShares sameMode =>
              exact ⟨sameMode.trans mode, sameRate.trans rate, sameShares.trans shares⟩
          | configured configured =>
              have transparent := lawful.configures (same ▸ past.separated) there configured
              rw [mode] at transparent
              cases transparent
          | surcharged _ transparent =>
              rw [mode] at transparent
              cases transparent

end Traces

/-- The rate of a room is what its host last got accepted, brought to the floor of the hub, and in
an anonymous room the fee for anonymity on top, added once and without overflow; at least one
screen may be shared, and no minute is free unless the hub allows it. An anonymous room keeps its
rate and its limit as long as it is there. -/
theorem roomRate_provenance {hub : HubState} {history : List Event} {system : System}
    (run : Run hub history system) :
    (∀ room, system.shared.room = some room →
      room.ratePerMinuteNano =
        (configuredSince hub history).1 + anonymityFee hub room.anonymousMode ∧
      room.maxScreenShares = (configuredSince hub history).2 ∧
      (room.anonymousMode = true → 0 < hub.billing.anonZkExtraFeePerMinuteNano →
        room.ratePerMinuteNano ≤ u64Max) ∧
      ∀ rate, normalizeInitialRate rate hub.allowFreeCalls =
          .ok hub.billing.defaultRatePerMinuteNano →
        1 ≤ room.maxScreenShares ∧ (hub.allowFreeCalls = false → 1 ≤ room.ratePerMinuteNano)) ∧
    ∀ newer older first second, history = newer ++ older → Persists hub newer older →
      (sharedAfter hub older).room = some first → first.anonymousMode = true →
      system.shared.room = some second →
        second.anonymousMode = true ∧ second.ratePerMinuteNano = first.ratePerMinuteNano ∧
          second.maxScreenShares = first.maxScreenShares := by
  obtain ⟨trace, shared⟩ := run.trace
  constructor
  · intro room found
    obtain ⟨rate, shares, fits⟩ := trace.priced (shared ▸ found)
    refine ⟨rate, shares, fits, fun initialRate initial => ?_⟩
    obtain ⟨sharesFloor, rateFloor⟩ := configuredSince_floors initial history
    refine ⟨shares ▸ sharesFloor, fun charged => ?_⟩
    rw [rate]
    exact Nat.le_add_right_of_le (rateFloor charged)
  · rintro newer older first second rfl persists was anonymous found
    exact trace.frozenRate persists was anonymous (shared ▸ found)

def feeHub : HubState where
  __ := scriptedHub [helloAs "alice@sora",
    .roomConfigUpdate
      { updatedAtMs := 1, ratePerMinuteNano := some 500, maxScreenShares := some 0 },
    .anonHello {
      protocolVersion := protocolVersion
      participantHandle := "fox"
      x25519PubkeyHex := "2ab2dd3252b63515919e5a0db9207b1c7395922325c36bb2ef7bc74e4b708119" }]
  billing := {
    defaultRatePerMinuteNano := 60000
    anonZkExtraFeePerMinuteNano := 70
    graceSecs := 0
    checkIntervalSecs := 5
    anonEscrowProofMaxStaleSecs := 0 }

/-- The host asks for another rate and leaves, and then the room turns anonymous. -/
def feeScript : List Move :=
  [.connect 1 0, .connect 2 0] ++ sendsFrame 1 0 1 28 ++ sendsFrame 1 1 2 11 ++
    closes 1 3 15 ++ sendsFrame 2 2 4 12

theorem roomRate_provenance_script :
    ∃ history system room, Run feeHub history system ∧ system.shared.room = some room ∧
      room.anonymousMode = true ∧ room.ratePerMinuteNano = 570 ∧
        room.ratePerMinuteNano = (configuredSince feeHub history).1 + 70 ∧
          1 ≤ room.maxScreenShares := by
  obtain ⟨history, system, room, run, found, checks⟩ := Run.of_played_room feeHub feeScript
    (fun _ room => room.anonymousMode && room.ratePerMinuteNano == 570) (by decide +kernel)
  rw [Bool.and_eq_true, beq_iff_eq] at checks
  obtain ⟨anonymous, rate⟩ := checks
  obtain ⟨priced, _⟩ := roomRate_provenance run
  obtain ⟨configured, _, _, floors⟩ := priced room found
  refine ⟨history, system, room, run, found, anonymous, rate, ?_, (floors 60000 rfl).1⟩
  rw [anonymous] at configured
  exact configured

end Kaigi.Hub
