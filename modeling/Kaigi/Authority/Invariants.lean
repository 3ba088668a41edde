import Kaigi.Authority.Step

/-!
# Invariants of a group

What every reachable transparent group satisfies: ids are held by one
connection, the co-host bindings are exact, and whoever joined under the name
the host role is reserved for is the host.
-/

set_option autoImplicit false

namespace Kaigi.Authority

variable {Conn Id : Type}

/-- How a connection came to be the member it is after a step. -/
inductive Became (action : Action Conn Id) (before after : Group Conn Id) (conn : Conn) :
    Member Id → Prop where
  | kept {member : Member Id} : before.members conn = some member →
      Became action before after conn member
  | entered {member : Member Id} : action = .enter conn → before.members conn = none →
      member.joined = false → member.waiting = false → member.anonymous = false →
      Became action before after conn member
  | waits {id : Id} {old : Member Id} : action = .hello conn id → before.anonymous = false →
      before.members conn = some old → old.joined = false → before.waitingRoom = true →
      before.host ≠ none → before.IdFree conn id →
      Became action before after conn ⟨id, false, true, false, false⟩
  | joins {id : Id} {old : Member Id} : action = .hello conn id → before.anonymous = false →
      before.members conn = some old → (old.joined = true → old.id = id) →
      before.IdFree conn id →
      (old.joined = true ∨ before.waitingRoom = false ∨ before.host = none ∨
        before.Moderates conn ∨ before.Reserved id) →
      Became action before after conn ⟨id, true, false, false, false⟩
  | turnsAnonymous {old : Member Id} : action = .anonHello conn →
      before.members conn = some old → after.anonymous = true →
      Became action before after conn ⟨old.id, true, false, true, true⟩
  | admitted {sender : Conn} {old : Member Id} : action = .letIn sender conn →
      before.members conn = some old → old.waiting = true → before.Joined sender →
      before.Moderates sender →
      Became action before after conn { old with joined := true, waiting := false }

variable [DecidableEq Conn] [DecidableEq Id] [LE Conn]
variable {limit : Nat} {action : Action Conn Id} {before after : Group Conn Id}

theorem Step.became (step : Step limit action before after) {conn : Conn} {member : Member Id}
    (found : after.members conn = some member) : Became action before after conn member := by
  cases step with
  | refused | rekey | orphanClaim | grantHost | grantCoHost | revokeCoHost | policy =>
      exact .kept found
  | @enter _ entering fresh absent notJoined notWaiting notAnonymous =>
      rw [Group.put_members] at found
      split at found
      · next same =>
          subst same
          cases found
          exact .entered rfl absent notJoined notWaiting notAnonymous
      · exact .kept found
  | @wait _ entering id old transparent present notJoined waitingOn hosted _ _ free =>
      rw [Group.put_members] at found
      split at found
      · next same =>
          subst same
          cases found
          exact .waits rfl transparent present notJoined waitingOn hosted free
      · exact .kept found
  | @join _ entering id old _ transparent present sameId free allowed _ =>
      simp only [Group.atEpoch_members, Group.restore_members, Group.put_members] at found
      split at found
      · next same =>
          subst same
          cases found
          exact .joins rfl transparent present sameId free allowed
      · exact .kept (by simpa using found)
  | @anonJoin _ entering old _ present _ _ =>
      simp only [Group.atEpoch_members, Group.turnAnonymous_members, Group.put_members] at found
      split at found
      · next same =>
          subst same
          cases found
          exact .turnsAnonymous rfl present rfl
      · exact .kept found
  | @letIn _ sender entering old _ senderJoined moderates present waiting _ =>
      simp only [Group.atEpoch_members, Group.restore_members, Group.put_members] at found
      split at found
      · next same =>
          subst same
          cases found
          exact .admitted rfl present waiting senderJoined moderates
      · exact .kept found
  | deny | leave =>
      rw [Group.drop_members] at found
      split at found
      · cases found
      · exact .kept found
  | denyHost | succeed =>
      simp only [Group.atEpoch_members, Group.rebind_members, Group.lead_members,
        Group.drop_members] at found
      split at found
      · cases found
      · exact .kept found

/-- Whoever does not wait stays until it leaves. -/
theorem Step.remains (step : Step limit action before after) {conn : Conn} {member : Member Id}
    (present : before.members conn = some member) (admitted : member.waiting = false)
    (stays : action ≠ .leave conn) : (after.members conn).isSome = true := by
  have waits : ∀ other : Conn, before.Waiting other → other ≠ conn := by
    rintro other ⟨current, found, waiting⟩ rfl
    rw [present] at found
    cases found
    rw [admitted] at waiting
    cases waiting
  have put : ∀ (other : Conn) (current : Member Id),
      (if conn = other then some current else before.members conn).isSome = true := by
    intro other current
    split
    · rfl
    · rw [present]
      rfl
  have dropped : ∀ other : Conn, other ≠ conn →
      ((before.drop other).members conn).isSome = true := by
    intro other different
    rw [Group.drop_members, if_neg (Ne.symm different), present]
    rfl
  cases step with
  | refused | rekey | orphanClaim | grantHost | grantCoHost | revokeCoHost | policy =>
      exact Option.isSome_iff_exists.mpr ⟨member, present⟩
  | enter | wait =>
      rw [Group.put_members]
      exact put _ _
  | anonJoin =>
      simp only [Group.atEpoch_members, Group.turnAnonymous_members, Group.put_members]
      exact put _ _
  | join | letIn =>
      simp only [Group.atEpoch_members, Group.restore_members, Group.put_members,
        Group.claim_members]
      exact put _ _
  | deny _ _ waiting | denyHost _ _ waiting => exact dropped _ (waits _ waiting)
  | leave | succeed => exact dropped _ fun same => stays (by rw [same])

/-- No step leads back from anonymous mode. -/
theorem Step.anonymous (step : Step limit action before after)
    (anonymous : before.anonymous = true) : after.anonymous = true := by
  cases step <;> simp_all

theorem Step.transparent (step : Step limit action before after)
    (transparent : after.anonymous = false) : before.anonymous = false := by
  cases mode : before.anonymous with
  | false => rfl
  | true => rw [step.anonymous mode] at transparent; cases transparent

/-- The requests that change who is in the group and how. -/
def Action.movesMembers : Action Conn Id → Bool
  | .enter _ | .hello _ _ | .letIn _ _ | .deny _ _ | .leave _ => true
  | _ => false

theorem Step.members_still (step : Step limit action before after)
    (transparent : after.anonymous = false) (still : action.movesMembers = false) :
    after.members = before.members := by
  cases step with
  | refused | rekey | grantHost | grantCoHost | revokeCoHost | policy => rfl
  | anonJoin => cases transparent
  | _ => cases still

/-- Whoever has joined stays joined while it is there. -/
theorem Step.joined (step : Step limit action before after) {conn : Conn} {member : Member Id}
    (joined : before.Joined conn) (found : after.members conn = some member) :
    member.joined = true := by
  obtain ⟨earlier, present, wasJoined⟩ := joined
  cases step.became found with
  | kept same =>
      rw [present] at same
      cases same
      exact wasJoined
  | entered _ absent => rw [present] at absent; cases absent
  | waits _ _ same notJoined =>
      rw [present] at same
      cases same
      rw [wasJoined] at notJoined
      cases notJoined
  | joins | turnsAnonymous | admitted => rfl

/-- Whoever has joined does not wait, if this was so before. -/
theorem Step.apart (step : Step limit action before after)
    (apart : ∀ conn member, before.members conn = some member → member.joined = true →
      member.waiting = false)
    {conn : Conn} {member : Member Id} (found : after.members conn = some member)
    (joined : member.joined = true) : member.waiting = false := by
  cases step.became found with
  | kept same => exact apart conn member same joined
  | entered _ _ notJoined => rw [joined] at notJoined; cases notJoined
  | waits => cases joined
  | joins | turnsAnonymous | admitted => rfl

/-- A new holder of an id is one that said hello while nobody else held it. -/
theorem Step.holds (step : Step limit action before after)
    (transparent : after.anonymous = false) {conn : Conn} {id : Id}
    (holds : after.Holds conn id) :
    before.Holds conn id ∨ action = .hello conn id ∧ before.IdFree conn id := by
  obtain ⟨member, found, active, rfl⟩ := holds
  cases step.became found with
  | kept same => exact .inl ⟨member, same, active, rfl⟩
  | entered _ _ notJoined notWaiting =>
      rw [notJoined, notWaiting] at active
      simp at active
  | waits request _ _ _ _ _ free => exact .inr ⟨request, free⟩
  | joins request _ _ _ free => exact .inr ⟨request, free⟩
  | turnsAnonymous _ _ anonymous => rw [transparent] at anonymous; cases anonymous
  | admitted _ present waiting => exact .inl ⟨_, present, .inr waiting, rfl⟩

/-- The invariant of transparent groups. -/
structure Orderly (group : Group Conn Id) : Prop where
  exclusive : ∀ conn member, group.members conn = some member → member.joined = true →
    member.waiting = false
  unique : ∀ conn other id, group.Holds conn id → group.Holds other id → conn = other
  coHosts : group.coHosts = group.activeCoHosts
  hostBound : ∀ conn member, group.members conn = some member → member.joined = true →
    group.hostOwner = some member.id → group.host = some conn
  hosted : ∀ conn, group.Waiting conn → group.host ≠ none

theorem Step.exclusive (step : Step limit action before after) (orderly : Orderly before)
    {conn : Conn} {member : Member Id} (found : after.members conn = some member)
    (joined : member.joined = true) : member.waiting = false :=
  step.apart orderly.exclusive found joined

theorem Step.unique (step : Step limit action before after) (orderly : Orderly before)
    (transparent : after.anonymous = false) {conn other : Conn} {id : Id}
    (holds : after.Holds conn id) (otherHolds : after.Holds other id) : conn = other := by
  by_contra different
  rcases step.holds transparent holds with held | ⟨request, free⟩
  · rcases step.holds transparent otherHolds with otherHeld | ⟨_, free⟩
    · exact different (orderly.unique conn other id held otherHeld)
    · exact free conn different held
  · rcases step.holds transparent otherHolds with otherHeld | ⟨otherRequest, _⟩
    · exact free other (Ne.symm different) otherHeld
    · rw [request] at otherRequest
      cases otherRequest
      exact different rfl

theorem Step.coHosts (step : Step limit action before after) (orderly : Orderly before)
    (transparent : after.anonymous = false) : after.coHosts = after.activeCoHosts := by
  have exact := orderly.coHosts
  cases step with
  | refused | rekey | policy => exact exact
  | @enter _ _ _ absent notJoined =>
      rw [Group.activeCoHosts_put notJoined fun ⟨_, found, _⟩ => by simp [absent] at found]
      exact exact
  | @wait _ _ _ _ _ present notJoined =>
      rw [Group.activeCoHosts_put rfl fun ⟨_, found, joined⟩ => by simp_all]
      exact exact
  | orphanClaim | join | letIn | denyHost | grantHost | grantCoHost | revokeCoHost | succeed =>
      rfl
  | anonJoin => cases transparent
  | deny | leave =>
      rw [Group.activeCoHosts_drop, ← exact]
      rfl

theorem Step.hostBound (step : Step limit action before after) (orderly : Orderly before)
    (transparent : after.anonymous = false) {conn : Conn} {member : Member Id}
    (found : after.members conn = some member) (joined : member.joined = true)
    (owner : after.hostOwner = some member.id) : after.host = some conn := by
  have bound := orderly.hostBound
  cases step with
  | refused | rekey | policy | grantCoHost | revokeCoHost =>
      exact bound conn member found joined owner
  | @enter _ entering fresh _ notJoined =>
      rw [Group.put_members] at found
      split at found
      · cases found
        rw [joined] at notJoined
        cases notJoined
      · exact bound conn member found joined owner
  | @orphanClaim _ entering id _ _ absent _ free _ =>
      -- Nobody who has joined holds the id that is claimed.
      have holds : before.Holds conn id :=
        ⟨member, found, .inl joined, (Option.some.inj owner).symm⟩
      have different : conn ≠ entering := by
        rintro rfl
        exact absurd (found.symm.trans absent) (by simp)
      exact absurd holds (free conn different)
  | wait =>
      rw [Group.put_members] at found
      split at found
      · cases found
        cases joined
      · exact bound conn member found joined owner
  | @join _ entering id old _ _ present _ free _ _ =>
      simp only [Group.atEpoch_members, Group.restore_members, Group.put_members,
        Group.claim_members] at found
      simp only [Group.atEpoch_hostOwner, Group.restore_hostOwner, Group.put_hostOwner] at owner
      simp only [Group.atEpoch_host, Group.restore_host, Group.put_hostOwner, Group.put_host]
      by_cases same : conn = entering
      · rw [if_pos same] at found
        cases found
        rw [if_pos owner, same]
      · rw [if_neg same] at found
        have different : member.id ≠ id :=
          fun sameId => free conn same ⟨member, found, .inl joined, sameId⟩
        by_cases vacant : before.host = none
        · rw [Group.claim_of_vacant _ _ vacant] at owner
          exact absurd (Option.some.inj owner).symm different
        · rw [Group.claim_of_host _ _ vacant] at owner ⊢
          rw [owner, if_neg (by simpa using different)]
          exact bound conn member found joined owner
  | @anonJoin => cases transparent
  | @letIn _ sender entering old _ _ _ present waiting _ =>
      simp only [Group.atEpoch_members, Group.restore_members, Group.put_members] at found
      simp only [Group.atEpoch_hostOwner, Group.restore_hostOwner, Group.put_hostOwner] at owner
      simp only [Group.atEpoch_host, Group.restore_host, Group.put_hostOwner, Group.put_host]
      by_cases same : conn = entering
      · rw [if_pos same] at found
        cases found
        rw [if_pos owner, same]
      · rw [if_neg same] at found
        have different : member.id ≠ old.id := fun sameId => same <|
          orderly.unique conn entering old.id ⟨member, found, .inl joined, sameId⟩
            ⟨old, present, .inr waiting, rfl⟩
        rw [owner, if_neg (by simpa using different)]
        exact bound conn member found joined owner
  | deny | leave =>
      rw [Group.drop_members] at found
      split at found
      · cases found
      · exact bound conn member found joined owner
  | @denyHost _ _ dropped _ _ _ _ host _ | @succeed _ dropped _ _ _ host _ _ =>
      -- The old host held the reserved name, and it is gone.
      simp only [Group.atEpoch_members, Group.rebind_members, Group.lead_members,
        Group.drop_members] at found
      split at found
      · cases found
      · next other =>
          have hosts := bound conn member found joined owner
          rw [host] at hosts
          exact absurd (Option.some.inj hosts).symm other
  | @grantHost _ _ target targeted _ _ _ present targetJoined _ =>
      have same : conn = target := orderly.unique conn target targeted.id
        ⟨member, found, .inl joined, (Option.some.inj owner).symm⟩
        ⟨targeted, present, .inl targetJoined, rfl⟩
      rw [same]
      rfl

theorem Step.hosted (step : Step limit action before after) (orderly : Orderly before)
    (transparent : after.anonymous = false) {conn : Conn} (waiting : after.Waiting conn) :
    after.host ≠ none := by
  have hosted := orderly.hosted
  obtain ⟨member, found, waits⟩ := waiting
  cases step with
  | refused | rekey | policy | grantCoHost | revokeCoHost =>
      exact hosted conn ⟨member, found, waits⟩
  | @enter _ _ _ _ _ notWaiting =>
      rw [Group.put_members] at found
      split at found
      · cases found
        rw [waits] at notWaiting
        cases notWaiting
      · exact hosted conn ⟨member, found, waits⟩
  | orphanClaim | grantHost => simp
  | wait _ _ _ _ host => exact host
  | join =>
      simp only [Group.atEpoch_host, Group.restore_host, Group.put_host]
      split
      · simp
      · exact Group.claim_host _ _ _
  | anonJoin => cases transparent
  | @letIn _ _ entering old _ _ _ present wasWaiting _ =>
      simp only [Group.atEpoch_host, Group.restore_host, Group.put_host]
      split
      · simp
      · exact hosted entering ⟨old, present, wasWaiting⟩
  | deny | leave =>
      rw [Group.drop_members] at found
      split at found
      · cases found
      · exact hosted conn ⟨member, found, waits⟩
  | denyHost _ _ _ _ succession => exact succession.ne_none ⟨member, found⟩
  | succeed _ _ succession _ => exact succession.ne_none ⟨member, found⟩

theorem Step.orderly (step : Step limit action before after) (orderly : Orderly before)
    (transparent : after.anonymous = false) : Orderly after where
  exclusive _ _ found joined := step.exclusive orderly found joined
  unique _ _ _ holds otherHolds := step.unique orderly transparent holds otherHolds
  coHosts := step.coHosts orderly transparent
  hostBound _ _ found joined owner := step.hostBound orderly transparent found joined owner
  hosted _ waiting := step.hosted orderly transparent waiting

/-- Every transparent group that can be reached from an orderly one is orderly. -/
theorem Reachable.orderly {start group : Group Conn Id}
    {allowed : Action Conn Id → Group Conn Id → Group Conn Id → Prop}
    (reachable : Reachable limit start allowed group) (initially : Orderly start)
    (transparent : group.anonymous = false) : Orderly group := by
  induction reachable with
  | start => exact initially
  | step _ _ step ih => exact step.orderly (ih (step.transparent transparent)) transparent

end Kaigi.Authority
