import Kaigi.Authority.Invariants

/-!
# Rules of authority

Which requests move the roles, when authority stays with those who have joined,
when a change of authority is announced, and how the two modes stay apart.
-/

set_option autoImplicit false

namespace Kaigi.Authority

variable {Conn Id : Type} [DecidableEq Conn] [DecidableEq Id] [LE Conn]
variable {limit : Nat} {action : Action Conn Id} {before after : Group Conn Id}

/-- Only an anonymous hello changes the mode, and only when nobody has joined
transparently. -/
theorem Step.mode (step : Step limit action before after) :
    after.anonymous = before.anonymous ∨
      (∃ conn, action = .anonHello conn) ∧
        (before.anonymous = false → ∀ other current, before.members other = some current →
          current.joined = true → current.anonymous = true) := by
  cases step with
  | @anonJoin _ conn _ _ _ nobody _ => exact .inr ⟨⟨conn, rfl⟩, nobody⟩
  | join => exact .inl (by unfold Group.claim; simp only [Group.restore, Group.put]; split <;> rfl)
  | _ => exact .inl rfl

/-- The epoch does not go back. -/
theorem Step.advances (step : Step limit action before after) :
    Advances limit before.epoch after.epoch := by
  cases step with
  | rekey advances => exact advances
  | anonJoin _ _ advances => exact advances
  | policy _ _ advances => exact advances
  | orphanClaim _ _ _ _ announced => exact announced.1
  | join _ _ _ _ _ announced => exact announced.1
  | letIn _ _ _ _ announced => exact announced.1
  | grantHost _ _ _ _ announced => exact announced.1
  | grantCoHost _ _ _ _ _ announced => exact announced.1
  | revokeCoHost _ _ _ _ announced => exact announced.1
  | succeed _ _ _ announced => exact announced.1
  | _ => exact .refl

/-- The names of the reserved roles change only by a grant or a revocation of
the host, or by a hello in a group without a host. -/
theorem Step.owners (step : Step limit action before after)
    (changed : after.hostOwner ≠ before.hostOwner ∨ after.coHostOwners ≠ before.coHostOwners) :
    (∃ sender, (action = .grant sender ∨ action = .revoke sender) ∧
        before.host = some sender ∧ before.Joined sender) ∨
      ∃ conn id, action = .hello conn id ∧ before.host = none := by
  cases step with
  | @orphanClaim _ conn id _ _ _ vacant => exact .inr ⟨conn, id, rfl, vacant⟩
  | @join _ conn id _ _ _ _ _ _ _ _ =>
      by_cases vacant : before.host = none
      · exact .inr ⟨conn, id, rfl, vacant⟩
      · simp [Group.claim_of_host _ _ vacant] at changed
  | @grantHost _ sender _ _ _ joined host => exact .inl ⟨sender, .inl rfl, host, joined⟩
  | @grantCoHost _ sender _ _ _ joined host => exact .inl ⟨sender, .inl rfl, host, joined⟩
  | @revokeCoHost _ sender _ _ _ joined host => exact .inl ⟨sender, .inr rfl, host, joined⟩
  | _ => simp at changed

/-- Only a policy of the host changes the waiting room. -/
theorem Step.waitingRoom (step : Step limit action before after)
    (changed : after.waitingRoom ≠ before.waitingRoom) :
    ∃ sender, action = .policy sender ∧ before.host = some sender ∧ before.Joined sender := by
  cases step with
  | @policy _ sender _ _ _ joined host => exact ⟨sender, rfl, host, joined⟩
  | join =>
      refine absurd ?_ changed
      unfold Group.claim
      simp only [Group.restore, Group.put]
      split <;> rfl
  | _ => simp at changed

/-- Nothing in the group refers to the connection. -/
structure Group.Unknown (group : Group Conn Id) (conn : Conn) : Prop where
  absent : group.members conn = none
  notHost : group.host ≠ some conn
  notCoHost : conn ∉ group.coHosts

omit [DecidableEq Conn] [DecidableEq Id] [LE Conn] in
theorem Group.not_mem_activeCoHosts {group : Group Conn Id} {conn : Conn}
    (absent : group.members conn = none) : conn ∉ group.activeCoHosts := by
  rintro ⟨_, member, found, _⟩
  rw [absent] at found
  cases found

/-- A connection that is unknown stays so until it enters or says hello. -/
theorem Step.unknown (step : Step limit action before after) {conn : Conn}
    (unknown : before.Unknown conn) (silent : action ≠ .enter conn)
    (noHello : ∀ id, action ≠ .hello conn id) : after.Unknown conn := by
  obtain ⟨absent, notHost, notCoHost⟩ := unknown
  have gone : after.members conn = none := by
    cases found : after.members conn with
    | none => rfl
    | some member =>
        cases step.became found with
        | kept present => rw [absent] at present; cases present
        | entered request => exact absurd request silent
        | waits request => exact absurd request (noHello _)
        | joins request => exact absurd request (noHello _)
        | turnsAnonymous _ present => rw [absent] at present; cases present
        | admitted _ present => rw [absent] at present; cases present
  -- A rebound group binds members only.
  have rebound : after.coHosts = after.activeCoHosts → conn ∉ after.coHosts :=
    fun same => same ▸ Group.not_mem_activeCoHosts gone
  have present : ∀ {other : Conn} {member : Member Id}, before.members other = some member →
      other ≠ conn := by
    rintro other member found rfl
    rw [absent] at found
    cases found
  cases step with
  | refused | rekey | enter | wait | policy | anonJoin => exact ⟨gone, notHost, notCoHost⟩
  | @orphanClaim _ claiming id =>
      refine ⟨gone, fun hosts => noHello id ?_, rebound rfl⟩
      rw [Option.some.inj hosts]
  | @join _ joining id =>
      have other : joining ≠ conn := by
        rintro rfl
        exact noHello id rfl
      refine ⟨gone, fun hosts => ?_, rebound rfl⟩
      simp only [Group.atEpoch_host, Group.restore_host, Group.put_host] at hosts
      split at hosts
      · exact other (Option.some.inj hosts)
      · by_cases vacant : before.host = none
        · rw [Group.claim_of_vacant _ _ vacant] at hosts
          exact other (Option.some.inj hosts)
        · rw [Group.claim_of_host _ _ vacant] at hosts
          exact notHost hosts
  | @letIn _ _ entering _ _ _ _ found =>
      refine ⟨gone, fun hosts => ?_, rebound rfl⟩
      simp only [Group.atEpoch_host, Group.restore_host, Group.put_host] at hosts
      split at hosts
      · exact present found (Option.some.inj hosts)
      · exact notHost hosts
  | deny | leave => exact ⟨gone, notHost, fun bound => notCoHost bound.1⟩
  | denyHost _ _ _ _ succession | succeed _ _ succession =>
      refine ⟨gone, ?_, rebound rfl⟩
      rintro rfl
      obtain ⟨member, remains⟩ := succession.1
      exact absurd (remains.symm.trans gone) (by simp)
  | grantHost _ _ found =>
      exact ⟨gone, fun hosts => present found (Option.some.inj hosts), rebound rfl⟩
  | grantCoHost | revokeCoHost => exact ⟨gone, notHost, rebound rfl⟩

/-- Who waits joins by an admission, by its own hello, or anonymously. -/
theorem Step.leavesWaiting (step : Step limit action before after) {conn : Conn}
    {old new : Member Id} (was : before.members conn = some old) (notYet : old.joined = false)
    (found : after.members conn = some new) (joined : new.joined = true) :
    (∃ sender, action = .letIn sender conn ∧ before.Joined sender ∧ before.Moderates sender) ∨
      (∃ id, action = .hello conn id ∧ before.anonymous = false ∧
        (before.waitingRoom = false ∨ before.host = none ∨ before.Moderates conn ∨
          before.Reserved id)) ∨
      action = .anonHello conn := by
  cases step.became found with
  | kept same =>
      rw [was] at same
      cases same
      rw [joined] at notYet
      cases notYet
  | entered _ _ notJoined => rw [joined] at notJoined; cases notJoined
  | waits => cases joined
  | @joins id _ request transparent same _ _ allowed =>
      rw [was] at same
      cases same
      exact .inr (.inl ⟨id, request, transparent, allowed.resolve_left (by simp [notYet])⟩)
  | turnsAnonymous request => exact .inr (.inr request)
  | admitted request _ _ senderJoined moderates =>
      exact .inl ⟨_, request, senderJoined, moderates⟩

omit [DecidableEq Conn] [DecidableEq Id] [LE Conn] in
/-- A transparent group lets a waiting member in by its own hello only where the
waiting room is off, for a reserved name, or as the host that it has become. -/
theorem Orderly.helloJoins (orderly : Orderly before) {conn : Conn} {member : Member Id} {id : Id}
    (found : before.members conn = some member) (waits : member.waiting = true)
    (notYet : member.joined = false)
    (allowed : before.waitingRoom = false ∨ before.host = none ∨ before.Moderates conn ∨
      before.Reserved id) :
    before.waitingRoom = false ∨ before.Reserved id ∨ before.host = some conn := by
  rcases allowed with off | vacant | (hosts | coHost) | reserved
  · exact .inl off
  · exact absurd vacant (orderly.hosted conn ⟨member, found, waits⟩)
  · exact .inr (.inr hosts)
  · rw [orderly.coHosts] at coHost
    obtain ⟨_, current, same, joined, _⟩ := coHost
    rw [found] at same
    cases same
    rw [notYet] at joined
    cases joined
  · exact .inr (.inl reserved)

/-- Who waits after a step waited before, or was sent to wait by this step. -/
theorem Step.waiting (step : Step limit action before after) {conn : Conn}
    (waiting : after.Waiting conn) :
    before.Waiting conn ∨ (∃ id, action = .hello conn id) ∧ before.waitingRoom = true := by
  obtain ⟨member, found, waits⟩ := waiting
  cases step.became found with
  | kept same => exact .inl ⟨member, same, waits⟩
  | entered _ _ _ notWaiting => rw [waits] at notWaiting; cases notWaiting
  | waits request _ _ _ on => exact .inr ⟨⟨_, request⟩, on⟩
  | joins | turnsAnonymous | admitted => cases waits

/-- If anybody has joined, the host has. -/
def HostJoined (group : Group Conn Id) : Prop :=
  ∀ conn, group.Joined conn → ∃ host, group.host = some host ∧ group.Joined host

/-- The two ways in which the host role can pass to somebody who has not joined:
by succession, and by a first join that leaves a stale host in place. -/
def PassesToJoined (action : Action Conn Id) (before after : Group Conn Id) : Prop :=
  (∀ conn, action = .leave conn → before.anonymous = false → before.host = some conn →
    (∃ other, other ≠ conn ∧ before.Joined other) →
      ∀ successor, IsLeast (before.drop conn).present successor → before.Joined successor) ∧
  ∀ conn id, action = .hello conn id → (∀ other, ¬ before.Joined other) → after.Joined conn →
    before.host = none ∨ before.host = some conn ∨ before.hostOwner = some id

omit [DecidableEq Id] [LE Conn] in
theorem Group.Joined.put {group : Group Conn Id} {conn other : Conn} {member : Member Id}
    (joined : group.Joined other) (kept : other = conn → member.joined = true) :
    (group.put conn member).Joined other := by
  obtain ⟨current, found, isJoined⟩ := joined
  by_cases same : other = conn
  · exact ⟨member, by simp [same], kept same⟩
  · exact ⟨current, by simp [same, found], isJoined⟩

omit [DecidableEq Id] [LE Conn] in
theorem Group.Joined.drop {group : Group Conn Id} {conn other : Conn}
    (joined : group.Joined other) (different : other ≠ conn) :
    (group.drop conn).Joined other := by
  obtain ⟨current, found, isJoined⟩ := joined
  exact ⟨current, by simp [different, found], isJoined⟩

omit [DecidableEq Id] [LE Conn] in
theorem Group.Joined.of_drop {group : Group Conn Id} {conn other : Conn}
    (joined : (group.drop conn).Joined other) : other ≠ conn ∧ group.Joined other := by
  obtain ⟨current, found, isJoined⟩ := joined
  rw [Group.drop_members] at found
  split at found
  · cases found
  · next different => exact ⟨different, current, found, isJoined⟩

omit [DecidableEq Id] [LE Conn] in
theorem Group.Joined.of_put {group : Group Conn Id} {conn other : Conn} {member : Member Id}
    (joined : (group.put conn member).Joined other) (notJoined : member.joined = false) :
    other ≠ conn ∧ group.Joined other := by
  obtain ⟨current, found, isJoined⟩ := joined
  rw [Group.put_members] at found
  split at found
  · cases found
    rw [notJoined] at isJoined
    cases isJoined
  · next different => exact ⟨different, current, found, isJoined⟩

omit [LE Conn] in
/-- Whoever completes a join while the host has joined leaves the host joined. -/
theorem HostJoined.restore {group : Group Conn Id} {conn : Conn} {id : Id} {member : Member Id}
    {host : Conn} (hosts : group.host = some host) (hostJoined : group.Joined host)
    (joined : member.joined = true) : HostJoined ((group.put conn member).restore conn id) := by
  intro other _
  simp only [Group.restore_host, Group.put_hostOwner, Group.put_host]
  split
  · exact ⟨conn, rfl, member, by simp, joined⟩
  · exact ⟨host, hosts, hostJoined.put fun _ => joined⟩

theorem Step.hostJoined (step : Step limit action before after) (orderly : Orderly before)
    (transparent : after.anonymous = false) (passes : PassesToJoined action before after)
    (hostJoined : HostJoined before) : HostJoined after := by
  intro conn joined
  cases step with
  | refused | rekey | policy | grantCoHost | revokeCoHost => exact hostJoined conn joined
  | @enter _ entering fresh absent notJoined =>
      obtain ⟨host, hosts, isJoined⟩ := hostJoined conn (joined.of_put notJoined).2
      refine ⟨host, hosts, isJoined.put ?_⟩
      rintro rfl
      obtain ⟨member, found, _⟩ := isJoined
      rw [absent] at found
      cases found
  | orphanClaim _ _ vacant =>
      -- Without a host nobody has joined, and nobody joins here.
      obtain ⟨host, hosts, _⟩ := hostJoined conn joined
      rw [vacant] at hosts
      cases hosts
  | @wait _ entering id old _ present notJoined =>
      obtain ⟨host, hosts, isJoined⟩ := hostJoined conn (joined.of_put rfl).2
      refine ⟨host, hosts, isJoined.put ?_⟩
      rintro rfl
      obtain ⟨member, found, wasJoined⟩ := isJoined
      rw [present] at found
      cases found
      rw [notJoined] at wasJoined
      cases wasJoined
  | @join _ entering id old epoch _ present _ free _ _ =>
      have entered : (((before.claim entering id).put entering
          ⟨id, true, false, false, false⟩).restore entering id |>.atEpoch epoch).Joined entering :=
        ⟨⟨id, true, false, false, false⟩, by simp, rfl⟩
      by_cases somebody : ∃ other, before.Joined other
      · obtain ⟨other, otherJoined⟩ := somebody
        obtain ⟨host, hosts, isJoined⟩ := hostJoined other otherJoined
        have hosted : before.host ≠ none := by simp [hosts]
        rw [Group.claim_of_host _ _ hosted] at joined ⊢
        exact HostJoined.restore hosts isJoined rfl conn joined
      · refine ⟨entering, ?_, entered⟩
        have nobody : ∀ other, ¬ before.Joined other := fun other isJoined =>
          somebody ⟨other, isJoined⟩
        simp only [Group.atEpoch_host, Group.restore_host, Group.put_hostOwner, Group.put_host]
        rcases passes.2 entering id rfl nobody entered with vacant | hosts | owner
        · rw [Group.claim_of_vacant _ _ vacant]
          simp
        · rw [Group.claim_of_host _ _ (by simp [hosts]), hosts]
          simp
        · by_cases vacant : before.host = none
          · rw [Group.claim_of_vacant _ _ vacant]
            simp
          · rw [Group.claim_of_host _ _ vacant, owner, if_pos rfl]
  | anonJoin => cases transparent
  | @letIn _ sender _ _ _ senderJoined =>
      obtain ⟨host, hosts, isJoined⟩ := hostJoined sender senderJoined
      exact HostJoined.restore hosts isJoined rfl conn joined
  | @deny _ _ denied _ _ _ notHost =>
      obtain ⟨host, hosts, isJoined⟩ := hostJoined conn joined.of_drop.2
      exact ⟨host, hosts, isJoined.drop fun same => notHost (same ▸ hosts)⟩
  | @denyHost _ sender denied _ senderJoined _ waiting hosts _ =>
      -- The host would have joined and be waiting at once.
      obtain ⟨host, isHost, member, found, isJoined⟩ := hostJoined sender senderJoined
      obtain ⟨current, same, waits⟩ := waiting
      rw [hosts] at isHost
      cases isHost
      rw [found] at same
      cases same
      rw [orderly.exclusive _ _ found isJoined] at waits
      cases waits
  | @grantHost _ _ target _ _ _ _ present targetJoined _ =>
      exact ⟨target, rfl, _, present, targetJoined⟩
  | @leave _ leaving mode =>
      obtain ⟨host, hosts, isJoined⟩ := hostJoined conn joined.of_drop.2
      refine ⟨host, hosts, isJoined.drop ?_⟩
      rintro rfl
      rcases mode with anonymous | notHost
      · rw [show before.anonymous = false from transparent] at anonymous
        cases anonymous
      · exact notHost hosts
  | @succeed _ leaving successor _ _ hosts succession _ =>
      have remains : (before.drop leaving).Joined conn := joined
      obtain ⟨different, wasJoined⟩ := remains.of_drop
      cases successor with
      | none => exact absurd rfl (succession.ne_none ⟨_, remains.choose_spec.1⟩)
      | some next =>
          have least : IsLeast (before.drop leaving).present next := succession
          have nextJoined := passes.1 leaving rfl transparent hosts ⟨conn, different, wasJoined⟩
            next least
          obtain ⟨member, found⟩ := least.1
          rw [Group.drop_members] at found
          have other : next ≠ leaving := by
            rintro rfl
            simp at found
          exact ⟨next, rfl, nextJoined.drop other⟩

/-- As long as the host role passes only to those who have joined, the host has
joined if anybody has. -/
theorem Reachable.hostJoined {start group : Group Conn Id}
    (reachable : Reachable limit start PassesToJoined group) (orderly : Orderly start)
    (initially : HostJoined start) (transparent : group.anonymous = false) :
    HostJoined group := by
  induction reachable with
  | start => exact initially
  | step earlier passes step ih =>
      have was := step.transparent transparent
      exact step.hostJoined (earlier.orderly orderly was) transparent passes (ih was)

omit [DecidableEq Conn] [DecidableEq Id] [LE Conn] in
theorem Announced.grants (announced : Announced limit before after) (conn : Conn) :
    Advances limit before.epoch after.epoch ∧
      (before.epoch < limit → before.epoch < after.epoch ∨ before.SameGrants after conn) := by
  refine ⟨announced.1, fun below => ?_⟩
  rcases announced.2 below with grows | ⟨host, coHosts, recording⟩
  · exact .inl grows
  · exact .inr ⟨by rw [host], by rw [coHosts], recording⟩

/-- The host is denied, and somebody who has joined succeeds it unannounced. -/
def SilentSuccession (action : Action Conn Id) (before : Group Conn Id) : Prop :=
  ∃ sender denied successor, action = .deny sender denied ∧ before.host = some denied ∧
    before.Waiting denied ∧ before.Joined sender ∧ before.Moderates sender ∧
      IsLeast (before.drop denied).present successor ∧ before.Joined successor

theorem Step.grants (step : Step limit action before after) (orderly : Orderly before)
    (transparent : after.anonymous = false) (announced : ¬ SilentSuccession action before)
    {conn : Conn} (joined : before.Joined conn) (remains : conn ∈ after.present) :
    Advances limit before.epoch after.epoch ∧
      (before.epoch < limit → before.epoch < after.epoch ∨ before.SameGrants after conn) := by
  have unchanged : before.SameGrants before conn := ⟨Iff.rfl, Iff.rfl, rfl⟩
  have coHosts := orderly.coHosts
  cases step with
  | refused | enter | wait =>
      exact ⟨.refl, fun _ => .inr ⟨unchanged.host, unchanged.coHost, unchanged.recording⟩⟩
  | rekey grows =>
      exact ⟨grows, fun _ => .inr ⟨unchanged.host, unchanged.coHost, unchanged.recording⟩⟩
  | orphanClaim _ _ _ _ told => exact told.grants conn
  | join _ _ _ _ _ told => exact told.grants conn
  | anonJoin => cases transparent
  | letIn _ _ _ _ told => exact told.grants conn
  | grantHost _ _ _ _ told => exact told.grants conn
  | grantCoHost _ _ _ _ _ told => exact told.grants conn
  | revokeCoHost _ _ _ _ told => exact told.grants conn
  | policy _ _ grows strictly => exact ⟨grows, fun below => .inl (strictly below)⟩
  | @deny _ _ dropped | @leave _ dropped =>
      have different : conn ≠ dropped := by
        rintro rfl
        obtain ⟨member, found⟩ := remains
        simp at found
      exact ⟨.refl, fun _ => .inr ⟨Iff.rfl, by simp [different], rfl⟩⟩
  | @denyHost _ sender denied successor senderJoined moderates waiting hosts succession =>
      refine ⟨.refl, fun _ => .inr ?_⟩
      have different : conn ≠ denied := by
        rintro rfl
        obtain ⟨member, found⟩ := remains
        simp at found
      -- The connection is neither the old host nor, as it has joined, the new one.
      have notSuccessor : successor ≠ some conn := by
        rintro rfl
        exact announced ⟨sender, denied, conn, rfl, hosts, waiting, senderJoined, moderates,
          succession, joined⟩
      refine ⟨?_, ?_, rfl⟩
      · simp [hosts, notSuccessor, Ne.symm different]
      · simp [coHosts, Group.mem_activeCoHosts, hosts, notSuccessor, different, Ne.symm different]
  | succeed _ _ _ told => exact told.grants conn

/-- What a member was told about its authority holds until the epoch moves on. -/
structure UpToDate (limit : Nat) (told now : Group Conn Id) (conn : Conn) : Prop where
  joined : now.Joined conn
  epoch : told.epoch ≤ now.epoch
  bounded : now.epoch ≤ limit
  grants : now.epoch = told.epoch → told.SameGrants now conn

omit [DecidableEq Conn] [DecidableEq Id] [LE Conn] in
theorem UpToDate.refl {group : Group Conn Id} {conn : Conn} (joined : group.Joined conn)
    (bounded : group.epoch ≤ limit) : UpToDate limit group group conn :=
  ⟨joined, Nat.le_refl _, bounded, fun _ => ⟨Iff.rfl, Iff.rfl, rfl⟩⟩

theorem Step.upToDate (step : Step limit action before after) (orderly : Orderly before)
    (transparent : after.anonymous = false) (announced : ¬ SilentSuccession action before)
    {told : Group Conn Id} {conn : Conn} (upToDate : UpToDate limit told before conn)
    (below : told.epoch < limit) (remains : conn ∈ after.present) :
    UpToDate limit told after conn := by
  obtain ⟨member, found⟩ := remains
  obtain ⟨advances, kept⟩ :=
    step.grants orderly transparent announced upToDate.joined ⟨member, found⟩
  obtain ⟨grows, bounded⟩ := advances upToDate.bounded
  refine ⟨⟨member, found, step.joined upToDate.joined found⟩, upToDate.epoch.trans grows, bounded,
    fun same => ?_⟩
  have earlier : before.epoch = told.epoch :=
    Nat.le_antisymm (grows.trans same.le) upToDate.epoch
  have was := upToDate.grants earlier
  rcases kept (earlier ▸ below) with moved | ⟨host, coHost, recording⟩
  · rw [same, earlier] at moved
    exact absurd moved (Nat.lt_irrefl _)
  · exact ⟨host.trans was.host, coHost.trans was.coHost, recording.trans was.recording⟩

/-- In anonymous mode everybody who has joined is anonymous and named; in
transparent mode nobody is anonymous. -/
structure ModeSeparated (group : Group Conn Id) : Prop where
  anonymous : group.anonymous = true → ∀ conn member, group.members conn = some member →
    member.joined = true → member.anonymous = true ∧ member.named = true
  transparent : group.anonymous = false → ∀ conn member, group.members conn = some member →
    member.anonymous = false

/-- An admission is made by somebody who is not anonymous. -/
def TransparentAdmission (action : Action Conn Id) (before : Group Conn Id) : Prop :=
  ∀ sender target, action = .letIn sender target → ∀ member,
    before.members sender = some member → member.anonymous = false

theorem Step.modeSeparated (step : Step limit action before after)
    (admission : TransparentAdmission action before) (separated : ModeSeparated before) :
    ModeSeparated after where
  anonymous mode conn member found joined := by
    -- Unless this very step is an anonymous hello, the mode was the same before.
    have earlier : before.anonymous = true ∨ ∃ conn, action = .anonHello conn := by
      rcases step.mode with same | ⟨request, _⟩
      · exact .inl (same ▸ mode)
      · exact .inr request
    cases step.became found with
    | kept same =>
        cases was : before.anonymous with
        | true => exact separated.anonymous was conn member same joined
        | false =>
            rcases step.mode with unchanged | ⟨_, nobody⟩
            · rw [unchanged, was] at mode
              cases mode
            · have anonymous := nobody was conn member same joined
              rw [separated.transparent was conn member same] at anonymous
              cases anonymous
    | entered _ _ notJoined => rw [joined] at notJoined; cases notJoined
    | waits => cases joined
    | joins request transparent =>
        rcases earlier with was | ⟨_, other⟩
        · rw [transparent] at was; cases was
        · rw [request] at other; cases other
    | turnsAnonymous => exact ⟨rfl, rfl⟩
    | @admitted sender _ request _ _ senderJoined =>
        obtain ⟨current, present, isJoined⟩ := senderJoined
        rcases earlier with was | ⟨_, other⟩
        · have anonymous := (separated.anonymous was sender current present isJoined).1
          rw [admission sender conn request current present] at anonymous
          cases anonymous
        · rw [request] at other; cases other
  transparent mode conn member found := by
    have was := step.transparent mode
    cases step.became found with
    | kept same => exact separated.transparent was conn member same
    | entered _ _ _ _ notAnonymous => exact notAnonymous
    | waits | joins => rfl
    | turnsAnonymous _ _ anonymous => rw [mode] at anonymous; cases anonymous
    | @admitted _ old _ present =>
        have notAnonymous : old.anonymous = false := separated.transparent was conn old present
        exact notAnonymous

end Kaigi.Authority
