import Kaigi.Authority.Step

/-!
# Who holds the roles

The roles are stored by connection, apart from the members. They belong to members
as long as nobody who is not there becomes the host, and the host does not leave a
group that keeps its host.
-/

set_option autoImplicit false

namespace Kaigi.Authority

variable {Conn Id : Type}

/-- Every role is held by a member. -/
structure Staffed (group : Group Conn Id) : Prop where
  host : ∀ conn, group.host = some conn → conn ∈ group.present
  coHosts : group.coHosts ⊆ group.present

/-- A step that leaves the host role with nobody who is not there. -/
structure KeepsHost (action : Action Conn Id) (before after : Group Conn Id) : Prop where
  claims : ∀ conn id, action = .hello conn id → conn ∉ before.present → after.host = before.host
  leaves : ∀ conn, action = .leave conn → before.anonymous = true → before.host ≠ some conn

namespace Group

theorem Joined.mem_present {group : Group Conn Id} {conn : Conn} (joined : group.Joined conn) :
    conn ∈ group.present := by
  obtain ⟨member, found, _⟩ := joined
  exact ⟨member, found⟩

theorem activeCoHosts_subset (group : Group Conn Id) : group.activeCoHosts ⊆ group.present := by
  rintro conn ⟨_, member, found, _⟩
  exact ⟨member, found⟩

theorem present_congr {group other : Group Conn Id} (same : other.members = group.members) :
    other.present = group.present := by
  unfold present
  rw [same]

theorem Succession.mem_present [LE Conn] {group : Group Conn Id} {successor : Option Conn}
    (succession : group.Succession successor) {conn : Conn} (succeeds : successor = some conn) :
    conn ∈ group.present := by
  subst succeeds
  exact succession.1

variable [DecidableEq Conn]

theorem present_put {group : Group Conn Id} {conn : Conn} {member : Member Id} :
    (group.put conn member).present = insert conn group.present := by
  ext other
  unfold present
  simp only [Set.mem_ofPred_eq, put_members, Set.mem_insert_iff]
  by_cases same : other = conn <;> simp [same]

theorem present_drop {group : Group Conn Id} {conn : Conn} :
    (group.drop conn).present = group.present \ {conn} := by
  ext other
  unfold present
  simp only [Set.mem_ofPred_eq, drop_members, Set.mem_sdiff, Set.mem_singleton_iff]
  by_cases same : other = conn <;> simp [same]

end Group

theorem Staffed.atEpoch {group : Group Conn Id} (staffed : Staffed group) (epoch : Nat) :
    Staffed (group.atEpoch epoch) :=
  ⟨staffed.host, staffed.coHosts⟩

/-- Bound to the members they are reserved for, the co-host roles are held by members. -/
theorem Staffed.rebind {group : Group Conn Id}
    (host : ∀ conn, group.host = some conn → conn ∈ group.present) : Staffed group.rebind :=
  ⟨host, group.activeCoHosts_subset⟩

/-- A member gets the roles back that are reserved for it. -/
theorem Staffed.restore [DecidableEq Id] {group : Group Conn Id}
    (host : ∀ conn, group.host = some conn → conn ∈ group.present) {conn : Conn}
    (present : conn ∈ group.present) (id : Id) : Staffed (group.restore conn id) := by
  refine .rebind fun other hosts => ?_
  rw [Group.lead_host] at hosts
  split at hosts
  · cases hosts
    exact present
  · exact host other hosts

variable [DecidableEq Conn]

theorem Staffed.put {group : Group Conn Id} (staffed : Staffed group) (conn : Conn)
    (member : Member Id) : Staffed (group.put conn member) where
  host other hosts := by
    rw [Group.present_put]
    exact .inr (staffed.host other hosts)
  coHosts := by
    rw [Group.present_put]
    exact staffed.coHosts.trans (Set.subset_insert conn group.present)

/-- Whoever is not the host may leave. -/
theorem Staffed.drop {group : Group Conn Id} (staffed : Staffed group) {conn : Conn}
    (other : group.host ≠ some conn) : Staffed (group.drop conn) where
  host current hosts := by
    rw [Group.present_drop]
    refine ⟨staffed.host current hosts, ?_⟩
    rintro rfl
    exact other hosts
  coHosts := by
    rw [Group.present_drop]
    exact Set.sdiff_subset_sdiff_left staffed.coHosts

variable [DecidableEq Id] [LE Conn]
variable {limit : Nat} {action : Action Conn Id} {before after : Group Conn Id}

theorem Step.staffed (step : Step limit action before after) (staffed : Staffed before)
    (keeps : KeepsHost action before after) : Staffed after := by
  cases step with
  | refused | rekey | policy => exact ⟨staffed.host, staffed.coHosts⟩
  | enter | wait => exact staffed.put _ _
  | @orphanClaim _ conn id _ _ absent vacant _ _ =>
      have kept := keeps.claims conn id rfl fun ⟨_, found⟩ => by simp [absent] at found
      rw [vacant] at kept
      cases kept
  | @join _ conn id =>
      refine (Staffed.restore ?_ ?_ id).atEpoch _
      · intro other hosts
        rw [Group.present_put]
        by_cases vacant : before.host = none
        · rw [Group.put_host, Group.claim_of_vacant _ _ vacant] at hosts
          cases hosts
          exact Set.mem_insert _ _
        · rw [Group.put_host, Group.claim_of_host _ _ vacant] at hosts
          refine .inr ?_
          rw [Group.present_congr (Group.claim_members before conn id)]
          exact staffed.host other hosts
      · rw [Group.present_put]
        exact Set.mem_insert _ _
  | anonJoin => exact ⟨(staffed.put _ _).host, (staffed.put _ _).coHosts⟩
  | letIn =>
      refine (Staffed.restore (staffed.put _ _).host ?_ _).atEpoch _
      rw [Group.present_put]
      exact Set.mem_insert _ _
  | deny _ _ _ other => exact staffed.drop other
  | denyHost _ _ _ _ succession => exact .rebind fun _ => succession.mem_present
  | grantHost _ _ found =>
      refine (Staffed.rebind fun other hosts => ?_).atEpoch _
      cases hosts
      exact ⟨_, found⟩
  | grantCoHost | revokeCoHost =>
      refine (Staffed.rebind ?_).atEpoch _
      exact staffed.host
  | @leave _ conn other =>
      refine staffed.drop ?_
      rcases other with anonymous | other
      · exact keeps.leaves conn rfl anonymous
      · exact other
  | succeed _ _ succession =>
      exact (Staffed.rebind fun _ => succession.mem_present).atEpoch _

end Kaigi.Authority
