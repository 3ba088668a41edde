import Mathlib.Data.Set.Insert
import Mathlib.Logic.Function.Basic
import Mathlib.Order.Bounds.Basic

/-!
# Groups with a host

The members of a group, and who has authority over it. The roles are stored
twice: by connection, which is what a request is checked against, and by name,
so that whoever comes back under a reserved name can take its role up again.
-/

set_option autoImplicit false

namespace Kaigi.Authority

structure Member (Id : Type) where
  id : Id
  joined : Bool
  waiting : Bool
  anonymous : Bool
  /-- The member has an anonymous handle. -/
  named : Bool

/-- `epoch` counts the changes of authority that the members were told about. -/
@[ext] structure Group (Conn Id : Type) where
  members : Conn → Option (Member Id)
  host : Option Conn
  hostOwner : Option Id
  coHosts : Set Conn
  coHostOwners : Set Id
  epoch : Nat
  waitingRoom : Bool
  recording : Bool
  anonymous : Bool

namespace Group

variable {Conn Id : Type}

def Joined (group : Group Conn Id) (conn : Conn) : Prop :=
  ∃ member, group.members conn = some member ∧ member.joined = true

def Waiting (group : Group Conn Id) (conn : Conn) : Prop :=
  ∃ member, group.members conn = some member ∧ member.waiting = true

/-- The connections that are there, in whatever state. -/
def present (group : Group Conn Id) : Set Conn :=
  {conn | ∃ member, group.members conn = some member}

/-- The connection holds its id: it has joined under it or waits under it. -/
def Holds (group : Group Conn Id) (conn : Conn) (id : Id) : Prop :=
  ∃ member, group.members conn = some member ∧
    (member.joined = true ∨ member.waiting = true) ∧ member.id = id

/-- No other connection holds the id. -/
def IdFree (group : Group Conn Id) (conn : Conn) (id : Id) : Prop :=
  ∀ other, other ≠ conn → ¬ group.Holds other id

/-- The joined connections other than the host whose id is reserved for a co-host. -/
def activeCoHosts (group : Group Conn Id) : Set Conn :=
  {conn | group.host ≠ some conn ∧
    ∃ member, group.members conn = some member ∧ member.joined = true ∧
      member.id ∈ group.coHostOwners}

theorem mem_activeCoHosts {group : Group Conn Id} {conn : Conn} :
    conn ∈ group.activeCoHosts ↔ group.host ≠ some conn ∧
      ∃ member, group.members conn = some member ∧ member.joined = true ∧
        member.id ∈ group.coHostOwners := Iff.rfl

def Moderates (group : Group Conn Id) (conn : Conn) : Prop :=
  group.host = some conn ∨ conn ∈ group.coHosts

def Reserved (group : Group Conn Id) (id : Id) : Prop :=
  group.hostOwner = some id ∨ id ∈ group.coHostOwners

/-- What a connection is told about its own authority. -/
structure SameGrants (before after : Group Conn Id) (conn : Conn) : Prop where
  host : after.host = some conn ↔ before.host = some conn
  coHost : conn ∈ after.coHosts ↔ conn ∈ before.coHosts
  recording : after.recording = before.recording

/-- Bind the co-host role to exactly the connections it is reserved for. -/
@[simps] def rebind (group : Group Conn Id) : Group Conn Id :=
  { group with coHosts := group.activeCoHosts }

@[simps] def lead (group : Group Conn Id) (host : Option Conn) : Group Conn Id :=
  { group with host := host }

@[simps] def reserveHost (group : Group Conn Id) (conn : Conn) (id : Id) : Group Conn Id :=
  { group with host := some conn, hostOwner := some id }

@[simps] def atEpoch (group : Group Conn Id) (epoch : Nat) : Group Conn Id :=
  { group with epoch := epoch }

@[simps] def turnAnonymous (group : Group Conn Id) : Group Conn Id :=
  { group with anonymous := true }

/-- `host` is the least connection of the group, if there is one. -/
def Succession [LE Conn] (group : Group Conn Id) : Option Conn → Prop
  | none => group.present = ∅
  | some host => IsLeast group.present host

theorem Succession.ne_none [LE Conn] {group : Group Conn Id} {successor : Option Conn}
    (succession : group.Succession successor) {conn : Conn} (present : conn ∈ group.present) :
    successor ≠ none := by
  rintro rfl
  have empty : group.present = ∅ := succession
  rw [empty] at present
  exact present

/-- The first to say hello in a group without a host becomes its host. -/
def claim (group : Group Conn Id) (conn : Conn) (id : Id) : Group Conn Id :=
  match group.host with
  | none => group.reserveHost conn id
  | some _ => group

@[simp] theorem claim_members (group : Group Conn Id) (conn : Conn) (id : Id) :
    (group.claim conn id).members = group.members := by
  unfold claim
  split <;> rfl

@[simp] theorem claim_coHostOwners (group : Group Conn Id) (conn : Conn) (id : Id) :
    (group.claim conn id).coHostOwners = group.coHostOwners := by
  unfold claim
  split <;> rfl

theorem claim_of_host {group : Group Conn Id} (conn : Conn) (id : Id)
    (hosted : group.host ≠ none) : group.claim conn id = group := by
  unfold claim
  split
  · next vacant => exact absurd vacant hosted
  · rfl

theorem claim_of_vacant {group : Group Conn Id} (conn : Conn) (id : Id)
    (vacant : group.host = none) : group.claim conn id = group.reserveHost conn id := by
  unfold claim
  split
  · rfl
  · next hosted => rw [vacant] at hosted; cases hosted

theorem claim_host (group : Group Conn Id) (conn : Conn) (id : Id) :
    (group.claim conn id).host ≠ none := by
  unfold claim
  split
  · simp
  · next hosted => simp [hosted]

variable [DecidableEq Conn]

@[simps host hostOwner coHosts coHostOwners epoch waitingRoom recording anonymous]
def put (group : Group Conn Id) (conn : Conn) (member : Member Id) : Group Conn Id :=
  { group with members := Function.update group.members conn (some member) }

@[simps host hostOwner coHosts coHostOwners epoch waitingRoom recording anonymous]
def drop (group : Group Conn Id) (conn : Conn) : Group Conn Id :=
  { group with
    members := Function.update group.members conn none
    coHosts := group.coHosts \ {conn} }

/-- Give a joining connection the roles that are reserved for its id. -/
@[simps! members host hostOwner coHostOwners epoch waitingRoom recording anonymous]
def restore [DecidableEq Id] (group : Group Conn Id) (conn : Conn) (id : Id) : Group Conn Id :=
  (group.lead (if group.hostOwner = some id then some conn else group.host)).rebind

omit [DecidableEq Conn] in
theorem restore_coHosts [DecidableEq Id] (group : Group Conn Id) (conn : Conn) (id : Id) :
    (group.restore conn id).coHosts = (group.restore conn id).activeCoHosts := rfl

@[simp] theorem put_members (group : Group Conn Id) (conn other : Conn) (member : Member Id) :
    (group.put conn member).members other =
      if other = conn then some member else group.members other := by
  simp [put, Function.update_apply]

@[simp] theorem drop_members (group : Group Conn Id) (conn other : Conn) :
    (group.drop conn).members other = if other = conn then none else group.members other := by
  simp [drop, Function.update_apply]

/-- A connection that has not joined takes no part in the co-host bindings. -/
theorem activeCoHosts_put {group : Group Conn Id} {conn : Conn} {member : Member Id}
    (notJoined : member.joined = false) (neverJoined : ¬ group.Joined conn) :
    (group.put conn member).activeCoHosts = group.activeCoHosts := by
  ext other
  simp only [mem_activeCoHosts, put_host, put_coHostOwners, put_members]
  by_cases same : other = conn
  · subst same
    constructor
    · rintro ⟨_, current, found, joined, _⟩
      rw [if_pos rfl] at found
      cases found
      rw [notJoined] at joined
      cases joined
    · rintro ⟨_, current, found, joined, _⟩
      exact absurd ⟨current, found, joined⟩ neverJoined
  · simp only [if_neg same]

theorem activeCoHosts_drop (group : Group Conn Id) (conn : Conn) :
    (group.drop conn).activeCoHosts = group.activeCoHosts \ {conn} := by
  ext other
  simp only [mem_activeCoHosts, drop_host, drop_coHostOwners, drop_members, Set.mem_sdiff,
    Set.mem_singleton_iff]
  by_cases same : other = conn
  · simp [same]
  · simp [same]

end Group

end Kaigi.Authority
