import Kaigi.Authority.Group

/-!
# Steps of a group

What a request can do to the members of a group and to their authority. A
request may always be refused, which leaves the group as it is.
-/

set_option autoImplicit false

namespace Kaigi.Authority

variable {Conn Id : Type}

/-- A request, with the connection that made it first. -/
inductive Action (Conn Id : Type) where
  | enter (conn : Conn)
  | leave (conn : Conn)
  | hello (conn : Conn) (id : Id)
  | anonHello (conn : Conn)
  | letIn (sender target : Conn)
  | deny (sender target : Conn)
  | grant (sender : Conn)
  | revoke (sender : Conn)
  | policy (sender : Conn)
  | rekey
  | other

/-- A counter that stops at `limit` does not go back. -/
def Advances (limit before after : Nat) : Prop :=
  before ≤ limit → before ≤ after ∧ after ≤ limit

theorem Advances.refl {limit epoch : Nat} : Advances limit epoch epoch :=
  fun below => ⟨Nat.le_refl epoch, below⟩

theorem Advances.trans {limit first second third : Nat} (earlier : Advances limit first second)
    (later : Advances limit second third) : Advances limit first third := by
  intro below
  obtain ⟨grows, stays⟩ := earlier below
  obtain ⟨growsAgain, staysAgain⟩ := later stays
  exact ⟨grows.trans growsAgain, staysAgain⟩

/-- The epoch does not go back, and it grows when the host, the co-hosts or the
recording permission change, unless the counter has reached its limit. -/
def Announced (limit : Nat) (before after : Group Conn Id) : Prop :=
  Advances limit before.epoch after.epoch ∧
    (before.epoch < limit → before.epoch < after.epoch ∨
      (after.host = before.host ∧ after.coHosts = before.coHosts ∧
        after.recording = before.recording))

variable [DecidableEq Conn] [DecidableEq Id] [LE Conn]

/-- `Step limit action before after`: the request `action` can take the group
`before` to `after`. -/
inductive Step (limit : Nat) :
    Action Conn Id → Group Conn Id → Group Conn Id → Prop where
  | refused {action : Action Conn Id} {group : Group Conn Id} : Step limit action group group
  | rekey {group : Group Conn Id} {epoch : Nat} :
      Advances limit group.epoch epoch → Step limit .rekey group (group.atEpoch epoch)
  | enter {group : Group Conn Id} {conn : Conn} {member : Member Id} :
      group.members conn = none → member.joined = false → member.waiting = false →
      member.anonymous = false →
      Step limit (.enter conn) group (group.put conn member)
  /-- A connection that was already removed says hello to a group without a host. -/
  | orphanClaim {group : Group Conn Id} {conn : Conn} {id : Id} {epoch : Nat} :
      group.anonymous = false → group.members conn = none → group.host = none →
      group.IdFree conn id →
      Announced limit group ((group.reserveHost conn id).rebind.atEpoch epoch) →
      Step limit (.hello conn id) group ((group.reserveHost conn id).rebind.atEpoch epoch)
  | wait {group : Group Conn Id} {conn : Conn} {id : Id} {member : Member Id} :
      group.anonymous = false → group.members conn = some member → member.joined = false →
      group.waitingRoom = true → group.host ≠ none → ¬ group.Moderates conn →
      ¬ group.Reserved id → group.IdFree conn id →
      Step limit (.hello conn id) group (group.put conn ⟨id, false, true, false, false⟩)
  | join {group : Group Conn Id} {conn : Conn} {id : Id} {member : Member Id} {epoch : Nat} :
      group.anonymous = false → group.members conn = some member →
      (member.joined = true → member.id = id) → group.IdFree conn id →
      (member.joined = true ∨ group.waitingRoom = false ∨ group.host = none ∨
        group.Moderates conn ∨ group.Reserved id) →
      Announced limit group
        ((((group.claim conn id).put conn ⟨id, true, false, false, false⟩).restore conn id).atEpoch
          epoch) →
      Step limit (.hello conn id) group
        ((((group.claim conn id).put conn ⟨id, true, false, false, false⟩).restore conn id).atEpoch
          epoch)
  | anonJoin {group : Group Conn Id} {conn : Conn} {member : Member Id} {epoch : Nat} :
      group.members conn = some member →
      (group.anonymous = false →
        ∀ other current, group.members other = some current → current.joined = true →
          current.anonymous = true) →
      Advances limit group.epoch epoch →
      Step limit (.anonHello conn) group
        ((group.put conn ⟨member.id, true, false, true, true⟩).turnAnonymous.atEpoch epoch)
  | letIn {group : Group Conn Id} {sender conn : Conn} {member : Member Id} {epoch : Nat} :
      group.Joined sender → group.Moderates sender → group.members conn = some member →
      member.waiting = true →
      Announced limit group
        (((group.put conn { member with joined := true, waiting := false }).restore conn
          member.id).atEpoch epoch) →
      Step limit (.letIn sender conn) group
        (((group.put conn { member with joined := true, waiting := false }).restore conn
          member.id).atEpoch epoch)
  | deny {group : Group Conn Id} {sender conn : Conn} :
      group.Joined sender → group.Moderates sender → group.Waiting conn →
      group.host ≠ some conn →
      Step limit (.deny sender conn) group (group.drop conn)
  /-- The denied connection was the host: its successor is not announced. -/
  | denyHost {group : Group Conn Id} {sender conn : Conn} {successor : Option Conn} :
      group.Joined sender → group.Moderates sender → group.Waiting conn →
      group.host = some conn → (group.drop conn).Succession successor →
      Step limit (.deny sender conn) group ((group.drop conn).lead successor).rebind
  | grantHost {group : Group Conn Id} {sender conn : Conn} {member : Member Id} {epoch : Nat} :
      group.Joined sender → group.host = some sender → group.members conn = some member →
      member.joined = true →
      Announced limit group ((group.reserveHost conn member.id).rebind.atEpoch epoch) →
      Step limit (.grant sender) group ((group.reserveHost conn member.id).rebind.atEpoch epoch)
  | grantCoHost {group : Group Conn Id} {sender conn : Conn} {member : Member Id} {epoch : Nat} :
      group.Joined sender → group.host = some sender → group.members conn = some member →
      member.joined = true → group.host ≠ some conn →
      Announced limit group
        ({ group with coHostOwners := insert member.id group.coHostOwners }.rebind.atEpoch epoch) →
      Step limit (.grant sender) group
        ({ group with coHostOwners := insert member.id group.coHostOwners }.rebind.atEpoch epoch)
  | revokeCoHost {group : Group Conn Id} {sender conn : Conn} {member : Member Id} {epoch : Nat} :
      group.Joined sender → group.host = some sender → group.members conn = some member →
      member.joined = true →
      Announced limit group
        ({ group with coHostOwners := group.coHostOwners \ {member.id} }.rebind.atEpoch epoch) →
      Step limit (.revoke sender) group
        ({ group with coHostOwners := group.coHostOwners \ {member.id} }.rebind.atEpoch epoch)
  | policy {group : Group Conn Id} {sender : Conn} {waitingRoom recording : Bool} {epoch : Nat} :
      group.Joined sender → group.host = some sender → Advances limit group.epoch epoch →
      (group.epoch < limit → group.epoch < epoch) →
      Step limit (.policy sender) group
        { group with waitingRoom := waitingRoom, recording := recording, epoch := epoch }
  | leave {group : Group Conn Id} {conn : Conn} :
      group.anonymous = true ∨ group.host ≠ some conn →
      Step limit (.leave conn) group (group.drop conn)
  | succeed {group : Group Conn Id} {conn : Conn} {successor : Option Conn} {epoch : Nat} :
      group.anonymous = false → group.host = some conn →
      (group.drop conn).Succession successor →
      Announced limit group (((group.drop conn).lead successor).rebind.atEpoch epoch) →
      Step limit (.leave conn) group (((group.drop conn).lead successor).rebind.atEpoch epoch)

/-- The groups that can be reached from `start` by steps that `allowed` admits. -/
inductive Reachable (limit : Nat) (start : Group Conn Id)
    (allowed : Action Conn Id → Group Conn Id → Group Conn Id → Prop) :
    Group Conn Id → Prop where
  | start : Reachable limit start allowed start
  | step {before after : Group Conn Id} {action : Action Conn Id} :
      Reachable limit start allowed before → allowed action before after →
      Step limit action before after → Reachable limit start allowed after

end Kaigi.Authority
