import Kaigi.Hub.FrameOperations
import Kaigi.Hub.Scripts

/-!
# Handling one frame

A connection task handles its frames one after the other. While it handles one, the
others go on; what its handler may do next depends on what it has done since it began.
-/

set_option autoImplicit false

namespace Kaigi.Hub

open Collections Wire Interleaving

def Phase.isHandling : Phase → Bool
  | .handling _ _ => true
  | _ => false

/-- The task of the connection is handling the frame, and has been since the history
was `start`. -/
inductive Handling (hub : HubState) (connId : ConnId) (frame : KaigiFrame) (start : List Event) :
    List Event → System → Prop where
  | begins {system next : System} {connection : Connection} {decoder rest : FrameDecoder}
      {clock : Nat} :
      Run hub start system → system.connections connId = some connection →
      connection.phase = .draining decoder →
      decoder.tryNext hub.norito = (.ok (some frame), rest) →
      system.step hub (.advance connId clock) = some next →
      Handling hub connId frame start start next
  | goesOn {history : List Event} {system next : System} {move : Move} {connection : Connection} :
      Handling hub connId frame start history system → system.step hub move = some next →
      next.connections connId = some connection → connection.phase.isHandling = true →
      Handling hub connId frame start ((system.event move).toList ++ history) next

variable {hub : HubState} {connId : ConnId} {frame : KaigiFrame} {start history : List Event}
  {system : System}

theorem System.step_draining {next : System} {connection : Connection}
    {decoder rest : FrameDecoder} {clock : Nat}
    (found : system.connections connId = some connection)
    (draining : connection.phase = .draining decoder)
    (decoded : decoder.tryNext hub.norito = (.ok (some frame), rest))
    (stepped : system.step hub (.advance connId clock) = some next) :
    system.event (.advance connId clock) = none ∧
      next = system.setPhase connId connection (.handling rest (handleFrame hub connId frame)) := by
  have silent : system.event (.advance connId clock) = none := by
    simp [System.event, found, draining, System.phaseOperation?]
  obtain ⟨moved, possible, rfl⟩ := Option.map_eq_some_iff.mp stepped
  simp only [System.moved, found, draining, System.advanced, decoded, Option.map_some] at possible
  cases possible
  rw [silent]
  exact ⟨rfl, rfl⟩

theorem Run.stepped (run : Run hub history system) {next : System} {move : Move}
    (stepped : system.step hub move = some next) :
    Run hub ((system.event move).toList ++ history) next :=
  Machine.Run.step move run stepped

theorem Handling.run (handling : Handling hub connId frame start history system) :
    Run hub history system := by
  induction handling with
  | begins run found draining decoded stepped =>
      have later := run.stepped stepped
      rw [(System.step_draining found draining decoded stepped).1] at later
      exact later
  | goesOn _ stepped _ _ run => exact run.stepped stepped

/-- What a step does to a connection whose task is handling a frame: it is a step of the
handler, or it leaves the task and its history alone. -/
theorem System.step_handling {next : System} {move : Move} {connection : Connection}
    {decoder : FrameDecoder} {handler : Handler Unit}
    (stepped : system.step hub move = some next)
    (found : system.connections connId = some connection)
    (phase : connection.phase = .handling decoder handler) :
    ∃ after, next.connections connId = some after ∧
      ((∃ clock, move = .advance connId clock ∧
        System.advanced hub connId clock system.shared connection.phase = some after.phase) ∨
      after.phase = .handling decoder handler ∧ ∀ event, system.event move = some event →
        event.connId ≠ connId ∨ event.task ≠ .connection) := by
  obtain ⟨after, present, step⟩ := System.connectionStep stepped found
  refine ⟨after, present, ?_⟩
  cases step with
  | elsewhere foreign =>
      exact .inr ⟨phase, fun event made => (foreign event made).imp_right And.left⟩
  | received receiving =>
      rw [phase] at receiving
      cases receiving
  | @advanced clock _ advanced => exact .inl ⟨clock, rfl, advanced⟩
  | writerEnded ended =>
      rw [phase] at ended
      cases ended
  | ticked => exact .inr ⟨phase, fun _ made => by cases made⟩
  | billed =>
      refine .inr ⟨phase, fun event made => .inr ?_⟩
      obtain ⟨_, _, rfl⟩ := Option.map_eq_some_iff.mp made
      exact nofun

/-- The handler meets its contract, and everything it has done since it began was
admitted. -/
structure Handling.Kept (hub : HubState) (connId : ConnId)
    (admits : List Event → Operation → HubRoom → Prop) (start since : List Event)
    (system : System) : Prop where
  phase : ∃ connection decoder handler, system.connections connId = some connection ∧
    connection.phase = .handling decoder handler ∧
      handler.Meets (ownContract hub connId admits) (fun _ _ => True)
        (worldOf connId .connection since system.shared)
  admitted : ∀ newer event older, since = newer ++ event :: older →
    event.connId = connId → event.task = .connection →
      admits (own connId .connection older) event.op event.before

variable {admits : List Event → Operation → HubRoom → Prop} {since : List Event}

theorem Handling.Kept.cons (kept : Handling.Kept hub connId admits start since system)
    {latest : Event} (allowed : latest.connId = connId → latest.task = .connection →
      admits (own connId .connection since) latest.op latest.before)
    (newer : List Event) (event : Event) (older : List Event)
    (split : latest :: since = newer ++ event :: older) (same : event.connId = connId)
    (task : event.task = .connection) :
    admits (own connId .connection older) event.op event.before := by
  cases newer with
  | nil =>
      obtain ⟨rfl, rfl⟩ := List.cons.inj split
      exact allowed same task
  | cons head rest => exact kept.admitted rest event older (List.cons.inj split).2 same task

theorem Handling.Kept.goesOn (kept : Handling.Kept hub connId admits start since system)
    {next : System} {move : Move} {connection : Connection}
    (stepped : system.step hub move = some next)
    (found : next.connections connId = some connection)
    (handling : connection.phase.isHandling = true) :
    Handling.Kept hub connId admits start ((system.event move).toList ++ since) next := by
  obtain ⟨earlier, decoder, handler, known, phase, meets⟩ := kept.phase
  obtain ⟨after, present, reached⟩ := System.step_handling stepped known phase
  rw [present] at found
  cases found
  rcases reached with ⟨clock, rfl, advanced⟩ | ⟨stays, foreign⟩
  · have made : system.event (.advance connId clock) =
        handler.operation?.map fun op => ⟨connId, .connection, op, system.shared⟩ := by
      rw [event_advance known, phase]
      rfl
    rw [phase] at advanced
    cases handler with
    | done | fail =>
        rw [← Option.some.inj advanced] at handling
        cases handling
    | ask rest =>
        rw [show system.event (.advance connId clock) = none from made]
        exact ⟨⟨connection, decoder, _, present, (Option.some.inj advanced).symm,
          Process.Meets.stable (meets clock) rfl⟩, kept.admitted⟩
    | atomic op rest =>
        obtain ⟨admitted, remains⟩ := meets _ rfl
        rw [show system.event (.advance connId clock) =
          some ⟨connId, .connection, op, system.shared⟩ from made]
        refine ⟨⟨connection, decoder, _, present, (Option.some.inj advanced).symm,
          Process.Meets.stable remains ?_⟩, kept.cons fun _ _ => admitted⟩
        exact own_cons_self connId .connection op system.shared since
  · refine ⟨⟨connection, decoder, handler, present, stays,
      Process.Meets.stable meets (own_elsewhere foreign)⟩, ?_⟩
    cases made : system.event move with
    | none => exact kept.admitted
    | some event =>
        refine kept.cons fun owns task => ?_
        rcases foreign event made with other | other
        · exact absurd owns other
        · exact absurd task other

/-- A handler that admits only what its own past since the beginning allows. -/
theorem Handling.kept (handling : Handling hub connId frame start history system)
    (serves : ∀ shared, (handleFrame hub connId frame).Meets (ownContract hub connId admits)
      (fun _ _ => True) ⟨shared, []⟩) :
    ∃ since, history = since ++ start ∧ Handling.Kept hub connId admits start since system := by
  induction handling with
  | @begins system _ connection decoder rest clock run found draining decoded stepped =>
      obtain ⟨_, rfl⟩ := System.step_draining found draining decoded stepped
      refine ⟨[], rfl, ⟨{ connection with phase := .handling rest (handleFrame hub connId frame) },
        rest, _, ?_, rfl, serves _⟩, ?_⟩
      · simp [System.setPhase, System.setConnection]
      · intro newer event older split
        cases newer <;> cases split
  | goesOn _ stepped found phase ih =>
      obtain ⟨since, rfl, kept⟩ := ih
      exact ⟨_, (List.append_assoc ..).symm, kept.goesOn stepped found phase⟩

/-- The next operation of the handler is admitted. -/
theorem Handling.Kept.next (kept : Handling.Kept hub connId admits start since system)
    {clock : Nat} {event : Event} (made : system.event (.advance connId clock) = some event) :
    event.connId = connId ∧ event.task = .connection ∧ event.before = system.shared ∧
      admits (own connId .connection since) event.op event.before := by
  obtain ⟨connection, decoder, handler, known, phase, meets⟩ := kept.phase
  rw [event_advance known, phase] at made
  obtain ⟨op, performs, rfl⟩ := Option.map_eq_some_iff.mp made
  exact ⟨rfl, rfl, rfl, (meets.resume_atomic performs clock).1⟩

theorem Handling.Kept.possible (kept : Handling.Kept hub connId admits start since system)
    {clock : Nat} {event : Event} (made : system.event (.advance connId clock) = some event) :
    ∃ next, system.step hub (.advance connId clock) = some next := by
  obtain ⟨connection, decoder, handler, known, phase, _⟩ := kept.phase
  rw [event_advance known, phase] at made
  cases handler with
  | atomic op rest =>
      unfold System.step System.moved
      simp only [known, phase, System.advanced, Option.map_some]
      exact ⟨_, rfl⟩
  | done | fail | ask => cases made

theorem System.connections_setConnection (system : System) (target other : ConnId)
    (connection : Connection) : (system.setConnection target connection).connections other =
      if other = target then some connection else system.connections other := rfl

/-- How the task of a connection came to handle a frame: it was handling it before the
step, or it has just decoded it. -/
theorem System.step_toHandling {next : System} {move : Move} {connection : Connection}
    (stepped : system.step hub move = some next)
    (found : next.connections connId = some connection)
    (handling : connection.phase.isHandling = true) :
    (∃ earlier, system.connections connId = some earlier ∧ earlier.phase.isHandling = true) ∨
      ∃ clock earlier decoder frame rest, move = .advance connId clock ∧
        system.connections connId = some earlier ∧ earlier.phase = .draining decoder ∧
          decoder.tryNext hub.norito = (.ok (some frame), rest) := by
  cases known : system.connections connId with
  | none =>
      rcases System.birthStep stepped known with ⟨unused, _⟩ | ⟨_, _, born⟩
      · rw [unused] at found
        cases found
      · rw [born] at found
        cases found
        cases handling
  | some earlier =>
      obtain ⟨after, present, step⟩ := System.connectionStep stepped known
      rw [present] at found
      cases found
      cases step with
      | elsewhere | ticked | billed => exact .inl ⟨_, rfl, handling⟩
      | @received _ message => cases message <;> cases handling
      | writerEnded => cases handling
      | @advanced clock _ advanced =>
          cases before : earlier.phase with
          | draining decoder =>
              rw [before] at advanced
              simp only [System.advanced] at advanced
              split at advanced
              · cases advanced
                cases handling
              · cases advanced
                cases handling
              · next frame rest decoded =>
                  exact .inr ⟨clock, earlier, decoder, frame, rest, rfl, rfl, before, decoded⟩
          | handling => exact .inl ⟨earlier, rfl, by rw [before]; rfl⟩
          | disconnecting handler =>
              rw [before] at advanced
              cases handler <;> cases advanced <;> cases handling
          | receiving | ended | returned =>
              rw [before] at advanced
              cases advanced

/-- Every handler that is under way handles some frame since some moment. -/
theorem Run.handling (run : Run hub history system) {connection : Connection}
    (found : system.connections connId = some connection)
    (phase : connection.phase.isHandling = true) :
    ∃ frame start, Handling hub connId frame start history system := by
  refine Machine.Run.invariant (fun history system => ∀ connection,
    system.connections connId = some connection → connection.phase.isHandling = true →
      ∃ frame start, Handling hub connId frame start history system) ?_ ?_ run connection
        found phase
  · exact fun _ impossible => by cases impossible
  · intro history system move next earlier ih stepped connection found phase
    have stepped : system.step hub move = some next := stepped
    rcases System.step_toHandling stepped found phase with
      ⟨current, present, handling⟩ |
      ⟨clock, current, decoder, frame, rest, rfl, present, draining, decoded⟩
    · obtain ⟨frame, start, here⟩ := ih current present handling
      exact ⟨frame, start, here.goesOn stepped found phase⟩
    · refine ⟨frame, history, ?_⟩
      have begun := Handling.begins earlier present draining decoded stepped
      change Handling hub connId frame history
        ((system.event (.advance connId clock)).toList ++ history) next
      rw [(System.step_draining present draining decoded stepped).1]
      exact begun

/-- Play the moves as long as the task of the connection handles its frame. -/
def playedHandling (hub : HubState) (connId : ConnId) :
    List Move → List Event → System → Option (List Event × System)
  | [], history, system => some (history, system)
  | move :: rest, history, system =>
      match system.step hub move with
      | none => none
      | some next =>
          if (next.connections connId).any (·.phase.isHandling) then
            playedHandling hub connId rest ((system.event move).toList ++ history) next
          else none

theorem Handling.played (moves : List Move) {final : List Event} {last : System}
    (handling : Handling hub connId frame start history system)
    (plays : playedHandling hub connId moves history system = some (final, last)) :
    Handling hub connId frame start final last := by
  induction moves generalizing history system with
  | nil =>
      cases plays
      exact handling
  | cons move rest ih =>
      unfold playedHandling at plays
      cases stepped : system.step hub move with
      | none =>
          rw [stepped] at plays
          cases plays
      | some next =>
          rw [stepped] at plays
          dsimp only at plays
          split at plays
          · next handles =>
              obtain ⟨connection, found, phase⟩ := Option.any_eq_true .. |>.mp handles
              exact ih (handling.goesOn stepped found phase) plays
          · cases plays

/-- The frame that a connection is about to handle. -/
def System.frame? (hub : HubState) (connId : ConnId) (system : System) : Option KaigiFrame :=
  (system.connections connId).bind fun connection =>
    match connection.phase with
    | .draining decoder =>
        match decoder.tryNext hub.norito with
        | (.ok frame, _) => frame
        | _ => none
    | _ => none

/-- A script that brings a connection to a frame, and then goes on while it is handled. -/
def handlingScript (hub : HubState) (connId : ConnId) (before after : List Move) :
    Option (KaigiFrame × List Event × List Event × System) :=
  (played hub before).bind fun (start, system) =>
    (system.frame? hub connId).bind fun frame =>
      (system.step hub (.advance connId 0)).bind fun next =>
        (playedHandling hub connId after start next).map fun (history, last) =>
          (frame, start, history, last)

theorem Handling.of_script (hub : HubState) (connId : ConnId) (before after : List Move)
    (check : KaigiFrame → List Event → List Event → System → Bool)
    (plays : (handlingScript hub connId before after).any (fun (frame, start, history, system) =>
      check frame start history system) = true) :
    ∃ frame start history system, Handling hub connId frame start history system ∧
      check frame start history system = true := by
  obtain ⟨⟨frame, start, history, last⟩, made, checks⟩ := (Option.any_eq_true ..).mp plays
  obtain ⟨⟨begun, system⟩, arrives, made⟩ := Option.bind_eq_some_iff.mp made
  obtain ⟨next, decodes, made⟩ := Option.bind_eq_some_iff.mp made
  obtain ⟨moved, stepped, made⟩ := Option.bind_eq_some_iff.mp made
  obtain ⟨⟨final, reached⟩, goes, same⟩ := Option.map_eq_some_iff.mp made
  cases same
  refine ⟨frame, start, history, last, ?_, checks⟩
  obtain ⟨connection, found, decodes⟩ := Option.bind_eq_some_iff.mp decodes
  have run : Run hub start system := Machine.Run.execute .initial arrives
  split at decodes
  · next decoder draining =>
      split at decodes
      · next decoded rest tried =>
          cases decodes
          exact (Handling.begins run found draining tried stepped).played after goes
      · cases decodes
  · cases decodes

end Kaigi.Hub
