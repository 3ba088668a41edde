import Kaigi.Client.Hex
import Kaigi.Hub.BillingTask
import Kaigi.Hub.KeyBinding

/-!
# Hexadecimal texts in relayed frames

The hub checks the keys, nonces and ciphertexts of an anonymous room with a prefix cut
off, and relays them as they came. The clients decode them as they are.
-/

set_option autoImplicit false

namespace Kaigi.Hub

open Collections Wire Interleaving Client

/-! ### Texts of a frame -/

/-- The X25519 keys that the receivers of a frame decode. -/
def keyTexts : KaigiFrame → List String
  | .anonRoster roster => roster.participants.map (·.x25519PubkeyHex)
  | .groupKeyUpdate update =>
      if update.x25519PubkeyHex = "" then [] else [update.x25519PubkeyHex]
  | _ => []

def nonceTexts : KaigiFrame → List String
  | .encryptedControl enc => enc.payloads.map (·.nonceHex)
  | .anonEncryptedPayload enc => [enc.nonceHex]
  | _ => []

def ciphertextTexts : KaigiFrame → List String
  | .encryptedControl enc => enc.payloads.map (·.ciphertextHex)
  | .anonEncryptedPayload enc => [enc.ciphertextHex]
  | _ => []

def wrapTexts : KaigiFrame → List String
  | .anonGroupKeyRotate rotate => [rotate.keyWrapHex]
  | _ => []

/-- The clients can read every key, nonce and ciphertext in the frame. -/
structure Decodes (frame : KaigiFrame) : Prop where
  keys : ∀ text ∈ keyTexts frame, (decodeHex32 text).isSome = true
  nonces : ∀ text ∈ nonceTexts frame, ∃ bytes, decodeHexVec text = some bytes ∧ bytes.length = 24
  ciphertexts : ∀ text ∈ ciphertextTexts frame, (decodeHexVec text).isSome = true

/-- No text in the frame has a prefix `0x` or `0X`. -/
structure Bare (frame : KaigiFrame) : Prop where
  keys : ∀ text ∈ keyTexts frame, stripHexPrefix text = text
  nonces : ∀ text ∈ nonceTexts frame, stripHexPrefix text = text
  ciphertexts : ∀ text ∈ ciphertextTexts frame, stripHexPrefix text = text

/-- Every text in the frame passes the check of the hub, or the hub has written it. -/
structure HexChecked (frame : KaigiFrame) : Prop where
  keys : ∀ text ∈ keyTexts frame, isValidHexLen text 32 = true
  nonces : ∀ text ∈ nonceTexts frame, isValidHexLen text 24 = true
  ciphertexts : ∀ text ∈ ciphertextTexts frame, isValidHex text = true
  wraps : ∀ text ∈ wrapTexts frame, ∃ bytes, text = hexEncode bytes

theorem decodeHexVec_of_isValidHexLen {text : String} {length : Nat}
    (valid : isValidHexLen text length = true) :
    (∃ bytes, decodeHexVec text = some bytes ∧ bytes.length = length) ↔
      stripHexPrefix text = text := by
  obtain ⟨size, checked⟩ := Bool.and_eq_true_iff.mp valid
  rw [← isSome_decodeHexVec checked, Option.isSome_iff_exists]
  refine exists_congr fun bytes => and_iff_left_of_imp fun decoded => ?_
  have counted := length_of_decodeHexVec checked decoded
  rw [eq_of_beq size] at counted
  exact (Nat.mul_right_cancel (by decide) counted).symm

theorem decodeHex32_of_isValidHexLen {text : String} (valid : isValidHexLen text 32 = true) :
    (decodeHex32 text).isSome = true ↔ stripHexPrefix text = text := by
  rw [← decodeHexVec_of_isValidHexLen valid, Option.isSome_iff_exists]
  simp [decodeHex32, decodeHexVec, Option.filter_eq_some_iff]

theorem decodeHexVec_of_isValidHex {text : String} (valid : isValidHex text = true) :
    (decodeHexVec text).isSome = true ↔ stripHexPrefix text = text :=
  isSome_decodeHexVec (Bool.and_eq_true_iff.mp valid).2

/-- What the hub has checked decodes exactly when it is bare. -/
theorem HexChecked.decodes_iff {frame : KaigiFrame} (checked : HexChecked frame) :
    Decodes frame ↔ Bare frame := by
  have keys := fun text member => decodeHex32_of_isValidHexLen (checked.keys text member)
  have nonces := fun text member => decodeHexVec_of_isValidHexLen (checked.nonces text member)
  have ciphertexts := fun text member =>
    decodeHexVec_of_isValidHex (checked.ciphertexts text member)
  constructor
  · exact fun decodes => ⟨fun text member => (keys text member).mp (decodes.keys text member),
      fun text member => (nonces text member).mp (decodes.nonces text member),
      fun text member => (ciphertexts text member).mp (decodes.ciphertexts text member)⟩
  · exact fun bare => ⟨fun text member => (keys text member).mpr (bare.keys text member),
      fun text member => (nonces text member).mpr (bare.nonces text member),
      fun text member => (ciphertexts text member).mpr (bare.ciphertexts text member)⟩

/-- Most frames have no such text. -/
theorem hexChecked_of_plain {frame : KaigiFrame} (plain : carriesHex frame = false) :
    HexChecked frame := by
  have empty : keyTexts frame = [] ∧ nonceTexts frame = [] ∧ ciphertextTexts frame = [] ∧
      wrapTexts frame = [] := by
    cases frame with
    | anonRoster | groupKeyUpdate | encryptedControl | anonEncryptedPayload
    | anonGroupKeyRotate => cases plain
    | _ => exact ⟨rfl, rfl, rfl, rfl⟩
  obtain ⟨keys, nonces, ciphertexts, wraps⟩ := empty
  exact ⟨by simp [keys], by simp [nonces], by simp [ciphertexts], by simp [wraps]⟩

theorem hexChecked_groupKeyUpdate {update : GroupKeyUpdateFrame}
    (valid : update.x25519PubkeyHex = "" ∨ isValidHexLen update.x25519PubkeyHex 32 = true) :
    HexChecked (.groupKeyUpdate update) := by
  refine ⟨fun text member => ?_, List.forall_mem_nil _, List.forall_mem_nil _,
    List.forall_mem_nil _⟩
  simp only [keyTexts] at member
  split at member
  · exact absurd member List.not_mem_nil
  · next given =>
      rw [List.mem_singleton.mp member]
      exact valid.resolve_left given

theorem hexChecked_empty (atMs : Nat) : HexChecked (.anonRoster ⟨atMs, []⟩) :=
  ⟨List.forall_mem_nil _, List.forall_mem_nil _, List.forall_mem_nil _, List.forall_mem_nil _⟩

theorem hexChecked_anonGroupKeyRotate (hub : HubState) (room : RoomState) (nowMs : Nat) :
    HexChecked (.anonGroupKeyRotate (buildAnonGroupKeyRotateFrame hub room nowMs).2) :=
  ⟨List.forall_mem_nil _, List.forall_mem_nil _, List.forall_mem_nil _,
    List.forall_mem_singleton.mpr ⟨_, rfl⟩⟩

theorem validateGroupKeyUpdateFrame_key {update : GroupKeyUpdateFrame}
    (passed : validateGroupKeyUpdateFrame update = none) :
    isValidHexLen update.x25519PubkeyHex 32 = true := by
  have rest := (Option.or_eq_none_iff.mp passed).2
  split at rest
  · cases rest
  · next valid =>
      rw [Bool.not_eq_true, Bool.not_eq_false'] at valid
      exact valid

theorem groupKeyUpdateSection_valid {room : RoomState} {connId : ConnId}
    {update : GroupKeyUpdateFrame}
    (relays : (groupKeyUpdateSection room connId update).2 = .relay) :
    isValidHexLen update.x25519PubkeyHex 32 = true := by
  unfold groupKeyUpdateSection at relays
  split at relays
  · cases relays
  · split at relays
    · cases relays
    · next passed => exact validateGroupKeyUpdateFrame_key passed

theorem validateEncryptedPayloads_hex {payloads : List EncryptedRecipientPayload}
    {recipients : List String} (passed : validateEncryptedPayloads payloads recipients = none) :
    ∀ payload ∈ payloads, isValidHexLen payload.nonceHex 24 = true ∧
      isValidHex payload.ciphertextHex = true := by
  induction payloads generalizing recipients with
  | nil => exact List.forall_mem_nil _
  | cons head rest ih =>
      obtain ⟨first, others⟩ := Option.or_eq_none_iff.mp passed
      intro payload member
      obtain rfl | member := List.mem_cons.mp member
      · unfold validateEncryptedRecipientPayload at first
        simp only [ite_eq_iff, reduceCtorEq, and_false, false_or, and_true, Bool.or_eq_true,
          Bool.not_eq_true', not_or, Bool.not_eq_false] at first
        exact ⟨first.1.1.2, first.2.2.2.2.2.1⟩
      · exact ih others payload member

/-! ### Events -/

/-- The event finds or leaves a room with this roster. -/
def Event.rosters (hub : HubState) (event : Event) (roster : AnonRosterFrame) : Prop :=
  ∃ room atMs, (event.before.room = some room ∨ (event.after hub).room = some room) ∧
    roster = anonRosterFrameLocked room atMs

/-- The frame was checked, or it is a roster of what the room has. -/
inductive HexSourced (hub : HubState) (past : List Event) : KaigiFrame → Prop where
  | checked {frame : KaigiFrame} : (∀ roster, frame ≠ .anonRoster roster) → HexChecked frame →
      HexSourced hub past frame
  | empty (atMs : Nat) : HexSourced hub past (.anonRoster ⟨atMs, []⟩)
  | listed {roster : AnonRosterFrame} {event : Event} : event ∈ past →
      event.rosters hub roster → HexSourced hub past (.anonRoster roster)

/-- The key of a hello is checked before the lock is taken, every other text under it. -/
def HexAdmitted (hub : HubState) (past : List Event) (op : Operation) (_ : HubRoom) : Prop :=
  (∀ hello nowMs rosterAtMs, op = .anonHello hello nowMs rosterAtMs →
    isValidHexLen hello.x25519PubkeyHex 32 = true) ∧
  ∀ frame, op.frame? = some frame → HexSourced hub past frame

section Handlers

variable {hub : HubState} {connId : ConnId} {world : World} {Value : Type}

theorem hexAdmitted_of_frame {op : Operation} {past : List Event} {frame : KaigiFrame}
    (carried : op.frame? = some frame) (sourced : HexSourced hub past frame) (state : HubRoom) :
    HexAdmitted hub past op state := by
  refine ⟨fun hello nowMs rosterAtMs same => ?_, fun other same => ?_⟩
  · rw [same] at carried
    cases carried
  · rw [carried] at same
    cases same
    exact sourced

theorem hexAdmitted_silent {op : Operation} (silent : op.frame? = none)
    (other : ∀ hello nowMs rosterAtMs, op ≠ .anonHello hello nowMs rosterAtMs)
    (past : List Event) (state : HubRoom) : HexAdmitted hub past op state := by
  refine ⟨fun hello nowMs rosterAtMs same => absurd same (other _ _ _), fun frame carried => ?_⟩
  rw [silent] at carried
  cases carried

theorem hexAdmitted_of_plain {op : Operation} (plain : op.isPlain = true) (past : List Event)
    (state : HubRoom) : HexAdmitted hub past op state := by
  obtain ⟨plumbing, bare⟩ := Bool.and_eq_true_iff.mp plain
  refine ⟨fun hello nowMs rosterAtMs same => ?_, fun frame carried => ?_⟩
  · rw [same] at plumbing
    cases plumbing
  · rw [carried] at bare
    have unmarked : carriesHex frame = false := by simpa using bare
    refine .checked (fun roster same => ?_) (hexChecked_of_plain unmarked)
    rw [same] at unmarked
    cases unmarked

theorem meets_plain {program : Handler Value}
    (performs : program.Performs fun op => op.isPlain = true) (world : World) :
    program.Meets (ownContract hub connId (HexAdmitted hub)) (fun _ _ => True) world :=
  meets_of_performs performs (fun _ => hexAdmitted_of_plain) world

/-- The operation may be performed at any time after the event. -/
def HexFollows (hub : HubState) (event : Event) (op : Operation) : Prop :=
  ∀ past state, event ∈ past → HexAdmitted hub past op state

theorem hexFollows_of_plain {event : Event} {op : Operation} (plain : op.isPlain = true) :
    HexFollows hub event op :=
  fun past state _ => hexAdmitted_of_plain plain past state

theorem relays_sourced {event : Event} {frame : KaigiFrame}
    (sourced : ∀ past, event ∈ past → HexSourced hub past frame) :
    Relays (HexFollows hub event) frame :=
  ⟨fun past state happened => hexAdmitted_of_frame rfl (sourced past happened) state,
    fun _ past state happened => hexAdmitted_of_frame rfl (sourced past happened) state⟩

theorem relays_checked {event : Event} {frame : KaigiFrame}
    (other : ∀ roster, frame ≠ .anonRoster roster) (checked : HexChecked frame) :
    Relays (HexFollows hub event) frame :=
  relays_sourced fun _ _ => .checked other checked

theorem relays_roster {event : Event} {roster : AnonRosterFrame}
    (lists : event.rosters hub roster) : Relays (HexFollows hub event) (.anonRoster roster) :=
  relays_sourced fun _ happened => .listed happened lists

theorem meets_refused (message : String) (world : World) :
    (sendError hub connId message).Meets (ownContract hub connId (HexAdmitted hub))
      (fun _ _ => True) world :=
  meets_plain (performs_reports (fun _ => id) connId message) world

theorem meets_handleAnonHello_hex (hello : AnonHelloFrame) :
    (handleAnonHello hub connId hello).Meets (ownContract hub connId (HexAdmitted hub))
      (fun _ _ => True) world := by
  unfold handleAnonHello
  split
  · exact meets_refused _ world
  · split
    · exact meets_refused _ world
    · next valid =>
        rw [Bool.not_eq_true, Bool.not_eq_false'] at valid
        refine meets_nowMs fun now => meets_nowMs fun rosterAtMs =>
          meets_critical fun state => ⟨⟨?_, fun _ none => by cases none⟩, ?_⟩
        · intro other otherNow otherAt same
          cases same
          exact valid
        cases found : state.room with
        | none => exact fun _ _ => trivial
        | some room =>
            rw [Option.map_some, Option.getD_some]
            have left : (Event.after hub ⟨connId, .connection, .anonHello hello now rosterAtMs,
                state⟩).room = some (anonHelloSection hub room connId hello now rosterAtMs).1 :=
              Option.map_eq_some_iff.mpr ⟨room, found, rfl⟩
            have step := anonHelloSection_cases hub room connId hello now rosterAtMs
            revert left step
            generalize anonHelloSection hub room connId hello now rosterAtMs = result
            intro left step
            cases step with
            | @refused after outcome _ _ none =>
                cases outcome with
                | ignored => exact fun _ _ => trivial
                | rejected message => exact meets_refused message _
                | accepted => exact absurd rfl (none _ _ _)
            | announced =>
                have plumbing : Plumbing (HexFollows hub
                    ⟨connId, .connection, .anonHello hello now rosterAtMs, state⟩) :=
                  plumbing_of_every fun _ => hexFollows_of_plain
                have lists : (⟨connId, .connection, .anonHello hello now rosterAtMs, state⟩ :
                    Event).rosters hub _ := ⟨_, rosterAtMs, .inr left, rfl⟩
                exact meets_after (performs_bind
                  (performs_sendFrameTo plumbing ((relays_roster lists).send connId)) fun _ =>
                    performs_bind (performs_broadcastFrame plumbing
                      (relays_checked (fun _ same => by cases same)
                        (hexChecked_groupKeyUpdate (.inr valid)))) fun _ =>
                        performs_broadcastFrame plumbing
                          (relays_checked (fun _ same => by cases same)
                            (hexChecked_anonGroupKeyRotate _ _ _)))
                  (fun _ follows => follows) List.mem_cons_self

/-- A relay fans out only what its section has checked. -/
theorem meets_relay {op : Operation} {frame : KaigiFrame}
    {outcomeOf : Option RoomState → RelayOutcome}
    (admitted : ∀ past state, HexAdmitted hub past op state)
    (other : ∀ roster, frame ≠ .anonRoster roster)
    (checks : ∀ room, outcomeOf room = .relay → HexChecked frame) :
    (critical op outcomeOf >>= fun outcome => afterRelay hub connId outcome frame).Meets
      (ownContract hub connId (HexAdmitted hub)) (fun _ _ => True) world := by
  refine meets_critical fun state => ⟨admitted world.own state, ?_⟩
  cases outcome : outcomeOf state.room with
  | nothing => exact fun _ _ => trivial
  | refused message => exact meets_refused message _
  | relay =>
      exact meets_after (performs_broadcastFrame (plumbing_of_every fun _ => hexFollows_of_plain)
        (relays_checked other (checks _ outcome))) (fun _ follows => follows) List.mem_cons_self

theorem meets_handleGroupKeyUpdate_hex (update : GroupKeyUpdateFrame) :
    (handleGroupKeyUpdate hub connId update).Meets (ownContract hub connId (HexAdmitted hub))
      (fun _ _ => True) world := by
  refine meets_relay (hexAdmitted_silent rfl fun _ _ _ same => by cases same)
    (fun _ same => by cases same) fun room relays => ?_
  cases room with
  | none => cases relays
  | some room =>
      exact hexChecked_groupKeyUpdate (.inr (groupKeyUpdateSection_valid relays))

theorem meets_handleEncryptedControl_hex (enc : EncryptedControlFrame) :
    (handleEncryptedControl hub connId enc).Meets (ownContract hub connId (HexAdmitted hub))
      (fun _ _ => True) world := by
  refine meets_relay (fun _ => hexAdmitted_of_plain rfl _) (fun _ same => by cases same)
    fun room relays => ?_
  cases room with
  | none => cases relays
  | some room =>
      change encryptedControlOutcome room connId enc = .relay at relays
      unfold encryptedControlOutcome at relays
      split at relays
      · cases relays
      · split at relays
        · cases relays
        · next passed =>
            have hex :=
              validateEncryptedPayloads_hex (validateEncryptedControlFrame_payloads passed)
            refine ⟨List.forall_mem_nil _, ?_, ?_, List.forall_mem_nil _⟩
            · exact List.forall_mem_map.mpr fun payload member => (hex payload member).1
            · exact List.forall_mem_map.mpr fun payload member => (hex payload member).2

theorem meets_handleAnonEncryptedPayload_hex (enc : AnonEncryptedPayloadFrame) :
    (handleAnonEncryptedPayload hub connId enc).Meets
      (ownContract hub connId (HexAdmitted hub)) (fun _ _ => True) world := by
  refine meets_relay (fun _ => hexAdmitted_of_plain rfl _) (fun _ same => by cases same)
    fun room relays => ?_
  cases room with
  | none => cases relays
  | some room =>
      change anonEncryptedPayloadOutcome room connId enc = .relay at relays
      unfold anonEncryptedPayloadOutcome at relays
      split at relays
      · cases relays
      · split at relays
        · cases relays
        · next nonce =>
            split at relays
            · cases relays
            · next ciphertext =>
                rw [Bool.not_eq_true, Bool.not_eq_false'] at nonce ciphertext
                exact ⟨List.forall_mem_nil _, List.forall_mem_singleton.mpr nonce,
                  List.forall_mem_singleton.mpr ciphertext, List.forall_mem_nil _⟩

theorem meets_announceAnonymousLeave_hex (handle : Option String) :
    (announceAnonymousLeave hub handle).Meets (ownContract hub connId (HexAdmitted hub))
      (fun _ _ => True) world := by
  refine meets_nowMs fun rosterAtMs => meets_critical fun state =>
    ⟨hexAdmitted_of_plain rfl _ state, ?_⟩
  have plumbing : Plumbing (HexFollows hub ⟨connId, .connection, .read, state⟩) :=
    plumbing_of_every fun _ => hexFollows_of_plain
  have rotate : (rotateGroupKey hub).Performs
      (HexFollows hub ⟨connId, .connection, .read, state⟩) := performs_announceRotate plumbing
    (fun _ past state _ => hexAdmitted_silent rfl (fun _ _ _ same => by cases same) past state)
    fun room nowMs => relays_checked (fun _ same => by cases same)
      (hexChecked_anonGroupKeyRotate hub room nowMs)
  refine meets_after (performs_bind (performs_broadcastFrame plumbing ?_) fun _ => ?_)
    (fun _ follows => follows) List.mem_cons_self
  · cases found : state.room with
    | none => exact relays_sourced fun _ _ => .empty rosterAtMs
    | some room => exact relays_roster ⟨room, rosterAtMs, .inl found, rfl⟩
  · cases handle with
    | none => exact rotate
    | some handle =>
        exact performs_bind performs_nowMs fun _ =>
          performs_bind (performs_broadcastFrame plumbing
            (relays_checked (fun _ same => by cases same)
              (hexChecked_groupKeyUpdate (.inl rfl)))) fun _ => rotate

theorem meets_handleDisconnect_hex :
    (handleDisconnect hub connId).Meets (ownContract hub connId (HexAdmitted hub))
      (fun _ _ => True) world := by
  refine meets_nowMs fun deltaAtMs => meets_nowMs fun leftAtMs => meets_critical fun state =>
    ⟨hexAdmitted_silent rfl (fun _ _ _ same => by cases same) _ state, ?_⟩
  cases state.room with
  | none => exact fun _ _ => trivial
  | some room =>
      rw [Option.map_some]
      dsimp only
      split
      · exact fun _ _ => trivial
      · split
        · exact meets_announceAnonymousLeave_hex _
        · exact meets_plain (performs_announceLeave (fun _ => id) _) _

/-- Every connection task sends only texts that were checked. -/
def hexProtocol (hub : HubState) (connId : ConnId) : Protocol hub connId where
  admits := HexAdmitted hub
  resting _ := True
  connects _ _ := trivial
  pongs past payload state _ :=
    ⟨hexAdmitted_silent rfl (fun _ _ _ same => by cases same) past state, trivial⟩
  serves frame world _ := by
    by_cases sealed : ∃ enc, frame = .anonEncryptedPayload enc
    · obtain ⟨enc, rfl⟩ := sealed
      exact meets_handleAnonEncryptedPayload_hex enc
    cases unkeyed : announcesKeys frame with
    | false =>
        have performs : (handleFrame hub connId frame).Performs
            fun op => op.isPlain = true ∨ SectionOf frame op :=
          performs_unkeyedFrame (fun _ => .inl) unkeyed (fun enc same => absurd ⟨enc, same⟩ sealed)
            fun _ => .inr
        refine meets_of_performs performs ?_ world
        rintro op (plain | own) past state
        · exact hexAdmitted_of_plain plain past state
        · refine hexAdmitted_silent ?_ ?_ past state
          · cases own <;> rfl
          · rintro hello nowMs rosterAtMs rfl
            cases own
            cases unkeyed
    | true =>
        cases frame with
        | anonHello hello => exact meets_handleAnonHello_hex hello
        | groupKeyUpdate update => exact meets_handleGroupKeyUpdate_hex update
        | encryptedControl enc => exact meets_handleEncryptedControl_hex enc
        | _ => cases unkeyed
  leaves _ _ := meets_handleDisconnect_hex

end Handlers

/-! ### Every run -/

/-- The operation enters the key into the room, for some handle. -/
def Event.accepts (hub : HubState) (event : Event) (key : String) : Prop :=
  ∃ handle, event.op.binds hub event.connId (event.before.opened hub) = some (handle, key)

section Runs

variable {hub : HubState} {history : List Event} {system : System} {event : Event}

theorem Run.hexAdmitted (run : Run hub history system) {newer older : List Event}
    (split : history = newer ++ event :: older) (task : event.task = .connection) :
    (∃ connectedAtMs, event.op = .connect connectedAtMs) ∨
      HexAdmitted hub (own event.connId .connection older) event.op event.before :=
  ((hexProtocol hub event.connId).kept run).admitted newer event older split rfl task

/-- The keys that enter the room were checked. -/
theorem Run.accepts_valid (run : Run hub history system) (happened : event ∈ history)
    {key : String} (accepts : event.accepts hub key) : isValidHexLen key 32 = true := by
  obtain ⟨handle, binds⟩ := accepts
  obtain ⟨newer, older, split⟩ := List.append_of_mem happened
  have lawful := (split ▸ run.trace.1).lawful.2.2
  cases op : event.op with
  | anonHello hello nowMs rosterAtMs =>
      rw [op] at binds
      have task : event.task = .connection := lawful.ownTask (by rw [op]; rfl)
      have valid : isValidHexLen hello.x25519PubkeyHex 32 = true := by
        obtain ⟨_, connects⟩ | admitted := run.hexAdmitted split task
        · rw [op] at connects
          cases connects
        · exact admitted.1 hello nowMs rosterAtMs op
      simp only [Operation.binds] at binds
      split at binds
      · cases binds
        exact valid
      all_goals cases binds
  | groupKeyUpdate update =>
      rw [op] at binds
      simp only [Operation.binds] at binds
      split at binds
      · next relays =>
          cases binds
          exact groupKeyUpdateSection_valid relays
      all_goals cases binds
  | _ =>
      rw [op] at binds
      cases binds

/-- A key that the hub accepted in the history. -/
def Accepted (hub : HubState) (history : List Event) (key : String) : Prop :=
  isValidHexLen key 32 = true ∧ ∃ past ∈ history, past.accepts hub key

theorem Run.credentialed_accepted (run : Run hub history system) (newer : List Event)
    {older : List Event} (split : history = newer ++ older) :
    Credentialed (Accepted hub history) (roomAfter hub older) := by
  refine ((split ▸ run.trace.1).suffix newer).credentialed fun past member handle key binds => ?_
  have happened : past ∈ history := split ▸ List.mem_append_right newer member
  exact ⟨run.accepts_valid happened ⟨handle, binds⟩, past, happened, handle, binds⟩

theorem Credentialed.roster {usable : String → Prop} {room : RoomState}
    (credentialed : Credentialed usable room) (atMs : Nat) :
    ∀ key ∈ keyTexts (.anonRoster (anonRosterFrameLocked room atMs)), usable key := by
  intro key member
  obtain ⟨entry, listed, rfl⟩ := List.mem_map.mp member
  obtain ⟨participant, among, named⟩ :=
    List.mem_filterMap.mp ((List.mem_insertionSort _).mp listed)
  obtain ⟨connId, found⟩ := HashMap.mem_values.mp among
  cases credentialed connId participant found with
  | transparent _ unnamed =>
      rw [unnamed] at named
      cases named
  | anonymous _ _ _ handle key usable =>
      rw [handle, key] at named
      cases named
      exact usable

/-- Every roster of a room lists keys that entered it. -/
theorem Run.roster_accepted (run : Run hub history system) (happened : event ∈ history)
    {roster : AnonRosterFrame} (lists : event.rosters hub roster) :
    ∀ key ∈ keyTexts (.anonRoster roster), Accepted hub history key := by
  obtain ⟨newer, older, split⟩ := List.append_of_mem happened
  obtain ⟨room, atMs, found, rfl⟩ := lists
  obtain ⟨trace, before, _⟩ := (split ▸ run.trace.1).lawful
  obtain found | found := found
  · rw [before] at found
    have credentialed := run.credentialed_accepted (newer ++ [event])
      (by rw [split, List.append_assoc]; rfl)
    rw [roomAfter_of_some found] at credentialed
    exact credentialed.roster atMs
  · have credentialed := run.credentialed_accepted newer split
    have after : (sharedAfter hub (event :: older)).room = some room := found
    rw [roomAfter_of_some after] at credentialed
    exact credentialed.roster atMs

/-- Every text that the hub sends was checked, and the keys in a roster entered the room
before. -/
theorem Run.hexChecked (run : Run hub history system) (happened : event ∈ history)
    {frame : KaigiFrame} (carried : event.op.frame? = some frame) :
    HexChecked frame ∧ ∀ roster, frame = .anonRoster roster →
      ∀ key ∈ keyTexts frame, ∃ past ∈ history, past.accepts hub key := by
  by_cases report : ∃ notice, frame = .error notice
  · obtain ⟨notice, rfl⟩ := report
    exact ⟨hexChecked_of_plain rfl, fun _ same => by cases same⟩
  have task : event.task = .connection :=
    run.frame_task happened carried fun notice same => report ⟨notice, same⟩
  obtain ⟨newer, older, split⟩ := List.append_of_mem happened
  obtain ⟨_, connects⟩ | admitted := run.hexAdmitted split task
  · rw [connects] at carried
    cases carried
  · cases admitted.2 frame carried with
    | checked other checked => exact ⟨checked, fun roster same => absurd same (other roster)⟩
    | empty atMs =>
        exact ⟨hexChecked_empty atMs, fun _ _ => List.forall_mem_nil _⟩
    | @listed roster past member lists =>
        have earlier : past ∈ history := by
          rw [split]
          exact List.mem_append_right _ (List.mem_cons_of_mem _ (mem_own.mp member).1)
        have accepted := run.roster_accepted earlier lists
        exact ⟨⟨fun key listed => (accepted key listed).1, List.forall_mem_nil _,
          List.forall_mem_nil _, List.forall_mem_nil _⟩, fun _ _ key listed =>
            (accepted key listed).2⟩

/-- In every frame that the hub sends, the clients can read the keys, nonces and ciphertexts
exactly when none of them has a prefix. The keys in a roster are those that the hub accepted
in hellos and key updates. -/
theorem relayed_hex_decodes_iff (run : Run hub history system) (happened : event ∈ history)
    {frame : KaigiFrame} (carried : event.op.frame? = some frame) :
    (Decodes frame ↔ Bare frame) ∧ ∀ roster, frame = .anonRoster roster →
      ∀ key ∈ keyTexts frame, ∃ past ∈ history, past.accepts hub key := by
  obtain ⟨checked, accepted⟩ := run.hexChecked happened carried
  exact ⟨checked.decodes_iff, accepted⟩

end Runs

/-- Something was sent that passes the check. -/
def sentFrame (check : KaigiFrame → Bool) (history : List Event) : Bool :=
  history.any fun event => event.op.frame?.any check

theorem sentFrame_spec {check : KaigiFrame → Bool} {history : List Event}
    (sends : sentFrame check history = true) :
    ∃ event ∈ history, ∃ frame, event.op.frame? = some frame ∧ check frame = true := by
  obtain ⟨event, happened, passes⟩ := List.any_eq_true.mp sends
  obtain ⟨frame, found, holds⟩ := (Option.any_eq_true ..).mp passes
  exact ⟨event, happened, frame, found, holds⟩

theorem relayed_hex_decodes_iff_script :
    ∃ history system, Run handlesHub history system ∧ ∃ event ∈ history, ∃ frame,
      event.op.frame? = some frame ∧ keyTexts frame ≠ [] ∧ (Decodes frame ↔ Bare frame) := by
  obtain ⟨history, system, run, checks⟩ := Run.of_played handlesHub handlesScript
    (fun history _ => sentFrame (fun frame => !(keyTexts frame).isEmpty) history)
    (by decide +kernel)
  obtain ⟨event, happened, frame, carried, holds⟩ := sentFrame_spec checks
  exact ⟨history, system, run, event, happened, frame, carried, by simpa using holds,
    (relayed_hex_decodes_iff run happened carried).1⟩

/-- The fox gives its key with a prefix. -/
def prefixedHub : HubState :=
  scriptedHub [.anonHello {
    protocolVersion := protocolVersion
    participantHandle := "fox"
    x25519PubkeyHex := "0x2ab2dd3252b63515919e5a0db9207b1c7395922325c36bb2ef7bc74e4b708119" }]

def listsUnreadable : KaigiFrame → Bool
  | .anonRoster roster => (keyTexts (.anonRoster roster)).any fun key => (decodeHex32 key).isNone
  | _ => false

/-- The hub accepts the key and lists it, and no client can read it. -/
theorem relayed_hex_fails :
    ∃ history system, Run prefixedHub history system ∧ ∃ event ∈ history, ∃ roster,
      event.op.frame? = some (.anonRoster roster) ∧
      (∃ key ∈ keyTexts (.anonRoster roster), decodeHex32 key = none ∧
        ∃ past ∈ history, past.accepts prefixedHub key) ∧
      ¬ Decodes (.anonRoster roster) := by
  obtain ⟨history, system, run, checks⟩ := Run.of_played prefixedHub
    ([.connect 1 0] ++ sendsFrame 1 0 1 10)
    (fun history _ => sentFrame listsUnreadable history) (by decide +kernel)
  obtain ⟨event, happened, frame, carried, holds⟩ := sentFrame_spec checks
  cases frame with
  | anonRoster roster =>
      obtain ⟨key, listed, unreadable⟩ := List.any_eq_true.mp holds
      rw [Option.isNone_iff_eq_none] at unreadable
      refine ⟨history, system, run, event, happened, roster, carried,
        ⟨key, listed, unreadable, (run.hexChecked happened carried).2 roster rfl key listed⟩,
        fun decodes => ?_⟩
      have readable := decodes.keys key listed
      rw [unreadable] at readable
      cases readable
  | _ => cases holds

end Kaigi.Hub
