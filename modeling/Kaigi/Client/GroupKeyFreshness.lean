import Kaigi.Client.ConferenceRobustness
import Kaigi.Hub.AnonymousRoster

/-!
# Freshness of the group key

The reader of a conference takes the key of every rotation that arrives. Rotations that
the hub enqueues in the order of their epochs leave it with the newest key.
-/

set_option autoImplicit false

namespace Kaigi.Client

open Collections Wire Hub Interleaving

/-! ### The reader -/

section Reader

variable {SegmentBundle EncodedSegment AudioFrame AudioDecoder : Type}
  (libraries : MediaLibraries SegmentBundle EncodedSegment AudioFrame AudioDecoder)

/-- The loop of the reader over frames with the times at which they are handled. -/
def readConference : List (Nat × KaigiFrame) → ConferenceState → Except String ConferenceState
  | [], state => .ok state
  | (atMs, frame) :: rest, state => do
      let state ← readConferenceFrame libraries atMs state frame
      readConference rest state

/-- What rotations alone do to the group state. -/
def readRotations : List AnonGroupKeyRotateFrame → AnonGroupMediaState →
    Except String AnonGroupMediaState
  | [], group => .ok group
  | update :: rest, _ => do
      let group ← readAnonGroupKeyRotate libraries update
      readRotations rest group

def rotation? : KaigiFrame → Option AnonGroupKeyRotateFrame
  | .anonGroupKeyRotate update => some update
  | _ => none

variable {libraries}

theorem readVideoSegment_anonGroup {atMs : Nat} {state next : ConferenceState}
    {segment : VideoSegmentFrame}
    (read : readVideoSegment libraries atMs state segment = .ok next) :
    next.anonGroup = state.anonGroup := by
  unfold readVideoSegment at read
  cases decoded : decodeAsciiVideoSegment libraries segment atMs with
  | error failure =>
      rw [decoded] at read
      cases read
  | ok found =>
      rw [decoded] at read
      cases found <;> cases read <;> rfl

theorem readAudioPacket_anonGroup {atMs : Nat} {state next : ConferenceState}
    {packet : AudioPacketFrame} (read : readAudioPacket libraries atMs state packet = .ok next) :
    next.anonGroup = state.anonGroup := by
  unfold readAudioPacket at read
  cases decoded : decodeAudioLevel libraries packet with
  | error failure =>
      rw [decoded] at read
      cases read
  | ok found =>
      rw [decoded] at read
      cases found <;> cases read <;> rfl

theorem readAnonEncryptedPayload_anonGroup {atMs : Nat} {state next : ConferenceState}
    {enc : AnonEncryptedPayloadFrame}
    (read : readAnonEncryptedPayload libraries atMs state enc = .ok next) :
    next.anonGroup = state.anonGroup := by
  unfold readAnonEncryptedPayload at read
  split at read
  · cases read
    rfl
  · split at read
    · cases read
      rfl
    · next key _ _ =>
        cases opened : decryptAnonGroupPayload libraries key enc.senderHandle enc with
        | error failure =>
            rw [opened] at read
            cases read
        | ok plaintext =>
            rw [opened] at read
            change readAnonPlaintext libraries atMs state enc.kind plaintext = .ok next at read
            unfold readAnonPlaintext at read
            split at read
            · split at read
              · exact readVideoSegment_anonGroup read
              · cases read
                rfl
            · split at read
              · exact readAudioPacket_anonGroup read
              · cases read
                rfl
            · cases read
              rfl

/-- No other frame touches the group state. -/
theorem readConferenceFrame_anonGroup {atMs : Nat} {state next : ConferenceState}
    {frame : KaigiFrame} (other : rotation? frame = none)
    (read : readConferenceFrame libraries atMs state frame = .ok next) :
    next.anonGroup = state.anonGroup := by
  cases frame with
  | anonGroupKeyRotate update => cases other
  | videoSegment segment => exact readVideoSegment_anonGroup read
  | audioPacket packet => exact readAudioPacket_anonGroup read
  | anonEncryptedPayload enc => exact readAnonEncryptedPayload_anonGroup read
  | event change =>
      cases change <;>
      · cases read
        rfl
  | _ =>
      cases read
      rfl

theorem readConferenceFrame_rotation {atMs : Nat} {state next : ConferenceState}
    {frame : KaigiFrame} {update : AnonGroupKeyRotateFrame} (found : rotation? frame = some update)
    (read : readConferenceFrame libraries atMs state frame = .ok next) :
    readAnonGroupKeyRotate libraries update = .ok next.anonGroup := by
  cases frame with
  | anonGroupKeyRotate =>
      cases found
      rw [readConferenceFrame] at read
      cases derived : readAnonGroupKeyRotate libraries update with
      | error failure =>
          rw [derived] at read
          cases read
      | ok group =>
          rw [derived] at read
          cases read
          rfl
  | _ => cases found

/-- The group state of the reader is what the rotations among its frames have made of it. -/
theorem readConference_anonGroup {frames : List (Nat × KaigiFrame)} {state last : ConferenceState}
    (read : readConference libraries frames state = .ok last) :
    readRotations libraries ((frames.map (·.2)).filterMap rotation?) state.anonGroup =
      .ok last.anonGroup := by
  induction frames generalizing state with
  | nil =>
      cases read
      rfl
  | cons timed rest ih =>
      obtain ⟨atMs, frame⟩ := timed
      cases stepped : readConferenceFrame libraries atMs state frame with
      | error failure =>
          rw [readConference, stepped] at read
          cases read
      | ok next =>
          rw [readConference, stepped] at read
          have later := ih read
          rw [List.map_cons]
          cases found : rotation? frame with
          | none =>
              rw [List.filterMap_cons_none found, ← readConferenceFrame_anonGroup found stepped]
              exact later
          | some update =>
              rw [List.filterMap_cons_some found, readRotations,
                readConferenceFrame_rotation found stepped]
              exact later

end Reader

/-! ### Arrivals -/

/-- The rotations that reach a client, in the order in which they reach it. -/
def arrivals (connId : ConnId) (history : List Event) : List AnonGroupKeyRotateFrame :=
  history.reverse.filterMap fun event => (event.enqueues connId).bind rotation?

/-- The hub writes the wraps of the keys that it sends. -/
theorem arrivals_written {hub : HubState} {history : List Event} {system : System}
    (run : Run hub history system) (connId : ConnId) :
    ∀ update ∈ arrivals connId history, ∃ bytes, update.keyWrapHex = hexEncode bytes := by
  intro update member
  obtain ⟨event, among, found⟩ := List.mem_filterMap.mp member
  obtain ⟨frame, enqueued, rotates⟩ := Option.bind_eq_some_iff.mp found
  have happened := List.mem_reverse.mp among
  obtain ⟨sends, _⟩ := Event.enqueues_eq_some.mp enqueued
  cases frame with
  | anonGroupKeyRotate =>
      cases rotates
      exact (run.hexChecked happened (by rw [sends]; rfl)).1.wraps _
        (List.mem_singleton.mpr rfl)
  | _ => cases rotates

/-- The epoch does not go back, and the key is the one with the greatest epoch so far. -/
structure Fresh {SegmentBundle EncodedSegment AudioFrame AudioDecoder : Type}
    (libraries : MediaLibraries SegmentBundle EncodedSegment AudioFrame AudioDecoder)
    (updates : List AnonGroupKeyRotateFrame) : Prop where
  grows : ∀ first second, first <+: second → second <+: updates → ∀ was now,
    readRotations libraries first .default = .ok was →
    readRotations libraries second .default = .ok now → was.epoch ≤ now.epoch
  newest : ∀ first, first <+: updates → first ≠ [] → ∃ newest ∈ first,
    (∀ other ∈ first, other.epoch ≤ newest.epoch) ∧
    ∃ key, deriveAnonGroupKey libraries newest.keyWrapHex = .ok key ∧
      readRotations libraries first .default = .ok ⟨newest.epoch, some key⟩

section Orders

variable {SegmentBundle EncodedSegment AudioFrame AudioDecoder : Type}
  {libraries : MediaLibraries SegmentBundle EncodedSegment AudioFrame AudioDecoder}
  {updates : List AnonGroupKeyRotateFrame}

/-- A list is in order when every element is in order with those before it. -/
theorem pairwise_iff_initial {Item : Type} {related : Item → Item → Prop} {items : List Item} :
    items.Pairwise related ↔
      ∀ first last, first ++ [last] <+: items → ∀ other ∈ first, related other last := by
  constructor
  · intro ordered first last initial other member
    have within := ordered.sublist initial.sublist
    exact (List.pairwise_append.mp within).2.2 other member last (List.mem_singleton.mpr rfl)
  · intro holds
    induction items using List.reverseRecOn with
    | nil => exact List.Pairwise.nil
    | append_singleton items last ih =>
        refine List.pairwise_append.mpr ⟨ih fun first other initial =>
          holds first other (initial.trans (List.prefix_append _ _)),
          List.pairwise_singleton _ _, fun other member newest same => ?_⟩
        rw [List.mem_singleton.mp same]
        exact holds items last (List.prefix_refl _) other member

/-- The last rotation alone decides about the group state. -/
theorem readRotations_append {first : List AnonGroupKeyRotateFrame}
    {last : AnonGroupKeyRotateFrame} {group : AnonGroupMediaState}
    (written : ∀ update ∈ first, ∃ bytes, update.keyWrapHex = hexEncode bytes) :
    readRotations libraries (first ++ [last]) group = readAnonGroupKeyRotate libraries last := by
  induction first generalizing group with
  | nil =>
      rw [List.nil_append, readRotations]
      cases readAnonGroupKeyRotate libraries last <;> rfl
  | cons update rest ih =>
      obtain ⟨bytes, digits⟩ := written update List.mem_cons_self
      rw [List.cons_append, readRotations, readAnonGroupKeyRotate_digits digits]
      exact ih fun other member => written other (List.mem_cons_of_mem _ member)

/-- The group state is fresh exactly when the rotations arrive in the order of their epochs. -/
theorem fresh_iff (written : ∀ update ∈ updates, ∃ bytes, update.keyWrapHex = hexEncode bytes) :
    Fresh libraries updates ↔ updates.Pairwise (·.epoch ≤ ·.epoch) := by
  have reads : ∀ first last, first ++ [last] <+: updates → ∃ key,
      deriveAnonGroupKey libraries last.keyWrapHex = .ok key ∧
      readRotations libraries (first ++ [last]) .default = .ok ⟨last.epoch, some key⟩ := by
    intro first last initial
    obtain ⟨bytes, digits⟩ := written last
      (initial.subset (List.mem_append_right first (List.mem_singleton.mpr rfl)))
    refine ⟨_, deriveAnonGroupKey_digits digits, ?_⟩
    rw [readRotations_append fun update member => written update
      (initial.subset (List.mem_append_left [last] member)), readAnonGroupKeyRotate_digits digits]
  have nonempty : ∀ first : List AnonGroupKeyRotateFrame, first ≠ [] → first <+: updates →
      ∃ front last, first = front ++ [last] ∧ front ++ [last] <+: updates := by
    intro first something initial
    have rebuilt := List.dropLast_append_getLast something
    exact ⟨_, _, rebuilt.symm, rebuilt.symm ▸ initial⟩
  rw [pairwise_iff_initial]
  constructor
  · intro fresh first last initial other member
    obtain ⟨newest, _, greatest, _, _, holds⟩ := fresh.newest _ initial (by simp)
    obtain ⟨_, _, read⟩ := reads first last initial
    have same : last.epoch = newest.epoch :=
      congrArg AnonGroupMediaState.epoch (Except.ok.inj (read.symm.trans holds))
    rw [same]
    exact greatest other (List.mem_append_left _ member)
  · intro ordered
    have newest : ∀ first, first <+: updates → first ≠ [] → ∃ newest ∈ first,
        (∀ other ∈ first, other.epoch ≤ newest.epoch) ∧
        ∃ key, deriveAnonGroupKey libraries newest.keyWrapHex = .ok key ∧
          readRotations libraries first .default = .ok ⟨newest.epoch, some key⟩ := by
      intro first initial something
      obtain ⟨front, last, rfl, within⟩ := nonempty first something initial
      refine ⟨last, List.mem_append_right _ (List.mem_singleton.mpr rfl), ?_,
        reads front last within⟩
      intro other member
      obtain earlier | same := List.mem_append.mp member
      · exact ordered front last within other earlier
      · rw [List.mem_singleton.mp same]
    refine ⟨fun first second shorter initial was now readFirst readSecond => ?_, newest⟩
    by_cases started : first = []
    · rw [started] at readFirst
      cases readFirst
      exact Nat.zero_le _
    · have further : second ≠ [] := fun none => started (List.prefix_nil.mp (none ▸ shorter))
      obtain ⟨older, among, _, _, _, wasOlder⟩ := newest first (shorter.trans initial) started
      obtain ⟨newer, _, greatest, _, _, nowNewer⟩ := newest second initial further
      rw [wasOlder] at readFirst
      rw [nowNewer] at readSecond
      cases readFirst
      cases readSecond
      exact greatest older (shorter.subset among)

/-- Whatever a run puts into the queue of a client, its group state is fresh at every moment
exactly when no rotation is enqueued after one with a greater epoch. -/
theorem groupKey_fresh_iff {hub : HubState} {history : List Event} {system : System}
    (run : Run hub history system) (connId : ConnId) :
    Fresh libraries (arrivals connId history) ↔
      (arrivals connId history).Pairwise (·.epoch ≤ ·.epoch) :=
  fresh_iff (arrivals_written run connId)

end Orders

theorem pairwise_of_epochs {updates : List AnonGroupKeyRotateFrame} {epochs : List Nat}
    (same : updates.map (·.epoch) = epochs) :
    updates.Pairwise (·.epoch ≤ ·.epoch) ↔ epochs.Pairwise (· ≤ ·) := by
  rw [← same, List.pairwise_map]

/-- The rotations of two joins arrive as they were built. -/
theorem groupKey_fresh_iff_script :
    ∃ history system, Run handlesHub history system ∧
      (arrivals 1 history).map (·.epoch) = [1, 2] ∧
      Fresh lenientLibraries (arrivals 1 history) := by
  obtain ⟨history, system, run, epochs⟩ := Run.of_played handlesHub handlesScript
    (fun history _ => (arrivals 1 history).map (·.epoch) == [1, 2]) (by decide +kernel)
  have same := eq_of_beq epochs
  exact ⟨history, system, run, same,
    (groupKey_fresh_iff run 1).mpr ((pairwise_of_epochs same).mpr (by decide))⟩

def rotationsHub : HubState :=
  scriptedHub [anonHelloAs "fox", anonHelloAs "owl", anonHelloAs "elk"]

/-- The hello of the elk is handled while that of the owl is answered. -/
def overtakenRotationScript : List Move :=
  [.connect 1 0, .connect 2 0, .connect 3 0] ++ sendsFrame 1 0 1 16 ++ sendsFrame 2 1 1 4 ++
    sendsFrame 3 2 1 16 ++ List.replicate 12 (.advance 2 1)

/-- The fox is left with the key of the second rotation, after it had that of the third. -/
theorem groupKey_stale :
    ∃ history system, Run rotationsHub history system ∧
      (arrivals 1 history).map (·.epoch) = [1, 3, 2] ∧
      ¬ Fresh lenientLibraries (arrivals 1 history) := by
  obtain ⟨history, system, run, epochs⟩ := Run.of_played rotationsHub overtakenRotationScript
    (fun history _ => (arrivals 1 history).map (·.epoch) == [1, 3, 2]) (by decide +kernel)
  have same := eq_of_beq epochs
  refine ⟨history, system, run, same, fun fresh => ?_⟩
  have ordered := (fresh_iff (arrivals_written run 1)).mp fresh
  exact absurd ((pairwise_of_epochs same).mp ordered) (by decide)

end Kaigi.Client
