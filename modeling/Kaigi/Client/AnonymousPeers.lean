import Kaigi.Hub.Validation

/-!
# The peer map of an anonymous client

A client knows the X25519 keys of the others by their handles. It reads them off
the rosters and key updates that the hub sends it.
-/

set_option autoImplicit false

namespace Kaigi.Client

open Collections Wire Hub

abbrev PublicKey := List UInt8

def hexValue (digit : Char) : Nat :=
  if digit ≤ '9' then digit.toNat - '0'.toNat
  else if digit ≤ 'F' then digit.toNat - 'A'.toNat + 10
  else digit.toNat - 'a'.toNat + 10

/-- `hex::decode`: no prefix, and an even number of digits. -/
def hexDecode : List Char → Option (List UInt8)
  | [] => some []
  | [_] => none
  | high :: low :: rest =>
      if isHexDigit high && isHexDigit low then
        (hexDecode rest).map (UInt8.ofNat (16 * hexValue high + hexValue low) :: ·)
      else none

/-- `str::trim`. -/
def trim (value : String) : List Char :=
  ((value.toList.dropWhile isWhitespace).reverse.dropWhile isWhitespace).reverse

def decodeHex32 (value : String) : Option (List UInt8) :=
  (hexDecode (trim value)).filter (·.length == 32)

def decodeHexVec (value : String) : Option (List UInt8) :=
  hexDecode (trim value)

def parseX25519PubkeyHex (hexValue : String) : Option PublicKey :=
  decodeHex32 hexValue

abbrev Peers := HashMap String PublicKey

/-- What the reader shares with the command loop. -/
structure AnonLocalState where
  handle : String
  publicKey : PublicKey

/-- The peers that `run_room_chat_anonymous` starts with. -/
def initialPeers (own : AnonLocalState) : Peers :=
  (∅ : Peers).put own.handle own.publicKey

/-- One entry of a roster; an entry without a key is skipped. -/
def insertEntry (peers : Peers) (entry : AnonRosterEntry) : Peers :=
  match parseX25519PubkeyHex entry.x25519PubkeyHex with
  | some publicKey => peers.put entry.participantHandle publicKey
  | none => peers

/-- A roster replaces all peers; then the client adds itself. -/
def readAnonRoster (own : AnonLocalState) (roster : AnonRosterFrame) : Peers :=
  (roster.participants.foldl insertEntry ∅).put own.handle own.publicKey

/-- An update without a key reports that the peer has left. -/
def readGroupKeyUpdate (peers : Peers) (update : GroupKeyUpdateFrame) : Peers :=
  if update.x25519PubkeyHex = "" then peers.remove update.participantHandle
  else
    match parseX25519PubkeyHex update.x25519PubkeyHex with
    | some publicKey => peers.put update.participantHandle publicKey
    | none => peers

/-- What the reader does to the peers for a frame that the hub sends. -/
def readFrame (own : AnonLocalState) (peers : Peers) : KaigiFrame → Peers
  | .anonRoster roster => readAnonRoster own roster
  | .groupKeyUpdate update => readGroupKeyUpdate peers update
  | _ => peers

/-- The peers after `/rekey`: the client knows its new key at once. -/
def rekeyed (own : AnonLocalState) (peers : Peers) : Peers :=
  peers.put own.handle own.publicKey

/-! ### What the frames report -/

/-- What a frame reports about a handle: its key, or that nobody has it. -/
def reportOf (own : AnonLocalState) (handle : String) : KaigiFrame → Option (Option PublicKey)
  | .anonRoster roster => some ((readAnonRoster own roster).get? handle)
  | .groupKeyUpdate update =>
      if update.participantHandle ≠ handle then none
      else if update.x25519PubkeyHex = "" then some none
      else (parseX25519PubkeyHex update.x25519PubkeyHex).map some
  | _ => none

theorem get?_readFrame (own : AnonLocalState) (peers : Peers) (frame : KaigiFrame)
    (handle : String) :
    (readFrame own peers frame).get? handle =
      (reportOf own handle frame).getD (peers.get? handle) := by
  cases frame with
  | groupKeyUpdate update =>
      simp only [readFrame, readGroupKeyUpdate, reportOf]
      by_cases named : update.participantHandle = handle
      · rw [if_neg (not_not.mpr named)]
        split
        · simp [named]
        · split
          · next publicKey parsed => simp [named, parsed]
          · next unknown => simp [unknown]
      · rw [if_pos named, Option.getD_none]
        split
        · simp [Ne.symm named]
        · split
          · simp [Ne.symm named]
          · rfl
  | _ => rfl

/-- The frame is true of the keys by handle. -/
def TrueOf (known : String → Option String) : KaigiFrame → Prop
  | .anonRoster roster =>
      (∀ entry ∈ roster.participants,
        known entry.participantHandle = some entry.x25519PubkeyHex) ∧
      ∀ handle, known handle ≠ none →
        ∃ entry ∈ roster.participants, entry.participantHandle = handle
  | .groupKeyUpdate update =>
      known update.participantHandle =
        if update.x25519PubkeyHex = "" then none else some update.x25519PubkeyHex
  | _ => True

/-- Entries that agree about a handle put its key into the peers. -/
theorem get?_foldl_insertEntry {entries : List AnonRosterEntry} {handle key : String}
    {publicKey : PublicKey} (parsed : parseX25519PubkeyHex key = some publicKey)
    (agree : ∀ entry ∈ entries, entry.participantHandle = handle → entry.x25519PubkeyHex = key)
    {peers : Peers} (listed : (∃ entry ∈ entries, entry.participantHandle = handle) ∨
      peers.get? handle = some publicKey) :
    (entries.foldl insertEntry peers).get? handle = some publicKey := by
  induction entries generalizing peers with
  | nil => exact listed.resolve_left fun ⟨_, member, _⟩ => absurd member List.not_mem_nil
  | cons entry rest ih =>
      refine ih (fun other member => agree other (List.mem_cons_of_mem _ member)) ?_
      by_cases named : entry.participantHandle = handle
      · refine .inr ?_
        unfold insertEntry
        rw [agree entry List.mem_cons_self named, parsed]
        simp [named]
      · rcases listed with ⟨other, member, same⟩ | before
        · rcases List.mem_cons.mp member with rfl | later
          · exact absurd same named
          · exact .inl ⟨other, later, same⟩
        · refine .inr ?_
          unfold insertEntry
          split
          · rw [HashMap.get?_put, if_neg (Ne.symm named), before]
          · exact before

/-- Without an entry about a handle the peers keep what they have. -/
theorem get?_foldl_insertEntry_unlisted {entries : List AnonRosterEntry} {handle : String}
    (unlisted : ∀ entry ∈ entries, entry.participantHandle ≠ handle) (peers : Peers) :
    (entries.foldl insertEntry peers).get? handle = peers.get? handle := by
  induction entries generalizing peers with
  | nil => rfl
  | cons entry rest ih =>
      rw [List.foldl_cons, ih fun other member => unlisted other (List.mem_cons_of_mem _ member)]
      have different := unlisted entry List.mem_cons_self
      unfold insertEntry
      split
      · rw [HashMap.get?_put, if_neg (Ne.symm different)]
      · rfl

/-- What a true frame reports about a peer is its current key. -/
theorem reportOf_true {known : String → Option String} {own : AnonLocalState} {handle : String}
    {frame : KaigiFrame} {report : Option PublicKey}
    (parses : ∀ key, known handle = some key → (parseX25519PubkeyHex key).isSome = true)
    (holds : TrueOf known frame) (reported : reportOf own handle frame = some report)
    (peer : (∃ roster, frame = .anonRoster roster) → handle ≠ own.handle) :
    report = (known handle).bind parseX25519PubkeyHex := by
  cases frame with
  | anonRoster roster =>
      obtain ⟨entries, complete⟩ := holds
      simp only [reportOf, readAnonRoster, Option.some.injEq] at reported
      rw [HashMap.get?_put, if_neg (peer ⟨roster, rfl⟩)] at reported
      rw [← reported]
      cases bound : known handle with
      | none =>
          refine (get?_foldl_insertEntry_unlisted (fun entry member same => ?_) ∅).trans (by simp)
          have listed := entries entry member
          rw [same, bound] at listed
          cases listed
      | some key =>
          obtain ⟨publicKey, parsed⟩ := Option.isSome_iff_exists.mp (parses key bound)
          rw [Option.bind_some, parsed]
          refine get?_foldl_insertEntry parsed (fun entry member same => ?_)
            (.inl (complete handle (by simp [bound])))
          have listed := entries entry member
          rw [same, bound] at listed
          exact (Option.some.inj listed).symm
  | groupKeyUpdate update =>
      simp only [reportOf] at reported
      split at reported
      · cases reported
      · next named =>
          rw [not_not] at named
          simp only [TrueOf, named] at holds
          split at reported
          · next left =>
              cases reported
              rw [holds, if_pos left, Option.bind_none]
          · next stays =>
              rw [if_neg stays] at holds
              rw [holds, Option.bind_some]
              obtain ⟨publicKey, parsed, rfl⟩ := Option.map_eq_some_iff.mp reported
              exact parsed.symm
  | _ => cases reported

/-- A true frame about a handle reports something. -/
theorem isSome_reportOf {known : String → Option String} {own : AnonLocalState} {handle : String}
    {frame : KaigiFrame}
    (parses : ∀ key, known handle = some key → (parseX25519PubkeyHex key).isSome = true)
    (holds : TrueOf known frame) (about : (∃ roster, frame = .anonRoster roster) ∨
      ∃ update, frame = .groupKeyUpdate update ∧ update.participantHandle = handle) :
    (reportOf own handle frame).isSome = true := by
  rcases about with ⟨roster, rfl⟩ | ⟨update, rfl, named⟩
  · rfl
  · simp only [TrueOf, named] at holds
    simp only [reportOf, named, ne_eq, not_true_eq_false, if_false]
    split
    · rfl
    · next stays =>
        rw [if_neg stays] at holds
        rw [Option.isSome_map]
        exact parses _ holds

end Kaigi.Client
