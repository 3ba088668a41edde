import Kaigi.Client.JoinLinkSigning
import Kaigi.Collections.ExpiringCache

/-!
# Replays of join links

A client remembers the nonce of a link that it has used until the link expires. It reads
the clock once to check the expiry and once more to drop what has expired, and a link that
expires in between is dropped before its nonce is looked up.
-/

set_option autoImplicit false

namespace Kaigi.Client

open Collections Hub

/-- A call of the parser, with what the clock reads. -/
inductive JoinLinkCall where
  | parse (validatedAt registeredAt : UInt64) (link : String)
  | inspect (inspectedAt : UInt64) (link : String)

namespace JoinLinkCall

def started : JoinLinkCall → UInt64
  | .parse validatedAt _ _ => validatedAt
  | .inspect inspectedAt _ => inspectedAt

def ended : JoinLinkCall → UInt64
  | .parse _ registeredAt _ => registeredAt
  | .inspect inspectedAt _ => inspectedAt

def link : JoinLinkCall → String
  | .parse _ _ link | .inspect _ link => link

def isInspection : JoinLinkCall → Bool
  | .parse _ _ _ => false
  | .inspect _ _ => true

section Links

variable {SocketAddr : Type} (libraries : Libraries SocketAddr)

def perform (call : JoinLinkCall) (seen : NonceCache) :
    Except String (JoinLinkPayload SocketAddr) × NonceCache :=
  match call with
  | .parse validatedAt registeredAt link =>
      parseJoinLink libraries validatedAt registeredAt link seen
  | .inspect inspectedAt link => parseJoinLinkForInspection libraries inspectedAt link seen

/-- The link of the call does not expire during the call. -/
def Settled (call : JoinLinkCall) : Prop :=
  ∀ payload expiresAtMs, readJoinLink libraries call.link = .ok payload →
    payload.expiresAtMs = some expiresAtMs → call.started < expiresAtMs → call.ended < expiresAtMs

end Links

end JoinLinkCall

/-- The clock does not go back. The latest call comes first. -/
def Chronological : List JoinLinkCall → Prop
  | [] => True
  | call :: earlier =>
      call.started ≤ call.ended ∧ (∀ past ∈ earlier, past.ended ≤ call.started) ∧
        Chronological earlier

section Links

variable {SocketAddr : Type} (libraries : Libraries SocketAddr)

/-- The nonces behind some calls, the latest of them first. -/
def cacheAfter : List JoinLinkCall → NonceCache
  | [] => ∅
  | call :: earlier => (call.perform libraries (cacheAfter earlier)).2

/-- The call joins with its link, behind the earlier calls. -/
structure Joins (call : JoinLinkCall) (earlier : List JoinLinkCall)
    (payload : JoinLinkPayload SocketAddr) : Prop where
  parses : call.isInspection = false
  accepted : (call.perform libraries (cacheAfter libraries earlier)).1 = .ok payload

/-- What the cache of nonces is for. -/
structure ReplayGuarded (calls : List JoinLinkCall) : Prop where
  once : ∀ {newer middle older first second payload other},
    calls = newer ++ second :: (middle ++ first :: older) → Joins libraries first older payload →
      Joins libraries second (middle ++ first :: older) other → first.link = second.link →
        payload.version ≠ joinLinkVersionSigned
  fresh : ∀ {newer middle older first second payload other nonceHex expiresAtMs},
    calls = newer ++ second :: (middle ++ first :: older) → Joins libraries first older payload →
      Joins libraries second (middle ++ first :: older) other →
        payload.nonceHex.map normalizeHexArg = some nonceHex →
          other.nonceHex.map normalizeHexArg = some nonceHex →
            payload.expiresAtMs = some expiresAtMs → expiresAtMs ≤ second.ended
  bounded : (cacheAfter libraries calls).keys.length ≤ maxJoinLinkNonceCacheEntries
  kept : ∀ {newer call older nonceHex expiresAtMs}, calls = newer ++ call :: older →
    (cacheAfter libraries older).get? nonceHex = some expiresAtMs → call.ended < expiresAtMs →
      (cacheAfter libraries (call :: older)).get? nonceHex = some expiresAtMs
  inspected : ∀ {newer call older}, calls = newer ++ call :: older → call.isInspection = true →
    cacheAfter libraries (call :: older) = cacheAfter libraries older
  failed : ∀ {newer call older message}, calls = newer ++ call :: older →
    (call.perform libraries (cacheAfter libraries older)).1 = .error message → ∀ nonceHex,
      (cacheAfter libraries (call :: older)).get? nonceHex =
          (cacheAfter libraries older).get? nonceHex ∨
        (cacheAfter libraries (call :: older)).get? nonceHex = none ∧
          ∃ expiresAtMs, (cacheAfter libraries older).get? nonceHex = some expiresAtMs ∧
            ¬ call.ended < expiresAtMs

end Links

/-! ### Attempts -/

section Attempts

open ExpiringCache

variable {SocketAddr : Type} {libraries : Libraries SocketAddr}

/-- The cache of the client is a cache of keys that expire. -/
theorem registerJoinLinkNonceOnce_admit (now : UInt64) (nonceHex : String) (expiresAtMs : UInt64)
    (seen : NonceCache) :
    (registerJoinLinkNonceOnce now nonceHex expiresAtMs seen).2 =
      (enter maxJoinLinkNonceCacheEntries ⟨now, normalizeHexArg nonceHex, expiresAtMs⟩ seen).2 ∧
    ((registerJoinLinkNonceOnce now nonceHex expiresAtMs seen).1 = .ok () ↔
      (enter maxJoinLinkNonceCacheEntries
        ⟨now, normalizeHexArg nonceHex, expiresAtMs⟩ seen).1 = .ok ()) := by
  unfold registerJoinLinkNonceOnce enter live
  dsimp only
  split
  · simp
  · split <;> simp

theorem validateJoinLinkSecurity_of_checked {validatedAt registeredAt expiresAtMs : UInt64}
    {nonceHex signatureHex : String} {payload : JoinLinkPayload SocketAddr} {seen : NonceCache}
    (signed : payload.version = joinLinkVersionSigned)
    (expiry : payload.expiresAtMs = some expiresAtMs) (nonce : payload.nonceHex = some nonceHex)
    (signature : payload.signatureHex = some signatureHex)
    (checked : validateSignedJoinLink libraries validatedAt payload expiresAtMs nonceHex
      signatureHex = .ok ()) :
    validateJoinLinkSecurity libraries validatedAt registeredAt payload true seen =
      registerJoinLinkNonceOnce registeredAt nonceHex expiresAtMs seen := by
  have modern : payload.version ≠ joinLinkVersionLegacy := by
    rw [signed]
    decide
  simp only [validateJoinLinkSecurity, if_neg modern, if_pos signed, expiry, nonce, signature,
    checked, if_true]

/-- What a signed link that has passed its checks attempts. -/
def JoinLinkPayload.attempt? (libraries : Libraries SocketAddr) (validatedAt registeredAt : UInt64)
    (payload : JoinLinkPayload SocketAddr) : Option (Attempt String UInt64) :=
  if payload.version = joinLinkVersionSigned then do
    let expiresAtMs ← payload.expiresAtMs
    let nonceHex ← payload.nonceHex
    let signatureHex ← payload.signatureHex
    let _ ← (validateSignedJoinLink libraries validatedAt payload expiresAtMs nonceHex
      signatureHex).toOption
    return ⟨registeredAt, normalizeHexArg nonceHex, expiresAtMs⟩
  else none

/-- The attempt of a link is about its own nonce and expiry. -/
structure Attempts (validatedAt registeredAt : UInt64) (payload : JoinLinkPayload SocketAddr)
    (attempt : Attempt String UInt64) : Prop where
  now : attempt.now = registeredAt
  key : payload.nonceHex.map normalizeHexArg = some attempt.key
  expiry : payload.expiresAtMs = some attempt.expiry
  live : validatedAt < attempt.expiry

/-- The effect of the checks on the cache is that of the attempt, if there is one. -/
theorem validateJoinLinkSecurity_attempt (libraries : Libraries SocketAddr)
    (validatedAt registeredAt : UInt64) (payload : JoinLinkPayload SocketAddr)
    (seen : NonceCache) :
    (payload.attempt? libraries validatedAt registeredAt = none ∧
      (validateJoinLinkSecurity libraries validatedAt registeredAt payload true seen).2 = seen ∧
      ((validateJoinLinkSecurity libraries validatedAt registeredAt payload true seen).1 = .ok () →
        payload.version ≠ joinLinkVersionSigned ∧ payload.nonceHex = none)) ∨
    ∃ attempt, payload.attempt? libraries validatedAt registeredAt = some attempt ∧
      Attempts validatedAt registeredAt payload attempt ∧
      (validateJoinLinkSecurity libraries validatedAt registeredAt payload true seen).2 =
        (enter maxJoinLinkNonceCacheEntries attempt seen).2 ∧
      ((validateJoinLinkSecurity libraries validatedAt registeredAt payload true seen).1 = .ok () ↔
        (enter maxJoinLinkNonceCacheEntries attempt seen).1 = .ok ()) := by
  unfold validateJoinLinkSecurity JoinLinkPayload.attempt?
  by_cases legacy : payload.version = joinLinkVersionLegacy
  · have unsigned : payload.version ≠ joinLinkVersionSigned := by
      rw [legacy]
      decide
    rw [if_pos legacy, if_neg unsigned]
    refine .inl ⟨rfl, ?_⟩
    cases nonce : payload.nonceHex with
    | none => split <;> exact ⟨rfl, fun _ => ⟨unsigned, rfl⟩⟩
    | some nonceHex =>
        rw [if_pos (by simp)]
        exact ⟨rfl, fun passed => by cases passed⟩
  · rw [if_neg legacy]
    by_cases signed : payload.version = joinLinkVersionSigned
    · rw [if_pos signed, if_pos signed]
      cases expiry : payload.expiresAtMs with
      | none => exact .inl ⟨rfl, rfl, fun passed => by cases passed⟩
      | some expiresAtMs =>
          cases nonce : payload.nonceHex with
          | none => exact .inl ⟨rfl, rfl, fun passed => by cases passed⟩
          | some nonceHex =>
              cases signature : payload.signatureHex with
              | none => exact .inl ⟨rfl, rfl, fun passed => by cases passed⟩
              | some signatureHex =>
                  dsimp only [Option.bind_eq_bind, Option.bind_some]
                  cases checked : validateSignedJoinLink libraries validatedAt payload
                      expiresAtMs nonceHex signatureHex with
                  | error message => exact .inl ⟨rfl, rfl, fun passed => by cases passed⟩
                  | ok _ =>
                      refine .inr ⟨_, rfl, ⟨rfl, ?_, expiry, ?_⟩,
                        registerJoinLinkNonceOnce_admit registeredAt nonceHex expiresAtMs seen⟩
                      · rw [nonce]
                        rfl
                      · exact (validateSignedJoinLink_passed checked).live
    · rw [if_neg signed, if_neg signed]
      exact .inl ⟨rfl, rfl, fun passed => by cases passed⟩

/-- The attempt that a call makes when its link has passed the checks. -/
def JoinLinkCall.attempt? (libraries : Libraries SocketAddr) :
    JoinLinkCall → Option (Attempt String UInt64)
  | .inspect _ _ => none
  | .parse validatedAt registeredAt link =>
      (readJoinLink libraries link).toOption.bind (·.attempt? libraries validatedAt registeredAt)

theorem parseJoinLink_of_read {link : String} {payload : JoinLinkPayload SocketAddr}
    (found : readJoinLink libraries link = .ok payload) (validatedAt registeredAt : UInt64)
    (seen : NonceCache) :
    (parseJoinLink libraries validatedAt registeredAt link seen).2 =
      (validateJoinLinkSecurity libraries validatedAt registeredAt payload true seen).2 ∧
    ∀ accepted, (parseJoinLink libraries validatedAt registeredAt link seen).1 = .ok accepted ↔
      accepted = payload ∧
        (validateJoinLinkSecurity libraries validatedAt registeredAt payload true seen).1 =
          .ok () := by
  unfold parseJoinLink parseJoinLinkWithMode
  rw [found]
  dsimp only
  cases validateJoinLinkSecurity libraries validatedAt registeredAt payload true seen with
  | mk result cache =>
      cases result with
      | error message => simp
      | ok _ => simp [eq_comm]

theorem inspect_cache (inspectedAt : UInt64) (link : String) (seen : NonceCache) :
    (parseJoinLinkForInspection libraries inspectedAt link seen).2 = seen := by
  unfold parseJoinLinkForInspection parseJoinLinkWithMode
  cases readJoinLink libraries link with
  | error message => rfl
  | ok payload =>
      dsimp only
      obtain ⟨message, failed⟩ | ⟨_, passed⟩ | ⟨expiresAtMs, nonceHex, signatureHex, _, _, _, _, _,
        passed⟩ := validateJoinLinkSecurity_cases libraries inspectedAt inspectedAt payload false
          seen
      · rw [failed]
      · rw [passed]
      · rw [passed, if_neg Bool.false_ne_true]

/-- A call changes the cache by its attempt alone. -/
theorem perform_attempt (libraries : Libraries SocketAddr) (call : JoinLinkCall)
    (seen : NonceCache) :
    (call.attempt? libraries = none ∧ (call.perform libraries seen).2 = seen) ∨
    ∃ attempt, call.attempt? libraries = some attempt ∧ attempt.now = call.ended ∧
      (call.perform libraries seen).2 = (enter maxJoinLinkNonceCacheEntries attempt seen).2 ∧
      ((enter maxJoinLinkNonceCacheEntries attempt seen).1 = .ok () →
        ∃ payload, (call.perform libraries seen).1 = .ok payload) := by
  cases call with
  | inspect inspectedAt link => exact .inl ⟨rfl, inspect_cache inspectedAt link seen⟩
  | parse validatedAt registeredAt link =>
      rw [JoinLinkCall.attempt?, JoinLinkCall.perform]
      cases found : readJoinLink libraries link with
      | error message =>
          refine .inl ⟨rfl, ?_⟩
          simp only [parseJoinLink, parseJoinLinkWithMode, found]
      | ok payload =>
          obtain ⟨same, accepts⟩ := parseJoinLink_of_read found validatedAt registeredAt seen
          rw [same]
          obtain ⟨absent, unchanged, _⟩ | ⟨attempt, made, about, changed, admitted⟩ :=
            validateJoinLinkSecurity_attempt libraries validatedAt registeredAt payload seen
          · exact .inl ⟨absent, unchanged⟩
          · exact .inr ⟨attempt, made, about.now, changed, fun admits =>
              ⟨payload, (accepts payload).mpr ⟨rfl, admitted.mpr admits⟩⟩⟩

/-- The payload of an accepted link is what the link says. -/
theorem Joins.read {call : JoinLinkCall} {earlier : List JoinLinkCall}
    {payload : JoinLinkPayload SocketAddr} (joins : Joins libraries call earlier payload) :
    readJoinLink libraries call.link = .ok payload := by
  obtain ⟨parses, accepted⟩ := joins
  cases call with
  | inspect inspectedAt link => cases parses
  | parse validatedAt registeredAt link =>
      rw [JoinLinkCall.perform] at accepted
      rw [JoinLinkCall.link]
      cases found : readJoinLink libraries link with
      | error message =>
          simp only [parseJoinLink, parseJoinLinkWithMode, found] at accepted
          cases accepted
      | ok read =>
          rw [(((parseJoinLink_of_read found validatedAt registeredAt _).2 payload).mp
            accepted).1]

/-- A signed link, or one with a nonce, is accepted by admitting its nonce. -/
theorem Joins.admitted {call : JoinLinkCall} {earlier : List JoinLinkCall}
    {payload : JoinLinkPayload SocketAddr} (joins : Joins libraries call earlier payload)
    (signed : payload.version = joinLinkVersionSigned ∨ payload.nonceHex ≠ none) :
    ∃ attempt, call.attempt? libraries = some attempt ∧
      Attempts call.started call.ended payload attempt ∧
      (enter maxJoinLinkNonceCacheEntries attempt (cacheAfter libraries earlier)).1 = .ok () := by
  have found := joins.read
  obtain ⟨parses, accepted⟩ := joins
  cases call with
  | inspect inspectedAt link => cases parses
  | parse validatedAt registeredAt link =>
      rw [JoinLinkCall.link] at found
      have passed :=
        (((parseJoinLink_of_read found validatedAt registeredAt _).2 payload).mp accepted).2
      rw [JoinLinkCall.attempt?, found]
      obtain ⟨_, _, plain⟩ | ⟨attempt, made, about, _, admitted⟩ :=
        validateJoinLinkSecurity_attempt libraries validatedAt registeredAt payload
          (cacheAfter libraries earlier)
      · exact absurd signed (not_or.mpr ⟨(plain passed).1, not_not.mpr (plain passed).2⟩)
      · exact ⟨attempt, made, about, admitted.mp passed⟩

theorem cacheAfter_attempts (calls : List JoinLinkCall) :
    cacheAfter libraries calls =
      after maxJoinLinkNonceCacheEntries (calls.filterMap (·.attempt? libraries)) := by
  induction calls with
  | nil => rfl
  | cons call earlier ih =>
      rw [cacheAfter]
      obtain ⟨absent, unchanged⟩ | ⟨attempt, made, _, changed, _⟩ :=
        perform_attempt libraries call (cacheAfter libraries earlier)
      · rw [unchanged, ih, List.filterMap_cons_none absent]
      · rw [changed, ih, List.filterMap_cons_some made, after]

/-! ### Runs of the client -/

variable {calls newer middle older : List JoinLinkCall} {first second : JoinLinkCall}

theorem Chronological.at (chronological : Chronological (newer ++ second :: older)) :
    second.started ≤ second.ended ∧ ∀ past ∈ older, past.ended ≤ second.started := by
  induction newer with
  | nil => exact ⟨chronological.1, chronological.2.1⟩
  | cons call newer ih => exact ih chronological.2.2

/-- An accepted nonce is accepted again when its link has expired. -/
theorem Joins.expired {payload other : JoinLinkPayload SocketAddr} {nonceHex : String}
    {expiresAtMs : UInt64}
    (chronological : Chronological (newer ++ second :: (middle ++ first :: older)))
    (joins : Joins libraries first older payload)
    (again : Joins libraries second (middle ++ first :: older) other)
    (nonce : payload.nonceHex.map normalizeHexArg = some nonceHex)
    (sameNonce : other.nonceHex.map normalizeHexArg = some nonceHex)
    (expiry : payload.expiresAtMs = some expiresAtMs) : expiresAtMs ≤ second.ended := by
  have present : payload.nonceHex ≠ none := fun absent => by
    rw [absent] at nonce
    cases nonce
  have otherPresent : other.nonceHex ≠ none := fun absent => by
    rw [absent] at sameNonce
    cases sameNonce
  obtain ⟨attempt, made, about, admitted⟩ := joins.admitted (.inr present)
  obtain ⟨retry, remade, aboutRetry, readmitted⟩ := again.admitted (.inr otherPresent)
  rw [cacheAfter_attempts] at admitted readmitted
  rw [List.filterMap_append, List.filterMap_cons_some made] at readmitted
  have keys : attempt.key = retry.key := by
    rw [about.key] at nonce
    rw [aboutRetry.key] at sameNonce
    exact Option.some.inj (nonce.trans sameNonce.symm)
  obtain ⟨forward, past⟩ := chronological.at
  have ordered : ∀ entry ∈ middle.filterMap (·.attempt? libraries), entry.now ≤ retry.now := by
    intro entry member
    obtain ⟨call, inside, made⟩ := List.mem_filterMap.mp member
    obtain ⟨absent, _⟩ | ⟨found, same, now, _⟩ := perform_attempt libraries call ∅
    · cases made.symm.trans absent
    · cases made.symm.trans same
      rw [now, aboutRetry.now]
      exact UInt64.le_trans (past call (List.mem_append_left _ inside)) forward
  have expired := expired_of_admitted_again admitted readmitted keys ordered
  rw [about.expiry] at expiry
  rwa [← Option.some.inj expiry, ← aboutRetry.now]

/-- A link that does not expire during its call is used once. -/
theorem Joins.once {payload other : JoinLinkPayload SocketAddr}
    (chronological : Chronological (newer ++ second :: (middle ++ first :: older)))
    (settled : second.Settled libraries) (joins : Joins libraries first older payload)
    (again : Joins libraries second (middle ++ first :: older) other)
    (same : first.link = second.link) : payload.version ≠ joinLinkVersionSigned := by
  intro signed
  have read := joins.read
  rw [same, again.read] at read
  cases read
  obtain ⟨attempt, _, about, _⟩ := joins.admitted (.inl signed)
  obtain ⟨retry, _, aboutRetry, _⟩ := again.admitted (.inl signed)
  have expired := joins.expired chronological again about.key about.key about.expiry
  have live := aboutRetry.live
  rw [Option.some.inj (aboutRetry.expiry.symm.trans about.expiry)] at live
  exact UInt64.not_lt.mpr expired (settled payload attempt.expiry again.read about.expiry live)

/-- A signed link is used once when no link expires during its call. -/
theorem replay_guarded (chronological : Chronological calls)
    (settled : ∀ call ∈ calls, call.Settled libraries) : ReplayGuarded libraries calls where
  once split joins again same := by
    subst split
    exact joins.once chronological (settled _ (by simp)) again same
  fresh split joins again nonce sameNonce expiry := by
    subst split
    exact joins.expired chronological again nonce sameNonce expiry
  bounded := by
    rw [cacheAfter_attempts]
    exact length_keys_after _
  kept {newer call older nonceHex expiresAtMs} split found unexpired := by
    rw [cacheAfter]
    obtain ⟨_, unchanged⟩ | ⟨attempt, _, now, changed, _⟩ :=
      perform_attempt libraries call (cacheAfter libraries older)
    · rw [unchanged, found]
    · rw [changed]
      exact get?_admit found (now ▸ unexpired)
  inspected {newer call older} split inspection := by
    cases call with
    | parse validatedAt registeredAt link => cases inspection
    | inspect inspectedAt link => exact inspect_cache inspectedAt link _
  failed {newer call older message} split failed nonceHex := by
    rw [cacheAfter]
    obtain ⟨_, unchanged⟩ | ⟨attempt, _, now, changed, accepts⟩ :=
      perform_attempt libraries call (cacheAfter libraries older)
    · exact .inl (by rw [unchanged])
    · rw [changed, ← now]
      obtain ⟨refusal, refused⟩ | ⟨_, _, admitted⟩ :=
        admit_cases maxJoinLinkNonceCacheEntries attempt (cacheAfter libraries older)
      · rw [refused]
        exact get?_live _ _ _
      · obtain ⟨payload, accepted⟩ := accepts (by rw [admitted])
        cases failed.symm.trans accepted

end Attempts

/-! A client that joins with one link, and joins with it once more while the link expires. -/

def standupText : String :=
  renderJoinLink standupLibraries standupLink

def standupJoin (validatedAt registeredAt : UInt64) : JoinLinkCall :=
  .parse validatedAt registeredAt standupText

theorem read_standupText : readJoinLink standupLibraries standupText = .ok standupLink := by
  have normal : standupLink.Normal standupLibraries := {
    addressed := by decide +kernel
    filled := by decide +kernel
    paired := rfl
    mode := by
      rintro word ⟨⟩
      exact .inr rfl
    digits := by decide +kernel }
  exact normal.readJoinLink

theorem verified_standupLink : joinLinkSignatureHex standupLibraries standupLink =
    .ok (normalizeHexArg "60523e9858a6a7b643c325b988c2f2d949d670807262fe6d93ea7b636b931d99") := by
  decide +kernel

/-- A call in front of the expiry does what the registration of the nonce does. -/
theorem standupJoin_perform {validatedAt registeredAt : UInt64} {seen : NonceCache}
    (live : validatedAt < 1700000060000)
    (near : UInt64.toNat 1700000060000 ≤ validatedAt.toNat + 604800000)
    (admitted : (registerJoinLinkNonceOnce registeredAt "11111111111111111111111111111111"
      1700000060000 seen).1 = .ok ()) :
    (standupJoin validatedAt registeredAt).perform standupLibraries seen =
      (.ok standupLink, (registerJoinLinkNonceOnce registeredAt
        "11111111111111111111111111111111" 1700000060000 seen).2) := by
  have checked : validateSignedJoinLink standupLibraries validatedAt standupLink 1700000060000
      "11111111111111111111111111111111"
      "60523e9858a6a7b643c325b988c2f2d949d670807262fe6d93ea7b636b931d99" = .ok () :=
    validateSignedJoinLink_ok live near (by decide +kernel) (by decide +kernel)
      verified_standupLink
  rw [standupJoin, JoinLinkCall.perform, parseJoinLink, parseJoinLinkWithMode, read_standupText]
  dsimp only
  rw [validateJoinLinkSecurity_of_checked rfl rfl rfl rfl checked]
  cases registered : registerJoinLinkNonceOnce registeredAt "11111111111111111111111111111111"
      1700000060000 seen with
  | mk result cache =>
      rw [registered] at admitted
      cases admitted
      rfl

/-- The link is used for the first time half a minute before it expires. -/
def firstJoin : JoinLinkCall :=
  standupJoin 1700000030000 1700000030000

theorem firstJoin_perform : firstJoin.perform standupLibraries ∅ =
    (.ok standupLink, (registerJoinLinkNonceOnce 1700000030000 "11111111111111111111111111111111"
      1700000060000 ∅).2) :=
  standupJoin_perform (by decide +kernel) (by decide +kernel) (by decide +kernel)

theorem joins_firstJoin : Joins standupLibraries firstJoin [] standupLink :=
  ⟨rfl, congrArg Prod.fst firstJoin_perform⟩

theorem chronological_second {validatedAt registeredAt : UInt64}
    (later : 1700000030000 ≤ validatedAt) (forward : validatedAt ≤ registeredAt) :
    Chronological [standupJoin validatedAt registeredAt, firstJoin] := by
  refine ⟨forward, fun past member => ?_, UInt64.le_refl _, fun past member => ?_, trivial⟩
  · rw [List.mem_singleton.mp member]
    exact later
  · cases member

theorem cacheAfter_firstJoin : cacheAfter standupLibraries [firstJoin] =
    (registerJoinLinkNonceOnce 1700000030000 "11111111111111111111111111111111"
      1700000060000 ∅).2 := by
  rw [cacheAfter, cacheAfter, firstJoin_perform]

theorem joins_again : Joins standupLibraries (standupJoin 1700000059999 1700000060000) [firstJoin]
    standupLink := by
  refine ⟨rfl, ?_⟩
  rw [cacheAfter_firstJoin, standupJoin_perform (by decide +kernel) (by decide +kernel)
    (by decide +kernel)]

/-- The link is accepted, and accepted again by the call during which it expires. -/
theorem replay_at_expiry :
    Chronological [standupJoin 1700000059999 1700000060000, firstJoin] ∧
      ¬ ReplayGuarded standupLibraries
        [standupJoin 1700000059999 1700000060000, firstJoin] := by
  refine ⟨chronological_second (by decide +kernel) (by decide +kernel), fun guarded => ?_⟩
  have split : [standupJoin 1700000059999 1700000060000, firstJoin] =
      [] ++ standupJoin 1700000059999 1700000060000 :: ([] ++ firstJoin :: []) := rfl
  exact guarded.once split joins_firstJoin joins_again rfl rfl

theorem replay_guarded_standup : ReplayGuarded standupLibraries
    [standupJoin 1700000040000 1700000040001, firstJoin] := by
  refine replay_guarded (chronological_second (by decide +kernel) (by decide +kernel)) ?_
  have live : ∀ call : JoinLinkCall, call.link = standupText → call.ended < 1700000060000 →
      call.Settled standupLibraries := by
    intro call same live payload expiresAtMs found expiry _
    rw [same, read_standupText] at found
    cases found
    cases expiry
    exact live
  intro call member
  obtain rfl | rfl := List.mem_pair.mp member
  · exact live _ rfl (by decide +kernel)
  · exact live _ rfl (by decide +kernel)

end Kaigi.Client
