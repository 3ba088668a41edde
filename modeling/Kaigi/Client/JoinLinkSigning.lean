import Kaigi.Client.JoinLinkRoundTrip

/-!
# What the signature of a join link covers

The signed text joins its fields with `|`, and six of them are texts that may contain
a `|` themselves. A signature fixes the joined text; it fixes the fields among the
payloads whose texts have the same number of separators, field by field.
-/

set_option autoImplicit false

namespace Kaigi.Client

open Collections Hub Text

section Links

variable {SocketAddr : Type} {libraries : Libraries SocketAddr}
  {payload other : JoinLinkPayload SocketAddr}

/-! ### Links that pass -/

/-- What a signed link that passes has been checked for. -/
structure Verified (libraries : Libraries SocketAddr) (now : UInt64)
    (payload : JoinLinkPayload SocketAddr) (expiresAtMs : UInt64)
    (nonceHex signatureHex : String) : Prop where
  live : now < expiresAtMs
  nonceDigits : isValidHexLen nonceHex joinLinkNonceBytes = true
  signed : joinLinkSignatureHex libraries payload = .ok (normalizeHexArg signatureHex)

/-- A check that returned did not find its error. -/
theorem guarded_ok {Result : Type} {test : Prop} [Decidable test] {message : String}
    {next : Unit → Except String Result} {result : Result}
    (returned : (if test then Except.error message >>= next else next ()) = .ok result) :
    ¬ test ∧ next () = .ok result := by
  by_cases found : test
  · rw [if_pos found] at returned
    cases returned
  · rw [if_neg found] at returned
    exact ⟨found, returned⟩

theorem validateSignedJoinLink_passed {now expiresAtMs : UInt64} {nonceHex signatureHex : String}
    (passed : validateSignedJoinLink libraries now payload expiresAtMs nonceHex signatureHex =
      .ok ()) : Verified libraries now payload expiresAtMs nonceHex signatureHex := by
  unfold validateSignedJoinLink at passed
  obtain ⟨unexpired, passed⟩ := guarded_ok passed
  obtain ⟨maxDeltaMs, _, passed⟩ := bind_ok passed
  obtain ⟨_, passed⟩ := guarded_ok passed
  obtain ⟨nonce, passed⟩ := guarded_ok passed
  obtain ⟨_, passed⟩ := guarded_ok passed
  obtain ⟨expected, signed, passed⟩ := bind_ok passed
  by_cases same : expected = normalizeHexArg signatureHex
  · exact ⟨UInt64.not_le.mp unexpired, Decidable.not_not.mp nonce, same ▸ signed⟩
  · rw [if_pos same] at passed
    cases passed

/-- A signed payload has all of its security fields when the checks reach the cache. -/
theorem validateJoinLinkSecurity_cases (libraries : Libraries SocketAddr)
    (now registeredAt : UInt64) (payload : JoinLinkPayload SocketAddr) (consume : Bool)
    (seen : NonceCache) :
    (∃ message, validateJoinLinkSecurity libraries now registeredAt payload consume seen =
      (.error message, seen)) ∨
    (payload.version = joinLinkVersionLegacy ∧
      validateJoinLinkSecurity libraries now registeredAt payload consume seen = (.ok (), seen)) ∨
    ∃ expiresAtMs nonceHex signatureHex, payload.version = joinLinkVersionSigned ∧
      payload.expiresAtMs = some expiresAtMs ∧ payload.nonceHex = some nonceHex ∧
      payload.signatureHex = some signatureHex ∧
      Verified libraries now payload expiresAtMs nonceHex signatureHex ∧
      validateJoinLinkSecurity libraries now registeredAt payload consume seen =
        if consume then registerJoinLinkNonceOnce registeredAt nonceHex expiresAtMs seen
        else (.ok (), seen) := by
  unfold validateJoinLinkSecurity
  by_cases legacy : payload.version = joinLinkVersionLegacy
  · rw [if_pos legacy]
    split
    · exact .inl ⟨_, rfl⟩
    · exact .inr (.inl ⟨legacy, rfl⟩)
  · rw [if_neg legacy]
    by_cases signed : payload.version = joinLinkVersionSigned
    · rw [if_pos signed]
      cases payload.expiresAtMs with
      | none => exact .inl ⟨_, rfl⟩
      | some expiresAtMs =>
          cases payload.nonceHex with
          | none => exact .inl ⟨_, rfl⟩
          | some nonceHex =>
              cases payload.signatureHex with
              | none => exact .inl ⟨_, rfl⟩
              | some signatureHex =>
                  dsimp only
                  cases checked : validateSignedJoinLink libraries now payload expiresAtMs
                      nonceHex signatureHex with
                  | error message => exact .inl ⟨message, rfl⟩
                  | ok _ =>
                      exact .inr (.inr ⟨expiresAtMs, nonceHex, signatureHex, signed, rfl, rfl, rfl,
                        validateSignedJoinLink_passed checked, rfl⟩)
    · rw [if_neg signed]
      exact .inl ⟨_, rfl⟩

theorem validateJoinLinkSecurity_signed {now registeredAt : UInt64} {consume : Bool}
    {seen : NonceCache} (version : payload.version = joinLinkVersionSigned)
    (passed : (validateJoinLinkSecurity libraries now registeredAt payload consume seen).1 =
      .ok ()) :
    ∃ expiresAtMs nonceHex signatureHex, payload.expiresAtMs = some expiresAtMs ∧
      payload.nonceHex = some nonceHex ∧ payload.signatureHex = some signatureHex ∧
      Verified libraries now payload expiresAtMs nonceHex signatureHex := by
  obtain ⟨message, failed⟩ | ⟨legacy, _⟩ | ⟨expiresAtMs, nonceHex, signatureHex, _, expiry,
    nonce, signature, verified, _⟩ :=
      validateJoinLinkSecurity_cases libraries now registeredAt payload consume seen
  · rw [failed] at passed
    cases passed
  · cases version.symm.trans legacy
  · exact ⟨expiresAtMs, nonceHex, signatureHex, expiry, nonce, signature, verified⟩

/-! ### The signed text -/

/-- The fields that the maker of a link may fill with any text. -/
def JoinLinkPayload.userTexts (payload : JoinLinkPayload SocketAddr) : List String :=
  [payload.serverName.getD "", payload.torii.getD "", payload.payTo.getD "",
    payload.kaigiDomain.getD "", payload.kaigiCallName.getD "",
    payload.kaigiPrivacyMode.getD ""]

/-- The number of separators in a text. -/
def bars (text : String) : Nat :=
  text.toList.count '|'

/-- Everything that the signature is meant to cover agrees. An absent text is the empty one. -/
structure SameSigned (payload other : JoinLinkPayload SocketAddr) : Prop where
  version : payload.version = other.version
  relay : payload.relay = other.relay
  channel : payload.channel = other.channel
  authenticated : payload.authenticated = other.authenticated
  insecure : payload.insecure = other.insecure
  userTexts : payload.userTexts = other.userTexts
  expiresAtMs : payload.expiresAtMs = other.expiresAtMs
  nonceHex : payload.nonceHex.map normalizeHexArg = other.nonceHex.map normalizeHexArg

def signedHead (libraries : Libraries SocketAddr) (payload : JoinLinkPayload SocketAddr) :
    List String :=
  [toString payload.version.toNat, libraries.displayAddr payload.relay,
    hexEncode payload.channel.toList, flagText payload.authenticated, flagText payload.insecure]

def signedTail (expiresAtMs : UInt64) (nonceHex : String) : List String :=
  [toString expiresAtMs.toNat, normalizeHexArg nonceHex]

theorem joinLinkSignaturePayload_fields {expiresAtMs : UInt64} {nonceHex : String}
    (expiry : payload.expiresAtMs = some expiresAtMs) (nonce : payload.nonceHex = some nonceHex) :
    joinLinkSignaturePayload libraries payload = .ok ("|".intercalate
      (signedHead libraries payload ++ payload.userTexts ++ signedTail expiresAtMs nonceHex)) := by
  rw [joinLinkSignaturePayload, expiry, nonce]
  rfl

/-- The texts that BLAKE3 was asked about. -/
def JoinLinkPayload.digested (libraries : Libraries SocketAddr)
    (payload : JoinLinkPayload SocketAddr) : List String :=
  ((joinLinkSignaturePayload libraries payload).toOption.map ("join_link_v2" ++ ·)).toList

/-- No two of the texts collide. -/
def CollisionFree (libraries : Libraries SocketAddr) (texts : List String) : Prop :=
  ∀ first ∈ texts, ∀ second ∈ texts, libraries.blake3 first = libraries.blake3 second →
    first = second

theorem bars_eq_zero {text : String} (clean : '|' ∉ text.toList) : bars text = 0 :=
  List.count_eq_zero_of_not_mem clean

theorem bars_toString (number : Nat) : bars (toString number) = 0 := by
  refine bars_eq_zero fun member => ?_
  rw [Nat.toString_eq_repr, Nat.toList_repr] at member
  exact absurd (Nat.isDigit_of_mem_toDigits (by decide) (by decide) member) (by decide)

theorem bars_hexEncode (bytes : List UInt8) : bars (hexEncode bytes) = 0 :=
  bars_eq_zero fun member =>
    of_mem_hexEncode (fun digit => digit ≠ '|') (by decide) member rfl

theorem bars_flagText (flag : Bool) : bars (flagText flag) = 0 := by
  cases flag <;> decide

/-- No letter becomes a separator in lower case. -/
theorem not_mem_toAsciiLowercase {text : String} (clean : '|' ∉ text.toList) :
    '|' ∉ (toAsciiLowercase text).toList := by
  have letters : ∀ value < 128, ('A' ≤ Char.ofNat value && Char.ofNat value ≤ 'Z') = true →
      Char.ofNat ((Char.ofNat value).toNat + 32) ≠ '|' := by
    decide +kernel
  rw [toAsciiLowercase, String.toList_ofList]
  intro member
  obtain ⟨character, inside, lowered⟩ := List.mem_map.mp member
  by_cases upper : ('A' ≤ character && character ≤ 'Z') = true
  · have small : character.toNat < 128 :=
      Nat.lt_of_le_of_lt (of_decide_eq_true (Bool.and_eq_true_iff.mp upper).2) (by decide)
    have other := letters character.toNat small
    rw [Char.ofNat_toNat] at other
    rw [if_pos upper] at lowered
    exact other upper lowered
  · rw [if_neg upper] at lowered
    exact clean (lowered ▸ inside)

theorem not_mem_of_isValidHexLen {value : String} {bytes : Nat}
    (digits : isValidHexLen value bytes = true) : '|' ∉ value.toList := by
  have hex : ∀ character ∈ (stripHexPrefix value).toList, isHexDigit character = true :=
    List.all_eq_true.mp (Bool.and_eq_true_iff.mp (Bool.and_eq_true_iff.mp digits).2).2
  have clean : '|' ∉ (stripHexPrefix value).toList := fun member =>
    absurd (hex _ member) (by decide)
  obtain same | ⟨rest, same, shape⟩ := stripHexPrefix_cases value
  · rwa [same] at clean
  · rw [same, String.toList_ofList] at clean
    obtain shape | shape := shape <;> simp [shape, clean]

theorem bars_normalizeHexArg {nonceHex : String} {bytes : Nat}
    (digits : isValidHexLen nonceHex bytes = true) : bars (normalizeHexArg nonceHex) = 0 := by
  refine bars_eq_zero (not_mem_toAsciiLowercase fun member => ?_)
  have trimmed := mem_of_mem_stripHexPrefix member
  rw [String.toList_ofList] at trimmed
  exact not_mem_of_isValidHexLen digits (mem_of_mem_trim trimmed)

theorem flagText_inj {flag other : Bool} (same : flagText flag = flagText other) :
    flag = other := by
  cases flag <;> cases other <;> first | rfl | exact absurd same (by decide)

theorem toString_toNat_inj {number other : UInt64}
    (same : toString number.toNat = toString other.toNat) : number = other := by
  have read := parseUnsigned_toString number.toNat_lt
  rw [same, parseUnsigned_toString other.toNat_lt] at read
  exact UInt64.toNat_inj.mp (Option.some.inj read).symm

/-! ### What the signature covers -/

theorem intercalate_bars_inj {fields others : List String}
    (counts : fields.map bars = others.map bars)
    (same : "|".intercalate fields = "|".intercalate others) : fields = others := by
  have texts := congrArg String.toList same
  rw [String.toList_intercalate, String.toList_intercalate] at texts
  have counted : (fields.map String.toList).map (·.count '|') =
      (others.map String.toList).map (·.count '|') := by
    rw [List.map_map, List.map_map]
    exact counts
  have lists := intercalate_counted_inj counted texts
  exact List.map_injective_iff.mpr (fun _ _ => String.toList_inj.mp) lists

/-- The digest of the signed text is the signature. -/
theorem Verified.digest {now expiresAtMs : UInt64} {nonceHex signatureHex : String}
    (verified : Verified libraries now payload expiresAtMs nonceHex signatureHex)
    (expiry : payload.expiresAtMs = some expiresAtMs)
    (nonce : payload.nonceHex = some nonceHex) :
    ∃ text, text = "|".intercalate (signedHead libraries payload ++ payload.userTexts ++
        signedTail expiresAtMs nonceHex) ∧
      payload.digested libraries = ["join_link_v2" ++ text] ∧
      hexEncode (libraries.blake3 ("join_link_v2" ++ text)).toList =
        normalizeHexArg signatureHex := by
  have text : joinLinkSignaturePayload libraries payload = _ :=
    joinLinkSignaturePayload_fields expiry nonce
  have signed := verified.signed
  rw [joinLinkSignatureHex, text] at signed
  refine ⟨_, rfl, ?_, Except.ok.inj signed⟩
  rw [JoinLinkPayload.digested, text]
  rfl

/-- Fields that no text can enter have no separators. -/
theorem bars_signed {now expiresAtMs : UInt64} {nonceHex signatureHex : String}
    (verified : Verified libraries now payload expiresAtMs nonceHex signatureHex)
    (bare : '|' ∉ (libraries.displayAddr payload.relay).toList) :
    (signedHead libraries payload).map bars = [0, 0, 0, 0, 0] ∧
      (signedTail expiresAtMs nonceHex).map bars = [0, 0] := by
  simp only [signedHead, signedTail, List.map_cons, List.map_nil, bars_toString,
    bars_eq_zero bare, bars_hexEncode, bars_flagText, bars_normalizeHexArg verified.nonceDigits,
    and_self]

theorem sameSigned_of_fields {expiresAtMs otherExpiresAtMs : UInt64} {nonceHex otherNonce : String}
    (expiry : payload.expiresAtMs = some expiresAtMs) (nonce : payload.nonceHex = some nonceHex)
    (otherExpiry : other.expiresAtMs = some otherExpiresAtMs)
    (otherNonceHex : other.nonceHex = some otherNonce)
    (version : payload.version = other.version)
    (addressed : libraries.parseAddr (libraries.displayAddr payload.relay) = some payload.relay)
    (otherAddressed : libraries.parseAddr (libraries.displayAddr other.relay) = some other.relay)
    (same : signedHead libraries payload ++ payload.userTexts ++ signedTail expiresAtMs nonceHex =
      signedHead libraries other ++ other.userTexts ++ signedTail otherExpiresAtMs otherNonce) :
    SameSigned payload other := by
  obtain ⟨fronts, tails⟩ := List.append_inj same rfl
  obtain ⟨heads, texts⟩ := List.append_inj fronts rfl
  simp only [signedHead, signedTail, List.cons.injEq, and_true] at heads tails
  obtain ⟨_, relays, channels, authenticated, insecure⟩ := heads
  rw [relays, otherAddressed] at addressed
  exact {
    version
    relay := (Option.some.inj addressed).symm
    channel := Vector.toList_inj.mp (hexEncode_injective channels)
    authenticated := flagText_inj authenticated
    insecure := flagText_inj insecure
    userTexts := texts
    expiresAtMs := by rw [expiry, otherExpiry, toString_toNat_inj tails.1]
    nonceHex := by rw [nonce, otherNonceHex, Option.map_some, Option.map_some, tails.2] }

/-- The signature keeps every field in its place exactly among the payloads whose texts
have the same number of separators. -/
theorem signature_covers_iff
    (bare : ∀ relay, '|' ∉ (libraries.displayAddr relay).toList)
    (addressed : libraries.parseAddr (libraries.displayAddr payload.relay) = some payload.relay)
    (otherAddressed : libraries.parseAddr (libraries.displayAddr other.relay) = some other.relay)
    (collisionFree :
      CollisionFree libraries (payload.digested libraries ++ other.digested libraries))
    (signed : payload.version = joinLinkVersionSigned)
    (otherSigned : other.version = joinLinkVersionSigned)
    {now otherNow registeredAt otherRegisteredAt : UInt64} {consume otherConsume : Bool}
    {seen otherSeen : NonceCache}
    (passed : (validateJoinLinkSecurity libraries now registeredAt payload consume seen).1 =
      .ok ())
    (otherPassed : (validateJoinLinkSecurity libraries otherNow otherRegisteredAt other
      otherConsume otherSeen).1 = .ok ())
    (same : payload.signatureHex = other.signatureHex) :
    SameSigned payload other ↔ payload.userTexts.map bars = other.userTexts.map bars := by
  obtain ⟨expiresAtMs, nonceHex, signatureHex, expiry, nonce, signature, verified⟩ :=
    validateJoinLinkSecurity_signed signed passed
  obtain ⟨otherExpiresAtMs, otherNonceHex, otherSignatureHex, otherExpiry, otherNonce,
    otherSignature, otherVerified⟩ := validateJoinLinkSecurity_signed otherSigned otherPassed
  refine ⟨fun covered => by rw [covered.userTexts], fun counts => ?_⟩
  obtain ⟨text, joined, digested, digest⟩ := verified.digest expiry nonce
  obtain ⟨otherText, otherJoined, otherDigested, otherDigest⟩ :=
    otherVerified.digest otherExpiry otherNonce
  rw [signature, otherSignature] at same
  cases same
  rw [← otherDigest] at digest
  have texts : "join_link_v2" ++ text = "join_link_v2" ++ otherText := by
    refine collisionFree _ ?_ _ ?_ (Vector.toList_inj.mp (hexEncode_injective digest))
    · simp [digested]
    · simp [otherDigested]
  rw [String.append_right_inj, joined, otherJoined] at texts
  obtain ⟨heads, tails⟩ := bars_signed verified (bare payload.relay)
  obtain ⟨otherHeads, otherTails⟩ := bars_signed otherVerified (bare other.relay)
  have fields := intercalate_bars_inj (by
    simp only [List.map_append, heads, otherHeads, counts, tails, otherTails]) texts
  exact sameSigned_of_fields expiry nonce otherExpiry otherNonce (signed.trans otherSigned.symm)
    addressed otherAddressed fields

end Links

/-! A link whose payment account contains a separator, the digest of its text, and the link
that the same text makes with part of the account in the address of the node. -/

def barredLibraries : Libraries Unit where
  blake3 _ := #v[
    0xef, 0xb0, 0x58, 0xee, 0x7f, 0xf9, 0x3f, 0x1a, 0xe9, 0xec, 0xe2, 0xc3, 0x1f, 0xee, 0x81, 0x3b,
    0x0a, 0x5d, 0xc6, 0xff, 0xfb, 0xcf, 0x2b, 0x23, 0xa7, 0xe5, 0xaf, 0x65, 0xd3, 0x67, 0x05, 0x2a]
  displayAddr _ := "127.0.0.1:5000"
  parseAddr text := if text = "127.0.0.1:5000" then some () else none

def barredLink : JoinLinkPayload Unit where
  version := 2
  relay := ()
  channel := Vector.replicate 32 0xcd
  authenticated := true
  insecure := false
  serverName := some "localhost"
  torii := some "http://127.0.0.1:8080/"
  payTo := some "billing|sora"
  kaigiDomain := none
  kaigiCallName := none
  kaigiPrivacyMode := none
  expiresAtMs := some 1700000060000
  nonceHex := some "11111111111111111111111111111111"
  signatureHex := some "efb058ee7ff93f1ae9ece2c31fee813b0a5dc6fffbcf2b23a7e5af65d367052a"

def movedLink : JoinLinkPayload Unit :=
  { barredLink with
    torii := some "http://127.0.0.1:8080/|billing"
    payTo := some "sora" }

theorem passes_barredLink : barredLink.Passes barredLibraries 1700000030000 :=
  passes_signed rfl rfl rfl rfl (by decide +kernel) (by decide +kernel) (by decide +kernel)
    (by decide +kernel) (by decide +kernel)

theorem passes_movedLink : movedLink.Passes barredLibraries 1700000030000 :=
  passes_signed rfl rfl rfl rfl (by decide +kernel) (by decide +kernel) (by decide +kernel)
    (by decide +kernel) (by decide +kernel)

theorem collisionFree_barred : CollisionFree barredLibraries
    (barredLink.digested barredLibraries ++ movedLink.digested barredLibraries) := by
  have same : movedLink.digested barredLibraries = barredLink.digested barredLibraries := by
    decide +kernel
  obtain ⟨text, only⟩ : ∃ text, barredLink.digested barredLibraries = [text] :=
    ⟨_, rfl⟩
  rw [same, only]
  intro first member second otherMember _
  rw [(List.mem_pair.mp member).elim id id, (List.mem_pair.mp otherMember).elim id id]

/-- Both links pass with one signature, and one pays another account. -/
theorem signature_moves_text :
    (validateJoinLinkSecurity barredLibraries 1700000030000 1700000030000 barredLink false ∅).1 =
        .ok () ∧
      (validateJoinLinkSecurity barredLibraries 1700000030000 1700000030000 movedLink false ∅).1 =
        .ok () ∧
      barredLink.version = joinLinkVersionSigned ∧ movedLink.version = joinLinkVersionSigned ∧
      barredLink.signatureHex = movedLink.signatureHex ∧
      CollisionFree barredLibraries
        (barredLink.digested barredLibraries ++ movedLink.digested barredLibraries) ∧
      barredLink.payTo.getD "" ≠ movedLink.payTo.getD "" ∧ ¬ SameSigned barredLink movedLink := by
  refine ⟨congrArg Prod.fst (passes_barredLink ∅), congrArg Prod.fst (passes_movedLink ∅), rfl,
    rfl, rfl, collisionFree_barred, by decide, fun covered => ?_⟩
  exact absurd covered.userTexts (by decide)

theorem signature_covers_iff_barred :
    SameSigned barredLink movedLink ↔
      barredLink.userTexts.map bars = movedLink.userTexts.map bars := by
  have bare : ∀ relay, '|' ∉ (barredLibraries.displayAddr relay).toList :=
    fun _ => (by decide +kernel : '|' ∉ "127.0.0.1:5000".toList)
  exact signature_covers_iff bare (by decide +kernel) (by decide +kernel) collisionFree_barred
    rfl rfl (congrArg Prod.fst (passes_barredLink ∅)) (congrArg Prod.fst (passes_movedLink ∅)) rfl

end Kaigi.Client
