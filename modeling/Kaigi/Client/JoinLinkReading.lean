import Kaigi.Client.JoinLink

/-!
# Reading a join link

The parameters may come in any order and more than once; the last one counts, and a
parameter that the parser does not know is passed over. The link is checked when all
of it has been read.
-/

set_option autoImplicit false

namespace Kaigi.Client

open Collections Hub Text

/-- What `parse_join_link_with_mode` has read so far. -/
structure JoinLinkFields (SocketAddr : Type) where
  version : UInt8 := joinLinkVersionLegacy
  relay : Option SocketAddr := none
  channel : Option (Vector UInt8 32) := none
  authenticated : Bool := false
  insecure : Bool := false
  serverName : Option String := none
  torii : Option String := none
  payTo : Option String := none
  kaigiDomain : Option String := none
  kaigiCallName : Option String := none
  kaigiPrivacyMode : Option String := none
  expiresAtMs : Option UInt64 := none
  nonceHex : Option String := none
  signatureHex : Option String := none

/-- The nonces of the links that this client has used, with their expiry. -/
abbrev NonceCache := HashMap String UInt64

section Links

variable {SocketAddr : Type} (libraries : Libraries SocketAddr)

/-- One parameter of the query. An empty text leaves its field as it is. -/
def readJoinLinkParam (fields : JoinLinkFields SocketAddr) (key value : String) :
    Except String (JoinLinkFields SocketAddr) :=
  match key with
  | "v" =>
      (okOr (parseUnsigned UInt8.size value) "invalid join link version in join link").map
        fun version => { fields with version := UInt8.ofNat version }
  | "relay" =>
      (okOr (libraries.parseAddr value) "invalid relay socket address in join link").map
        fun relay => { fields with relay := some relay }
  | "channel" => (decodeHexArray value).map fun channel => { fields with channel := some channel }
  | "authenticated" =>
      (okOr (parseBoolish value) "invalid authenticated flag in join link").map
        fun authenticated => { fields with authenticated }
  | "insecure" =>
      (okOr (parseBoolish value) "invalid insecure flag in join link").map
        fun insecure => { fields with insecure }
  | "sni" => .ok (if value = "" then fields else { fields with serverName := some value })
  | "torii" => .ok (if value = "" then fields else { fields with torii := some value })
  | "pay_to" => .ok (if value = "" then fields else { fields with payTo := some value })
  | "kaigi_domain" =>
      .ok (if value = "" then fields else { fields with kaigiDomain := some value })
  | "kaigi_call_name" =>
      .ok (if value = "" then fields else { fields with kaigiCallName := some value })
  | "kaigi_privacy_mode" =>
      .ok (if value = "" then fields else { fields with kaigiPrivacyMode := some value })
  | "exp" =>
      if value = "" then .ok fields
      else
        (okOr (parseUnsigned UInt64.size value) "invalid exp in join link").map
          fun expiresAtMs => { fields with expiresAtMs := some (UInt64.ofNat expiresAtMs) }
  | "nonce" => .ok (if value = "" then fields else { fields with nonceHex := some value })
  | "sig" => .ok (if value = "" then fields else { fields with signatureHex := some value })
  | _ => .ok fields

/-- The text between two `&`. Without a `=` all of it is the key. -/
def readJoinLinkPair (fields : JoinLinkFields SocketAddr) (pair : List Char) :
    Except String (JoinLinkFields SocketAddr) :=
  if pair = [] then .ok fields
  else do
    let (rawKey, rawValue) := (splitOnce '=' pair).getD (pair, [])
    let key ← pctDecode (String.ofList rawKey)
    let value ← pctDecode (String.ofList rawValue)
    readJoinLinkParam libraries fields key value

/-- The payload that the parameters make up. -/
def JoinLinkFields.payload (fields : JoinLinkFields SocketAddr) :
    Except String (JoinLinkPayload SocketAddr) := do
  if fields.kaigiDomain.isSome != fields.kaigiCallName.isSome then
    .error "join link must include both kaigi_domain and kaigi_call_name (or neither)"
  validatePrivacyModeArg fields.kaigiPrivacyMode
  let relay ← okOr fields.relay "join link missing relay"
  let channel ← okOr fields.channel "join link missing channel"
  return {
    version := fields.version
    relay
    channel
    authenticated := fields.authenticated
    insecure := fields.insecure
    serverName := fields.serverName
    torii := fields.torii
    payTo := fields.payTo
    kaigiDomain := fields.kaigiDomain
    kaigiCallName := fields.kaigiCallName
    kaigiPrivacyMode := normalizePrivacyMode fields.kaigiPrivacyMode
    expiresAtMs := fields.expiresAtMs
    nonceHex := fields.nonceHex.map normalizeHexArg
    signatureHex := fields.signatureHex.map normalizeHexArg }

/-- `parse_join_link_with_mode` before it validates the payload. -/
def readJoinLink (link : String) : Except String (JoinLinkPayload SocketAddr) :=
  match splitOnce '?' (trim link) with
  | none => .error "join link must contain query params"
  | some (scheme, query) =>
      if toAsciiLowercase (String.ofList scheme) ≠ "kaigi://join" then
        .error ("unsupported join link scheme: " ++ String.ofList scheme)
      else do
        let fields ← (query.splitOn '&').foldlM (readJoinLinkPair libraries) {}
        fields.payload

/-- The checks of a signed link. -/
def validateSignedJoinLink (now : UInt64) (payload : JoinLinkPayload SocketAddr)
    (expiresAtMs : UInt64) (nonceHex signatureHex : String) : Except String Unit := do
  if expiresAtMs ≤ now then
    .error "join link expired"
  let maxDeltaMs ← okOr (checkedMul maxJoinLinkExpiresInSecs 1000) "join link max expiry overflow"
  if saturatingAdd now maxDeltaMs < expiresAtMs then
    .error <| "join link exp exceeds max future window (" ++
      toString maxJoinLinkExpiresInSecs.toNat ++ " seconds)"
  if ¬ isValidHexLen nonceHex joinLinkNonceBytes then
    .error ("join link nonce must be " ++ toString joinLinkNonceBytes ++ "-byte hex")
  if ¬ isValidHexLen signatureHex 32 then
    .error "join link sig must be 32-byte hex"
  let expected ← joinLinkSignatureHex libraries payload
  if expected ≠ normalizeHexArg signatureHex then
    .error "join link signature verification failed"

/-- A nonce is used once while it has not expired. -/
def registerJoinLinkNonceOnce (now : UInt64) (nonceHex : String) (expiresAtMs : UInt64)
    (seen : NonceCache) : Except String Unit × NonceCache :=
  let live := seen.retain fun _ expiry => now < expiry
  let normalized := normalizeHexArg nonceHex
  if live.containsKey normalized then (.error "join link replay detected", live)
  else if maxJoinLinkNonceCacheEntries ≤ live.keys.length then
    (.error <| "join link nonce cache is full (max " ++
      toString maxJoinLinkNonceCacheEntries ++ "), retry after active links expire", live)
  else (.ok (), live.put normalized expiresAtMs)

/-- The clock is read once for the expiry and once more for the cache. -/
def validateJoinLinkSecurity (now registeredAt : UInt64) (payload : JoinLinkPayload SocketAddr)
    (consumeNonceReplay : Bool) (seen : NonceCache) : Except String Unit × NonceCache :=
  if payload.version = joinLinkVersionLegacy then
    if payload.expiresAtMs.isSome || payload.nonceHex.isSome || payload.signatureHex.isSome then
      (.error "join link v1 must not include exp/nonce/sig fields", seen)
    else (.ok (), seen)
  else if payload.version = joinLinkVersionSigned then
    match payload.expiresAtMs, payload.nonceHex, payload.signatureHex with
    | none, _, _ => (.error "join link v2 missing exp", seen)
    | some _, none, _ => (.error "join link v2 missing nonce", seen)
    | some _, some _, none => (.error "join link v2 missing sig", seen)
    | some expiresAtMs, some nonceHex, some signatureHex =>
        match validateSignedJoinLink libraries now payload expiresAtMs nonceHex signatureHex with
        | .error message => (.error message, seen)
        | .ok () =>
            if consumeNonceReplay then
              registerJoinLinkNonceOnce registeredAt nonceHex expiresAtMs seen
            else (.ok (), seen)
  else
    (.error ("unsupported join link version: " ++ toString payload.version.toNat), seen)

def parseJoinLinkWithMode (now registeredAt : UInt64) (link : String)
    (consumeNonceReplay : Bool) (seen : NonceCache) :
    Except String (JoinLinkPayload SocketAddr) × NonceCache :=
  match readJoinLink libraries link with
  | .error message => (.error message, seen)
  | .ok payload =>
      match validateJoinLinkSecurity libraries now registeredAt payload consumeNonceReplay seen with
      | (.error message, seen) => (.error message, seen)
      | (.ok (), seen) => (.ok payload, seen)

def parseJoinLink (now registeredAt : UInt64) (link : String) (seen : NonceCache) :
    Except String (JoinLinkPayload SocketAddr) × NonceCache :=
  parseJoinLinkWithMode libraries now registeredAt link true seen

/-- An inspection does not read the clock for the cache. -/
def parseJoinLinkForInspection (now : UInt64) (link : String) (seen : NonceCache) :
    Except String (JoinLinkPayload SocketAddr) × NonceCache :=
  parseJoinLinkWithMode libraries now now link false seen

end Links

end Kaigi.Client
