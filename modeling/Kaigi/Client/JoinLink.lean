import Kaigi.Client.Hex
import Kaigi.Client.PercentEncoding
import Kaigi.Text.Fields

/-!
# Join links

A join link carries what a client needs to enter a call. The commands that write
one check their arguments; the parser checks the link, and for a signed link its
expiry and its signature. A client that joins also remembers the nonce of the link.
-/

set_option autoImplicit false

namespace Kaigi.Client

open Collections Hub Text

def joinLinkVersionLegacy : UInt8 := 1
def joinLinkVersionSigned : UInt8 := 2
def joinLinkNonceBytes : Nat := 16
def maxJoinLinkExpiresInSecs : UInt64 := 7 * 24 * 3600
def maxJoinLinkNonceCacheEntries : Nat := 4096

/-- What the commands take from their libraries: BLAKE3 and the text of a socket address. -/
structure Libraries (SocketAddr : Type) where
  blake3 : String → Vector UInt8 32
  displayAddr : SocketAddr → String
  parseAddr : String → Option SocketAddr

structure JoinLinkPayload (SocketAddr : Type) where
  version : UInt8
  relay : SocketAddr
  channel : Vector UInt8 32
  authenticated : Bool
  insecure : Bool
  serverName : Option String
  torii : Option String
  payTo : Option String
  kaigiDomain : Option String
  kaigiCallName : Option String
  kaigiPrivacyMode : Option String
  expiresAtMs : Option UInt64
  nonceHex : Option String
  signatureHex : Option String
  deriving DecidableEq

/-! ### Texts and numbers -/

/-- `Option::ok_or_else` with the text of the error. -/
def okOr {Value : Type} (value : Option Value) (message : String) : Except String Value :=
  match value with
  | some value => .ok value
  | none => .error message

/-- `u64::checked_mul`. -/
def checkedMul (left right : UInt64) : Option UInt64 :=
  if left.toNat * right.toNat < UInt64.size then some (left * right) else none

/-- `u64::checked_add`. -/
def checkedAdd (left right : UInt64) : Option UInt64 :=
  if left.toNat + right.toNat < UInt64.size then some (left + right) else none

/-- `u64::saturating_add`. -/
def saturatingAdd (left right : UInt64) : UInt64 :=
  (checkedAdd left right).getD (UInt64.ofNat (UInt64.size - 1))

/-- At most one sign goes in front of the digits. -/
def unsignedDigits : List Char → List Char
  | '+' :: digits => digits
  | digits => digits

/-- `str::parse` at an unsigned type. -/
def parseUnsigned (bound : Nat) (text : String) : Option Nat :=
  let digits := unsignedDigits text.toList
  if digits ≠ [] ∧ digits.all Char.isDigit ∧ Nat.ofDigitChars 10 digits 0 < bound then
    some (Nat.ofDigitChars 10 digits 0)
  else none

def parseBoolish (raw : String) : Option Bool :=
  match toAsciiLowercase (String.ofList (trim raw)) with
  | "1" | "true" | "yes" | "on" => some true
  | "0" | "false" | "no" | "off" => some false
  | _ => none

def normalizeHexArg (value : String) : String :=
  toAsciiLowercase (stripHexPrefix (String.ofList (trim value)))

/-- `decode_hex_32` with the text of its error. -/
def decodeHexArray (value : String) : Except String (Vector UInt8 32) :=
  match hexDecode (trim value) with
  | none => .error "decode hex"
  | some bytes =>
      if exact : bytes.length = 32 then .ok ⟨bytes.toArray, exact⟩
      else .error s!"expected 32 bytes, got {bytes.length}"

def deterministicSignatureHex {SocketAddr : Type} (libraries : Libraries SocketAddr)
    (tag payload : String) : String :=
  hexEncode (libraries.blake3 (tag ++ payload)).toList

/-! ### Checks of the arguments -/

def validateNexusRoutingRequirement (allowLocalHandshake : Bool) (torii : Option String) :
    Except String Unit :=
  if allowLocalHandshake || torii.isSome then .ok ()
  else .error <| "--torii (or a --join-link containing torii=...) is required for Nexus-routed " ++
    "calls; pass --allow-local-handshake only for local dev harness"

def validateJoinLinkCallMetadata (kaigiDomain kaigiCallName : Option String) :
    Except String Unit :=
  if kaigiDomain.isSome != kaigiCallName.isSome then
    .error <| "--kaigi-domain and --kaigi-call-name must be set together when embedding " ++
      "lifecycle metadata"
  else .ok ()

/-- `mode.trim().to_ascii_lowercase().replace('-', "_")`. -/
def foldPrivacyMode (mode : String) : String :=
  String.ofList ((toAsciiLowercase (String.ofList (trim mode))).toList.map fun character =>
    if character = '-' then '_' else character)

def validatePrivacyModeArg : Option String → Except String Unit
  | none => .ok ()
  | some mode =>
      if foldPrivacyMode mode ≠ "transparent" ∧ foldPrivacyMode mode ≠ "zk" ∧
          foldPrivacyMode mode ≠ "zk_roster_v1" then
        .error <| "unsupported privacy mode `" ++ mode ++
          "`; expected transparent|zk|zk_roster_v1|zk-roster-v1"
      else .ok ()

def normalizePrivacyMode (mode : Option String) : Option String :=
  mode.bind fun raw =>
    if foldPrivacyMode raw = "" then none
    else if foldPrivacyMode raw = "zk_roster_v1" then some "zk"
    else some (foldPrivacyMode raw)

section Links

variable {SocketAddr : Type} (libraries : Libraries SocketAddr)

/-! ### Writing a link -/

def flagText (flag : Bool) : String :=
  if flag then "1" else "0"

def joinLinkSignaturePayload (payload : JoinLinkPayload SocketAddr) : Except String String := do
  let expiresAtMs ← okOr payload.expiresAtMs "join link v2 missing exp"
  let nonceHex ← okOr payload.nonceHex "join link v2 missing nonce"
  return "|".intercalate [toString payload.version.toNat, libraries.displayAddr payload.relay,
    hexEncode payload.channel.toList, flagText payload.authenticated, flagText payload.insecure,
    payload.serverName.getD "", payload.torii.getD "", payload.payTo.getD "",
    payload.kaigiDomain.getD "", payload.kaigiCallName.getD "",
    payload.kaigiPrivacyMode.getD "", toString expiresAtMs.toNat, normalizeHexArg nonceHex]

def joinLinkSignatureHex (payload : JoinLinkPayload SocketAddr) : Except String String :=
  (joinLinkSignaturePayload libraries payload).map
    (deterministicSignatureHex libraries "join_link_v2")

/-- The nonce comes from the random number generator, and `now` from the clock. -/
def populateJoinLinkSecurityFields (now : UInt64) (nonce : Vector UInt8 16)
    (payload : JoinLinkPayload SocketAddr) (expiresInSecs : UInt64) :
    Except String (JoinLinkPayload SocketAddr) :=
  if payload.version ≠ joinLinkVersionSigned then .ok payload
  else if expiresInSecs = 0 then .error "--expires-in-secs must be >= 1"
  else if maxJoinLinkExpiresInSecs < expiresInSecs then
    .error s!"--expires-in-secs must be <= {maxJoinLinkExpiresInSecs.toNat}"
  else do
    let expiresDeltaMs ← okOr (checkedMul expiresInSecs 1000) "--expires-in-secs overflow"
    let expiresAtMs ← okOr (checkedAdd now expiresDeltaMs) "join link expiration overflow"
    let dated := { payload with
      expiresAtMs := some expiresAtMs
      nonceHex := some (hexEncode nonce.toList) }
    let signatureHex ← joinLinkSignatureHex libraries dated
    return { dated with signatureHex := some signatureHex }

def optionalParam (key : String) (value : Option String) : List (String × String) :=
  value.toList.map (key, ·)

def joinLinkParams (payload : JoinLinkPayload SocketAddr) : List (String × String) :=
  [("v", toString payload.version.toNat), ("relay", libraries.displayAddr payload.relay),
    ("channel", hexEncode payload.channel.toList),
    ("authenticated", flagText payload.authenticated),
    ("insecure", flagText payload.insecure)] ++
  optionalParam "sni" payload.serverName ++
  optionalParam "torii" payload.torii ++
  optionalParam "pay_to" payload.payTo ++
  optionalParam "kaigi_domain" payload.kaigiDomain ++
  optionalParam "kaigi_call_name" payload.kaigiCallName ++
  optionalParam "kaigi_privacy_mode" payload.kaigiPrivacyMode ++
  optionalParam "exp" (payload.expiresAtMs.map fun expiresAtMs => toString expiresAtMs.toNat) ++
  optionalParam "nonce" payload.nonceHex ++
  optionalParam "sig" payload.signatureHex

def renderParam (param : String × String) : String :=
  pctEncode param.1 ++ "=" ++ pctEncode param.2

def renderJoinLink (payload : JoinLinkPayload SocketAddr) : String :=
  "kaigi://join?" ++ "&".intercalate ((joinLinkParams libraries payload).map renderParam)

structure MakeJoinLinkArgs (SocketAddr : Type) where
  relay : SocketAddr
  channel : String
  serverName : Option String
  authenticated : Bool
  insecure : Bool
  torii : Option String
  payTo : Option String
  kaigiDomain : Option String
  kaigiCallName : Option String
  kaigiPrivacyMode : Option String
  expiresInSecs : UInt64
  legacyV1 : Bool
  allowLocalHandshake : Bool

/-- The payload of the link that the command prints. -/
def makeJoinLink (now : UInt64) (nonce : Vector UInt8 16) (args : MakeJoinLinkArgs SocketAddr) :
    Except String (JoinLinkPayload SocketAddr) := do
  validateNexusRoutingRequirement args.allowLocalHandshake args.torii
  validateJoinLinkCallMetadata args.kaigiDomain args.kaigiCallName
  validatePrivacyModeArg args.kaigiPrivacyMode
  let channel ← decodeHexArray args.channel
  let payload : JoinLinkPayload SocketAddr := {
    version := if args.legacyV1 then joinLinkVersionLegacy else joinLinkVersionSigned
    relay := args.relay
    channel
    authenticated := args.authenticated
    insecure := args.insecure
    serverName := args.serverName
    torii := args.torii
    payTo := args.payTo
    kaigiDomain := args.kaigiDomain
    kaigiCallName := args.kaigiCallName
    kaigiPrivacyMode := normalizePrivacyMode args.kaigiPrivacyMode
    expiresAtMs := none
    nonceHex := none
    signatureHex := none }
  if payload.version = joinLinkVersionSigned then
    populateJoinLinkSecurityFields libraries now nonce payload args.expiresInSecs
  else .ok payload

/-! ### Route updates -/

inductive SoranetAccessKind where
  | readOnly
  | authenticated
  deriving DecidableEq

structure SoranetRoute where
  channelId : Vector UInt8 32
  exitMultiaddr : String
  paddingBudgetMs : Option UInt16
  accessKind : SoranetAccessKind

structure PrivacyRouteUpdate where
  routeId : Vector UInt8 32
  streamId : Vector UInt8 32
  contentKeyId : UInt64
  validFromSegment : UInt64
  validUntilSegment : UInt64
  exitToken : Vector UInt8 32
  soranet : Option SoranetRoute

/-- The norito encoding of an update, written to the file at a path. -/
abbrev Spool := List String → PrivacyRouteUpdate → Except String Unit

/-- What the command takes from the random number generator. -/
structure RouteDraws where
  channelId : Vector UInt8 32
  routeId : Vector UInt8 32
  streamId : Vector UInt8 32
  exitToken : Vector UInt8 32
  nonce : Vector UInt8 16

structure WriteRouteUpdateArgs (SocketAddr : Type) where
  spoolDir : String
  relayId : String
  channel : Option String
  exitMultiaddr : String
  relay : Option SocketAddr
  serverName : Option String
  insecure : Bool
  torii : Option String
  payTo : Option String
  kaigiDomain : Option String
  kaigiCallName : Option String
  kaigiPrivacyMode : Option String
  joinLinkExpiresInSecs : UInt64
  joinLinkLegacyV1 : Bool
  allowLocalHandshake : Bool
  accessKind : String
  paddingBudgetMs : Option UInt16
  validFromSegment : UInt64
  validUntilSegment : UInt64

/-- A route without a channel id gets a drawn one. -/
def routeChannel (drawn : Vector UInt8 32) : Option String → Except String (Vector UInt8 32)
  | some hex => decodeHexArray hex
  | none => .ok drawn

def soranetAccessKind : String → Except String SoranetAccessKind
  | "public" => .ok .readOnly
  | "authenticated" => .ok .authenticated
  | other => .error ("unknown access_kind: " ++ other)

def routePath (args : WriteRouteUpdateArgs SocketAddr) (relayId streamId : Vector UInt8 32) :
    List String :=
  [args.spoolDir, "exit-" ++ hexEncode relayId.toList, "kaigi-stream",
    "kaigi-route-" ++ toString args.validFromSegment.toNat ++ "-" ++
      hexEncode (streamId.toList.take 8) ++ ".norito"]

/-- The payload of the link that the command prints behind the route; without a relay
address it prints none. -/
def writeRouteUpdate (spool : Spool) (now : UInt64) (draws : RouteDraws)
    (args : WriteRouteUpdateArgs SocketAddr) :
    Except String (Option (JoinLinkPayload SocketAddr)) := do
  let relayId ← decodeHexArray args.relayId
  let channelId ← routeChannel draws.channelId args.channel
  let accessKind ← soranetAccessKind args.accessKind
  spool (routePath args relayId draws.streamId) {
    routeId := draws.routeId
    streamId := draws.streamId
    contentKeyId := 0
    validFromSegment := args.validFromSegment
    validUntilSegment := args.validUntilSegment
    exitToken := draws.exitToken
    soranet := some {
      channelId
      exitMultiaddr := args.exitMultiaddr
      paddingBudgetMs := args.paddingBudgetMs
      accessKind } }
  match args.relay with
  | none => return none
  | some relay =>
      validateNexusRoutingRequirement args.allowLocalHandshake args.torii
      validateJoinLinkCallMetadata args.kaigiDomain args.kaigiCallName
      validatePrivacyModeArg args.kaigiPrivacyMode
      let join : JoinLinkPayload SocketAddr := {
        version := if args.joinLinkLegacyV1 then joinLinkVersionLegacy else joinLinkVersionSigned
        relay
        channel := channelId
        authenticated := accessKind = .authenticated
        insecure := args.insecure
        serverName := some (args.serverName.getD "localhost")
        torii := args.torii
        payTo := args.payTo
        kaigiDomain := args.kaigiDomain
        kaigiCallName := args.kaigiCallName
        kaigiPrivacyMode := normalizePrivacyMode args.kaigiPrivacyMode
        expiresAtMs := none
        nonceHex := none
        signatureHex := none }
      if join.version = joinLinkVersionSigned then
        (populateJoinLinkSecurityFields libraries now draws.nonce join
          args.joinLinkExpiresInSecs).map some
      else return some join

end Links

end Kaigi.Client
