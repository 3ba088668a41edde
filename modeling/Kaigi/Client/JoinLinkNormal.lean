import Kaigi.Client.JoinLinkSigning
import Kaigi.Text.SocketAddrRoundTrip

/-!
# Normal forms of join links

The parser accepts a call in many spellings, and what it returns is written in one. Reading
that link again gives the same payload, unless the digits of the nonce or of the signature
had two prefixes: the parser drops one of them and its check looks past the other.
-/

set_option autoImplicit false

namespace Kaigi.Client

open Collections Hub Text

/-! ### Prefixes in any letter case -/

/-- `char::to_ascii_lowercase`. -/
def lowered (character : Char) : Char :=
  if 'A' ≤ character && character ≤ 'Z' then Char.ofNat (character.toNat + 32) else character

theorem toList_toAsciiLowercase (value : String) :
    (toAsciiLowercase value).toList = value.toList.map lowered := by
  rw [toAsciiLowercase, String.toList_ofList]
  rfl

/-- Letters of ASCII are checked one by one; the other characters stay. -/
theorem lowered_cases (character : Char) :
    lowered character = character ∧ character ≠ 'X' ∨
      lowered (lowered character) = lowered character ∧ lowered character ≠ '0' ∧
        lowered character ≠ 'X' ∧ (lowered character = 'x' → character = 'X') := by
  have letters : ∀ value < 128, ('A' ≤ Char.ofNat value && Char.ofNat value ≤ 'Z') = true →
      lowered (lowered (Char.ofNat value)) = lowered (Char.ofNat value) ∧
      lowered (Char.ofNat value) ≠ '0' ∧ lowered (Char.ofNat value) ≠ 'X' ∧
        (lowered (Char.ofNat value) = 'x' → Char.ofNat value = 'X') := by
    decide +kernel
  by_cases upper : ('A' ≤ character && character ≤ 'Z') = true
  · have small : character.toNat < 128 :=
      Nat.lt_of_le_of_lt (of_decide_eq_true (Bool.and_eq_true_iff.mp upper).2) (by decide)
    have holds := letters character.toNat small
    rw [Char.ofNat_toNat] at holds
    exact .inr (holds upper)
  · refine .inl ⟨if_neg upper, ?_⟩
    rintro rfl
    exact upper (by decide)

theorem lowered_lowered (character : Char) : lowered (lowered character) = lowered character := by
  obtain ⟨same, _⟩ | ⟨again, _⟩ := lowered_cases character
  · rw [same, same]
  · exact again

theorem toAsciiLowercase_idem (value : String) :
    toAsciiLowercase (toAsciiLowercase value) = toAsciiLowercase value := by
  apply String.toList_inj.mp
  rw [toList_toAsciiLowercase, toList_toAsciiLowercase, List.map_map]
  exact List.map_congr_left fun character _ => lowered_lowered character

theorem eq_zero_of_lowered {character : Char} (zero : lowered character = '0') :
    character = '0' := by
  obtain ⟨same, _⟩ | ⟨_, other, _⟩ := lowered_cases character
  · exact same.symm.trans zero
  · exact absurd zero other

theorem mark_of_lowered {character : Char} (mark : lowered character = 'x') :
    character = 'x' ∨ character = 'X' := by
  obtain ⟨same, _⟩ | ⟨_, _, _, upper⟩ := lowered_cases character
  · exact .inl (same.symm.trans mark)
  · exact .inr (upper mark)

theorem lowered_ne_upper_mark (character : Char) : lowered character ≠ 'X' := by
  obtain ⟨same, other⟩ | ⟨_, _, other, _⟩ := lowered_cases character
  · rwa [same]
  · exact other

theorem stripHexPrefix_marked {value : String} {rest : List Char}
    (shape : value.toList = '0' :: 'x' :: rest ∨ value.toList = '0' :: 'X' :: rest) :
    stripHexPrefix value = String.ofList rest := by
  obtain shape | shape := shape <;>
  · rw [stripHexPrefix, shape]
    rfl

/-- A prefix is cut off exactly if there is one. -/
theorem stripHexPrefix_ne_iff {value : String} :
    stripHexPrefix value ≠ value ↔
      ∃ rest, value.toList = '0' :: 'x' :: rest ∨ value.toList = '0' :: 'X' :: rest := by
  constructor
  · intro cut
    obtain same | ⟨rest, _, shape⟩ := stripHexPrefix_cases value
    · exact absurd same cut
    · exact ⟨rest, shape⟩
  · rintro ⟨rest, shape⟩ same
    have lengths := congrArg (fun text => text.toList.length)
      ((stripHexPrefix_marked shape).symm.trans same)
    rw [String.toList_ofList] at lengths
    obtain shape | shape := shape <;>
    · rw [shape, List.length_cons, List.length_cons] at lengths
      omega

/-- The mark of a prefix may be in upper case; in lower case it is still one. -/
theorem stripHexPrefix_toAsciiLowercase (value : String) :
    stripHexPrefix (toAsciiLowercase value) = toAsciiLowercase (stripHexPrefix value) := by
  by_cases cut : stripHexPrefix value = value
  · rw [cut]
    by_contra lowerCut
    obtain ⟨rest, shape⟩ := stripHexPrefix_ne_iff.mp lowerCut
    refine stripHexPrefix_ne_iff.mpr ?_ cut
    rw [toList_toAsciiLowercase] at shape
    obtain shape | shape := shape
    · obtain ⟨first, tail, whole, zero, shape⟩ := List.map_eq_cons_iff.mp shape
      obtain ⟨second, last, rfl, mark, _⟩ := List.map_eq_cons_iff.mp shape
      rw [whole, eq_zero_of_lowered zero]
      obtain rfl | rfl := mark_of_lowered mark
      · exact ⟨last, .inl rfl⟩
      · exact ⟨last, .inr rfl⟩
    · obtain ⟨first, tail, whole, zero, shape⟩ := List.map_eq_cons_iff.mp shape
      obtain ⟨second, last, rfl, mark, _⟩ := List.map_eq_cons_iff.mp shape
      exact absurd mark (lowered_ne_upper_mark second)
  · obtain ⟨rest, shape⟩ := stripHexPrefix_ne_iff.mp cut
    have lower : (toAsciiLowercase value).toList = '0' :: 'x' :: rest.map lowered := by
      rw [toList_toAsciiLowercase]
      obtain shape | shape := shape <;> rw [shape] <;> rfl
    rw [stripHexPrefix_marked shape, stripHexPrefix_marked (.inl lower)]
    apply String.toList_inj.mp
    rw [toList_toAsciiLowercase, String.toList_ofList, String.toList_ofList]

/-- Behind its first prefix the text has another. -/
def DoublyPrefixed (value : String) : Prop :=
  stripHexPrefix (stripHexPrefix (String.ofList (trim value))) ≠
    stripHexPrefix (String.ofList (trim value))

/-- Digits that are accepted are in normal form unless a second prefix is in front. -/
theorem normalizeHexArg_idem_iff {value : String}
    (checked : hexDecodes (stripHexPrefix (normalizeHexArg value)) = true) :
    normalizeHexArg (normalizeHexArg value) = normalizeHexArg value ↔ ¬ DoublyPrefixed value := by
  unfold DoublyPrefixed
  have again : normalizeHexArg (normalizeHexArg value) =
      toAsciiLowercase (stripHexPrefix (normalizeHexArg value)) := by
    rw [normalizeHexArg, trim_of_checked checked, String.ofList_toList]
  rw [again, normalizeHexArg]
  generalize stripHexPrefix (String.ofList (trim value)) = digits
  rw [stripHexPrefix_toAsciiLowercase, toAsciiLowercase_idem, not_ne_iff]
  constructor
  · intro same
    by_contra cut
    obtain ⟨rest, shape⟩ := stripHexPrefix_ne_iff.mp cut
    have lengths := congrArg (fun text => text.toList.length) same
    rw [stripHexPrefix_marked shape, toList_toAsciiLowercase, toList_toAsciiLowercase,
      List.length_map, List.length_map, String.toList_ofList] at lengths
    obtain shape | shape := shape <;>
    · rw [shape, List.length_cons, List.length_cons] at lengths
      omega
  · intro same
    rw [same]

/-! ### The parameters of a link -/

/-- The key and the value of the text between two `&`. -/
def linkParam (pair : List Char) : Option (String × String) :=
  let (rawKey, rawValue) := (splitOnce '=' pair).getD (pair, [])
  match pctDecode (String.ofList rawKey), pctDecode (String.ofList rawValue) with
  | .ok key, .ok value => some (key, value)
  | _, _ => none

def queryParams (query : List Char) : List (String × String) :=
  ((query.splitOn '&').filter (· ≠ [])).filterMap linkParam

def linkParams (link : String) : List (String × String) :=
  match splitOnce '?' (trim link) with
  | none => []
  | some (_, query) => queryParams query

/-- The last text that the parameters have for the key. -/
def lastText (key : String) (params : List (String × String)) : Option String :=
  ((params.filter fun param => param.1 = key ∧ param.2 ≠ "").map Prod.snd).getLast?

section Links

variable {SocketAddr : Type} {libraries : Libraries SocketAddr}
  {fields next : JoinLinkFields SocketAddr} {payload : JoinLinkPayload SocketAddr}

theorem readJoinLinkPair_ok {pair : List Char}
    (read : readJoinLinkPair libraries fields pair = .ok next) :
    (pair = [] ∧ next = fields) ∨ ∃ key value, linkParam pair = some (key, value) ∧ pair ≠ [] ∧
      readJoinLinkParam libraries fields key value = .ok next := by
  unfold readJoinLinkPair at read
  unfold linkParam
  by_cases empty : pair = []
  · rw [if_pos empty] at read
    cases read
    exact .inl ⟨empty, rfl⟩
  · rw [if_neg empty] at read
    generalize (splitOnce '=' pair).getD (pair, []) = parts at read ⊢
    obtain ⟨rawKey, rawValue⟩ := parts
    obtain ⟨key, keyText, read⟩ := bind_ok read
    obtain ⟨value, valueText, read⟩ := bind_ok read
    refine .inr ⟨key, value, ?_, empty, read⟩
    dsimp only
    rw [keyText, valueText]

/-- The pairs that decode are the parameters. -/
theorem readJoinLinkParams_of_pairs {pairs : List (List Char)}
    (read : pairs.foldlM (readJoinLinkPair libraries) fields = .ok next) :
    readJoinLinkParams libraries fields ((pairs.filter (· ≠ [])).filterMap linkParam) =
      .ok next := by
  induction pairs generalizing fields with
  | nil => exact read
  | cons pair pairs ih =>
      rw [List.foldlM_cons] at read
      obtain ⟨mid, first, rest⟩ := bind_ok read
      obtain ⟨rfl, rfl⟩ | ⟨key, value, decoded, full, first⟩ := readJoinLinkPair_ok first
      · exact ih rest
      · rw [List.filter_cons_of_pos (by simpa using full), List.filterMap_cons_some decoded,
          readJoinLinkParams_cons libraries first]
        exact ih rest

theorem readJoinLink_ok {link : String} (read : readJoinLink libraries link = .ok payload) :
    ∃ fields, readJoinLinkParams libraries {} (linkParams link) = .ok fields ∧
      fields.payload = .ok payload := by
  unfold readJoinLink at read
  unfold linkParams
  cases split : splitOnce '?' (trim link) with
  | none =>
      rw [split] at read
      cases read
  | some parts =>
      obtain ⟨scheme, query⟩ := parts
      rw [split] at read
      dsimp only at read ⊢
      by_cases foreign : toAsciiLowercase (String.ofList scheme) ≠ "kaigi://join"
      · rw [if_pos foreign] at read
        cases read
      · rw [if_neg foreign] at read
        obtain ⟨fields, pairs, made⟩ := bind_ok read
        exact ⟨fields, readJoinLinkParams_of_pairs pairs, made⟩

theorem map_ok {First Result : Type} {first : Except String First} {make : First → Result}
    {result : Result} (made : first.map make = .ok result) :
    ∃ value, first = .ok value ∧ make value = result := by
  cases first with
  | error message => cases made
  | ok value => exact ⟨value, rfl, Except.ok.inj made⟩

/-- The fields that take any text. -/
def JoinLinkFields.texts (fields : JoinLinkFields SocketAddr) : List (Option String) :=
  [fields.serverName, fields.torii, fields.payTo, fields.kaigiDomain, fields.kaigiCallName]

/-- What a parameter changes of the fields, as far as it matters for the next link. -/
structure Changes (libraries : Libraries SocketAddr) (key value : String)
    (fields next : JoinLinkFields SocketAddr) : Prop where
  relay : next.relay = fields.relay ∨ libraries.parseAddr value = next.relay
  texts : ∀ text ∈ next.texts, text ∈ fields.texts ∨ text ≠ some ""
  nonceHex : next.nonceHex = if key = "nonce" ∧ value ≠ "" then some value else fields.nonceHex
  signatureHex :
    next.signatureHex = if key = "sig" ∧ value ≠ "" then some value else fields.signatureHex

theorem changes_other {key value : String} (nonce : key ≠ "nonce") (sig : key ≠ "sig")
    (texts : ∀ text ∈ next.texts, text ∈ fields.texts ∨ text ≠ some "")
    (relay : next.relay = fields.relay) (nonceHex : next.nonceHex = fields.nonceHex)
    (signatureHex : next.signatureHex = fields.signatureHex) :
    Changes libraries key value fields next :=
  ⟨.inl relay, texts, nonceHex.trans (if_neg fun both => nonce both.1).symm,
    signatureHex.trans (if_neg fun both => sig both.1).symm⟩

theorem texts_of_text {value : String} (full : value ≠ "")
    (others : ∀ text ∈ next.texts, text ∈ fields.texts ∨ text = some value) :
    ∀ text ∈ next.texts, text ∈ fields.texts ∨ text ≠ some "" := by
  intro text member
  refine (others text member).imp_right ?_
  rintro rfl empty
  exact full (Option.some.inj empty)

theorem readJoinLinkParam_changes {key value : String}
    (read : readJoinLinkParam libraries fields key value = .ok next) :
    Changes libraries key value fields next := by
  unfold readJoinLinkParam at read
  split at read
  case h_1 | h_3 | h_4 | h_5 =>
    obtain ⟨_, _, rfl⟩ := map_ok read
    exact changes_other (by decide) (by decide) (fun _ => .inl) rfl rfl rfl
  case h_2 =>
    obtain ⟨_, parsed, rfl⟩ := map_ok read
    exact ⟨.inr (okOr_ok parsed), fun _ => .inl, rfl, rfl⟩
  case h_6 | h_7 | h_8 | h_9 | h_10 =>
    cases read
    split
    · exact changes_other (by decide) (by decide) (fun _ => .inl) rfl rfl rfl
    · next full =>
        exact changes_other (by decide) (by decide)
          (texts_of_text full (by simp [JoinLinkFields.texts])) rfl rfl rfl
  case h_11 =>
    cases read
    split <;> exact changes_other (by decide) (by decide) (fun _ => .inl) rfl rfl rfl
  case h_12 =>
    split at read
    · cases read
      exact changes_other (by decide) (by decide) (fun _ => .inl) rfl rfl rfl
    · obtain ⟨_, _, rfl⟩ := map_ok read
      exact changes_other (by decide) (by decide) (fun _ => .inl) rfl rfl rfl
  case h_13 =>
    cases read
    split
    · next empty => exact ⟨.inl rfl, fun _ => .inl, by simp [empty], rfl⟩
    · next full => exact ⟨.inl rfl, fun _ => .inl, by simp [full], rfl⟩
  case h_14 =>
    cases read
    split
    · next empty => exact ⟨.inl rfl, fun _ => .inl, rfl, by simp [empty]⟩
    · next full => exact ⟨.inl rfl, fun _ => .inl, rfl, by simp [full]⟩
  case h_15 nonce sig =>
    cases read
    exact changes_other nonce sig (fun _ => .inl) rfl rfl rfl

theorem lastText_cons (key : String) (param : String × String) (params : List (String × String)) :
    lastText key (param :: params) = (lastText key params).or
      (if param.1 = key ∧ param.2 ≠ "" then some param.2 else none) := by
  unfold lastText
  by_cases found : param.1 = key ∧ param.2 ≠ ""
  · rw [List.filter_cons_of_pos (by simpa using found), List.map_cons, List.getLast?_cons,
      if_pos found]
    cases ((params.filter fun param => param.1 = key ∧ param.2 ≠ "").map Prod.snd).getLast? <;> rfl
  · rw [List.filter_cons_of_neg (by simpa using found), if_neg found, Option.or_none]

/-- What the parameters leave in the fields. -/
structure Gathers (libraries : Libraries SocketAddr) (params : List (String × String))
    (fields next : JoinLinkFields SocketAddr) : Prop where
  relay : ∀ relay, next.relay = some relay →
    fields.relay = some relay ∨ ∃ text, libraries.parseAddr text = some relay
  texts : ∀ text ∈ next.texts, text ∈ fields.texts ∨ text ≠ some ""
  nonceHex : next.nonceHex = (lastText "nonce" params).or fields.nonceHex
  signatureHex : next.signatureHex = (lastText "sig" params).or fields.signatureHex

theorem readJoinLinkParams_gathers {params : List (String × String)}
    (read : readJoinLinkParams libraries fields params = .ok next) :
    Gathers libraries params fields next := by
  induction params generalizing fields with
  | nil =>
      cases read
      exact ⟨fun _ => .inl, fun _ => .inl, rfl, rfl⟩
  | cons param params ih =>
      obtain ⟨mid, first, rest⟩ := bind_ok ((List.foldlM_cons ..).symm.trans read)
      have changes := readJoinLinkParam_changes first
      have gathers := ih rest
      refine ⟨fun relay found => ?_, fun text member => ?_, ?_, ?_⟩
      · obtain earlier | parsed := gathers.relay relay found
        · rw [← earlier]
          exact changes.relay.imp Eq.symm fun parsed => ⟨param.2, parsed⟩
        · exact .inr parsed
      · exact (gathers.texts text member).elim (changes.texts text) .inr
      · rw [gathers.nonceHex, changes.nonceHex, lastText_cons, Option.or_assoc]
        split <;> rfl
      · rw [gathers.signatureHex, changes.signatureHex, lastText_cons, Option.or_assoc]
        split <;> rfl

/-- What was read from a link, before the checks of its security fields. -/
structure ReadFrom (libraries : Libraries SocketAddr) (link : String)
    (payload : JoinLinkPayload SocketAddr) : Prop where
  relay : ∃ text, libraries.parseAddr text = some payload.relay
  filled : ∀ text ∈ [payload.serverName, payload.torii, payload.payTo, payload.kaigiDomain,
    payload.kaigiCallName], text ≠ some ""
  paired : payload.kaigiDomain.isSome = payload.kaigiCallName.isSome
  mode : ∀ word ∈ payload.kaigiPrivacyMode, word = "transparent" ∨ word = "zk"
  nonceHex : payload.nonceHex = (lastText "nonce" (linkParams link)).map normalizeHexArg
  signatureHex : payload.signatureHex = (lastText "sig" (linkParams link)).map normalizeHexArg

theorem readJoinLink_readFrom {link : String} (read : readJoinLink libraries link = .ok payload) :
    ReadFrom libraries link payload := by
  obtain ⟨fields, params, made⟩ := readJoinLink_ok read
  have gathers := readJoinLinkParams_gathers params
  unfold JoinLinkFields.payload at made
  obtain ⟨paired, made⟩ := guarded_ok made
  obtain ⟨_, mode, made⟩ := bind_ok made
  obtain ⟨relay, found, made⟩ := bind_ok made
  obtain ⟨channel, _, made⟩ := bind_ok made
  cases made
  refine ⟨?_, fun text member => ?_, by simpa using paired, normalizePrivacyMode_passed mode, ?_,
    ?_⟩
  · obtain unset | parsed := gathers.relay relay (okOr_ok found)
    · cases unset
    · exact parsed
  · refine (gathers.texts text member).elim (fun unset => ?_) id
    simp only [JoinLinkFields.texts, List.mem_cons, List.not_mem_nil, or_self, or_false] at unset
    rw [unset]
    simp
  · rw [gathers.nonceHex, Option.or_none]
  · rw [gathers.signatureHex, Option.or_none]

/-! ### The checks at a later time -/

theorem saturatingAdd_le {left right number : UInt64} (within : number ≤ saturatingAdd left right) :
    number.toNat ≤ left.toNat + right.toNat := by
  unfold saturatingAdd at within
  cases checked : checkedAdd left right with
  | none =>
      unfold checkedAdd at checked
      split at checked
      next => cases checked
      next large => exact Nat.le_trans (Nat.le_of_lt number.toNat_lt) (Nat.not_lt.mp large)
  | some sum =>
      rw [checked, Option.getD_some] at within
      rw [← checkedAdd_toNat checked]
      exact UInt64.le_iff_toNat_le.mp within

/-- What the checks of a signed link ask for besides what is verified. -/
theorem validateSignedJoinLink_near {now expiresAtMs : UInt64} {nonceHex signatureHex : String}
    (passed : validateSignedJoinLink libraries now payload expiresAtMs nonceHex signatureHex =
      .ok ()) :
    expiresAtMs.toNat ≤ now.toNat + 604800000 ∧ isValidHexLen signatureHex 32 = true := by
  unfold validateSignedJoinLink at passed
  obtain ⟨_, passed⟩ := guarded_ok passed
  obtain ⟨maxDeltaMs, scaled, passed⟩ := bind_ok passed
  obtain ⟨soon, passed⟩ := guarded_ok passed
  obtain ⟨_, passed⟩ := guarded_ok passed
  obtain ⟨signature, _⟩ := guarded_ok passed
  obtain ⟨limit, same, exact⟩ := maxDeltaMs_found
  cases same.symm.trans (okOr_ok scaled)
  rw [← exact]
  exact ⟨saturatingAdd_le (UInt64.not_lt.mp soon), Decidable.not_not.mp signature⟩

/-- A link that an inspection accepts has none of the security fields or all of them. -/
theorem inspected_cases {now : UInt64} {seen later : NonceCache}
    (passed : validateJoinLinkSecurity libraries now now payload false seen = (.ok (), later)) :
    (payload.version = joinLinkVersionLegacy ∧ payload.expiresAtMs = none ∧
      payload.nonceHex = none ∧ payload.signatureHex = none) ∨
    ∃ expiresAtMs nonceHex signatureHex, payload.version = joinLinkVersionSigned ∧
      payload.expiresAtMs = some expiresAtMs ∧ payload.nonceHex = some nonceHex ∧
      payload.signatureHex = some signatureHex ∧
      validateSignedJoinLink libraries now payload expiresAtMs nonceHex signatureHex = .ok () := by
  unfold validateJoinLinkSecurity at passed
  by_cases legacy : payload.version = joinLinkVersionLegacy
  · rw [if_pos legacy] at passed
    split at passed
    · cases passed
    · next absent => exact .inl ⟨legacy, by simpa [and_assoc] using absent⟩
  · rw [if_neg legacy] at passed
    by_cases signed : payload.version = joinLinkVersionSigned
    · rw [if_pos signed] at passed
      split at passed
      · cases passed
      · cases passed
      · cases passed
      · next expiry nonce signature =>
          split at passed
          · cases passed
          · next checked => exact .inr ⟨_, _, _, signed, expiry, nonce, signature, checked⟩
    · rw [if_neg signed] at passed
      cases passed

theorem parseJoinLinkForInspection_ok {now : UInt64} {link : String} {seen later : NonceCache}
    (accepted : parseJoinLinkForInspection libraries now link seen = (.ok payload, later)) :
    readJoinLink libraries link = .ok payload ∧
      validateJoinLinkSecurity libraries now now payload false seen = (.ok (), later) := by
  unfold parseJoinLinkForInspection parseJoinLinkWithMode at accepted
  cases read : readJoinLink libraries link with
  | error message =>
      rw [read] at accepted
      cases accepted
  | ok found =>
      rw [read] at accepted
      dsimp only at accepted
      split at accepted
      · cases accepted
      · next checked =>
          cases accepted
          exact ⟨rfl, checked⟩

/-- The digits that passed are not empty. -/
theorem ne_empty_of_isValidHexLen {value : String} {bytes : Nat} (some : 0 < bytes)
    (digits : isValidHexLen value bytes = true) : value ≠ "" := by
  rintro rfl
  have size := eq_of_beq (Bool.and_eq_true_iff.mp digits).1
  have empty : (stripHexPrefix "").utf8ByteSize = 0 := by decide
  omega

/-- What an inspection accepts passes again until it expires. -/
theorem passes_later {now time : UInt64} {seen later : NonceCache}
    (passed : validateJoinLinkSecurity libraries now now payload false seen = (.ok (), later))
    (after : now ≤ time) (before : ∀ expiresAtMs ∈ payload.expiresAtMs, time < expiresAtMs) :
    payload.Passes libraries time := by
  obtain ⟨legacy, expiry, nonce, signature⟩ | ⟨expiresAtMs, nonceHex, signatureHex, signed, expiry,
    nonce, signature, checked⟩ := inspected_cases passed
  · exact passes_legacy legacy expiry nonce signature
  · have verified := validateSignedJoinLink_passed checked
    obtain ⟨near, signatureDigits⟩ := validateSignedJoinLink_near checked
    have live := UInt64.le_iff_toNat_le.mp after
    exact passes_signed signed expiry nonce signature (before expiresAtMs expiry) (by omega)
      verified.nonceDigits signatureDigits verified.signed

theorem live_of_passed {now : UInt64} {seen later : NonceCache}
    (passed : validateJoinLinkSecurity libraries now now payload false seen = (.ok (), later)) :
    ∀ expiresAtMs ∈ payload.expiresAtMs, now < expiresAtMs := by
  intro expiresAtMs member
  obtain ⟨_, expiry, _⟩ | ⟨_, _, _, _, expiry, _, _, checked⟩ := inspected_cases passed
  · rw [expiry] at member
    cases member
  · rw [expiry] at member
    cases member
    exact (validateSignedJoinLink_passed checked).live

/-- The text, if there is one, has no second prefix. -/
def NeverDoubled (text : Option String) : Prop :=
  ∀ value ∈ text, ¬ DoublyPrefixed value

theorem map_normalizeHexArg_iff {text : Option String}
    (checked : ∀ value ∈ text, hexDecodes (stripHexPrefix (normalizeHexArg value)) = true) :
    (text.map normalizeHexArg).map normalizeHexArg = text.map normalizeHexArg ↔
      NeverDoubled text := by
  unfold NeverDoubled
  cases text with
  | none => simp
  | some value =>
      have digits := normalizeHexArg_idem_iff (checked value rfl)
      simpa using digits

section Accepted

variable {now : UInt64} {link : String} {seen later : NonceCache}

theorem ReadFrom.legible (readFrom : ReadFrom libraries link payload)
    (addressed : ∀ text relay, libraries.parseAddr text = some relay →
      libraries.parseAddr (libraries.displayAddr relay) = some relay)
    (passed : validateJoinLinkSecurity libraries now now payload false seen = (.ok (), later)) :
    payload.Legible libraries := by
  obtain ⟨text, parsed⟩ := readFrom.relay
  refine ⟨addressed text payload.relay parsed, ?_, readFrom.paired, readFrom.mode⟩
  have filled := readFrom.filled
  simp only [List.forall_mem_cons] at filled ⊢
  obtain ⟨serverName, torii, payTo, kaigiDomain, kaigiCallName, _⟩ := filled
  refine ⟨serverName, torii, payTo, kaigiDomain, kaigiCallName, ?_⟩
  obtain ⟨_, _, nonce, signature⟩ | ⟨_, nonceHex, signatureHex, _, _, nonce, signature,
    checked⟩ := inspected_cases passed
  · simp [nonce, signature]
  · have nonceFull := ne_empty_of_isValidHexLen (by decide)
      (validateSignedJoinLink_passed checked).nonceDigits
    have signatureFull := ne_empty_of_isValidHexLen (by decide)
      (validateSignedJoinLink_near checked).2
    simp [nonce, signature, nonceFull, signatureFull]

/-- The digits of what passed decode behind a prefix. -/
theorem digits_of_passed
    (passed : validateJoinLinkSecurity libraries now now payload false seen = (.ok (), later)) :
    (∀ text ∈ payload.nonceHex, hexDecodes (stripHexPrefix text) = true) ∧
      ∀ text ∈ payload.signatureHex, hexDecodes (stripHexPrefix text) = true := by
  obtain ⟨_, _, nonce, signature⟩ | ⟨_, nonceHex, signatureHex, _, _, nonce, signature,
    checked⟩ := inspected_cases passed
  · simp [nonce, signature]
  · have nonceDigits := (validateSignedJoinLink_passed checked).nonceDigits
    have signatureDigits := (validateSignedJoinLink_near checked).2
    simp only [nonce, signature, Option.mem_some_iff, forall_eq']
    exact ⟨(Bool.and_eq_true_iff.mp nonceDigits).2, (Bool.and_eq_true_iff.mp signatureDigits).2⟩

theorem normalized_eq_iff :
    payload.normalized = payload ↔ payload.nonceHex.map normalizeHexArg = payload.nonceHex ∧
      payload.signatureHex.map normalizeHexArg = payload.signatureHex := by
  constructor
  · intro same
    exact ⟨congrArg JoinLinkPayload.nonceHex same, congrArg JoinLinkPayload.signatureHex same⟩
  · rintro ⟨nonceHex, signatureHex⟩
    rw [JoinLinkPayload.normalized, nonceHex, signatureHex]

theorem ReadFrom.normalized_iff (readFrom : ReadFrom libraries link payload)
    (passed : validateJoinLinkSecurity libraries now now payload false seen = (.ok (), later)) :
    payload.normalized = payload ↔
      NeverDoubled (lastText "nonce" (linkParams link)) ∧
        NeverDoubled (lastText "sig" (linkParams link)) := by
  obtain ⟨nonce, signature⟩ := digits_of_passed passed
  rw [readFrom.nonceHex] at nonce
  rw [readFrom.signatureHex] at signature
  rw [normalized_eq_iff, readFrom.nonceHex, readFrom.signatureHex,
    map_normalizeHexArg_iff fun value member => nonce _ (Option.mem_map_of_mem _ member),
    map_normalizeHexArg_iff fun value member => signature _ (Option.mem_map_of_mem _ member)]

end Accepted

/-- The lines that the command prints. -/
def JoinLinkPayload.lines (libraries : Libraries SocketAddr)
    (payload : JoinLinkPayload SocketAddr) : List String :=
  ["version=" ++ toString payload.version.toNat,
    "relay=" ++ libraries.displayAddr payload.relay,
    "channel_id_hex=" ++ hexEncode payload.channel.toList,
    "authenticated=" ++ toString payload.authenticated,
    "insecure=" ++ toString payload.insecure,
    "server_name=" ++ payload.serverName.getD "<none>",
    "torii=" ++ payload.torii.getD "<none>",
    "pay_to=" ++ payload.payTo.getD "<none>",
    "kaigi_domain=" ++ payload.kaigiDomain.getD "<none>",
    "kaigi_call_name=" ++ payload.kaigiCallName.getD "<none>",
    "kaigi_privacy_mode=" ++ payload.kaigiPrivacyMode.getD "<none>",
    "expires_at_ms=" ++ (payload.expiresAtMs.map fun expiresAtMs =>
      toString expiresAtMs.toNat).getD "<none>",
    "nonce_hex=" ++ payload.nonceHex.getD "<none>",
    "signature_hex=" ++ payload.signatureHex.getD "<none>",
    "normalized_link=" ++ renderJoinLink libraries payload]

def decodeJoinLink (libraries : Libraries SocketAddr) (now : UInt64) (link : String)
    (seen : NonceCache) : Except String (List String) :=
  (parseJoinLinkForInspection libraries now link seen).1.map (·.lines libraries)

theorem parseJoinLinkForInspection_of_read {now : UInt64} {link : String}
    (read : readJoinLink libraries link = .ok payload) (passes : payload.Passes libraries now)
    (seen : NonceCache) :
    parseJoinLinkForInspection libraries now link seen = (.ok payload, seen) := by
  simp only [parseJoinLinkForInspection, parseJoinLinkWithMode, read, passes seen]

end Links

/-! ### The fixed points -/

/-- The addresses of `std::net`, and some BLAKE3. -/
def stdLibraries (blake3 : String → Vector UInt8 32) : Libraries Address.SocketAddr where
  blake3 := blake3
  displayAddr := Address.SocketAddr.display
  parseAddr := Address.SocketAddr.parse

/-- The link that is written from an accepted payload has this payload again, at every time
before it expires, exactly when neither the nonce nor the signature had two prefixes. -/
theorem normalized_link_fixed_iff {blake3 : String → Vector UInt8 32} {now : UInt64}
    {link : String} {seen later : NonceCache} {payload : JoinLinkPayload Address.SocketAddr}
    (accepted : parseJoinLinkForInspection (stdLibraries blake3) now link seen =
      (.ok payload, later)) :
    (∀ time, now ≤ time → (∀ expiresAtMs ∈ payload.expiresAtMs, time < expiresAtMs) → ∀ again,
      parseJoinLinkForInspection (stdLibraries blake3) time
          (renderJoinLink (stdLibraries blake3) payload) again = (.ok payload, again) ∧
      decodeJoinLink (stdLibraries blake3) time (renderJoinLink (stdLibraries blake3) payload)
          again = decodeJoinLink (stdLibraries blake3) now link seen) ↔
    NeverDoubled (lastText "nonce" (linkParams link)) ∧
      NeverDoubled (lastText "sig" (linkParams link)) := by
  obtain ⟨read, passed⟩ := parseJoinLinkForInspection_ok accepted
  have readFrom := readJoinLink_readFrom read
  have legible := readFrom.legible (fun _ _ => Address.parse_display_of_parse) passed
  rw [← readFrom.normalized_iff passed]
  constructor
  · intro fixed
    have again := (fixed now (UInt64.le_refl now) (live_of_passed passed) seen).1
    have same := (parseJoinLinkForInspection_ok again).1
    rw [legible.readJoinLink] at same
    exact Except.ok.inj same
  · intro normal time after before again
    have readAgain := legible.readJoinLink
    rw [normal] at readAgain
    have parsed :=
      parseJoinLinkForInspection_of_read readAgain (passes_later passed after before) again
    refine ⟨parsed, ?_⟩
    rw [decodeJoinLink, decodeJoinLink, parsed, accepted]

/-! ### The parameters of a written link -/

theorem linkParam_renderParam (param : String × String) :
    linkParam (renderParam param).toList = some param := by
  have parts : splitOnce '=' (renderParam param).toList =
      some ((pctEncode param.1).toList, (pctEncode param.2).toList) := by
    rw [toList_renderParam]
    exact splitOnce_append (not_mem_pctEncode (by decide))
  rw [linkParam, parts]
  simp only [Option.getD_some, String.ofList_toList, pctDecode_pctEncode]

theorem queryParams_rendered {params : List (String × String)} (some : params ≠ []) :
    queryParams ("&".intercalate (params.map renderParam)).toList = params := by
  have kept : ((params.map renderParam).map String.toList).filter (· ≠ []) =
      (params.map renderParam).map String.toList := by
    refine List.filter_eq_self.mpr fun text inside => ?_
    rw [List.map_map] at inside
    obtain ⟨param, _, rfl⟩ := List.mem_map.mp inside
    exact decide_eq_true (toList_renderParam_ne_nil param)
  have decoded : linkParam ∘ String.toList ∘ renderParam = Option.some :=
    funext linkParam_renderParam
  rw [queryParams, splitOn_rendered some, kept, List.map_map, List.filterMap_map, decoded,
    List.filterMap_some]

/-- The parameters that were written are those of the link. -/
theorem linkParams_rendered {SocketAddr : Type} (libraries : Libraries SocketAddr)
    (payload : JoinLinkPayload SocketAddr) :
    linkParams (renderJoinLink libraries payload) = joinLinkParams libraries payload := by
  have params : joinLinkParams libraries payload ≠ [] := by
    simp only [joinLinkParams, List.append_assoc, List.cons_append]
    exact List.cons_ne_nil _ _
  rw [linkParams, renderJoinLink, trim_link,
    splitOnce_append fun member => (scheme_text _ member).2 rfl]
  exact queryParams_rendered params

/-! One signed link with its nonce in several spellings. -/

def loopbackLibraries : Libraries Address.SocketAddr :=
  stdLibraries standupLibraries.blake3

def loopbackLink : JoinLinkPayload Address.SocketAddr :=
  { standupLink with relay := .v4 ⟨⟨#v[127, 0, 0, 1]⟩, 5000⟩ }

def spelledLink (nonceHex : String) : JoinLinkPayload Address.SocketAddr :=
  { loopbackLink with nonceHex := some nonceHex }

def doubledLink : JoinLinkPayload Address.SocketAddr :=
  spelledLink "0x0x11111111111111111111111111111111"

def prefixedLink : JoinLinkPayload Address.SocketAddr :=
  spelledLink "0x11111111111111111111111111111111"

theorem legible_spelledLink {nonceHex : String} (full : nonceHex ≠ "") :
    (spelledLink nonceHex).Legible loopbackLibraries := by
  refine ⟨Address.parse_display (spelledLink nonceHex).relay, ?_, rfl, ?_⟩
  · simp [spelledLink, loopbackLink, standupLink, full]
  · rintro word ⟨⟩
    exact .inr rfl

/-- The signed text has the digits of the nonce, however they are spelled. -/
theorem passes_spelledLink {nonceHex : String}
    (digits : isValidHexLen nonceHex joinLinkNonceBytes = true)
    (spelled : normalizeHexArg nonceHex = "11111111111111111111111111111111") :
    (spelledLink nonceHex).Passes loopbackLibraries 1700000030000 := by
  have bare : normalizeHexArg "11111111111111111111111111111111" =
      "11111111111111111111111111111111" := by decide +kernel
  have text : joinLinkSignaturePayload loopbackLibraries (spelledLink nonceHex) =
      joinLinkSignaturePayload loopbackLibraries loopbackLink := by
    rw [joinLinkSignaturePayload_fields rfl rfl, joinLinkSignaturePayload_fields rfl rfl,
      signedTail, signedTail, spelled, bare]
    rfl
  refine passes_signed rfl rfl rfl rfl (by decide +kernel) (by decide +kernel) digits
    (by decide +kernel) ?_
  rw [joinLinkSignatureHex, text]
  decide +kernel

theorem parse_doubledLink :
    parseJoinLinkForInspection loopbackLibraries 1700000030000
      (renderJoinLink loopbackLibraries doubledLink) ∅ = (.ok prefixedLink, ∅) := by
  have same : doubledLink.normalized = prefixedLink := by decide +kernel
  have read := (legible_spelledLink (by decide)).readJoinLink.trans (congrArg Except.ok same)
  exact parseJoinLinkForInspection_of_read read
    (passes_spelledLink (by decide +kernel) (by decide +kernel)) ∅

theorem parse_prefixedLink :
    parseJoinLinkForInspection loopbackLibraries 1700000030000
      (renderJoinLink loopbackLibraries prefixedLink) ∅ = (.ok loopbackLink, ∅) := by
  have same : prefixedLink.normalized = loopbackLink := by decide +kernel
  have read := (legible_spelledLink (by decide)).readJoinLink.trans (congrArg Except.ok same)
  exact parseJoinLinkForInspection_of_read read
    (passes_spelledLink (by decide +kernel) (by decide +kernel)) ∅

/-- With one prefix the link has its normal form at once. -/
theorem normalized_link_fixed_loopback :
    parseJoinLinkForInspection loopbackLibraries 1700000030000
        (renderJoinLink loopbackLibraries prefixedLink) ∅ = (.ok loopbackLink, ∅) ∧
      parseJoinLinkForInspection loopbackLibraries 1700000050000
        (renderJoinLink loopbackLibraries loopbackLink) ∅ = (.ok loopbackLink, ∅) := by
  have nonce : lastText "nonce" (linkParams (renderJoinLink loopbackLibraries prefixedLink)) =
      some "0x11111111111111111111111111111111" := by
    rw [linkParams_rendered]
    decide +kernel
  have signature : lastText "sig" (linkParams (renderJoinLink loopbackLibraries prefixedLink)) =
      loopbackLink.signatureHex := by
    rw [linkParams_rendered]
    decide +kernel
  have before : ∀ expiresAtMs ∈ loopbackLink.expiresAtMs, 1700000050000 < expiresAtMs := by
    rintro expiresAtMs ⟨⟩
    decide +kernel
  refine ⟨parse_prefixedLink, ?_⟩
  refine ((normalized_link_fixed_iff parse_prefixedLink).mpr ?_ 1700000050000
    (by decide +kernel) before ∅).1
  rw [nonce, signature]
  constructor
  · rintro value ⟨⟩
    unfold DoublyPrefixed
    decide +kernel
  · rintro value ⟨⟩
    unfold DoublyPrefixed
    decide +kernel

/-- With two prefixes the payload keeps one, and its own link is read without it. -/
theorem normalized_link_moves :
    parseJoinLinkForInspection loopbackLibraries 1700000030000
        (renderJoinLink loopbackLibraries doubledLink) ∅ = (.ok prefixedLink, ∅) ∧
      parseJoinLinkForInspection loopbackLibraries 1700000030000
        (renderJoinLink loopbackLibraries prefixedLink) ∅ = (.ok loopbackLink, ∅) ∧
      loopbackLink ≠ prefixedLink :=
  ⟨parse_doubledLink, parse_prefixedLink, by decide +kernel⟩

end Kaigi.Client
