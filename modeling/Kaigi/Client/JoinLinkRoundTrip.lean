import Kaigi.Client.JoinLinkReading

/-!
# A link that was issued can be read

A payload in normal form that passes the checks is read back from its link as it was.
The commands issue only such payloads, and until one expires it passes the checks.
-/

set_option autoImplicit false

namespace Kaigi.Client

open Collections Hub Text

/-! ### Values -/

theorem normalizeHexArg_hexEncode (bytes : List UInt8) :
    normalizeHexArg (hexEncode bytes) = hexEncode bytes := by
  rw [normalizeHexArg, trim_hexEncode, String.ofList_toList, stripHexPrefix_hexEncode,
    toAsciiLowercase_hexEncode]

theorem hexEncode_ne_empty {size : Nat} (bytes : Vector UInt8 (size + 1)) :
    hexEncode bytes.toList ≠ "" := by
  intro empty
  have digits := length_hexEncode bytes.toList
  rw [empty, Vector.length_toList, String.toList_empty, List.length_nil] at digits
  omega

theorem decodeHexArray_hexEncode (channel : Vector UInt8 32) :
    decodeHexArray (hexEncode channel.toList) = .ok channel := by
  rw [decodeHexArray, trim_hexEncode, hexDecode_hexEncode]
  exact dif_pos channel.length_toList

theorem parseUnsigned_toString {bound number : Nat} (small : number < bound) :
    parseUnsigned bound (toString number) = some number := by
  have digits : (toString number).toList = Nat.toDigits 10 number := by
    rw [Nat.toString_eq_repr, Nat.toList_repr]
  have decimal : ∀ character ∈ Nat.toDigits 10 number, character.isDigit = true :=
    fun _ member => Nat.isDigit_of_mem_toDigits (by decide) (by decide) member
  have unsigned : unsignedDigits (Nat.toDigits 10 number) = Nat.toDigits 10 number := by
    unfold unsignedDigits
    split
    next rest shape => exact absurd (decimal '+' (by simp [shape])) (by decide)
    next => rfl
  simp only [parseUnsigned, digits, unsigned, Nat.ofDigitChars_ten_toDigits]
  exact if_pos ⟨Nat.toDigits_ne_nil, List.all_eq_true.mpr decimal, small⟩

theorem toString_ne_empty (number : Nat) : toString number ≠ "" := by
  intro empty
  have digits := congrArg String.toList empty
  rw [Nat.toString_eq_repr, Nat.toList_repr] at digits
  exact Nat.toDigits_ne_nil digits

theorem parseBoolish_flagText (flag : Bool) : parseBoolish (flagText flag) = some flag := by
  cases flag <;> rfl

theorem validatePrivacyModeArg_passed {mode : String}
    (passed : validatePrivacyModeArg (some mode) = .ok ()) :
    foldPrivacyMode mode = "transparent" ∨ foldPrivacyMode mode = "zk" ∨
      foldPrivacyMode mode = "zk_roster_v1" := by
  rw [validatePrivacyModeArg] at passed
  split at passed
  next => cases passed
  next known =>
    by_contra unknown
    obtain ⟨transparent, others⟩ := not_or.mp unknown
    exact known ⟨transparent, not_or.mp others⟩

/-- A mode that passes its check is normalized to one of two words. -/
theorem normalizePrivacyMode_passed {mode : Option String}
    (passed : validatePrivacyModeArg mode = .ok ()) :
    ∀ word ∈ normalizePrivacyMode mode, word = "transparent" ∨ word = "zk" := by
  intro word member
  cases mode with
  | none => cases member
  | some mode =>
      rw [normalizePrivacyMode, Option.bind_some, Option.mem_def] at member
      obtain folded | folded | folded := validatePrivacyModeArg_passed passed
      · rw [folded] at member
        exact .inl (Option.some.inj member).symm
      · rw [folded] at member
        exact .inr (Option.some.inj member).symm
      · rw [folded] at member
        exact .inr (Option.some.inj member).symm

/-! ### Parameters -/

section Links

variable {SocketAddr : Type} (libraries : Libraries SocketAddr)

/-- None of the characters of an encoded text is syntax of the query. -/
theorem not_mem_pctEncode {input : String} {character : Char}
    (syntactic : isEscapeText character = false) : character ∉ (pctEncode input).toList :=
  fun member => Bool.false_ne_true (syntactic.symm.trans (pctEncode_text character member))

theorem toList_renderParam (param : String × String) :
    (renderParam param).toList =
      (pctEncode param.1).toList ++ '=' :: (pctEncode param.2).toList := by
  simp [renderParam]

theorem toList_renderParam_ne_nil (param : String × String) : (renderParam param).toList ≠ [] := by
  rw [toList_renderParam]
  exact List.append_ne_nil_of_right_ne_nil _ (List.cons_ne_nil _ _)

theorem mem_renderParam {param : String × String} {character : Char}
    (member : character ∈ (renderParam param).toList) :
    isEscapeText character = true ∨ character = '=' := by
  rw [toList_renderParam, List.mem_append, List.mem_cons] at member
  obtain member | rfl | member := member
  · exact .inl (pctEncode_text character member)
  · exact .inr rfl
  · exact .inl (pctEncode_text character member)

theorem readJoinLinkPair_renderParam (fields : JoinLinkFields SocketAddr)
    (param : String × String) :
    readJoinLinkPair libraries fields (renderParam param).toList =
      readJoinLinkParam libraries fields param.1 param.2 := by
  have full := toList_renderParam_ne_nil param
  have parts : splitOnce '=' (renderParam param).toList =
      some ((pctEncode param.1).toList, (pctEncode param.2).toList) := by
    rw [toList_renderParam]
    exact splitOnce_append (not_mem_pctEncode (by decide))
  rw [readJoinLinkPair, if_neg full, parts]
  simp only [Option.getD_some, String.ofList_toList, pctDecode_pctEncode, bind, Except.bind]

/-- The parameters one after the other. -/
def readJoinLinkParams (fields : JoinLinkFields SocketAddr) (params : List (String × String)) :
    Except String (JoinLinkFields SocketAddr) :=
  params.foldlM (fun fields param => readJoinLinkParam libraries fields param.1 param.2) fields

/-- The query is split where it was joined. -/
theorem splitOn_rendered {params : List (String × String)} (some : params ≠ []) :
    ("&".intercalate (params.map renderParam)).toList.splitOn '&' =
      (params.map renderParam).map String.toList := by
  have clean : ∀ text ∈ (params.map renderParam).map String.toList, '&' ∉ text := by
    intro text inside member
    rw [List.map_map] at inside
    obtain ⟨param, _, rfl⟩ := List.mem_map.mp inside
    obtain plain | same := mem_renderParam member
    · exact absurd plain (by decide)
    · exact absurd same (by decide)
  rw [String.toList_intercalate]
  exact List.splitOn_intercalate '&' clean (by simpa using some)

theorem readQuery_rendered {params : List (String × String)} (some : params ≠ [])
    (fields : JoinLinkFields SocketAddr) :
    (("&".intercalate (params.map renderParam)).toList.splitOn '&').foldlM
        (readJoinLinkPair libraries) fields =
      readJoinLinkParams libraries fields params := by
  simp only [splitOn_rendered some, List.foldlM_map, readJoinLinkPair_renderParam,
    readJoinLinkParams]

theorem scheme_text : ∀ character ∈ "kaigi://join".toList,
    isWhitespace character = false ∧ character ≠ '?' := by
  have checked : ("kaigi://join".toList.all fun character =>
      !isWhitespace character && character != '?') = true := by
    decide +kernel
  intro character member
  have found := List.all_eq_true.mp checked character member
  rw [Bool.and_eq_true, Bool.not_eq_true', bne_iff_ne] at found
  exact found

theorem not_isWhitespace_of_text {character : Char} (text : isEscapeText character = true) :
    isWhitespace character = false := by
  have checked : ∀ value < 128, isEscapeText (Char.ofNat value) = true →
      isWhitespace (Char.ofNat value) = false := by
    decide +kernel
  have ascii : character.toNat < 128 :=
    Nat.lt_succ_of_le (of_decide_eq_true (Bool.and_eq_true_iff.mp text).1)
  have found := checked character.toNat ascii
  rw [Char.ofNat_toNat] at found
  exact found text

theorem toList_link (params : List (String × String)) :
    ("kaigi://join?" ++ "&".intercalate (params.map renderParam)).toList =
      "kaigi://join".toList ++ '?' :: ("&".intercalate (params.map renderParam)).toList := by
  have scheme : "kaigi://join?".toList = "kaigi://join".toList ++ ['?'] := by decide +kernel
  rw [String.toList_append, scheme, List.append_assoc]
  rfl

theorem trim_link (params : List (String × String)) :
    trim ("kaigi://join?" ++ "&".intercalate (params.map renderParam)) =
      "kaigi://join".toList ++ '?' :: ("&".intercalate (params.map renderParam)).toList := by
  rw [← toList_link]
  apply trim_of_clean
  intro character member
  rw [toList_link, List.mem_append, List.mem_cons] at member
  obtain member | rfl | member := member
  · exact (scheme_text character member).1
  · decide
  · rw [String.toList_intercalate] at member
    obtain rfl | ⟨text, inside, member⟩ := mem_intercalate member
    · decide
    · rw [List.map_map] at inside
      obtain ⟨param, _, rfl⟩ := List.mem_map.mp inside
      obtain plain | rfl := mem_renderParam member
      · exact not_isWhitespace_of_text plain
      · decide

/-- The link is read as its parameters are. -/
theorem readJoinLink_rendered {params : List (String × String)} (some : params ≠ []) :
    readJoinLink libraries ("kaigi://join?" ++ "&".intercalate (params.map renderParam)) =
      (readJoinLinkParams libraries {} params).bind JoinLinkFields.payload := by
  have scheme : ¬ toAsciiLowercase (String.ofList "kaigi://join".toList) ≠ "kaigi://join" := by
    decide +kernel
  rw [readJoinLink, trim_link, splitOnce_append fun member => (scheme_text _ member).2 rfl]
  simp only [if_neg scheme, readQuery_rendered libraries some]
  rfl

theorem readJoinLinkParams_cons {fields next : JoinLinkFields SocketAddr} {key value : String}
    {rest : List (String × String)}
    (read : readJoinLinkParam libraries fields key value = .ok next) :
    readJoinLinkParams libraries fields ((key, value) :: rest) =
      readJoinLinkParams libraries next rest := by
  rw [readJoinLinkParams, List.foldlM_cons]
  exact congrArg (Except.bind · fun next => readJoinLinkParams libraries next rest) read

/-- A text is written when there is one, and an empty one would not be read. -/
theorem readJoinLinkParams_text (set : Option String → JoinLinkFields SocketAddr) {key : String}
    {text : Option String} {rest : List (String × String)} (filled : text ≠ some "")
    (read : ∀ content, readJoinLinkParam libraries (set none) key content =
      .ok (if content = "" then set none else set (some content))) :
    readJoinLinkParams libraries (set none) (optionalParam key text ++ rest) =
      readJoinLinkParams libraries (set text) rest := by
  cases text with
  | none => rfl
  | some content =>
      have full : content ≠ "" := fun empty => filled (congrArg some empty)
      exact readJoinLinkParams_cons libraries ((read content).trans (congrArg _ (if_neg full)))

theorem map_okOr {Value Result : Type} {value : Option Value} {found : Value} {message : String}
    {make : Value → Result} (present : value = some found) :
    (okOr value message).map make = .ok (make found) := by
  rw [present]
  rfl

theorem readJoinLinkParams_exp (fields : JoinLinkFields SocketAddr)
    (expiresAtMs : Option UInt64) {rest : List (String × String)} :
    readJoinLinkParams libraries { fields with expiresAtMs := none }
        (optionalParam "exp" (expiresAtMs.map fun expiresAtMs => toString expiresAtMs.toNat) ++
          rest) =
      readJoinLinkParams libraries { fields with expiresAtMs } rest := by
  cases expiresAtMs with
  | none => rfl
  | some expiresAtMs =>
      have full := toString_ne_empty expiresAtMs.toNat
      have parsed := parseUnsigned_toString expiresAtMs.toNat_lt
      refine readJoinLinkParams_cons libraries ((if_neg full).trans ((map_okOr parsed).trans ?_))
      rw [UInt64.ofNat_toNat]

/-- The parameters that every link has. -/
theorem readJoinLinkParams_fixed (payload : JoinLinkPayload SocketAddr)
    {rest : List (String × String)}
    (addressed : libraries.parseAddr (libraries.displayAddr payload.relay) = some payload.relay) :
    readJoinLinkParams libraries {}
        ([("v", toString payload.version.toNat), ("relay", libraries.displayAddr payload.relay),
          ("channel", hexEncode payload.channel.toList),
          ("authenticated", flagText payload.authenticated),
          ("insecure", flagText payload.insecure)] ++ rest) =
      readJoinLinkParams libraries
        { version := payload.version
          relay := some payload.relay
          channel := some payload.channel
          authenticated := payload.authenticated
          insecure := payload.insecure } rest := by
  have version (fields : JoinLinkFields SocketAddr) :
      readJoinLinkParam libraries fields "v" (toString payload.version.toNat) =
        .ok { fields with version := payload.version } := by
    refine (map_okOr (parseUnsigned_toString payload.version.toNat_lt)).trans ?_
    rw [UInt8.ofNat_toNat]
  have relay (fields : JoinLinkFields SocketAddr) :
      readJoinLinkParam libraries fields "relay" (libraries.displayAddr payload.relay) =
        .ok { fields with relay := some payload.relay } :=
    map_okOr addressed
  have channel (fields : JoinLinkFields SocketAddr) :
      readJoinLinkParam libraries fields "channel" (hexEncode payload.channel.toList) =
        .ok { fields with channel := some payload.channel } := by
    have branch (text : String) : readJoinLinkParam libraries fields "channel" text =
        (decodeHexArray text).map fun channel => { fields with channel := some channel } := rfl
    rw [branch, decodeHexArray_hexEncode]
    rfl
  have authenticated (fields : JoinLinkFields SocketAddr) :
      readJoinLinkParam libraries fields "authenticated" (flagText payload.authenticated) =
        .ok { fields with authenticated := payload.authenticated } := by
    have branch (text : String) : readJoinLinkParam libraries fields "authenticated" text =
        (okOr (parseBoolish text) "invalid authenticated flag in join link").map
          fun authenticated => { fields with authenticated } := rfl
    rw [branch, map_okOr (parseBoolish_flagText payload.authenticated)]
  have insecure (fields : JoinLinkFields SocketAddr) :
      readJoinLinkParam libraries fields "insecure" (flagText payload.insecure) =
        .ok { fields with insecure := payload.insecure } := by
    have branch (text : String) : readJoinLinkParam libraries fields "insecure" text =
        (okOr (parseBoolish text) "invalid insecure flag in join link").map
          fun insecure => { fields with insecure } := rfl
    rw [branch, map_okOr (parseBoolish_flagText payload.insecure)]
  simp only [List.cons_append, List.nil_append]
  rw [readJoinLinkParams_cons libraries (version _), readJoinLinkParams_cons libraries (relay _),
    readJoinLinkParams_cons libraries (channel _),
    readJoinLinkParams_cons libraries (authenticated _),
    readJoinLinkParams_cons libraries (insecure _)]

/-! ### Payloads in normal form -/

/-- What the parameters of a payload are read as. -/
def JoinLinkPayload.fields (payload : JoinLinkPayload SocketAddr) : JoinLinkFields SocketAddr where
  version := payload.version
  relay := some payload.relay
  channel := some payload.channel
  authenticated := payload.authenticated
  insecure := payload.insecure
  serverName := payload.serverName
  torii := payload.torii
  payTo := payload.payTo
  kaigiDomain := payload.kaigiDomain
  kaigiCallName := payload.kaigiCallName
  kaigiPrivacyMode := payload.kaigiPrivacyMode
  expiresAtMs := payload.expiresAtMs
  nonceHex := payload.nonceHex
  signatureHex := payload.signatureHex

/-- The texts of a payload as the parser leaves them. -/
structure JoinLinkPayload.Normal (payload : JoinLinkPayload SocketAddr) : Prop where
  addressed : libraries.parseAddr (libraries.displayAddr payload.relay) = some payload.relay
  filled : ∀ text ∈ [payload.serverName, payload.torii, payload.payTo, payload.kaigiDomain,
    payload.kaigiCallName, payload.nonceHex, payload.signatureHex], text ≠ some ""
  paired : payload.kaigiDomain.isSome = payload.kaigiCallName.isSome
  mode : ∀ word ∈ payload.kaigiPrivacyMode, word = "transparent" ∨ word = "zk"
  digits : ∀ text ∈ [payload.nonceHex, payload.signatureHex], text.map normalizeHexArg = text

/-- The same of a payload whose digits may still have prefixes. -/
structure JoinLinkPayload.Legible (payload : JoinLinkPayload SocketAddr) : Prop where
  addressed : libraries.parseAddr (libraries.displayAddr payload.relay) = some payload.relay
  filled : ∀ text ∈ [payload.serverName, payload.torii, payload.payTo, payload.kaigiDomain,
    payload.kaigiCallName, payload.nonceHex, payload.signatureHex], text ≠ some ""
  paired : payload.kaigiDomain.isSome = payload.kaigiCallName.isSome
  mode : ∀ word ∈ payload.kaigiPrivacyMode, word = "transparent" ∨ word = "zk"

/-- Reading a link once more normalizes its digits once more. -/
def JoinLinkPayload.normalized (payload : JoinLinkPayload SocketAddr) :
    JoinLinkPayload SocketAddr :=
  { payload with
    nonceHex := payload.nonceHex.map normalizeHexArg
    signatureHex := payload.signatureHex.map normalizeHexArg }

variable {libraries} {payload : JoinLinkPayload SocketAddr}

theorem JoinLinkPayload.Legible.modeFilled (legible : payload.Legible libraries) :
    payload.kaigiPrivacyMode ≠ some "" := by
  intro empty
  obtain same | same := legible.mode "" empty
  · exact absurd same (by decide)
  · exact absurd same (by decide)

theorem JoinLinkPayload.Legible.readParams (legible : payload.Legible libraries) :
    readJoinLinkParams libraries {} (joinLinkParams libraries payload) = .ok payload.fields := by
  have filled := legible.filled
  simp only [List.forall_mem_cons] at filled
  obtain ⟨serverName, torii, payTo, kaigiDomain, kaigiCallName, nonceHex, signatureHex, _⟩ := filled
  simp only [joinLinkParams, List.append_assoc]
  refine (readJoinLinkParams_fixed libraries payload legible.addressed).trans ?_
  -- Each step reads one optional parameter; its field is still unset before.
  refine (readJoinLinkParams_text libraries
    (fun text => { payload.fields with
      serverName := text, torii := none, payTo := none, kaigiDomain := none
      kaigiCallName := none, kaigiPrivacyMode := none, expiresAtMs := none, nonceHex := none
      signatureHex := none }) serverName fun _ => rfl).trans ?_
  refine (readJoinLinkParams_text libraries
    (fun text => { payload.fields with
      torii := text, payTo := none, kaigiDomain := none, kaigiCallName := none
      kaigiPrivacyMode := none, expiresAtMs := none, nonceHex := none
      signatureHex := none }) torii fun _ => rfl).trans ?_
  refine (readJoinLinkParams_text libraries
    (fun text => { payload.fields with
      payTo := text, kaigiDomain := none, kaigiCallName := none, kaigiPrivacyMode := none
      expiresAtMs := none, nonceHex := none, signatureHex := none }) payTo fun _ => rfl).trans ?_
  refine (readJoinLinkParams_text libraries
    (fun text => { payload.fields with
      kaigiDomain := text, kaigiCallName := none, kaigiPrivacyMode := none, expiresAtMs := none
      nonceHex := none, signatureHex := none }) kaigiDomain fun _ => rfl).trans ?_
  refine (readJoinLinkParams_text libraries
    (fun text => { payload.fields with
      kaigiCallName := text, kaigiPrivacyMode := none, expiresAtMs := none, nonceHex := none
      signatureHex := none }) kaigiCallName fun _ => rfl).trans ?_
  refine (readJoinLinkParams_text libraries
    (fun text => { payload.fields with
      kaigiPrivacyMode := text, expiresAtMs := none, nonceHex := none, signatureHex := none })
    legible.modeFilled fun _ => rfl).trans ?_
  refine (readJoinLinkParams_exp libraries
    { payload.fields with nonceHex := none, signatureHex := none } payload.expiresAtMs).trans ?_
  refine (readJoinLinkParams_text libraries
    (fun text => { payload.fields with nonceHex := text, signatureHex := none }) nonceHex
    fun _ => rfl).trans ?_
  rw [← List.append_nil (optionalParam "sig" payload.signatureHex)]
  exact readJoinLinkParams_text libraries
    (fun text => { payload.fields with signatureHex := text }) signatureHex fun _ => rfl

theorem JoinLinkPayload.Legible.modePassed (legible : payload.Legible libraries) :
    validatePrivacyModeArg payload.kaigiPrivacyMode = .ok () ∧
      normalizePrivacyMode payload.kaigiPrivacyMode = payload.kaigiPrivacyMode := by
  cases mode : payload.kaigiPrivacyMode with
  | none => exact ⟨rfl, rfl⟩
  | some word => obtain rfl | rfl := legible.mode word mode <;> exact ⟨rfl, rfl⟩

theorem JoinLinkPayload.Legible.payload_fields (legible : payload.Legible libraries) :
    payload.fields.payload = .ok payload.normalized := by
  obtain ⟨passed, mode⟩ := legible.modePassed
  have paired : (payload.kaigiDomain.isSome != payload.kaigiCallName.isSome) = false := by
    rw [legible.paired, bne_self_eq_false]
  simp only [JoinLinkFields.payload, JoinLinkPayload.fields, JoinLinkPayload.normalized, paired,
    passed, mode, okOr, Bool.false_eq_true, if_false, bind, Except.bind, pure, Except.pure]

/-- A legible payload is read back from its link but for the form of its digits. -/
theorem JoinLinkPayload.Legible.readJoinLink (legible : payload.Legible libraries) :
    readJoinLink libraries (renderJoinLink libraries payload) = .ok payload.normalized := by
  have params : joinLinkParams libraries payload ≠ [] := by
    simp only [joinLinkParams, List.append_assoc, List.cons_append]
    exact List.cons_ne_nil _ _
  rw [renderJoinLink, readJoinLink_rendered libraries params, legible.readParams]
  exact legible.payload_fields

theorem JoinLinkPayload.Normal.legible (normal : payload.Normal libraries) :
    payload.Legible libraries :=
  ⟨normal.addressed, normal.filled, normal.paired, normal.mode⟩

theorem JoinLinkPayload.Normal.normalized (normal : payload.Normal libraries) :
    payload.normalized = payload := by
  have digits := normal.digits
  simp only [List.forall_mem_cons] at digits
  obtain ⟨nonceHex, signatureHex, _⟩ := digits
  rw [JoinLinkPayload.normalized, nonceHex, signatureHex]

/-- A payload in normal form is read back from its link. -/
theorem JoinLinkPayload.Normal.readJoinLink (normal : payload.Normal libraries) :
    readJoinLink libraries (renderJoinLink libraries payload) = .ok payload := by
  rw [normal.legible.readJoinLink, normal.normalized]

/-! ### Issued links -/

theorem bind_ok {First Result : Type} {first : Except String First}
    {next : First → Except String Result} {result : Result}
    (returned : first >>= next = .ok result) :
    ∃ value, first = .ok value ∧ next value = .ok result := by
  cases first with
  | error message => cases returned
  | ok value => exact ⟨value, rfl, returned⟩

theorem okOr_ok {Value : Type} {value : Option Value} {message : String} {found : Value}
    (present : okOr value message = .ok found) : value = some found := by
  cases value with
  | none => cases present
  | some value => exact congrArg some (Except.ok.inj present)

theorem checkedMul_toNat {left right result : UInt64}
    (checked : checkedMul left right = some result) :
    result.toNat = left.toNat * right.toNat := by
  unfold checkedMul at checked
  split at checked
  next small =>
    cases checked
    exact (UInt64.toNat_mul left right).trans (Nat.mod_eq_of_lt small)
  next => cases checked

theorem checkedAdd_toNat {left right result : UInt64}
    (checked : checkedAdd left right = some result) :
    result.toNat = left.toNat + right.toNat := by
  unfold checkedAdd at checked
  split at checked
  next small =>
    cases checked
    exact (UInt64.toNat_add left right).trans (Nat.mod_eq_of_lt small)
  next => cases checked

/-- A number that is not beyond the sum is not beyond the saturated one. -/
theorem le_saturatingAdd {left right number : UInt64}
    (within : number.toNat ≤ left.toNat + right.toNat) : number ≤ saturatingAdd left right := by
  unfold saturatingAdd
  cases checked : checkedAdd left right with
  | none =>
      have largest := Nat.le_sub_one_of_lt number.toNat_lt
      exact UInt64.le_iff_toNat_le.mpr largest
  | some sum =>
      rw [← checkedAdd_toNat checked] at within
      exact UInt64.le_iff_toNat_le.mpr within

theorem joinLinkSignatureHex_ok {signatureHex : String}
    (signed : joinLinkSignatureHex libraries payload = .ok signatureHex) :
    ∃ digest : Vector UInt8 32, signatureHex = hexEncode digest.toList := by
  unfold joinLinkSignatureHex at signed
  cases text : joinLinkSignaturePayload libraries payload with
  | error message =>
      rw [text] at signed
      cases signed
  | ok canonical =>
      rw [text] at signed
      exact ⟨libraries.blake3 ("join_link_v2" ++ canonical), (Except.ok.inj signed).symm⟩

theorem populateJoinLinkSecurityFields_cases {now : UInt64} {nonce : Vector UInt8 16}
    {expiresInSecs : UInt64} {issued : JoinLinkPayload SocketAddr}
    (signed : payload.version = joinLinkVersionSigned)
    (populated : populateJoinLinkSecurityFields libraries now nonce payload expiresInSecs =
      .ok issued) :
    ∃ expiresAtMs signatureHex,
      expiresAtMs.toNat ≤ now.toNat + 604800000 ∧
      joinLinkSignatureHex libraries { payload with
        expiresAtMs := some expiresAtMs, nonceHex := some (hexEncode nonce.toList) } =
          .ok signatureHex ∧
      issued = { payload with
        expiresAtMs := some expiresAtMs, nonceHex := some (hexEncode nonce.toList)
        signatureHex := some signatureHex } := by
  unfold populateJoinLinkSecurityFields at populated
  rw [if_neg (not_not_intro signed)] at populated
  split at populated
  next => cases populated
  split at populated
  next => cases populated
  next inRange =>
    obtain ⟨expiresDeltaMs, scaled, populated⟩ := bind_ok populated
    obtain ⟨expiresAtMs, added, populated⟩ := bind_ok populated
    obtain ⟨signatureHex, digested, populated⟩ := bind_ok populated
    have delta := checkedMul_toNat (okOr_ok scaled)
    have expiry := checkedAdd_toNat (okOr_ok added)
    have seconds := UInt64.le_iff_toNat_le.mp (UInt64.not_lt.mp inRange)
    have longest : maxJoinLinkExpiresInSecs.toNat = 604800 := by decide +kernel
    have thousand : (1000 : UInt64).toNat = 1000 := by decide +kernel
    rw [thousand] at delta
    exact ⟨expiresAtMs, signatureHex, by omega, digested, (Except.ok.inj populated).symm⟩

/-- The checks of the parser pass, and an inspection leaves the nonces as they are. -/
def JoinLinkPayload.Passes (libraries : Libraries SocketAddr) (now : UInt64)
    (payload : JoinLinkPayload SocketAddr) : Prop :=
  ∀ seen, validateJoinLinkSecurity libraries now now payload false seen = (.ok (), seen)

theorem parseJoinLinkForInspection_rendered {now : UInt64} (normal : payload.Normal libraries)
    (passes : payload.Passes libraries now) (seen : NonceCache) :
    parseJoinLinkForInspection libraries now (renderJoinLink libraries payload) seen =
      (.ok payload, seen) := by
  simp only [parseJoinLinkForInspection, parseJoinLinkWithMode, normal.readJoinLink, passes seen]

theorem passes_legacy {now : UInt64} (legacy : payload.version = joinLinkVersionLegacy)
    (expiresAtMs : payload.expiresAtMs = none) (nonceHex : payload.nonceHex = none)
    (signatureHex : payload.signatureHex = none) : payload.Passes libraries now := by
  intro seen
  simp only [validateJoinLinkSecurity, legacy, expiresAtMs, nonceHex, signatureHex, if_true,
    Option.isSome_none, Bool.or_self, Bool.false_eq_true, if_false]

theorem maxDeltaMs_found : ∃ maxDeltaMs,
    checkedMul maxJoinLinkExpiresInSecs 1000 = some maxDeltaMs ∧ maxDeltaMs.toNat = 604800000 :=
  ⟨604800000, by decide +kernel, by decide +kernel⟩

/-- The checks of a signed link pass in the window in front of its expiry. -/
theorem validateSignedJoinLink_ok {now expiresAtMs : UInt64} {nonceHex signatureHex : String}
    (live : now < expiresAtMs) (near : expiresAtMs.toNat ≤ now.toNat + 604800000)
    (nonceDigits : isValidHexLen nonceHex joinLinkNonceBytes = true)
    (signatureDigits : isValidHexLen signatureHex 32 = true)
    (verified : joinLinkSignatureHex libraries payload = .ok (normalizeHexArg signatureHex)) :
    validateSignedJoinLink libraries now payload expiresAtMs nonceHex signatureHex = .ok () := by
  obtain ⟨maxDeltaMs, scaled, limit⟩ := maxDeltaMs_found
  rw [← limit] at near
  have unexpired : ¬ expiresAtMs ≤ now := UInt64.not_le.mpr live
  have soon : ¬ saturatingAdd now maxDeltaMs < expiresAtMs :=
    UInt64.not_lt.mpr (le_saturatingAdd near)
  rw [validateSignedJoinLink, scaled, verified, if_neg unexpired]
  simp only [okOr, if_neg soon, nonceDigits, signatureDigits, not_true, if_false, bind,
    Except.bind, pure, Except.pure, ne_eq]

theorem passes_signed {now expiresAtMs : UInt64} {nonceHex signatureHex : String}
    (signed : payload.version = joinLinkVersionSigned)
    (expiry : payload.expiresAtMs = some expiresAtMs) (nonce : payload.nonceHex = some nonceHex)
    (signature : payload.signatureHex = some signatureHex) (live : now < expiresAtMs)
    (near : expiresAtMs.toNat ≤ now.toNat + 604800000)
    (nonceDigits : isValidHexLen nonceHex joinLinkNonceBytes = true)
    (signatureDigits : isValidHexLen signatureHex 32 = true)
    (verified : joinLinkSignatureHex libraries payload = .ok (normalizeHexArg signatureHex)) :
    payload.Passes libraries now := by
  have checked :
      validateSignedJoinLink libraries now payload expiresAtMs nonceHex signatureHex = .ok () :=
    validateSignedJoinLink_ok live near nonceDigits signatureDigits verified
  intro seen
  have other : ¬ joinLinkVersionSigned = joinLinkVersionLegacy := by decide
  simp only [validateJoinLinkSecurity, signed, expiry, nonce, signature, checked, if_neg other,
    if_true, Bool.false_eq_true, if_false]

/-- What the commands build in front of the security fields. -/
structure JoinLinkPayload.Draft (payload : JoinLinkPayload SocketAddr) : Prop where
  version : payload.version = joinLinkVersionLegacy ∨ payload.version = joinLinkVersionSigned
  filled : ∀ text ∈ [payload.serverName, payload.torii, payload.payTo, payload.kaigiDomain,
    payload.kaigiCallName], text ≠ some ""
  paired : payload.kaigiDomain.isSome = payload.kaigiCallName.isSome
  mode : ∀ word ∈ payload.kaigiPrivacyMode, word = "transparent" ∨ word = "zk"
  expiresAtMs : payload.expiresAtMs = none
  nonceHex : payload.nonceHex = none
  signatureHex : payload.signatureHex = none

/-- Whether the security fields are added or not, the link can be read and passes. -/
theorem JoinLinkPayload.Draft.issued {created now expiresInSecs : UInt64}
    {nonce : Vector UInt8 16} {issued : JoinLinkPayload SocketAddr} (draft : payload.Draft)
    (made : (if payload.version = joinLinkVersionSigned then
        populateJoinLinkSecurityFields libraries created nonce payload expiresInSecs
      else .ok payload) = .ok issued)
    (addressed : libraries.parseAddr (libraries.displayAddr issued.relay) = some issued.relay)
    (after : created ≤ now) (before : ∀ expiresAtMs ∈ issued.expiresAtMs, now < expiresAtMs) :
    issued.Normal libraries ∧ issued.Passes libraries now := by
  have filled := draft.filled
  simp only [List.forall_mem_cons] at filled
  obtain ⟨serverName, torii, payTo, kaigiDomain, kaigiCallName, _⟩ := filled
  obtain legacy | signed := draft.version
  · have other : ¬ payload.version = joinLinkVersionSigned := by
      rw [legacy]
      decide
    rw [if_neg other] at made
    cases made
    refine ⟨⟨addressed, ?_, draft.paired, draft.mode, ?_⟩,
      passes_legacy legacy draft.expiresAtMs draft.nonceHex draft.signatureHex⟩
    · simp only [List.forall_mem_cons, draft.nonceHex, draft.signatureHex]
      exact ⟨serverName, torii, payTo, kaigiDomain, kaigiCallName, nofun, nofun, nofun⟩
    · simp only [List.forall_mem_cons, draft.nonceHex, draft.signatureHex]
      exact ⟨rfl, rfl, nofun⟩
  · rw [if_pos signed] at made
    obtain ⟨expiresAtMs, signatureHex, near, digested, rfl⟩ :=
      populateJoinLinkSecurityFields_cases signed made
    obtain ⟨digest, rfl⟩ := joinLinkSignatureHex_ok digested
    have nonceDigits := isValidHexLen_hexEncode nonce.toList
    have signatureDigits := isValidHexLen_hexEncode digest.toList
    rw [Vector.length_toList] at nonceDigits signatureDigits
    have live := UInt64.le_iff_toNat_le.mp after
    refine ⟨⟨addressed, ?_, draft.paired, draft.mode, ?_⟩,
      passes_signed signed rfl rfl rfl (before expiresAtMs rfl) (by omega) nonceDigits
        signatureDigits ?_⟩
    · simp only [List.forall_mem_cons]
      exact ⟨serverName, torii, payTo, kaigiDomain, kaigiCallName,
        fun empty => hexEncode_ne_empty nonce (Option.some.inj empty),
        fun empty => hexEncode_ne_empty digest (Option.some.inj empty), nofun⟩
    · simp only [List.forall_mem_cons, Option.map_some, normalizeHexArg_hexEncode]
      exact ⟨trivial, trivial, nofun⟩
    · rw [normalizeHexArg_hexEncode]
      exact digested

theorem paired_of_passed {kaigiDomain kaigiCallName : Option String}
    (passed : validateJoinLinkCallMetadata kaigiDomain kaigiCallName = .ok ()) :
    kaigiDomain.isSome = kaigiCallName.isSome := by
  unfold validateJoinLinkCallMetadata at passed
  split at passed
  next => cases passed
  next paired => simpa using paired

theorem version_of_flag (legacy : Bool) :
    (if legacy then joinLinkVersionLegacy else joinLinkVersionSigned) = joinLinkVersionLegacy ∨
      (if legacy then joinLinkVersionLegacy else joinLinkVersionSigned) =
        joinLinkVersionSigned := by
  cases legacy
  · exact .inr rfl
  · exact .inl rfl

/-- The link of a route is made as any other. -/
theorem issued_of_some {signed : Prop} [Decidable signed]
    {populated : Except String (JoinLinkPayload SocketAddr)}
    {join issued : JoinLinkPayload SocketAddr}
    (made : (if signed then populated.map some else .ok (some join)) = .ok (some issued)) :
    (if signed then populated else .ok join) = .ok issued := by
  split at made
  next signs =>
    rw [if_pos signs]
    cases populated with
    | error message => cases made
    | ok payload => exact congrArg Except.ok (Option.some.inj (Except.ok.inj made))
  next unsigned =>
    rw [if_neg unsigned]
    exact congrArg Except.ok (Option.some.inj (Except.ok.inj made))

theorem named_server {serverName : Option String} (filled : serverName ≠ some "") :
    some (serverName.getD "localhost") ≠ some "" := by
  cases serverName with
  | none => decide
  | some serverName => exact filled

def MakeJoinLinkArgs.Filled (args : MakeJoinLinkArgs SocketAddr) : Prop :=
  ∀ text ∈ [args.serverName, args.torii, args.payTo, args.kaigiDomain, args.kaigiCallName,
    args.kaigiPrivacyMode], text ≠ some ""

def WriteRouteUpdateArgs.Filled (args : WriteRouteUpdateArgs SocketAddr) : Prop :=
  ∀ text ∈ [args.serverName, args.torii, args.payTo, args.kaigiDomain, args.kaigiCallName,
    args.kaigiPrivacyMode], text ≠ some ""

/-- A command that ran at time `created` printed the link of the payload. -/
inductive Issues (libraries : Libraries SocketAddr) (created : UInt64) :
    JoinLinkPayload SocketAddr → Prop where
  | makeJoinLink {payload : JoinLinkPayload SocketAddr} (nonce : Vector UInt8 16)
      (args : MakeJoinLinkArgs SocketAddr) (filled : args.Filled)
      (made : makeJoinLink libraries created nonce args = .ok payload) :
      Issues libraries created payload
  | writeRouteUpdate {payload : JoinLinkPayload SocketAddr} (spool : Spool) (draws : RouteDraws)
      (args : WriteRouteUpdateArgs SocketAddr) (filled : args.Filled)
      (wrote : writeRouteUpdate libraries spool created draws args = .ok (some payload)) :
      Issues libraries created payload

/-- Each command makes a draft and adds the security fields to it. -/
theorem Issues.draft {created : UInt64} (issues : Issues libraries created payload) :
    ∃ (draft : JoinLinkPayload SocketAddr) (nonce : Vector UInt8 16) (expiresInSecs : UInt64),
      draft.Draft ∧
      (if draft.version = joinLinkVersionSigned then
          populateJoinLinkSecurityFields libraries created nonce draft expiresInSecs
        else .ok draft) = .ok payload := by
  cases issues with
  | makeJoinLink nonce args filled made =>
      obtain ⟨_, _, made⟩ := bind_ok made
      obtain ⟨_, paired, made⟩ := bind_ok made
      obtain ⟨_, mode, made⟩ := bind_ok made
      obtain ⟨channel, _, made⟩ := bind_ok made
      refine ⟨_, nonce, args.expiresInSecs, ?_, made⟩
      exact {
        version := version_of_flag args.legacyV1
        filled := by
          simp only [MakeJoinLinkArgs.Filled, List.forall_mem_cons] at filled ⊢
          exact ⟨filled.1, filled.2.1, filled.2.2.1, filled.2.2.2.1, filled.2.2.2.2.1, nofun⟩
        paired := paired_of_passed paired
        mode := normalizePrivacyMode_passed mode
        expiresAtMs := rfl
        nonceHex := rfl
        signatureHex := rfl }
  | writeRouteUpdate spool draws args filled wrote =>
      obtain ⟨relayId, _, wrote⟩ := bind_ok wrote
      obtain ⟨channelId, _, wrote⟩ := bind_ok wrote
      obtain ⟨accessKind, _, wrote⟩ := bind_ok wrote
      obtain ⟨_, _, wrote⟩ := bind_ok wrote
      cases relay : args.relay with
      | none =>
          rw [relay] at wrote
          cases wrote
      | some relay =>
          rw [relay] at wrote
          obtain ⟨_, _, wrote⟩ := bind_ok wrote
          obtain ⟨_, paired, wrote⟩ := bind_ok wrote
          obtain ⟨_, mode, wrote⟩ := bind_ok wrote
          refine ⟨_, draws.nonce, args.joinLinkExpiresInSecs, ?_, issued_of_some wrote⟩
          exact {
            version := version_of_flag args.joinLinkLegacyV1
            filled := by
              simp only [WriteRouteUpdateArgs.Filled, List.forall_mem_cons] at filled ⊢
              exact ⟨named_server filled.1, filled.2.1, filled.2.2.1, filled.2.2.2.1,
                filled.2.2.2.2.1, nofun⟩
            paired := paired_of_passed paired
            mode := normalizePrivacyMode_passed mode
            expiresAtMs := rfl
            nonceHex := rfl
            signatureHex := rfl }

/-- A link that a command issued is read back as its payload until it expires. -/
theorem join_link_roundtrip {created now : UInt64} (issues : Issues libraries created payload)
    (addressed : libraries.parseAddr (libraries.displayAddr payload.relay) = some payload.relay)
    (after : created ≤ now) (before : ∀ expiresAtMs ∈ payload.expiresAtMs, now < expiresAtMs)
    (seen : NonceCache) :
    parseJoinLinkForInspection libraries now (renderJoinLink libraries payload) seen =
      (.ok payload, seen) := by
  obtain ⟨draft, nonce, expiresInSecs, drafted, made⟩ := issues.draft
  obtain ⟨normal, passes⟩ := drafted.issued made addressed after before
  exact parseJoinLinkForInspection_rendered normal passes seen

end Links

/-! A signed link to one relay, and the digest of its text. -/

def standupLibraries : Libraries Unit where
  blake3 _ := #v[
    0x60, 0x52, 0x3e, 0x98, 0x58, 0xa6, 0xa7, 0xb6, 0x43, 0xc3, 0x25, 0xb9, 0x88, 0xc2, 0xf2, 0xd9,
    0x49, 0xd6, 0x70, 0x80, 0x72, 0x62, 0xfe, 0x6d, 0x93, 0xea, 0x7b, 0x63, 0x6b, 0x93, 0x1d, 0x99]
  displayAddr _ := "127.0.0.1:5000"
  parseAddr text := if text = "127.0.0.1:5000" then some () else none

def standupArgs : MakeJoinLinkArgs Unit where
  relay := ()
  channel := "cdcdcdcdcdcdcdcdcdcdcdcdcdcdcdcdcdcdcdcdcdcdcdcdcdcdcdcdcdcdcdcd"
  serverName := some "localhost"
  authenticated := true
  insecure := false
  torii := some "http://127.0.0.1:8080/"
  payTo := some "billing@sora"
  kaigiDomain := some "sora"
  kaigiCallName := some "stand-up 1+1 & más"
  kaigiPrivacyMode := some "zk-roster-v1"
  expiresInSecs := 60
  legacyV1 := false
  allowLocalHandshake := false

def standupLink : JoinLinkPayload Unit where
  version := 2
  relay := ()
  channel := Vector.replicate 32 0xcd
  authenticated := true
  insecure := false
  serverName := some "localhost"
  torii := some "http://127.0.0.1:8080/"
  payTo := some "billing@sora"
  kaigiDomain := some "sora"
  kaigiCallName := some "stand-up 1+1 & más"
  kaigiPrivacyMode := some "zk"
  expiresAtMs := some 1700000060000
  nonceHex := some "11111111111111111111111111111111"
  signatureHex := some "60523e9858a6a7b643c325b988c2f2d949d670807262fe6d93ea7b636b931d99"

theorem join_link_roundtrip_standup :
    makeJoinLink standupLibraries 1700000000000 (Vector.replicate 16 0x11) standupArgs =
        .ok standupLink ∧
      parseJoinLinkForInspection standupLibraries 1700000030000
        (renderJoinLink standupLibraries standupLink) ∅ = (.ok standupLink, ∅) := by
  have made : makeJoinLink standupLibraries 1700000000000 (Vector.replicate 16 0x11)
      standupArgs = .ok standupLink := by decide +kernel
  have filled : standupArgs.Filled := by
    unfold MakeJoinLinkArgs.Filled
    decide +kernel
  have addressed : standupLibraries.parseAddr (standupLibraries.displayAddr standupLink.relay) =
      some standupLink.relay := by decide +kernel
  have before : ∀ expiresAtMs ∈ standupLink.expiresAtMs, 1700000030000 < expiresAtMs := by
    rintro expiresAtMs ⟨⟩
    decide +kernel
  exact ⟨made, join_link_roundtrip (.makeJoinLink _ standupArgs filled made) addressed
    (by decide +kernel) before ∅⟩

end Kaigi.Client
