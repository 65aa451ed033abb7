import Oxo.Edge.HttpHop
import Oxo.Worker.HttpHead

/-!
Contract: the request the edge's HTTP hop writes, line by line.

Owns: the header lines in order, the checks they pass on either side, and what the
worker's header walk makes of them.

Does not own: the comparison with the frame hop.
-/

namespace Oxo.Edge

open Oxo.Foundation Oxo.Core Oxo.Core.HopFrame Oxo.Worker

/-! ## Writable values -/

/-- A value whose trimmed text has no control byte can be written: blanks are the
only characters trimming removes. -/
theorem writable_of_trimmed {value : String} (free : ControlFree (trimMatches isBlank value)) :
    hasInvalidHeaderValueBytes (utf8 value) = false := by
  rw [controlFree_iff] at free
  unfold hasInvalidHeaderValueBytes
  rw [List.any_eq_false]
  intro byte member invalid
  simp only [Bool.or_eq_true, Bool.and_eq_true, decide_eq_true_eq, beq_iff_eq,
    UInt8.le_iff_toNat_le, ← UInt8.toNat_inj] at invalid
  have codes : byte.toNat ≤ 8 ∨ (10 ≤ byte.toNat ∧ byte.toNat ≤ 31) ∨ byte.toNat = 127 := by
    simpa [or_assoc] using invalid
  have ascii : byte < 0x80 := by
    rw [UInt8.lt_iff_toNat_lt]
    show byte.toNat < 128
    omega
  obtain ⟨char, charMember, code⟩ := (ascii_mem_utf8 ascii value).mp member
  have notBlank : isBlank char = false := by
    by_contra blank
    rw [Bool.not_eq_false, isBlank, Bool.or_eq_true, beq_iff_eq, beq_iff_eq] at blank
    rcases blank with space | tab
    · rw [space] at code
      have value : (' ' : Char).toNat = 32 := rfl
      omega
    · rw [tab] at code
      have value : ('\t' : Char).toNat = 9 := rfl
      omega
  apply free char (mem_trimMatches charMember notBlank)
  omega

theorem plain_of_writable {value : String}
    (writable : hasInvalidHeaderValueBytes (utf8 value) = false) :
    '\r' ∉ value.toList ∧ '\n' ∉ value.toList := by
  have absent : ∀ code : UInt8, (code ≤ 8 || (10 ≤ code && code ≤ 31) || code == 127) = true →
      code ∉ utf8 value := by
    intro code invalid member
    exact List.any_eq_false.mp writable code member invalid
  constructor
  · intro member
    apply absent 13 (by decide)
    rw [ascii_mem_utf8 (by decide)]
    exact ⟨'\r', member, rfl⟩
  · intro member
    apply absent 10 (by decide)
    rw [ascii_mem_utf8 (by decide)]
    exact ⟨'\n', member, rfl⟩

/-! ## The lines of the HTTP hop -/

/-- The headers the HTTP hop writes from the client's: a synthesized host, then the
survivors without their content length. -/
def hopClientHeaders (authority : Option String) (headers : List LoweredHeader) :
    List (String × String) :=
  ((synthesizedHost authority headers).map fun host => ("Host", host)).toList ++
    ((survivors headers).filter fun header => header.lower != "content-length").map
      fun header => (header.name, header.value)

/-- All header lines of the HTTP hop, in order. -/
def hopHeaders (authority : Option String) (headers : List LoweredHeader)
    (metadata : TrustedHopMetadata) (bodyLength : Nat) : List (String × String) :=
  hopClientHeaders authority headers ++ metadata.headers ++
    [("Content-Length", numeral 10 bodyLength), ("Connection", "close")]

/-- The names of the metadata headers. -/
def metadataNames : List String :=
  ["x-oxo-remote-addr", "x-oxo-url-scheme", "x-oxo-server-name", "x-oxo-server-port",
    "x-oxo-request-id"]

theorem metadata_name {metadata : TrustedHopMetadata} {header : String × String}
    (member : header ∈ metadata.headers) : header.1 ∈ metadataNames := by
  simp only [TrustedHopMetadata.headers, List.mem_append, List.mem_cons, List.not_mem_nil, or_false,
    Option.mem_toList, Option.map_eq_some_iff] at member
  rcases member with (remoteAddr | urlScheme | serverName | serverPort) | ⟨_, _, requestId⟩
  · simp [remoteAddr, metadataNames]
  · simp [urlScheme, metadataNames]
  · simp [serverName, metadataNames]
  · simp [serverPort, metadataNames]
  · simp [← requestId, metadataNames]

/-- The line check of the HTTP hop. -/
def LineWritable (header : String × String) : Prop :=
  isValidHeaderName (utf8 header.1) = true ∧ hasInvalidHeaderValueBytes (utf8 header.2) = false

private def headLineBytes (header : String × String) : List UInt8 :=
  utf8 header.1 ++ utf8 ": " ++ utf8 header.2 ++ [13, 10]

private theorem appendHeaderLine_eq_ok {request result : List UInt8} {name value : String} :
    appendHeaderLine request name value = .ok result ↔
      LineWritable (name, value) ∧ result = request ++ headLineBytes (name, value) := by
  unfold appendHeaderLine LineWritable headLineBytes
  cases isValidHeaderName (utf8 name) with
  | false => simp
  | true =>
      cases hasInvalidHeaderValueBytes (utf8 value) with
      | true => simp
      | false =>
          simp only [Bool.not_true, Bool.or_self, Bool.false_eq_true, ↓reduceIte, Except.ok.injEq,
            and_self, true_and, List.append_assoc]
          exact eq_comm

/-- The loop skips the two names the hop writes itself. -/
private def isHopOwned (name : String) : Bool :=
  eqIgnoreAsciiCase name "connection" || eqIgnoreAsciiCase name "content-length"

private theorem appendHeaderLines_eq_ok {headers : List (String × String)}
    {request result : List UInt8} :
    appendHeaderLines headers request = .ok result ↔
      (∀ header ∈ headers.filter fun header => !isHopOwned header.1, LineWritable header) ∧
        result = request ++ (headers.filter fun header => !isHopOwned header.1).flatMap
          headLineBytes := by
  induction headers generalizing request with
  | nil =>
      simp only [appendHeaderLines, Except.ok.injEq, List.filter_nil, List.not_mem_nil,
        IsEmpty.forall_iff, implies_true, List.flatMap_nil, List.append_nil, true_and]
      exact eq_comm
  | cons header rest inductionHypothesis =>
      unfold appendHeaderLines
      rw [List.filter_cons]
      cases owned : isHopOwned header.1 with
      | true =>
          have skips : (eqIgnoreAsciiCase header.1 "connection" ||
              eqIgnoreAsciiCase header.1 "content-length") = true := owned
          simp only [skips, ↓reduceIte, inductionHypothesis, Bool.not_true, Bool.false_eq_true]
      | false =>
          have writes : (eqIgnoreAsciiCase header.1 "connection" ||
              eqIgnoreAsciiCase header.1 "content-length") = false := owned
          simp only [writes, Bool.false_eq_true, ↓reduceIte, Bool.not_false, bind_eq_ok,
            appendHeaderLine_eq_ok, inductionHypothesis, List.forall_mem_cons, List.flatMap_cons]
          constructor
          · intro appended
            obtain ⟨request', ⟨line, requestEq⟩, restLines, same⟩ := appended
            rw [requestEq, List.append_assoc] at same
            exact ⟨⟨line, restLines⟩, same⟩
          · intro appended
            obtain ⟨⟨line, restLines⟩, same⟩ := appended
            refine ⟨_, ⟨line, rfl⟩, restLines, ?_⟩
            rw [same, List.append_assoc]

private theorem utf8_headText (opening : String) (lines : List (String × String)) :
    utf8 (headText (opening :: lines.map headerLine)) =
      utf8 opening ++ [13, 10] ++ lines.flatMap headLineBytes ++ [13, 10] := by
  have joined : utf8 (String.join ((lines.map headerLine).map (· ++ "\r\n"))) =
      lines.flatMap headLineBytes := by
    induction lines with
    | nil => rfl
    | cons header lines inductionHypothesis =>
        rw [List.map_cons, List.map_cons, String.join_cons, utf8_append, inductionHypothesis,
          List.flatMap_cons, utf8_append, headerLine, utf8_append, utf8_append]
        rfl
  rw [headText, List.map_cons, String.join_cons, utf8_append, utf8_append, joined, utf8_append]
  rfl

/-! ## Survivors -/

/-- What a surviving header of a validated list satisfies. -/
structure Survivor (header : LoweredHeader) : Prop where
  name : isValidHeaderName (utf8 header.name) = true
  notConnection : header.lower ≠ "connection"
  notForwarding : isClientForwardingHeader header.lower = false
  notReserved : startsWith header.lower "x-oxo-" = false
  allowed : header.lower ∉ forbiddenNames

theorem survivor_of_mem {session : Session} {headers : List LoweredHeader}
    (validated : Validated session headers) {header : LoweredHeader}
    (member : header ∈ survivors headers) : Survivor header := by
  have kept := (List.mem_filter.mp member).2
  have admitted := validated.admitted header (List.mem_of_mem_filter member)
  unfold isStripped shouldStripHeaderScan at kept
  simp only [Bool.not_eq_true', Bool.or_eq_false_iff, List.contains_eq_mem,
    decide_eq_false_iff_not] at kept
  obtain ⟨⟨⟨notHopByHop, notForwarding⟩, notReserved⟩, _⟩ := kept
  refine ⟨admitted.name, ?_, notForwarding, notReserved, ?_⟩
  · intro isConnection
    exact notHopByHop (by rw [isConnection]; decide)
  · -- every forbidden name is hop-by-hop, except `expect`, which the validator refuses
    have listed : ∀ name ∈ forbiddenNames, name ∈ hopByHopNames ∨ name ∈ refusedNames := by decide
    intro forbidden
    rcases listed header.lower forbidden with hopByHop | refused
    · exact notHopByHop hopByHop
    · exact admitted.notRefused refused

private theorem isHopOwned_of_survivor {header : LoweredHeader} (survivor : Survivor header) :
    (!isHopOwned header.name) = (header.lower != "content-length") := by
  have notConnection : eqIgnoreAsciiCase header.name "connection" = false := by
    unfold eqIgnoreAsciiCase
    rw [← header.lower_eq]
    exact beq_eq_false_iff_ne.mpr survivor.notConnection
  have sameLength : eqIgnoreAsciiCase header.name "content-length" =
      (header.lower == "content-length") := by
    unfold eqIgnoreAsciiCase
    rw [← header.lower_eq]
    rfl
  unfold isHopOwned
  rw [notConnection, sameLength, Bool.false_or]
  rfl

/-- The request bytes of the HTTP hop, once every line passes its check. -/
theorem buildWorkerRequest_eq_ok {session : Session} {headers : List LoweredHeader}
    (validated : Validated session headers) {pathAndQuery : PathAndQuery}
    (found : session.pathAndQuery = some pathAndQuery) {protocols : ProtocolSupport}
    {metadata : TrustedHopMetadata} {sanitized : SanitizedWorkerRequest}
    (clean : sanitizeLoweredWorkerRequestHeaders headers metadata protocols = .ok sanitized)
    {body bytes : List UInt8} :
    buildWorkerRequest session sanitized.headers body = .ok bytes ↔
      (∀ header ∈ hopHeaders session.uriAuthority headers metadata body.length,
        LineWritable header) ∧
      bytes = utf8 (headText (requestLine session.method pathAndQuery.asStr ::
        (hopHeaders session.uriAuthority headers metadata body.length).map headerLine)) ++
          body := by
  have sanitizedEq : sanitized.headers =
      (survivors headers).map (fun header => (header.name, header.value)) ++ metadata.headers ++
        [("connection", "close")] := by
    unfold sanitizeLoweredWorkerRequestHeaders at clean
    rw [sanitizeLoweredWorkerRequestHeadersBare_eq] at clean
    cases rejected : listRejection protocols headers with
    | some rejection =>
        rw [rejected] at clean
        cases clean
    | none =>
        rw [rejected] at clean
        cases clean
        rfl
  have sameHost : (sanitized.headers.any fun header => eqIgnoreAsciiCase header.1 "host") =
      (survivors headers).any fun header => header.lower == "host" := by
    have noHost : ∀ name ∈ metadataNames, eqIgnoreAsciiCase name "host" = false := by decide
    have metadataHost : (metadata.headers.any fun header =>
        eqIgnoreAsciiCase header.1 "host") = false := by
      rw [List.any_eq_false]
      intro header member
      rw [noHost _ (metadata_name member)]
      exact Bool.false_ne_true
    rw [sanitizedEq, List.any_append, List.any_append, metadataHost, List.any_map]
    have closing : ([("connection", "close")].any fun header : String × String =>
        eqIgnoreAsciiCase header.1 "host") = false := by decide
    rw [closing, Bool.or_false, Bool.or_false]
    congr 1
    funext header
    simp only [Function.comp_apply, header.lower_eq]
    rfl
  have written : (sanitized.headers.filter fun header => !isHopOwned header.1) =
      ((survivors headers).filter fun header => header.lower != "content-length").map
        (fun header => (header.name, header.value)) ++ metadata.headers := by
    have notOwned : ∀ name ∈ metadataNames, (!isHopOwned name) = true := by decide
    have metadataKept : (metadata.headers.filter fun header => !isHopOwned header.1) =
        metadata.headers := by
      rw [List.filter_eq_self]
      intro header member
      exact notOwned _ (metadata_name member)
    have closing : ([("connection", "close")].filter fun header : String × String =>
        !isHopOwned header.1) = [] := by decide
    rw [sanitizedEq, List.filter_append, List.filter_append, metadataKept, closing,
      List.append_nil, List.filter_map]
    congr 2
    apply List.filter_congr
    intro header member
    exact isHopOwned_of_survivor (survivor_of_mem validated member)
  unfold buildWorkerRequest
  have hostEq : (if ((survivors headers).any fun header => header.lower == "host") = true then none
      else session.uriAuthority) = synthesizedHost session.uriAuthority headers := rfl
  have pureEq : ∀ value : List UInt8, (pure value : Except UInt16 (List UInt8)) = .ok bytes ↔
      bytes = value := by
    intro value
    constructor
    · intro same
      exact (Except.ok.inj same).symm
    · intro same
      rw [same]
      rfl
  simp only [found, sameHost, hostEq, utf8_headText, requestLine, utf8_append]
  unfold hopHeaders hopClientHeaders
  cases synthesizedHost session.uriAuthority headers with
  | none =>
      simp only [bind_eq_ok, appendHeaderLine_eq_ok, appendHeaderLines_eq_ok, written, pureEq,
        Except.ok.injEq, exists_eq_left', and_assoc, exists_and_left, exists_eq_left,
        List.forall_mem_append, List.flatMap_append, List.forall_mem_cons, List.flatMap_cons,
        Option.map_none, Option.toList_none, List.not_mem_nil, IsEmpty.forall_iff, implies_true,
        List.flatMap_nil, List.append_assoc, List.nil_append, List.append_nil, true_and]
  | some host =>
      simp only [bind_eq_ok, appendHeaderLine_eq_ok, appendHeaderLines_eq_ok, written, pureEq,
        and_assoc, exists_and_left, exists_eq_left, List.forall_mem_append, List.flatMap_append,
        List.forall_mem_cons, List.flatMap_cons, Option.map_some, Option.toList_some,
        List.not_mem_nil, IsEmpty.forall_iff, implies_true, List.flatMap_nil, List.append_assoc,
        List.append_nil, true_and]

/-! ## The walk over the parsed lines -/

/-- A lowercased name outside the reserved namespace reaches the application as it
does on the frame hop. -/
private theorem apply_of_not_reserved {header : String × String}
    (lowercase : toAsciiLowercase header.1 = header.1)
    (notReserved : startsWith header.1 "x-oxo-" = false) (parts : RequestParts) :
    parts.apply header =
      { parts with appHeaders := parts.appHeaders ++ (appHeader header).toList } := by
  have differs : ∀ name ∈ metadataNames, header.1 ≠ name := by
    intro name member same
    have reserved : ∀ name ∈ metadataNames, startsWith name "x-oxo-" = true := by decide
    rw [same, reserved name member] at notReserved
    cases notReserved
  unfold RequestParts.apply appHeader
  simp only [lowercase, notReserved, differs _ (show "x-oxo-remote-addr" ∈ metadataNames by decide),
    differs _ (show "x-oxo-url-scheme" ∈ metadataNames by decide),
    differs _ (show "x-oxo-server-name" ∈ metadataNames by decide),
    differs _ (show "x-oxo-server-port" ∈ metadataNames by decide), ↓reduceIte]
  by_cases isHost : header.1 = "host"
  · simp [isHost]
  · by_cases isConnection : header.1 = "connection"
    · simp [isConnection]
    · cases isClientForwardingHeader header.1 with
      | true => simp [isHost, isConnection]
      | false => cases normalizeHeaderName header.1 <;> simp [isHost, isConnection]

theorem foldl_apply_of_not_reserved {headers : List (String × String)}
    (lowercase : ∀ header ∈ headers, toAsciiLowercase header.1 = header.1)
    (notReserved : ∀ header ∈ headers, startsWith header.1 "x-oxo-" = false)
    (parts : RequestParts) :
    headers.foldl RequestParts.apply parts =
      { parts with appHeaders := parts.appHeaders ++ headers.filterMap appHeader } := by
  induction headers generalizing parts with
  | nil => simp
  | cons header rest inductionHypothesis =>
      obtain ⟨headLower, restLower⟩ := List.forall_mem_cons.mp lowercase
      obtain ⟨headPlain, restPlain⟩ := List.forall_mem_cons.mp notReserved
      rw [List.foldl_cons, apply_of_not_reserved headLower headPlain,
        inductionHypothesis restLower restPlain]
      cases headerEq : appHeader header <;> simp [headerEq]

/-- The scheme the worker ends with, from the trimmed header value. -/
def walkedScheme (value : String) : String :=
  if value = "http" ∨ value = "https" then value else "http"

theorem foldl_apply_metadata (metadata : TrustedHopMetadata) {parts : RequestParts}
    (scheme : parts.urlScheme = "http") :
    (metadata.headers.map parsedHeader).foldl RequestParts.apply parts =
      { serverName := trimMatches isBlank metadata.serverName
        serverPort := metadata.serverPort
        urlScheme := walkedScheme (trimMatches isBlank metadata.urlScheme)
        remoteAddr := trimMatches isBlank metadata.remoteAddr
        appHeaders := parts.appHeaders } := by
  have lower : ∀ name ∈ metadataNames, toAsciiLowercase name = name := by decide
  have reserved : startsWith "x-oxo-request-id" "x-oxo-" = true := by decide
  have notForwarding : isClientForwardingHeader "x-oxo-request-id" = false := by decide
  have portText : trimMatches isBlank (numeral 10 metadata.serverPort.toNat) =
      numeral 10 metadata.serverPort.toNat := trimMatches_numeral _
  have portValue : parseUnsigned 65536 (numeral 10 metadata.serverPort.toNat) =
      some metadata.serverPort.toNat := parseUnsigned_numeral metadata.serverPort.toNat_lt
  have fourLines : ([("x-oxo-remote-addr", metadata.remoteAddr),
      ("x-oxo-url-scheme", metadata.urlScheme), ("x-oxo-server-name", metadata.serverName),
      ("x-oxo-server-port", numeral 10 metadata.serverPort.toNat)].map parsedHeader).foldl
        RequestParts.apply parts =
      { serverName := trimMatches isBlank metadata.serverName
        serverPort := metadata.serverPort
        urlScheme := walkedScheme (trimMatches isBlank metadata.urlScheme)
        remoteAddr := trimMatches isBlank metadata.remoteAddr
        appHeaders := parts.appHeaders } := by
    simp only [List.map_cons, List.map_nil, parsedHeader, List.foldl_cons, List.foldl_nil,
      lower _ (show "x-oxo-remote-addr" ∈ metadataNames by decide),
      lower _ (show "x-oxo-url-scheme" ∈ metadataNames by decide),
      lower _ (show "x-oxo-server-name" ∈ metadataNames by decide),
      lower _ (show "x-oxo-server-port" ∈ metadataNames by decide), portText]
    by_cases known : trimMatches isBlank metadata.urlScheme = "http" ∨
        trimMatches isBlank metadata.urlScheme = "https"
    · simp [RequestParts.apply, walkedScheme, known, portValue]
    · simp [RequestParts.apply, walkedScheme, known, portValue, scheme]
  unfold TrustedHopMetadata.headers
  rw [List.map_append, List.foldl_append, fourLines]
  cases metadata.requestId with
  | none => rfl
  | some requestId =>
      simp [parsedHeader, RequestParts.apply, reserved, notForwarding,
        lower _ (show "x-oxo-request-id" ∈ metadataNames by decide)]

/-! ## Names and checks -/

/-- No surviving header is a host when one is synthesized. -/
theorem synthesizedHost_eq_some {authority : Option String} {headers : List LoweredHeader}
    {host : String} (synthesized : synthesizedHost authority headers = some host) :
    authority = some host ∧ ∀ header ∈ survivors headers, header.lower ≠ "host" := by
  unfold synthesizedHost at synthesized
  split at synthesized
  · cases synthesized
  · rename_i noHost
    refine ⟨synthesized, ?_⟩
    intro header member isHost
    exact noHost (List.any_eq_true.mpr ⟨header, member, beq_iff_eq.mpr isHost⟩)

/-- The names the hop adds itself, lowercased. -/
private def hopNames : List String :=
  metadataNames ++ ["content-length", "connection"]

private theorem hopOwnNames_subset (metadata : TrustedHopMetadata) (bodyLength : Nat) :
    ∀ name ∈ (metadata.headers ++ [("Content-Length", numeral 10 bodyLength),
      ("Connection", "close")]).map fun header => toAsciiLowercase header.1, name ∈ hopNames := by
  have lower : ∀ name ∈ metadataNames, toAsciiLowercase name ∈ hopNames := by decide
  intro name member
  obtain ⟨header, headerMember, nameEq⟩ := List.mem_map.mp member
  rw [← nameEq]
  rcases List.mem_append.mp headerMember with inMetadata | inOwn
  · exact lower _ (metadata_name inMetadata)
  · simp only [List.mem_cons, List.not_mem_nil, or_false] at inOwn
    rcases inOwn with isLength | isConnection
    · rw [isLength]
      show toAsciiLowercase "Content-Length" ∈ hopNames
      decide
    · rw [isConnection]
      show toAsciiLowercase "Connection" ∈ hopNames
      decide

private theorem hopOwnNames_nodup (metadata : TrustedHopMetadata) (bodyLength : Nat) :
    ((metadata.headers ++ [("Content-Length", numeral 10 bodyLength),
      ("Connection", "close")]).map fun header => toAsciiLowercase header.1).Nodup := by
  have named : ((metadata.headers ++ [("Content-Length", numeral 10 bodyLength),
      ("Connection", "close")]).map fun header => toAsciiLowercase header.1) =
      ((["x-oxo-remote-addr", "x-oxo-url-scheme", "x-oxo-server-name", "x-oxo-server-port"] ++
        (metadata.requestId.map fun _ => "x-oxo-request-id").toList ++
          ["Content-Length", "Connection"]).map toAsciiLowercase) := by
    unfold TrustedHopMetadata.headers
    cases metadata.requestId <;> rfl
  rw [named]
  cases metadata.requestId with
  | none =>
      show (List.map toAsciiLowercase ["x-oxo-remote-addr", "x-oxo-url-scheme",
        "x-oxo-server-name", "x-oxo-server-port", "Content-Length", "Connection"]).Nodup
      decide
  | some requestId =>
      show (List.map toAsciiLowercase ["x-oxo-remote-addr", "x-oxo-url-scheme",
        "x-oxo-server-name", "x-oxo-server-port", "x-oxo-request-id", "Content-Length",
        "Connection"]).Nodup
      decide

/-- With at most one content length, the other names decide distinctness. -/
private theorem nodup_of_filter {headers : List LoweredHeader}
    (others : ((headers.filter fun header => header.lower != "content-length").map
      LoweredHeader.lower).Nodup)
    (one : (headers.filter fun header => header.lower == "content-length").length ≤ 1) :
    (headers.map LoweredHeader.lower).Nodup := by
  induction headers with
  | nil => exact List.nodup_nil
  | cons header rest inductionHypothesis =>
      rw [List.map_cons, List.nodup_cons]
      rw [List.filter_cons] at others one
      by_cases isLength : header.lower = "content-length"
      · have skipped : (header.lower != "content-length") = false := by
          rw [isLength]
          rfl
        rw [skipped, if_neg Bool.false_ne_true] at others
        rw [if_pos (beq_iff_eq.mpr isLength), List.length_cons] at one
        have none : rest.filter (fun header => header.lower == "content-length") = [] :=
          List.eq_nil_of_length_eq_zero (by omega)
        refine ⟨?_, inductionHypothesis others (by rw [none]; exact Nat.zero_le _)⟩
        intro repeated
        obtain ⟨other, member, same⟩ := List.mem_map.mp repeated
        have found := List.filter_eq_nil_iff.mp none other member
        exact found (beq_iff_eq.mpr (same.trans isLength))
      · rw [if_pos (bne_iff_ne.mpr isLength), List.map_cons, List.nodup_cons] at others
        rw [if_neg (by simpa using isLength)] at one
        refine ⟨?_, inductionHypothesis others.2 one⟩
        intro repeated
        apply others.1
        obtain ⟨other, member, same⟩ := List.mem_map.mp repeated
        apply List.mem_map.mpr
        refine ⟨other, List.mem_filter.mpr ⟨member, ?_⟩, same⟩
        rw [bne_iff_ne, same]
        exact isLength

theorem hopClientHeaders_names (authority : Option String)
    (headers : List LoweredHeader) :
    ((hopClientHeaders authority headers).map fun header => toAsciiLowercase header.1) =
      ((synthesizedHost authority headers).map fun _ => "host").toList ++
        ((survivors headers).filter fun header => header.lower != "content-length").map
          LoweredHeader.lower := by
  have lower : toAsciiLowercase "Host" = "host" := by decide
  have sameNames : ((survivors headers).filter fun header => header.lower != "content-length").map
      ((fun header : String × String => toAsciiLowercase header.1) ∘
        fun header => (header.name, header.value)) =
      ((survivors headers).filter fun header => header.lower != "content-length").map
        LoweredHeader.lower := by
    apply List.map_congr_left
    intro header _
    exact header.lower_eq.symm
  unfold hopClientHeaders
  rw [List.map_append, List.map_map, sameNames]
  cases synthesizedHost authority headers with
  | none => rfl
  | some host => simp [lower]

/-- The lines have distinct names exactly when the survivors have. -/
theorem hopHeaders_nodup_iff {session : Session} {headers : List LoweredHeader}
    (validated : Validated session headers) (authority : Option String)
    (metadata : TrustedHopMetadata) (bodyLength : Nat) :
    ((hopHeaders authority headers metadata bodyLength).map fun header =>
      toAsciiLowercase header.1).Nodup ↔
      ((survivors headers).map LoweredHeader.lower).Nodup := by
  unfold hopHeaders
  rw [List.append_assoc, List.map_append, hopClientHeaders_names]
  constructor
  · intro distinct
    have client := (List.nodup_append.mp distinct).1
    apply nodup_of_filter (List.nodup_append.mp client).2.1
    calc ((survivors headers).filter fun header => header.lower == "content-length").length
      _ ≤ (headers.filter fun header => header.lower == "content-length").length :=
        (List.Sublist.filter _ List.filter_sublist).length_le
      _ ≤ 1 := validated.oneLength
  · intro distinct
    have others : (((survivors headers).filter fun header =>
        header.lower != "content-length").map LoweredHeader.lower).Nodup :=
      (List.filter_sublist.map LoweredHeader.lower).nodup distinct
    have client : (((synthesizedHost authority headers).map fun _ => "host").toList ++
        ((survivors headers).filter fun header => header.lower != "content-length").map
          LoweredHeader.lower).Nodup := by
      cases synthesized : synthesizedHost authority headers with
      | none => exact others
      | some host =>
          apply List.nodup_cons.mpr
          refine ⟨?_, others⟩
          intro member
          obtain ⟨header, headerMember, isHost⟩ := List.mem_map.mp member
          exact (synthesizedHost_eq_some synthesized).2 header (List.mem_of_mem_filter headerMember)
            isHost
    apply List.nodup_append.mpr
    refine ⟨client, hopOwnNames_nodup metadata bodyLength, ?_⟩
    intro name inClient other inOwn same
    have owned := hopOwnNames_subset metadata bodyLength other inOwn
    rw [← same] at owned
    rcases List.mem_append.mp inClient with inHost | inSurvivors
    · simp only [Option.mem_toList, Option.map_eq_some_iff] at inHost
      obtain ⟨_, _, isHost⟩ := inHost
      rw [← isHost] at owned
      exact absurd owned (by decide)
    · obtain ⟨header, member, nameEq⟩ := List.mem_map.mp inSurvivors
      obtain ⟨survives, notLength⟩ := List.mem_filter.mp member
      have survivor := survivor_of_mem validated survives
      rw [← nameEq] at owned
      rcases List.mem_append.mp owned with reserved | own
      · have allReserved : ∀ name ∈ metadataNames, startsWith name "x-oxo-" = true := by decide
        have isReserved := allReserved _ reserved
        rw [survivor.notReserved] at isReserved
        cases isReserved
      · simp only [List.mem_cons, List.not_mem_nil, or_false] at own
        rcases own with isLength | isConnection
        · exact absurd isLength (bne_iff_ne.mp notLength)
        · exact survivor.notConnection isConnection

theorem validToken_eq (text : String) : validToken text = isValidHeaderName (utf8 text) := by
  have sameEmpty : (text != "") = !(utf8 text).isEmpty := by
    by_cases empty : text = ""
    · rw [empty]
      rfl
    · have nonempty : utf8 text ≠ [] := fun none => empty (utf8_injective none)
      rw [bne_iff_ne.mpr empty, List.isEmpty_eq_false_iff.mpr nonempty]
      rfl
  unfold validToken isValidHeaderName
  rw [sameEmpty]

/-- A client line within the frame budget passes every check of both ends. -/
theorem clientLine_accepted {session : Session} {headers : List LoweredHeader}
    (validated : Validated session headers) {authority : Option String}
    (values : ∀ header ∈ survivors headers, ControlFree header.value)
    (hostValue : ∀ host, synthesizedHost authority headers = some host → ControlFree host) :
    ∀ header ∈ hopClientHeaders authority headers, LineWritable header ∧ LineAccepted header := by
  intro header member
  rcases List.mem_append.mp member with inHost | inSurvivors
  · simp only [Option.mem_toList, Option.map_eq_some_iff] at inHost
    obtain ⟨host, synthesized, headerEq⟩ := inHost
    have trimmed := controlFree_trimMatches isBlank (hostValue host synthesized)
    rw [← headerEq]
    refine ⟨⟨?_, writable_of_trimmed trimmed⟩, trimmed, ?_, ?_⟩
    · show isValidHeaderName (utf8 "Host") = true
      decide
    · show toAsciiLowercase "Host" ∉ forbiddenNames
      decide
    · intro isConnection
      exact absurd isConnection (show toAsciiLowercase "Host" ≠ "connection" by decide)
  · obtain ⟨survivorHeader, survives, headerEq⟩ := List.mem_map.mp inSurvivors
    have kept := List.mem_of_mem_filter survives
    have survivor := survivor_of_mem validated kept
    have trimmed := controlFree_trimMatches isBlank (values survivorHeader kept)
    rw [← headerEq]
    refine ⟨⟨survivor.name, writable_of_trimmed trimmed⟩, trimmed, ?_, ?_⟩
    · show toAsciiLowercase survivorHeader.name ∉ forbiddenNames
      rw [← survivorHeader.lower_eq]
      exact survivor.allowed
    · intro isConnection
      rw [← survivorHeader.lower_eq] at isConnection
      exact absurd isConnection survivor.notConnection

/-- The lines the hop adds last pass every check. -/
theorem ownLine_accepted (bodyLength : Nat) :
    ∀ header ∈ [("Content-Length", numeral 10 bodyLength), ("Connection", "close")],
      LineWritable header ∧ LineAccepted header := by
  have digitsFree : ControlFree (trimMatches isBlank (numeral 10 bodyLength)) := by
    rw [trimMatches_numeral, controlFree_iff]
    intro char member control
    have bounds := isDigit_iff.mp (numeral_digits member)
    omega
  intro header member
  simp only [List.mem_cons, List.not_mem_nil, or_false] at member
  rcases member with isLength | isConnection
  · rw [isLength]
    refine ⟨⟨?_, writable_of_trimmed digitsFree⟩, digitsFree, ?_, ?_⟩
    · show isValidHeaderName (utf8 "Content-Length") = true
      decide
    · show toAsciiLowercase "Content-Length" ∉ forbiddenNames
      decide
    · intro isConnection
      exact absurd isConnection (show toAsciiLowercase "Content-Length" ≠ "connection" by decide)
  · rw [isConnection]
    exact ⟨⟨by decide, by decide⟩, by decide, by decide, by decide⟩

/-- A metadata line is refused only for a control byte in its trimmed value. -/
theorem metadataLine_accepted_iff {metadata : TrustedHopMetadata}
    {header : String × String} (member : header ∈ metadata.headers) :
    LineAccepted header ↔ ControlFree (trimMatches isBlank header.2) := by
  have allowed : ∀ name ∈ metadataNames, toAsciiLowercase name ∉ forbiddenNames := by decide
  have notConnection : ∀ name ∈ metadataNames, toAsciiLowercase name ≠ "connection" := by decide
  constructor
  · intro accepted
    exact accepted.value
  · intro value
    refine ⟨value, allowed _ (metadata_name member), ?_⟩
    intro isConnection
    exact absurd isConnection (notConnection _ (metadata_name member))

theorem metadataName_valid {metadata : TrustedHopMetadata} {header : String × String}
    (member : header ∈ metadata.headers) : isValidHeaderName (utf8 header.1) = true := by
  have valid : ∀ name ∈ metadataNames, isValidHeaderName (utf8 name) = true := by decide
  exact valid _ (metadata_name member)

/-! ## Lines with a given name -/

theorem lengthFound (authority : Option String) (headers : List LoweredHeader)
    (metadata : TrustedHopMetadata) (bodyLength : Nat) :
    headerValue ((hopHeaders authority headers metadata bodyLength).map parsedHeader)
      "content-length" = some (numeral 10 bodyLength) := by
  have clientAbsent : "content-length" ∉
      ((hopClientHeaders authority headers).map parsedHeader).map Prod.fst := by
    rw [parsedHeader_names, hopClientHeaders_names]
    intro member
    rcases List.mem_append.mp member with inHost | inSurvivors
    · simp only [Option.mem_toList, Option.map_eq_some_iff] at inHost
      obtain ⟨_, _, isHost⟩ := inHost
      exact absurd isHost (by decide)
    · obtain ⟨header, survives, isLength⟩ := List.mem_map.mp inSurvivors
      exact absurd isLength (bne_iff_ne.mp (List.mem_filter.mp survives).2)
  have metadataAbsent : "content-length" ∉ (metadata.headers.map parsedHeader).map Prod.fst := by
    have differs : ∀ name ∈ metadataNames, toAsciiLowercase name ≠ "content-length" := by decide
    rw [parsedHeader_names]
    intro member
    obtain ⟨header, headerMember, isLength⟩ := List.mem_map.mp member
    exact differs _ (metadata_name headerMember) isLength
  have lower : toAsciiLowercase "Content-Length" = "content-length" := by decide
  unfold hopHeaders
  rw [List.map_append, List.map_append, List.append_assoc,
    headerValue_append_of_absent clientAbsent, headerValue_append_of_absent metadataAbsent]
  simp [headerValue, parsedHeader, lower, trimMatches_numeral]

theorem contentType_mem (authority : Option String) (metadata : TrustedHopMetadata)
    (bodyLength : Nat) {headers : List LoweredHeader} {header : LoweredHeader}
    (member : header ∈ survivors headers) (isType : header.lower = "content-type") :
    ("content-type", trimMatches isBlank header.value) ∈
      (hopHeaders authority headers metadata bodyLength).map parsedHeader := by
  have parsedEq : parsedHeader (header.name, header.value) =
      ("content-type", trimMatches isBlank header.value) := by
    rw [parsedHeader, ← header.lower_eq, isType]
  rw [← parsedEq]
  apply List.mem_map_of_mem
  apply List.mem_append_left
  apply List.mem_append_left
  apply List.mem_append_right
  apply List.mem_map_of_mem (f := fun header : LoweredHeader => (header.name, header.value))
  refine List.mem_filter.mpr ⟨member, ?_⟩
  rw [isType]
  decide

theorem contentType_of_mem {authority : Option String} {metadata : TrustedHopMetadata}
    {bodyLength : Nat} {headers : List LoweredHeader} {value : String}
    (member : ("content-type", value) ∈
      (hopHeaders authority headers metadata bodyLength).map parsedHeader) :
    ∃ header ∈ survivors headers, header.lower = "content-type" ∧
      value = trimMatches isBlank header.value := by
  obtain ⟨line, lineMember, lineEq⟩ := List.mem_map.mp member
  have nameEq : toAsciiLowercase line.1 = "content-type" := congrArg Prod.fst lineEq
  have valueEq : trimMatches isBlank line.2 = value := congrArg Prod.snd lineEq
  unfold hopHeaders at lineMember
  rw [List.append_assoc] at lineMember
  rcases List.mem_append.mp lineMember with inClient | inOwn
  · rcases List.mem_append.mp inClient with inHost | inSurvivors
    · simp only [Option.mem_toList, Option.map_eq_some_iff] at inHost
      obtain ⟨_, _, isHost⟩ := inHost
      rw [← isHost] at nameEq
      exact absurd nameEq (show toAsciiLowercase "Host" ≠ "content-type" by decide)
    · obtain ⟨header, survives, headerEq⟩ := List.mem_map.mp inSurvivors
      rw [← headerEq] at nameEq valueEq
      refine ⟨header, List.mem_of_mem_filter survives, ?_, valueEq.symm⟩
      rw [header.lower_eq]
      exact nameEq
  · have owned := hopOwnNames_subset metadata bodyLength _ (List.mem_map_of_mem inOwn)
    rw [nameEq] at owned
    exact absurd owned (by decide)

/-- A validated request reaches the worker with a host. -/
theorem hostLine_exists {session : Session} {headers : List LoweredHeader}
    (validated : Validated session headers) :
    ∃ header ∈ hopClientHeaders session.uriAuthority headers,
      toAsciiLowercase header.1 = "host" := by
  cases synthesized : synthesizedHost session.uriAuthority headers with
  | some host =>
      refine ⟨("Host", host), ?_, show toAsciiLowercase "Host" = "host" by decide⟩
      unfold hopClientHeaders
      rw [synthesized]
      exact List.mem_append_left _ (List.mem_singleton.mpr rfl)
  | none =>
      have survives : ∃ header ∈ survivors headers, header.lower = "host" := by
        by_contra absent
        have noHost : ((survivors headers).any fun header => header.lower == "host") = false := by
          rw [List.any_eq_false]
          intro header member
          rw [beq_iff_eq]
          intro isHost
          exact absent ⟨header, member, isHost⟩
        unfold synthesizedHost at synthesized
        rw [noHost, if_neg Bool.false_ne_true] at synthesized
        have uriForm := validated.uriForm
        unfold checkUriForm at uriForm
        cases isHttp2 : session.isHttp2 with
        | true =>
            simp [isHttp2, synthesized, refuseIf_bind_eq_ok] at uriForm
        | false =>
            have one := validated.hostOrAuthority isHttp2
            obtain ⟨header, rest, filterEq⟩ := List.exists_cons_of_length_eq_add_one one
            have member : header ∈ headers.filter fun header => header.lower == "host" := by
              rw [filterEq]
              exact List.mem_cons_self
            obtain ⟨inHeaders, isHost⟩ := List.mem_filter.mp member
            rw [beq_iff_eq] at isHost
            apply absent
            refine ⟨header, List.mem_filter.mpr ⟨inHeaders, ?_⟩, isHost⟩
            -- only a `Connection` token could strip the host, and it would be foreign
            have notNamed : connectionNamesMatch headers "host" = false := by
              unfold connectionNamesMatch
              rw [List.any_eq_false]
              intro connection connectionMember named
              obtain ⟨inList, isConnection⟩ := List.mem_filter.mp connectionMember
              obtain ⟨token, tokenMember, matched⟩ := List.any_eq_true.mp named
              obtain ⟨raw, rawMember, tokenEq⟩ := List.mem_map.mp tokenMember
              have foreign := (validated.admitted connection inList).connection
                (beq_iff_eq.mp isConnection) raw rawMember
              obtain ⟨nonempty, namesHost⟩ := Bool.and_eq_true_iff.mp matched
              unfold isForeignConnectionToken at foreign
              rw [tokenEq, nonempty, Bool.true_and, Bool.not_eq_false'] at foreign
              unfold eqIgnoreAsciiCase at foreign namesHost
              rw [beq_iff_eq] at foreign namesHost
              rw [foreign] at namesHost
              exact absurd namesHost (by decide)
            unfold isStripped shouldStripHeaderScan
            rw [isHost, notNamed]
            decide
      obtain ⟨header, member, isHost⟩ := survives
      refine ⟨(header.name, header.value), ?_, by rw [← header.lower_eq]; exact isHost⟩
      unfold hopClientHeaders
      apply List.mem_append_right
      apply List.mem_map_of_mem (f := fun header : LoweredHeader => (header.name, header.value))
      refine List.mem_filter.mpr ⟨member, ?_⟩
      rw [isHost]
      decide

end Oxo.Edge
