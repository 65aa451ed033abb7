import Oxo.Edge.Decodability
import Oxo.Edge.HttpHopLines

/-!
Contract: when the HTTP hop and the frame hop hand the application the same
request.

Owns: the application headers of either hop, the two requests, and the exact
condition under which they are the same.

Does not own: either hop's serializer or parser.
-/

namespace Oxo.Edge

open Oxo.Foundation Oxo.Core Oxo.Core.HopFrame Oxo.Worker

/-! ## Application headers -/

/-- The application sees a surviving header unless its name has an underscore. -/
def isVisible (header : LoweredHeader) : Bool :=
  !header.lower.toList.contains '_'

private theorem appHeader_of_survivor {header : LoweredHeader} (survivor : Survivor header)
    {name : String} (sameName : toAsciiLowercase name = header.lower) (value : String) :
    appHeader (name, value) = if isVisible header then some (header.lower, value) else none := by
  unfold appHeader isVisible
  simp only [sameName, survivor.notConnection, survivor.notForwarding, survivor.notReserved,
    Bool.false_eq_true, ↓reduceIte]
  by_cases isHost : header.lower = "host"
  · rw [if_pos isHost, isHost]
    rfl
  · have lowercase : toAsciiLowercase header.lower = header.lower := by
      rw [header.lower_eq, toAsciiLowercase_idem]
    rw [if_neg isHost, normalizeHeaderName, lowercase]
    cases header.lower.toList.contains '_' <;> rfl

private theorem filterMap_appHeader {kept : List LoweredHeader}
    (survive : ∀ header ∈ kept, Survivor header) (name value : LoweredHeader → String)
    (sameName : ∀ header, toAsciiLowercase (name header) = header.lower) :
    (kept.map fun header => (name header, value header)).filterMap appHeader =
      (kept.filter isVisible).map fun header => (header.lower, value header) := by
  induction kept with
  | nil => rfl
  | cons header rest inductionHypothesis =>
      obtain ⟨headSurvives, restSurvive⟩ := List.forall_mem_cons.mp survive
      rw [List.map_cons, List.filterMap_cons, inductionHypothesis restSurvive, List.filter_cons,
        appHeader_of_survivor headSurvives (sameName header)]
      cases isVisible header <;> rfl

/-- The application headers of the frame hop. -/
private theorem frame_appHeaders {session : Session} {headers : List LoweredHeader}
    (validated : Validated session headers) (authority : Option String) :
    (writtenHeaders authority headers).filterMap appHeader =
      ((synthesizedHost authority headers).map fun host => ("host", host)).toList ++
        ((survivors headers).filter isVisible).map fun header => (header.lower, header.value) := by
  have lower : toAsciiLowercase "host" = "host" := by decide
  have hostKept : ∀ host, appHeader ("host", host) = some ("host", host) := by
    intro host
    simp only [appHeader, lower, ↓reduceIte]
  unfold writtenHeaders
  rw [List.filterMap_append, filterMap_appHeader
    (fun header member => survivor_of_mem validated member) LoweredHeader.name LoweredHeader.value
    (fun header => header.lower_eq.symm)]
  cases synthesizedHost authority headers with
  | none => rfl
  | some host => simp [hostKept]

/-- The application headers of the HTTP hop, content length apart. -/
private theorem hop_appHeaders {session : Session} {headers : List LoweredHeader}
    (validated : Validated session headers) (authority : Option String) :
    ((hopClientHeaders authority headers).map parsedHeader).filterMap appHeader =
      ((synthesizedHost authority headers).map fun host =>
        ("host", trimMatches isBlank host)).toList ++
        (((survivors headers).filter fun header => header.lower != "content-length").filter
          isVisible).map fun header => (header.lower, trimMatches isBlank header.value) := by
  have lower : toAsciiLowercase (toAsciiLowercase "Host") = "host" := by decide
  have hostKept : ∀ host, appHeader (parsedHeader ("Host", host)) =
      some ("host", trimMatches isBlank host) := by
    intro host
    simp only [appHeader, parsedHeader, lower, ↓reduceIte]
  have survive : ∀ header ∈ (survivors headers).filter fun header =>
      header.lower != "content-length", Survivor header :=
    fun header member => survivor_of_mem validated (List.mem_of_mem_filter member)
  have parsed : ((survivors headers).filter fun header => header.lower != "content-length").map
      (parsedHeader ∘ fun header => (header.name, header.value)) =
      ((survivors headers).filter fun header => header.lower != "content-length").map fun header =>
        (header.lower, trimMatches isBlank header.value) := by
    apply List.map_congr_left
    intro header _
    rw [Function.comp_apply, parsedHeader, ← header.lower_eq]
  have lowercase : ∀ header : LoweredHeader, toAsciiLowercase header.lower = header.lower := by
    intro header
    rw [header.lower_eq, toAsciiLowercase_idem]
  unfold hopClientHeaders
  rw [List.map_append, List.map_map, parsed, List.filterMap_append,
    filterMap_appHeader survive LoweredHeader.lower _ lowercase]
  cases synthesizedHost authority headers with
  | none => rfl
  | some host => simp [hostKept]

/-- The frame hop's application headers have distinct names. -/
private theorem frame_appHeaders_nodup (authority : Option String) {headers : List LoweredHeader}
    (distinct : ((survivors headers).map LoweredHeader.lower).Nodup) :
    ((((synthesizedHost authority headers).map fun host => ("host", host)).toList ++
      ((survivors headers).filter isVisible).map fun header =>
        (header.lower, header.value)).map Prod.fst).Nodup := by
  have visibleNames : ((((survivors headers).filter isVisible).map fun header =>
      (header.lower, header.value)).map Prod.fst) =
      ((survivors headers).filter isVisible).map LoweredHeader.lower := by
    rw [List.map_map]
    rfl
  have visibleDistinct : (((survivors headers).filter isVisible).map LoweredHeader.lower).Nodup :=
    (List.filter_sublist.map LoweredHeader.lower).nodup distinct
  rw [List.map_append, visibleNames]
  cases synthesized : synthesizedHost authority headers with
  | none => exact visibleDistinct
  | some host =>
      apply List.nodup_cons.mpr
      refine ⟨?_, visibleDistinct⟩
      intro member
      obtain ⟨header, headerMember, isHost⟩ := List.mem_map.mp member
      exact (synthesizedHost_eq_some synthesized).2 header (List.mem_of_mem_filter headerMember)
        isHost

/-- Moving the content length to the end is a permutation of the visible headers. -/
private theorem visible_perm {headers : List LoweredHeader}
    (distinct : ((survivors headers).map LoweredHeader.lower).Nodup) {header : LoweredHeader}
    (member : header ∈ survivors headers) (isLength : header.lower = "content-length") :
    ((((survivors headers).filter fun header => header.lower != "content-length").filter
        isVisible).map (fun header => (header.lower, header.value)) ++
      [(header.lower, header.value)]).Perm
      (((survivors headers).filter isVisible).map fun header => (header.lower, header.value)) := by
  have shown : isVisible header = true := by
    unfold isVisible
    rw [isLength]
    decide
  have visibleDistinct : (((survivors headers).filter isVisible).map LoweredHeader.lower).Nodup :=
    (List.filter_sublist.map LoweredHeader.lower).nodup distinct
  obtain ⟨before, after, splitEq⟩ :=
    List.append_of_mem (List.mem_filter.mpr ⟨member, shown⟩)
  have others : ∀ other ∈ before ++ after, (other.lower != "content-length") = true := by
    intro other otherMember
    rw [bne_iff_ne]
    intro same
    rw [splitEq, List.map_append, List.map_cons, List.nodup_middle, List.nodup_cons] at visibleDistinct
    apply visibleDistinct.1
    rw [← List.map_append, isLength, ← same]
    exact List.mem_map_of_mem otherMember
  have kept : ((survivors headers).filter fun header => header.lower != "content-length").filter
      isVisible = before ++ after := by
    have dropped : (header.lower != "content-length") = false := by
      rw [isLength]
      rfl
    rw [List.filter_comm, splitEq, List.filter_append, List.filter_cons, dropped,
      if_neg Bool.false_ne_true, ← List.filter_append, List.filter_eq_self.mpr others]
  rw [kept, splitEq, List.map_append, List.map_append, List.map_cons, List.append_assoc]
  apply List.Perm.append_left
  exact List.perm_append_singleton _ _

/-- Both hops show the application the same headers exactly when trimming changes
no visible value and the client's content length is the body's, as it prints. -/
private theorem appHeaders_perm_iff {authority : Option String} {headers : List LoweredHeader}
    (distinct : ((survivors headers).map LoweredHeader.lower).Nodup) (bodyLength : Nat) :
    (((synthesizedHost authority headers).map fun host =>
        ("host", trimMatches isBlank host)).toList ++
        (((survivors headers).filter fun header => header.lower != "content-length").filter
          isVisible).map (fun header => (header.lower, trimMatches isBlank header.value)) ++
        [("content-length", numeral 10 bodyLength)]).Perm
      (((synthesizedHost authority headers).map fun host => ("host", host)).toList ++
        ((survivors headers).filter isVisible).map fun header => (header.lower, header.value)) ↔
    (∃ header ∈ survivors headers, header.lower = "content-length" ∧
      header.value = numeral 10 bodyLength) ∧
    (∀ header ∈ survivors headers, isVisible header = true →
      trimMatches isBlank header.value = header.value) ∧
    ∀ host, synthesizedHost authority headers = some host → trimMatches isBlank host = host := by
  have unique := List.inj_on_of_nodup_map (frame_appHeaders_nodup authority distinct)
  constructor
  · intro same
    have shownValue : ∀ {header}, header ∈ survivors headers → isVisible header = true →
        ∀ value, (header.lower, value) ∈
          (((synthesizedHost authority headers).map fun host => ("host", host)).toList ++
            ((survivors headers).filter isVisible).map fun header => (header.lower, header.value)) →
        value = header.value := by
      intro header member shown value found
      have own := List.mem_append_right
        ((synthesizedHost authority headers).map fun host => ("host", host)).toList
        (List.mem_map_of_mem (f := fun header : LoweredHeader => (header.lower, header.value))
          (List.mem_filter.mpr ⟨member, shown⟩))
      exact congrArg Prod.snd (unique found own rfl)
    have lengthFound := same.subset (List.mem_append_right _ (List.mem_singleton.mpr rfl))
    refine ⟨?_, ?_, ?_⟩
    · rcases List.mem_append.mp lengthFound with inHost | inVisible
      · simp only [Option.mem_toList, Option.map_eq_some_iff, Prod.mk.injEq] at inHost
        obtain ⟨_, _, wrongName, _⟩ := inHost
        exact absurd wrongName (by decide)
      · obtain ⟨header, member, pairEq⟩ := List.mem_map.mp inVisible
        exact ⟨header, List.mem_of_mem_filter member, congrArg Prod.fst pairEq,
          congrArg Prod.snd pairEq⟩
    · intro header member shown
      by_cases isLength : header.lower = "content-length"
      · rw [← isLength] at lengthFound
        rw [← shownValue member shown _ lengthFound]
        exact trimMatches_numeral bodyLength
      · apply shownValue member shown
        apply same.subset
        apply List.mem_append_left
        apply List.mem_append_right
        apply List.mem_map_of_mem (f := fun header : LoweredHeader =>
          (header.lower, trimMatches isBlank header.value))
        exact List.mem_filter.mpr ⟨List.mem_filter.mpr ⟨member, bne_iff_ne.mpr isLength⟩, shown⟩
    · intro host synthesized
      rw [synthesized] at same unique
      have trimmed := same.subset (List.mem_append_left _ (List.mem_append_left _
        (List.mem_singleton.mpr rfl)))
      have own : ("host", host) ∈ ((some host).map fun host => ("host", host)).toList ++
          ((survivors headers).filter isVisible).map fun header => (header.lower, header.value) :=
        List.mem_append_left _ (List.mem_singleton.mpr rfl)
      exact congrArg Prod.snd (unique trimmed own rfl)
  · intro conditions
    obtain ⟨⟨header, member, isLength, lengthValue⟩, values, hostValue⟩ := conditions
    have sameHost : ((synthesizedHost authority headers).map fun host =>
        ("host", trimMatches isBlank host)) =
        (synthesizedHost authority headers).map fun host => ("host", host) := by
      cases synthesized : synthesizedHost authority headers with
      | none => rfl
      | some host => simp [hostValue host synthesized]
    have sameValues : ((((survivors headers).filter fun header =>
        header.lower != "content-length").filter isVisible).map fun header =>
          (header.lower, trimMatches isBlank header.value)) =
        (((survivors headers).filter fun header => header.lower != "content-length").filter
          isVisible).map fun header => (header.lower, header.value) := by
      apply List.map_congr_left
      intro other otherMember
      obtain ⟨kept, shown⟩ := List.mem_filter.mp otherMember
      rw [values other (List.mem_of_mem_filter kept) shown]
    have moved := visible_perm distinct member isLength
    rw [isLength, lengthValue] at moved
    rw [sameHost, sameValues, List.append_assoc]
    exact List.Perm.append_left _ moved

private theorem isVisible_of_contentType {header : LoweredHeader}
    (isType : header.lower = "content-type") : isVisible header = true := by
  unfold isVisible
  rw [isType]
  decide

private theorem splitTarget_asStr {pathAndQuery : PathAndQuery}
    (slash : startsWith pathAndQuery.asStr "/" = true) :
    splitTarget pathAndQuery.asStr = (pathAndQuery.path, pathAndQuery.query.getD "") := by
  rw [pathAndQuery.joined slash, splitTarget]
  cases pathAndQuery.query with
  | none =>
      rw [Option.map_none, Option.getD_none, String.append_empty,
        splitOnce_eq_none.mpr pathAndQuery.plainPath]
      rfl
  | some query =>
      have chars : (pathAndQuery.path ++ ("?" ++ query)).toList =
          pathAndQuery.path.toList ++ '?' :: query.toList := by
        simp
      rw [Option.map_some, Option.getD_some,
        splitOnce_eq_some.mpr ⟨chars, pathAndQuery.plainPath⟩]
      rfl

/-! ## Parity -/

/-- The same request, headers in any order. -/
structure SameRequest (left right : WorkerRequest) : Prop where
  method : left.method = right.method
  path : left.path = right.path
  query : left.query = right.query
  serverName : left.serverName = right.serverName
  serverPort : left.serverPort = right.serverPort
  urlScheme : left.urlScheme = right.urlScheme
  remoteAddr : left.remoteAddr = right.remoteAddr
  headers : left.headers.Perm right.headers
  body : left.body = right.body

/-- Both hops deliver, and deliver the same request. -/
def HopsAgree (maxBody : Nat) (session : Session) (headers : List LoweredHeader)
    (protocols : ProtocolSupport) (out body : List UInt8) (metadata : TrustedHopMetadata) : Prop :=
  ∃ sanitized bytes httpRequest plan frame found,
    sanitizeLoweredWorkerRequestHeaders headers metadata protocols = .ok sanitized ∧
    buildWorkerRequest session sanitized.headers body = .ok bytes ∧
    parseRequest bytes maxBody = .ok httpRequest ∧
    sanitizeFrameHeaders headers protocols = .ok plan ∧
    buildRequestFrameBytesInto out session headers plan body metadata = .ok frame ∧
    FrameDecodesTo maxBody frame found ∧
    SameRequest httpRequest (requestFrameToWorkerRequest found)

/-- Metadata that the text hop carries unchanged: no control byte once blanks are
trimmed, no blank around an address or a server name, and none that makes or
unmakes an `https`. -/
structure MetadataCarried (metadata : TrustedHopMetadata) : Prop where
  values : ∀ header ∈ metadata.headers, ControlFree (trimMatches isBlank header.2)
  remoteAddr : trimMatches isBlank metadata.remoteAddr = metadata.remoteAddr
  serverName : trimMatches isBlank metadata.serverName = metadata.serverName
  urlScheme : trimMatches isBlank metadata.urlScheme = "https" ↔ metadata.urlScheme = "https"

/-- What the text hop needs beyond the frame hop. -/
structure TextHopCarries (pathAndQuery : PathAndQuery) (session : Session)
    (headers : List LoweredHeader) (bodyLength : Nat) (metadata : TrustedHopMetadata) : Prop where
  contentLength : ∃ header ∈ survivors headers, header.lower = "content-length" ∧
    header.value = numeral 10 bodyLength
  distinct : ((survivors headers).map LoweredHeader.lower).Nodup
  values : ∀ header ∈ survivors headers, isVisible header = true →
    trimMatches isBlank header.value = header.value
  host : ∀ host, synthesizedHost session.uriAuthority headers = some host →
    trimMatches isBlank host = host
  origin : isOriginForm pathAndQuery.asStr = true
  contentType : ∀ header ∈ survivors headers, header.lower = "content-type" →
    startsWith (toAsciiLowercase header.value) "application/grpc" = false
  carried : MetadataCarried metadata
  count : (hopHeaders session.uriAuthority headers metadata bodyLength).length ≤ maxHeaders
  size : (headText (requestLine session.method pathAndQuery.asStr ::
    (hopHeaders session.uriAuthority headers metadata bodyLength).map headerLine)).utf8ByteSize ≤
      maxHeaderBytes

/-- The request the worker makes of the HTTP hop's lines. -/
private theorem walkedRequest_hopHeaders {session : Session} {headers : List LoweredHeader}
    (validated : Validated session headers) (method target host : String)
    (authority : Option String) (metadata : TrustedHopMetadata) (body : List UInt8) :
    walkedRequest method target host
        ((hopHeaders authority headers metadata body.length).map parsedHeader) body =
      { method := method
        path := (splitTarget target).1
        query := (splitTarget target).2
        serverName := trimMatches isBlank metadata.serverName
        serverPort := metadata.serverPort
        urlScheme := walkedScheme (trimMatches isBlank metadata.urlScheme)
        remoteAddr := trimMatches isBlank metadata.remoteAddr
        headers := ((hopClientHeaders authority headers).map parsedHeader).filterMap appHeader ++
          [("content-length", numeral 10 body.length)]
        body := body } := by
  have clientLower : ∀ header ∈ (hopClientHeaders authority headers).map parsedHeader,
      toAsciiLowercase header.1 = header.1 := by
    intro header member
    obtain ⟨line, _, headerEq⟩ := List.mem_map.mp member
    rw [← headerEq]
    exact toAsciiLowercase_idem line.1
  have clientPlain : ∀ header ∈ (hopClientHeaders authority headers).map parsedHeader,
      startsWith header.1 "x-oxo-" = false := by
    intro header member
    have named : header.1 ∈ ((hopClientHeaders authority headers).map parsedHeader).map Prod.fst :=
      List.mem_map_of_mem member
    rw [parsedHeader_names, hopClientHeaders_names] at named
    rcases List.mem_append.mp named with inHost | inSurvivors
    · simp only [Option.mem_toList, Option.map_eq_some_iff] at inHost
      obtain ⟨_, _, isHost⟩ := inHost
      rw [← isHost]
      decide
    · obtain ⟨survivorHeader, survives, sameName⟩ := List.mem_map.mp inSurvivors
      rw [← sameName]
      exact (survivor_of_mem validated (List.mem_of_mem_filter survives)).notReserved
  have lastLower : ∀ header ∈ [("Content-Length", numeral 10 body.length),
      ("Connection", "close")].map parsedHeader, toAsciiLowercase header.1 = header.1 := by
    intro header member
    obtain ⟨line, _, headerEq⟩ := List.mem_map.mp member
    rw [← headerEq]
    exact toAsciiLowercase_idem line.1
  have lengthName : toAsciiLowercase "Content-Length" = "content-length" := by decide
  have connectionName : toAsciiLowercase "Connection" = "connection" := by decide
  have last : [("Content-Length", numeral 10 body.length), ("Connection", "close")].map
      parsedHeader = [("content-length", numeral 10 body.length), ("connection", "close")] := by
    simp only [List.map_cons, List.map_nil, parsedHeader, lengthName, connectionName,
      trimMatches_numeral]
    rfl
  have lastPlain : ∀ header ∈ [("content-length", numeral 10 body.length),
      ("connection", "close")], startsWith header.1 "x-oxo-" = false := by
    intro header member
    simp only [List.mem_cons, List.not_mem_nil, or_false] at member
    rcases member with isLength | isConnection
    · rw [isLength]
      show startsWith "content-length" "x-oxo-" = false
      decide
    · rw [isConnection]
      decide
  have lastApp : [("content-length", numeral 10 body.length), ("connection", "close")].filterMap
      appHeader = [("content-length", numeral 10 body.length)] := by
    have keepsLength : ∀ value, appHeader ("content-length", value) =
        some ("content-length", value) := by
      have lower : toAsciiLowercase "content-length" = "content-length" := by decide
      have notForwarding : isClientForwardingHeader "content-length" = false := by decide
      have notReserved : startsWith "content-length" "x-oxo-" = false := by decide
      have plain : "content-length".toList.contains '_' = false := by decide
      intro value
      simp only [appHeader, lower, notForwarding, notReserved, normalizeHeaderName, plain]
      simp
    have dropsConnection : appHeader ("connection", "close") = none := by decide
    rw [List.filterMap_cons, keepsLength, List.filterMap_cons, dropsConnection, List.filterMap_nil]
  rw [last] at lastLower
  unfold walkedRequest hopHeaders
  rw [List.map_append, List.map_append, List.foldl_append, List.foldl_append,
    foldl_apply_of_not_reserved clientLower clientPlain, last, foldl_apply_metadata metadata rfl,
    foldl_apply_of_not_reserved lastLower lastPlain, lastApp, List.nil_append]

private theorem walkedScheme_eq_iff (value urlScheme : String) :
    walkedScheme value = (schemeOf urlScheme).asStr ↔ (value = "https" ↔ urlScheme = "https") := by
  unfold walkedScheme schemeOf
  by_cases isHttps : urlScheme = "https"
  · rw [if_pos isHttps]
    show (if value = "http" ∨ value = "https" then value else "http") = "https" ↔ _
    by_cases valueHttps : value = "https"
    · simp [valueHttps, isHttps]
    · by_cases valueHttp : value = "http"
      · simp [valueHttp, isHttps]
      · simp [valueHttps, valueHttp, isHttps]
  · rw [if_neg isHttps]
    show (if value = "http" ∨ value = "https" then value else "http") = "http" ↔ _
    by_cases valueHttps : value = "https"
    · simp [valueHttps, isHttps]
    · by_cases valueHttp : value = "http"
      · simp [valueHttp, isHttps]
      · simp [valueHttps, valueHttp, isHttps]

/-- Where the frame hop delivers, the text hop delivers the same request exactly
under its own conditions. -/
private theorem textHop_agrees_iff {session : Session} {headers : List LoweredHeader}
    (validated : Validated session headers) {pathAndQuery : PathAndQuery}
    (found : session.pathAndQuery = some pathAndQuery)
    (slash : startsWith pathAndQuery.asStr "/" = true) {protocols : ProtocolSupport}
    {metadata : TrustedHopMetadata} {sanitized : SanitizedWorkerRequest}
    (clean : sanitizeLoweredWorkerRequestHeaders headers metadata protocols = .ok sanitized)
    {body : List UInt8} {maxBody : Nat} (small : body.length < 2 ^ 64)
    (bodyFits : body.length ≤ maxBody)
    (values : ∀ header ∈ survivors headers, ControlFree header.value)
    (hostValue : ∀ host, synthesizedHost session.uriAuthority headers = some host →
      ControlFree host) :
    (∃ bytes httpRequest, buildWorkerRequest session sanitized.headers body = .ok bytes ∧
      parseRequest bytes maxBody = .ok httpRequest ∧
      SameRequest httpRequest (requestFrameToWorkerRequest (writtenFrame
        ⟨session.method, pathAndQuery.path, pathAndQuery.query.getD "", session.uriAuthority⟩
        headers body metadata))) ↔
      TextHopCarries pathAndQuery session headers body.length metadata := by
  have clientLines := clientLine_accepted validated values hostValue
  have ownLines := ownLine_accepted body.length
  have writtenHead : (∀ header ∈ metadata.headers,
      hasInvalidHeaderValueBytes (utf8 header.2) = false) →
      (∀ header ∈ hopHeaders session.uriAuthority headers metadata body.length,
        LineWritable header) ∧
      WrittenHead session.method pathAndQuery.asStr
        (hopHeaders session.uriAuthority headers metadata body.length) := by
    intro metadataWritable
    have lines : ∀ header ∈ hopHeaders session.uriAuthority headers metadata body.length,
        LineWritable header := by
      intro header member
      rcases List.mem_append.mp member with inFront | inOwn
      · rcases List.mem_append.mp inFront with inClient | inMetadata
        · exact (clientLines header inClient).1
        · exact ⟨metadataName_valid inMetadata, metadataWritable header inMetadata⟩
      · exact (ownLines header inOwn).1
    refine ⟨lines, ?_, ?_, pathAndQuery.visible, ?_, ?_⟩
    · unfold validToken
      rw [bne_iff_ne.mpr session.methodToken.1, session.methodToken.2]
      rfl
    · intro empty
      rw [empty] at slash
      exact absurd slash (by decide)
    · intro header member
      rw [validToken_eq]
      exact (lines header member).1
    · intro header member
      exact plain_of_writable (lines header member).2
  obtain ⟨hostHeader, hostMember, isHost⟩ := hostLine_exists validated
  obtain ⟨host, hostFound⟩ : ∃ host, headerValue ((hopHeaders session.uriAuthority headers metadata
      body.length).map parsedHeader) "host" = some host := by
    cases looked : headerValue ((hopHeaders session.uriAuthority headers metadata
        body.length).map parsedHeader) "host" with
    | some host => exact ⟨host, rfl⟩
    | none =>
        unfold headerValue at looked
        rw [Option.map_eq_none_iff, List.find?_eq_none] at looked
        have member : parsedHeader hostHeader ∈ (hopHeaders session.uriAuthority headers metadata
            body.length).map parsedHeader :=
          List.mem_map_of_mem (List.mem_append_left _ (List.mem_append_left _ hostMember))
        exact absurd (beq_iff_eq.mpr isHost) (looked _ member)
  have length := lengthFound session.uriAuthority headers metadata body.length
  have target := splitTarget_asStr slash
  constructor
  · intro agrees
    obtain ⟨bytes, httpRequest, built, parsed, same⟩ := agrees
    rw [buildWorkerRequest_eq_ok validated found clean] at built
    obtain ⟨lines, bytesEq⟩ := built
    obtain ⟨_, written⟩ := writtenHead fun header member =>
      (lines header (List.mem_append_left _ (List.mem_append_right _ member))).2
    rw [bytesEq, parseRequest_eq_ok written hostFound length small bodyFits,
      walkedRequest_hopHeaders validated] at parsed
    obtain ⟨accepted, requestEq⟩ := parsed
    rw [requestEq] at same
    have distinct := (hopHeaders_nodup_iff validated _ _ _).mp accepted.headers.distinct
    have sameHeaders := same.headers
    simp only [requestFrameToWorkerRequest, writtenFrame, hop_appHeaders validated,
      frame_appHeaders validated] at sameHeaders
    obtain ⟨contentLength, trimmed, hostTrimmed⟩ :=
      (appHeaders_perm_iff distinct body.length).mp sameHeaders
    refine ⟨contentLength, distinct, trimmed, hostTrimmed, accepted.origin, ?_,
      ⟨?_, same.remoteAddr, same.serverName, (walkedScheme_eq_iff _ _).mp same.urlScheme⟩,
      accepted.headers.count, accepted.size⟩
    · intro header member isType
      have inLines := contentType_mem session.uriAuthority metadata body.length member isType
      have parsedDistinct : (((hopHeaders session.uriAuthority headers metadata body.length).map
          parsedHeader).map Prod.fst).Nodup := by
        rw [parsedHeader_names]
        exact accepted.headers.distinct
      have refused := accepted.contentType _ (headerValue_of_mem parsedDistinct inLines)
      rwa [trimmed header member (isVisible_of_contentType isType)] at refused
    · intro header member
      exact (accepted.headers.each header
        (List.mem_append_left _ (List.mem_append_right _ member))).value
  · intro carries
    obtain ⟨lines, written⟩ := writtenHead fun header member =>
      writable_of_trimmed (carries.carried.values header member)
    have sameHeaders := (appHeaders_perm_iff carries.distinct body.length).mpr
      ⟨carries.contentLength, carries.values, carries.host⟩
    refine ⟨_, _, (buildWorkerRequest_eq_ok validated found clean).mpr ⟨lines, rfl⟩,
      (parseRequest_eq_ok written hostFound length small bodyFits).mpr
        ⟨⟨carries.size, ⟨carries.count, ?_, ?_⟩, carries.origin, ?_⟩, rfl⟩, ?_⟩
    · exact (hopHeaders_nodup_iff validated _ _ _).mpr carries.distinct
    · intro header member
      rcases List.mem_append.mp member with inFront | inOwn
      · rcases List.mem_append.mp inFront with inClient | inMetadata
        · exact (clientLines header inClient).2
        · exact (metadataLine_accepted_iff inMetadata).mpr
            (carries.carried.values header inMetadata)
      · exact (ownLines header inOwn).2
    · intro value looked
      obtain ⟨header, member, isType, valueEq⟩ := contentType_of_mem (headerValue_eq_some looked)
      rw [valueEq, carries.values header member (isVisible_of_contentType isType)]
      exact carries.contentType header member isType
    · rw [walkedRequest_hopHeaders validated, target, hop_appHeaders validated]
      refine ⟨rfl, rfl, rfl, carries.carried.serverName, rfl,
        (walkedScheme_eq_iff _ _).mpr carries.carried.urlScheme, carries.carried.remoteAddr, ?_, rfl⟩
      simp only [requestFrameToWorkerRequest, writtenFrame, frame_appHeaders validated]
      exact sameHeaders

private theorem agree_iff_of_validated {session : Session} {headers : List LoweredHeader}
    (facts : Validated session headers) {maxBody : Nat} {protocols : ProtocolSupport}
    {plan : FrameHeaderPlan} (sanitized : sanitizeFrameHeaders headers protocols = .ok plan)
    {body : List UInt8} (bodyFits : body.length ≤ maxBody) {pathAndQuery : PathAndQuery}
    (found : session.pathAndQuery = some pathAndQuery) {target : RequestTarget}
    (hasTarget : session.target = .ok target) (out : List UInt8) (metadata : TrustedHopMetadata) :
    HopsAgree maxBody session headers protocols out body metadata ↔
      (writtenFrame target headers body metadata).FitsWire ∧
        FrameWithinBudget maxBody target headers body metadata ∧
        TextHopCarries pathAndQuery session headers body.length metadata := by
  have slash : startsWith pathAndQuery.asStr "/" = true := by
    obtain ⟨checked, checkedEq, slash⟩ := facts.path
    rw [found] at checkedEq
    cases checkedEq
    exact slash
  have targetEq : target = ⟨session.method, pathAndQuery.path, pathAndQuery.query.getD "",
      session.uriAuthority⟩ := by
    unfold Session.target at hasTarget
    rw [found] at hasTarget
    exact (Except.ok.inj hasTarget).symm
  obtain ⟨textSanitized, textClean⟩ : ∃ textSanitized,
      sanitizeLoweredWorkerRequestHeaders headers metadata protocols = .ok textSanitized := by
    have planned := sanitizeFrameHeaders_spec headers protocols (le_trans facts.few (by decide))
    unfold sanitizeLoweredWorkerRequestHeaders
    rw [sanitizeLoweredWorkerRequestHeadersBare_eq]
    cases rejected : listRejection protocols headers with
    | some rejection =>
        rw [rejected, sanitized] at planned
        cases planned
    | none => exact ⟨_, rfl⟩
  have built := buildRequestFrameBytesInto_eq facts.few sanitized hasTarget out body metadata
  have textHop : (writtenFrame target headers body metadata).FitsWire →
      FrameWithinBudget maxBody target headers body metadata →
      ((∃ bytes httpRequest, buildWorkerRequest session textSanitized.headers body = .ok bytes ∧
        parseRequest bytes maxBody = .ok httpRequest ∧
        SameRequest httpRequest (requestFrameToWorkerRequest
          (writtenFrame target headers body metadata))) ↔
        TextHopCarries pathAndQuery session headers body.length metadata) := by
    intro fits budget
    rw [targetEq] at fits budget ⊢
    have small : body.length < 2 ^ 32 := fits.body
    exact textHop_agrees_iff facts found slash textClean (by omega) bodyFits budget.values
      fun host synthesized => (budget.host host synthesized).1
  constructor
  · intro agree
    obtain ⟨text, bytes, httpRequest, framePlan, frame, decoded, textOk, textBuilt, parsed, planOk,
      frameBuilt, decodes, same⟩ := agree
    rw [textClean] at textOk
    cases textOk
    rw [sanitized] at planOk
    cases planOk
    rw [built] at frameBuilt
    have fits : (writtenFrame target headers body metadata).FitsWire := by
      by_contra fails
      rw [encodeRequest_of_not_fits fails] at frameBuilt
      cases frameBuilt
    have encoded := encodeRequest_of_fits fits
    rw [encoded] at frameBuilt
    cases frameBuilt
    rw [frameDecodesTo_iff encoded] at decodes
    have budget := (writtenFrame_accepted_iff facts fits bodyFits).mp decodes.2
    rw [decodes.1] at same
    exact ⟨fits, budget, (textHop fits budget).mp
      ⟨bytes, httpRequest, textBuilt, parsed, same⟩⟩
  · intro conditions
    obtain ⟨fits, budget, carries⟩ := conditions
    obtain ⟨bytes, httpRequest, textBuilt, parsed, same⟩ := (textHop fits budget).mpr carries
    have encoded := encodeRequest_of_fits fits
    rw [encoded] at built
    refine ⟨textSanitized, bytes, httpRequest, plan, _, _, textClean, textBuilt, parsed, sanitized,
      built, ?_, same⟩
    rw [frameDecodesTo_iff encoded]
    exact ⟨rfl, (writtenFrame_accepted_iff facts fits bodyFits).mpr budget⟩

/-- For every request the edge admits, the two hops deliver the same request
exactly when the frame is within its limits and the text hop carries it. -/
theorem hopsAgree_iff (toStr : List UInt8 → Option String) (session : Session)
    (headers : List LoweredHeader) (maxBody : Nat) (publicServerName : Option String)
    (length : Option Nat) (protocols : ProtocolSupport) (plan : FrameHeaderPlan)
    (out body : List UInt8) (metadata : TrustedHopMetadata) (pathAndQuery : PathAndQuery)
    (target : RequestTarget)
    (_collected : collectRequestHeaders toStr session = .ok headers)
    (validated : validateClientRequest session headers maxBody publicServerName = .ok length)
    (sanitized : sanitizeFrameHeaders headers protocols = .ok plan)
    (bodyFits : body.length ≤ maxBody)
    (found : session.pathAndQuery = some pathAndQuery)
    (hasTarget : session.target = .ok target) :
    HopsAgree maxBody session headers protocols out body metadata ↔
      (writtenFrame target headers body metadata).FitsWire ∧
        FrameWithinBudget maxBody target headers body metadata ∧
        TextHopCarries pathAndQuery session headers body.length metadata :=
  agree_iff_of_validated (validateClientRequest_eq_ok validated) sanitized bodyFits found hasTarget
    out metadata

/-! ## Concrete requests -/

/-- The plain request with its body's length declared. -/
def measuredSession : Session :=
  ⟨"GET", getToken, false, none, none, some rootTarget, [("host", [97]), ("content-length", [48])]⟩

def measuredHeaders : List LoweredHeader := [.new "host" "a", .new "content-length" "0"]

def identifiedMetadata : TrustedHopMetadata := ⟨"203.0.113.7", "https", "app", 443, some "oxo-7-1"⟩

/-- Without a content length the text hop adds one and the frame hop does not. -/
theorem plain_request_hops_disagree :
    collectRequestHeaders visibleText plainSession = .ok plainHeaders ∧
      validateClientRequest plainSession plainHeaders 1048576 none = .ok none ∧
      (∃ plan, sanitizeFrameHeaders plainHeaders ⟨false⟩ = .ok plan) ∧
      ¬ HopsAgree 1048576 plainSession plainHeaders ⟨false⟩ [] [] identifiedMetadata := by
  have validated : validateClientRequest plainSession plainHeaders 1048576 none = .ok none := by
    decide +kernel
  have planned := sanitizeFrameHeaders_spec plainHeaders ⟨false⟩ (by decide)
  have clean : listRejection ⟨false⟩ plainHeaders = none := by decide +kernel
  rw [clean] at planned
  obtain ⟨plan, sanitized, _⟩ := planned
  refine ⟨by decide +kernel, validated, ⟨plan, sanitized⟩, ?_⟩
  rw [agree_iff_of_validated (validateClientRequest_eq_ok validated) sanitized (by decide) rfl rfl]
  intro conditions
  have noLength : ¬ ∃ header ∈ survivors plainHeaders, header.lower = "content-length" ∧
      header.value = numeral 10 0 := by decide +kernel
  exact noLength conditions.2.2.contentLength

/-- The equivalence at the measured request, which both hops deliver alike. -/
theorem hopsAgree_measured :
    HopsAgree 1048576 measuredSession measuredHeaders ⟨false⟩ [] [] identifiedMetadata := by
  have planned := sanitizeFrameHeaders_spec measuredHeaders ⟨false⟩ (by decide)
  have clean : listRejection ⟨false⟩ measuredHeaders = none := by decide +kernel
  rw [clean] at planned
  obtain ⟨plan, sanitized, _⟩ := planned
  rw [hopsAgree_iff visibleText measuredSession measuredHeaders 1048576 none (some 0) ⟨false⟩ plan
    [] [] identifiedMetadata rootTarget ⟨"GET", "/", "", none⟩ (by decide +kernel)
    (by decide +kernel) sanitized (by decide) rfl rfl]
  have noHost : synthesizedHost none measuredHeaders = none := by decide +kernel
  refine ⟨⟨by decide, by decide, by decide, by decide, by decide, by decide +kernel, by decide,
    by decide +kernel⟩, ⟨by decide +kernel, ?_, by decide +kernel⟩,
    ⟨by decide +kernel, by decide +kernel, by decide +kernel, ?_, by decide, by decide +kernel,
      ⟨by decide +kernel, by decide, by decide, by decide⟩, by decide +kernel, by decide +kernel⟩⟩
  · intro authority synthesized
    rw [noHost] at synthesized
    cases synthesized
  · intro host synthesized
    change synthesizedHost none measuredHeaders = some host at synthesized
    rw [noHost] at synthesized
    cases synthesized

end Oxo.Edge
