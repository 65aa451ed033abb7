import Oxo.Core.HopFrame.Request
import Oxo.Worker.AsyncWorker
import Oxo.Worker.Frame

/-!
Contract: where the Ruby decoder and the native decoder of request envelopes
agree.

Owns: the Ruby view of a frame, the demands the native decoder makes of a layout
and the Ruby decoder does not, and the exact condition under which the two accept
the same envelopes with the same fields.

Does not own: either decoder.
-/

namespace Oxo.Worker

open Oxo.Foundation Oxo.Core.HopFrame AsyncWorker

/-- The fields of a frame as Ruby holds them. -/
def rubyView (req : RequestFrame) : RequestHash where
  method := utf8 req.method
  path := utf8 req.path
  query := utf8 req.query
  serverName := utf8 req.serverName
  serverPort := req.serverPort.toNat
  scheme := req.scheme.asStr
  remoteAddr := utf8 req.remoteAddr
  headers := req.headers.map fun header => (utf8 header.1, utf8 header.2)
  body := req.body

/-- What the native decoder demands of a layout and the bytes behind it. -/
structure NativeDemands (maxBody : Nat) (hash : RequestHash) (tail : List UInt8) : Prop where
  noTail : tail = []
  utf8Texts : ∀ text ∈ [hash.method, hash.path, hash.query, hash.serverName, hash.remoteAddr],
    (fromUtf8 text).isSome
  utf8Headers : ∀ header ∈ hash.headers, (fromUtf8 header.1).isSome ∧ (fromUtf8 header.2).isSome
  controlFree : ∀ header ∈ hash.headers,
    header.1.any isControlByte = false ∧ header.2.any isControlByte = false
  headerCount : hash.headers.length ≤ maxHeaders
  headerBytes : (hash.headers.map fun header => header.1.length + header.2.length).sum ≤
    maxHeaderBytes
  body : hash.body.length ≤ min maxBody (2 ^ 32 - 1)

/-- Both decoders accept or both refuse, and accepted fields are equal. -/
def DecodersAgree (rubyMaxBody : Int) (maxBody : Nat) (envelope : List UInt8) : Prop :=
  ((∃ hash, decodeRequestEnvelope rubyMaxBody envelope = .ok hash) ↔
    ∃ req, decodeRequest envelope (frameCaps maxBody) = .ok req) ∧
  ∀ hash req, decodeRequestEnvelope rubyMaxBody envelope = .ok hash →
    decodeRequest envelope (frameCaps maxBody) = .ok req → hash = rubyView req

/-! ## One layout for both -/

private theorem blockImage_short (text : String) :
    ByteCursor.blockImage 2 (utf8 text) = shortImage text := by
  rw [ByteCursor.blockImage, utf8_length, shortImage]

private theorem blockImage_long (text : String) :
    ByteCursor.blockImage 4 (utf8 text) = longImage text := by
  rw [ByteCursor.blockImage, utf8_length, longImage]

theorem headerPairsLayout_view (headers : List (String × String)) :
    headerPairsLayout (headers.map fun header => (utf8 header.1, utf8 header.2)) =
      headerPairsImage headers := by
  unfold headerPairsLayout headerPairsImage
  rw [List.flatMap_map]
  simp only [blockImage_short, blockImage_long]
  rfl

/-- The Ruby layout of a frame is its envelope. -/
theorem layout_rubyView (req : RequestFrame) : (rubyView req).layout = req.envelope := by
  have scheme : toLeBytes 1 (rubyView req).schemeByte = [req.scheme.toByte] := by
    change toLeBytes 1 (if req.scheme.asStr = "https" then 1 else 0) = _
    cases req.scheme <;> decide
  have body : ByteCursor.blockImage 4 req.body = bytesImage req.body := rfl
  unfold RequestHash.layout
  rw [scheme]
  simp only [rubyView, blockImage_short, blockImage_long, headerPairsLayout_view, body,
    List.length_map, RequestFrame.envelope, headersImage, u16Image, List.append_assoc]

/-- Header pairs in UTF-8 are the bytes of text pairs. -/
theorem exists_textPairs {headers : List (List UInt8 × List UInt8)}
    (utf8Headers : ∀ header ∈ headers, (fromUtf8 header.1).isSome ∧ (fromUtf8 header.2).isSome) :
    ∃ texts : List (String × String),
      headers = texts.map fun header => (utf8 header.1, utf8 header.2) := by
  induction headers with
  | nil => exact ⟨[], rfl⟩
  | cons header rest inductionHypothesis =>
      obtain ⟨⟨nameSome, valueSome⟩, restSome⟩ := List.forall_mem_cons.mp utf8Headers
      obtain ⟨name, nameEq⟩ := Option.isSome_iff_exists.mp nameSome
      obtain ⟨value, valueEq⟩ := Option.isSome_iff_exists.mp valueSome
      obtain ⟨texts, restEq⟩ := inductionHypothesis restSome
      refine ⟨(name, value) :: texts, ?_⟩
      rw [restEq, List.map_cons, utf8_of_fromUtf8 nameEq, utf8_of_fromUtf8 valueEq]

/-- A layout whose texts are UTF-8 is the view of a frame. -/
private theorem exists_rubyView {maxBody : Nat} {hash : RequestHash} {tail : List UInt8}
    (fits : hash.FitsWire) (demands : NativeDemands maxBody hash tail) :
    ∃ req, rubyView req = hash := by
  obtain ⟨headers, headersEq⟩ := exists_textPairs demands.utf8Headers
  have texts := demands.utf8Texts
  simp only [List.forall_mem_cons, Option.isSome_iff_exists] at texts
  obtain ⟨⟨method, methodEq⟩, ⟨path, pathEq⟩, ⟨query, queryEq⟩, ⟨serverName, serverNameEq⟩,
    ⟨remoteAddr, remoteAddrEq⟩, _⟩ := texts
  obtain ⟨scheme, schemeEq⟩ : ∃ scheme : Scheme, scheme.asStr = hash.scheme := by
    rcases fits.scheme with http | https
    · exact ⟨.http, http.symm⟩
    · exact ⟨.https, https.symm⟩
  refine ⟨⟨method, path, query, serverName, UInt16.ofNat hash.serverPort, scheme, remoteAddr,
    headers, hash.body⟩, ?_⟩
  simp only [rubyView, utf8_of_fromUtf8 methodEq, utf8_of_fromUtf8 pathEq,
    utf8_of_fromUtf8 queryEq, utf8_of_fromUtf8 serverNameEq, utf8_of_fromUtf8 remoteAddrEq,
    u16_toNat_ofNat fits.serverPort, schemeEq, ← headersEq]

theorem headerBytes_view (headers : List (String × String)) :
    ((headers.map fun header => (utf8 header.1, utf8 header.2)).map fun header =>
      header.1.length + header.2.length).sum = headerBytes headers := by
  rw [List.map_map, headerBytes]
  simp [Function.comp_def]

/-- The native decoder's demands on a frame are the width and native demands on
its view. -/
theorem accepted_iff_view (maxBody : Nat) (req : RequestFrame) :
    req.Accepted (frameCaps maxBody) ↔
      (rubyView req).FitsWire ∧ NativeDemands maxBody (rubyView req) [] := by
  have countCap : (frameCaps maxBody).maxHeaders.toNat = maxHeaders := rfl
  have bytesCap : (frameCaps maxBody).maxHeaderBytes.toNat = maxHeaderBytes := rfl
  have bodyCap := frameCaps_maxBodyBytes maxBody
  constructor
  · intro accepted
    have headers := accepted.headers
    have count := headers.count
    have body := accepted.body
    rw [countCap] at count
    rw [bodyCap] at body
    constructor
    · refine ⟨?_, ?_, ?_, ?_, req.serverPort.toNat_lt, ?_, ?_, ?_, ?_, ?_⟩
      · simpa [rubyView] using accepted.method
      · simpa [rubyView] using accepted.path
      · simpa [rubyView] using accepted.query
      · simpa [rubyView] using accepted.serverName
      · change req.scheme.asStr = "http" ∨ req.scheme.asStr = "https"
        cases req.scheme <;> decide
      · simpa [rubyView] using accepted.remoteAddr
      · have small : maxHeaders < 2 ^ 16 := by decide
        simp only [rubyView, List.length_map]
        omega
      · intro header member
        obtain ⟨text, textMember, rfl⟩ := List.mem_map.mp member
        simpa [HeaderFits] using headers.fit text textMember
      · simp only [rubyView]
        omega
    · refine ⟨rfl, ?_, ?_, ?_, ?_, ?_, body⟩
      · simp [rubyView]
      · intro header member
        obtain ⟨text, _, rfl⟩ := List.mem_map.mp member
        simp
      · intro header member
        obtain ⟨text, textMember, rfl⟩ := List.mem_map.mp member
        exact headers.controlFree text textMember
      · simpa [rubyView] using count
      · simp only [rubyView, headerBytes_view]
        exact headers.bytes
  · intro valid
    obtain ⟨fits, demands⟩ := valid
    refine ⟨?_, ?_, ?_, ?_, ?_, ⟨?_, ?_, ?_, ?_⟩, ?_⟩
    · simpa [rubyView] using fits.method
    · simpa [rubyView] using fits.path
    · simpa [rubyView] using fits.query
    · simpa [rubyView] using fits.serverName
    · simpa [rubyView] using fits.remoteAddr
    · intro header member
      simpa [HeaderFits] using fits.headers _ (List.mem_map_of_mem member)
    · intro header member
      exact demands.controlFree _ (List.mem_map_of_mem member)
    · have count := demands.headerCount
      simpa [rubyView, countCap] using count
    · have bytes := demands.headerBytes
      simp only [rubyView, headerBytes_view] at bytes
      exact bytes
    · rw [bodyCap]
      exact demands.body

/-- What fits the wire as a frame fits it as a view. -/
theorem rubyView_fitsWire {req : RequestFrame} (fits : req.FitsWire) :
    (rubyView req).FitsWire := by
  refine ⟨?_, ?_, ?_, ?_, req.serverPort.toNat_lt, ?_, ?_, ?_, ?_, fits.body⟩
  · simpa [rubyView] using fits.method
  · simpa [rubyView] using fits.path
  · simpa [rubyView] using fits.query
  · simpa [rubyView] using fits.serverName
  · change req.scheme.asStr = "http" ∨ req.scheme.asStr = "https"
    cases req.scheme <;> decide
  · simpa [rubyView] using fits.remoteAddr
  · simpa [rubyView] using fits.headers.1
  · intro header member
    obtain ⟨text, textMember, rfl⟩ := List.mem_map.mp member
    simpa [HeaderFits] using fits.headers.2 text textMember

/-- The Ruby decoder reads an envelope as the view of the frame it is, or not at all. -/
theorem decodeRequestEnvelope_view {maxBodyBytes : Int} {req : RequestFrame} {hash : RequestHash}
    (fits : req.FitsWire) (few : req.headers.length ≤ AsyncWorker.maxHeaders)
    (decoded : decodeRequestEnvelope maxBodyBytes req.envelope = .ok hash) :
    hash = rubyView req := by
  obtain ⟨⟨hashFits, within⟩, tail, laidOut⟩ :=
    (decodeRequestEnvelope_eq_ok maxBodyBytes req.envelope hash).mp decoded
  -- Under a cap that admits both bodies the reader tells the two apart.
  have exactness := envelopeSections_exact (max maxBodyBytes req.body.length)
  have hashWithin : hash.WithinCaps (max maxBodyBytes req.body.length) :=
    ⟨within.headerCount, within.body.trans (le_max_left _ _)⟩
  have viewWithin : (rubyView req).WithinCaps (max maxBodyBytes req.body.length) :=
    ⟨by simpa [rubyView] using few, le_max_right _ _⟩
  have viewRest : (ByteCursor.new req.envelope).rest = (rubyView req).layout ++ [] := by
    rw [ByteCursor.rest_new, layout_rubyView, List.append_nil]
  have hashRest : (ByteCursor.new req.envelope).rest = hash.layout ++ tail := by
    rw [ByteCursor.rest_new, laidOut]
  exact (exactness.unique ⟨hashFits, hashWithin⟩ ⟨rubyView_fitsWire fits, viewWithin⟩ hashRest
    viewRest).1

/-- The native decoder accepts exactly the fitting layouts that meet its
demands. -/
theorem decodeRequest_accepts_iff (maxBody : Nat) (envelope : List UInt8) (req : RequestFrame) :
    decodeRequest envelope (frameCaps maxBody) = .ok req ↔
      ((rubyView req).FitsWire ∧ NativeDemands maxBody (rubyView req) []) ∧
        envelope = (rubyView req).layout := by
  rw [decodeRequest_eq_ok, accepted_iff_view, layout_rubyView]

/-- A fitting layout that meets the native demands decodes natively to a frame
with that view. -/
private theorem native_of_layout {maxBody : Nat} {envelope tail : List UInt8} {hash : RequestHash}
    (fits : hash.FitsWire) (demands : NativeDemands maxBody hash tail)
    (laidOut : envelope = hash.layout ++ tail) :
    ∃ req, rubyView req = hash ∧ decodeRequest envelope (frameCaps maxBody) = .ok req := by
  obtain ⟨req, view⟩ := exists_rubyView fits demands
  have noTail := demands.noTail
  subst noTail
  rw [List.append_nil] at laidOut
  refine ⟨req, view, ?_⟩
  rw [decodeRequest_accepts_iff, view]
  exact ⟨⟨fits, demands⟩, laidOut⟩

/-! ## The condition -/

/-- The two decoders agree on an envelope exactly when, for the request laid out
at its start and the bytes behind it, the two Ruby caps hold if and only if the
native demands do. -/
theorem decoders_agree_iff (rubyMaxBody : Int) (maxBody : Nat) (envelope : List UInt8) :
    DecodersAgree rubyMaxBody maxBody envelope ↔
      ∀ (hash : RequestHash) (tail : List UInt8), hash.FitsWire → envelope = hash.layout ++ tail →
        (hash.WithinCaps rubyMaxBody ↔ NativeDemands maxBody hash tail) := by
  constructor
  · intro agree hash tail fits laidOut
    obtain ⟨sameDomain, sameFields⟩ := agree
    constructor
    · intro within
      have rubyOk := (decodeRequestEnvelope_eq_ok rubyMaxBody envelope hash).mpr
        ⟨⟨fits, within⟩, tail, laidOut⟩
      obtain ⟨req, nativeOk⟩ := sameDomain.mp ⟨hash, rubyOk⟩
      obtain ⟨⟨_, demands⟩, envelopeEq⟩ :=
        (decodeRequest_accepts_iff maxBody envelope req).mp nativeOk
      rw [sameFields hash req rubyOk nativeOk] at laidOut ⊢
      rw [envelopeEq] at laidOut
      rw [List.self_eq_append_right.mp laidOut]
      exact demands
    · intro demands
      obtain ⟨req, view, nativeOk⟩ := native_of_layout fits demands laidOut
      obtain ⟨found, rubyOk⟩ := sameDomain.mpr ⟨req, nativeOk⟩
      have sameHash : found = hash := by
        rw [sameFields found req rubyOk nativeOk, view]
      rw [← sameHash]
      exact ((decodeRequestEnvelope_eq_ok rubyMaxBody envelope found).mp rubyOk).1.2
  · intro sameChecks
    have rubyOfNative : ∀ req, decodeRequest envelope (frameCaps maxBody) = .ok req →
        decodeRequestEnvelope rubyMaxBody envelope = .ok (rubyView req) := by
      intro req nativeOk
      obtain ⟨⟨fits, demands⟩, envelopeEq⟩ :=
        (decodeRequest_accepts_iff maxBody envelope req).mp nativeOk
      have laidOut : envelope = (rubyView req).layout ++ [] := by
        rw [List.append_nil]
        exact envelopeEq
      exact (decodeRequestEnvelope_eq_ok rubyMaxBody envelope (rubyView req)).mpr
        ⟨⟨fits, (sameChecks _ _ fits laidOut).mpr demands⟩, [], laidOut⟩
    refine ⟨⟨?_, ?_⟩, ?_⟩
    · intro accepted
      obtain ⟨hash, rubyOk⟩ := accepted
      obtain ⟨⟨fits, within⟩, tail, laidOut⟩ :=
        (decodeRequestEnvelope_eq_ok rubyMaxBody envelope hash).mp rubyOk
      have demands := (sameChecks hash tail fits laidOut).mp within
      obtain ⟨req, _, nativeOk⟩ := native_of_layout fits demands laidOut
      exact ⟨req, nativeOk⟩
    · intro accepted
      obtain ⟨req, nativeOk⟩ := accepted
      exact ⟨rubyView req, rubyOfNative req nativeOk⟩
    · intro hash req rubyOk nativeOk
      rw [rubyOfNative req nativeOk] at rubyOk
      exact (Except.ok.inj rubyOk).symm

/-- The envelope of a bare `GET /`, with one byte behind the body. -/
def trailingByteEnvelope : List UInt8 :=
  [3, 0, 71, 69, 84, 1, 0, 0, 0, 47, 0, 0, 0, 0, 1, 0, 97, 80, 0, 0, 1, 0, 98, 0, 0, 0, 0, 0, 0, 0]

/-- What the Ruby decoder makes of it. -/
def trailingByteHash : RequestHash :=
  ⟨[71, 69, 84], [47], [], [97], 80, "http", [98], [], []⟩

/-- The Ruby decoder ignores the trailing byte, the native decoder refuses it. -/
theorem decoders_disagree_on_trailing_byte :
    ¬ DecodersAgree 1048576 1048576 trailingByteEnvelope := by
  intro agree
  have rubyOk : decodeRequestEnvelope 1048576 trailingByteEnvelope = .ok trailingByteHash := by
    decide +kernel
  obtain ⟨req, nativeOk⟩ := agree.1.mp ⟨_, rubyOk⟩
  have view := agree.2 _ _ rubyOk nativeOk
  have tiled := ((decodeRequest_accepts_iff _ _ req).mp nativeOk).2
  rw [← view] at tiled
  exact absurd tiled (by decide)

end Oxo.Worker
