import Oxo.Core.HopFrame.Request
import Oxo.Worker.Frame

/-!
Contract: the length check on a frame prefix against what the decoder accepts
(`FRAME_FIXED_SLACK` in `oxo-core/src/hop_frame.rs`).

Owns: the bytes of an envelope that neither the header budget nor the body budget pays for,
and the equivalence between the prefix check and a bound on them.

Does not own: which requests the edge builds.
-/

namespace Oxo.Worker

open Oxo.Foundation Oxo.Core.HopFrame

/-- The prefix check admits an envelope, and parses its prefix where it has one. -/
def PrefixAdmits (maxBody : Nat) (envelope : List UInt8) : Prop :=
  envelope.length ≤ (frameCaps maxBody).maxRemainingLength ∧
    (envelope.length < 2 ^ 32 →
      ∃ parsed, FramePrefix.parse (prefixBytes (prefixImage envelope.length ++ envelope))
        (frameCaps maxBody) = .ok parsed ∧ parsed.remainingLength.toNat = envelope.length)

/-- The request line, the addresses and the lengths: what is neither a header byte nor a body
byte. -/
def lineBytes (req : RequestFrame) : Nat :=
  23 + req.method.utf8ByteSize + req.path.utf8ByteSize + req.query.utf8ByteSize +
    req.serverName.utf8ByteSize + req.remoteAddr.utf8ByteSize + 6 * req.headers.length

/-- The slack pays for these bytes, with what headers and body leave of their budgets. -/
def SlackCovers (maxBody : Nat) (req : RequestFrame) : Prop :=
  lineBytes req ≤ frameFixedSlack + (maxHeaderBytes - headerBytes req.headers) +
    (min maxBody (2 ^ 32 - 1) - req.body.length)

theorem envelopeLength_eq (req : RequestFrame) :
    req.envelopeLength = lineBytes req + headerBytes req.headers + req.body.length := by
  unfold RequestFrame.envelopeLength lineBytes
  omega

theorem maxRemainingLength_eq (maxBody : Nat) :
    (frameCaps maxBody).maxRemainingLength =
      frameFixedSlack + maxHeaderBytes + min maxBody (2 ^ 32 - 1) := by
  rw [FrameCaps.maxRemainingLength, frameCaps_maxBodyBytes]
  rfl

/-- The prefix of a short envelope parses exactly when the length is within the caps. -/
theorem prefixAdmits_iff_le {maxBody : Nat} {envelope : List UInt8} :
    PrefixAdmits maxBody envelope ↔
      envelope.length ≤ (frameCaps maxBody).maxRemainingLength := by
  refine ⟨fun admits => admits.1, fun within => ⟨within, fun small => ?_⟩⟩
  refine ⟨⟨UInt32.ofNat envelope.length⟩, ?_, u32_toNat_ofNat small⟩
  rw [parse_prefixImage _ small, if_neg (Nat.not_lt.mpr within)]

/-- The prefix check admits an envelope that decodes exactly when the slack covers its request
line. -/
theorem prefix_admits_iff {maxBody : Nat} {envelope : List UInt8} {req : RequestFrame}
    (decoded : decodeRequest envelope (frameCaps maxBody) = .ok req) :
    PrefixAdmits maxBody envelope ↔ SlackCovers maxBody req := by
  obtain ⟨accepted, rfl⟩ := (decodeRequest_eq_ok envelope _ req).mp decoded
  have headers : headerBytes req.headers ≤ maxHeaderBytes := accepted.headers.bytes
  have body : req.body.length ≤ min maxBody (2 ^ 32 - 1) := by
    rw [← frameCaps_maxBodyBytes]
    exact accepted.body
  rw [prefixAdmits_iff_le, req.envelope_length, envelopeLength_eq, maxRemainingLength_eq]
  unfold SlackCovers
  omega

/-- A request with a path, a header value and a body of some lengths. -/
def paddedRequest (path value body : Nat) : RequestFrame where
  method := "GET"
  path := String.ofList (List.replicate path 'a')
  query := ""
  serverName := "a.io"
  serverPort := 443
  scheme := .https
  remoteAddr := "192.0.2.1"
  headers := [("x", String.ofList (List.replicate value 'a'))]
  body := List.replicate body 0

section

variable {path value body maxBody : Nat}

private theorem letters_size (count : Nat) :
    (String.ofList (List.replicate count 'a')).utf8ByteSize = count := by
  rw [← utf8_length, utf8_letters, List.length_replicate]

private theorem paddedRequest_headerBytes :
    headerBytes (paddedRequest path value body).headers = value + 1 := by
  have name : "x".utf8ByteSize = 1 := by decide
  simp only [paddedRequest, headerBytes_cons, headerBytes_nil, letters_size, name]
  omega

/-- Its request line is 45 bytes longer than the path. -/
private theorem paddedRequest_lineBytes :
    lineBytes (paddedRequest path value body) = path + 45 := by
  have method : "GET".utf8ByteSize = 3 := by decide
  have query : "".utf8ByteSize = 0 := by decide
  have serverName : "a.io".utf8ByteSize = 4 := by decide
  have remoteAddr : "192.0.2.1".utf8ByteSize = 9 := by decide
  simp only [lineBytes, paddedRequest, letters_size, method, query, serverName, remoteAddr,
    List.length_cons, List.length_nil]
  omega

private theorem paddedRequest_envelopeLength :
    (paddedRequest path value body).envelopeLength = path + 45 + (value + 1) + body := by
  rw [envelopeLength_eq, paddedRequest_lineBytes, paddedRequest_headerBytes]
  simp only [paddedRequest, List.length_replicate]

private theorem paddedRequest_decoded (pathFits : path < 2 ^ 32) (valueFits : value < maxHeaderBytes)
    (bodyFits : body ≤ min maxBody (2 ^ 32 - 1)) :
    decodeRequest (paddedRequest path value body).envelope (frameCaps maxBody) =
      .ok (paddedRequest path value body) := by
  have letterByte : isControlByte 97 = false := by decide
  have controlFree : ControlFree (String.ofList (List.replicate value 'a')) := by
    rw [ControlFree, utf8_letters, List.any_replicate, letterByte, ite_self]
  have fit : value < 2 ^ 32 := lt_trans valueFits (by decide)
  refine (decodeRequest_eq_ok _ _ _).mpr ⟨⟨?_, ?_, ?_, ?_, ?_, ⟨?_, ?_, ?_, ?_⟩, ?_⟩, rfl⟩
  · exact (by decide : "GET".utf8ByteSize < 2 ^ 16)
  · rw [paddedRequest, letters_size]
    exact pathFits
  · exact (by decide : "".utf8ByteSize < 2 ^ 32)
  · exact (by decide : "a.io".utf8ByteSize < 2 ^ 16)
  · exact (by decide : "192.0.2.1".utf8ByteSize < 2 ^ 16)
  · rw [paddedRequest, List.forall_mem_singleton]
    refine ⟨(by decide : "x".utf8ByteSize < 2 ^ 16), ?_⟩
    rw [letters_size]
    exact fit
  · rw [paddedRequest, List.forall_mem_singleton]
    exact ⟨(by decide : ControlFree "x"), controlFree⟩
  · exact (by decide : 1 ≤ (frameCaps 0).maxHeaders.toNat)
  · rw [paddedRequest_headerBytes]
    exact valueFits
  · rw [paddedRequest, List.length_replicate, frameCaps_maxBodyBytes]
    exact bodyFits

private theorem paddedRequest_covered_iff :
    SlackCovers maxBody (paddedRequest path value body) ↔
      path + 45 ≤ frameFixedSlack + (maxHeaderBytes - (value + 1)) +
        (min maxBody (2 ^ 32 - 1) - body) := by
  rw [SlackCovers, paddedRequest_lineBytes, paddedRequest_headerBytes]
  simp only [paddedRequest, List.length_replicate]

end

/-- With header bytes and body at their caps, a path of 4051 bytes is just covered. -/
theorem prefix_admits_iff_covered :
    PrefixAdmits 1048576 (paddedRequest 4051 65535 1048576).envelope := by
  have covered : SlackCovers 1048576 (paddedRequest 4051 65535 1048576) :=
    paddedRequest_covered_iff.mpr (by decide)
  exact (prefix_admits_iff (paddedRequest_decoded (by norm_num) (by decide) (by norm_num))).mpr covered

/-- One more byte is not: the decoder accepts the envelope, the check refuses its prefix. -/
theorem long_path_prefix_refused :
    decodeRequest (paddedRequest 4052 65535 1048576).envelope (frameCaps 1048576) =
        .ok (paddedRequest 4052 65535 1048576) ∧
      ¬ PrefixAdmits 1048576 (paddedRequest 4052 65535 1048576).envelope := by
  refine ⟨paddedRequest_decoded (by norm_num) (by decide) (by norm_num), fun admits => ?_⟩
  have within := prefixAdmits_iff_le.mp admits
  rw [RequestFrame.envelope_length, paddedRequest_envelopeLength, maxRemainingLength_eq] at within
  exact absurd within (by decide)

end Oxo.Worker
