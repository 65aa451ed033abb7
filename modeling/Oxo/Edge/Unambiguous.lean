import Oxo.Edge.ClientRequest
import Oxo.Worker.Parser

/-!
Contract: what an admitted client request can still mean (`validate_client_request` in
`oxo-pingora-edge/src/platform/worker_wire.rs`).

Owns: the shapes that no two readers of a header list take differently, and the equivalence
between them and plain content lengths for every request the validator accepts.

Does not own: the validator. The worker's parser is the second reader of a length.
-/

namespace Oxo.Edge

open Oxo.Foundation Oxo.Core Oxo.Worker

variable {session : Session} {headers : List LoweredHeader} {maxBodyBytes : Nat}
  {publicServerName : Option String} {length : Option Nat}

/-- Digits only, at most the cap, and the same number to the worker. -/
structure PlainLength (maxBodyBytes : Nat) (length : Option Nat) (value : String) : Prop where
  nonempty : value ≠ ""
  digits : ∀ char ∈ value.toList, char.isDigit = true
  capped : ∃ number, length = some number ∧ number ≤ maxBodyBytes ∧
    parseContentLength value = .ok number

/-- A request that leaves nothing to smuggle. -/
structure Unambiguous (session : Session) (headers : List LoweredHeader) (maxBodyBytes : Nat)
    (length : Option Nat) : Prop where
  few : headers.length ≤ maxRequestHeaders
  names : ∀ header ∈ headers, isValidHeaderName (utf8 header.name) = true
  bytes : (headers.map headerCost).sum ≤ maxRequestHeaderBytes
  notRefused : ∀ header ∈ headers, header.lower ∉ refusedNames
  connection : ∀ header ∈ headers, header.lower = "connection" →
    ∀ token ∈ split header.value ',', isForeignConnectionToken token = false
  oneHost : session.isHttp2 = false →
    (headers.filter fun header => header.lower == "host").length = 1
  hostIsAuthority : session.isHttp2 = true →
    (headers.filter fun header => header.lower == "host").length ≤ 1 ∧
      ∀ header ∈ headers, header.lower = "host" →
        ∃ authority, session.uriAuthority = some authority ∧
          eqIgnoreAsciiCase header.value authority = true
  oneLength : (headers.filter fun header => header.lower == "content-length").length ≤ 1
  plainLength : ∀ header ∈ headers, header.lower = "content-length" →
    PlainLength maxBodyBytes length header.value

/-! ## Lengths -/

/-- Every content length that is read is the result. -/
private theorem contentLength_values {seen : Option Nat}
    (counted : contentLength headers seen = .ok length) :
    (∀ number, seen = some number → length = some number) ∧
      ∀ header ∈ headers, header.lower = "content-length" → ∃ number, length = some number ∧
        parseUnsigned (2 ^ 64) (trim header.value) = some number := by
  induction headers generalizing seen with
  | nil =>
      cases counted
      exact ⟨fun _ same => same, fun _ absent => nomatch absent⟩
  | cons header rest inductionHypothesis =>
      unfold contentLength at counted
      by_cases isLength : (header.lower == "content-length") = true
      · rw [if_pos isLength] at counted
        by_cases before : seen.isSome = true
        · rw [if_pos before] at counted
          cases counted
        · rw [if_neg before] at counted
          rw [Bool.not_eq_true, Option.isSome_eq_false_iff, Option.isNone_iff_eq_none] at before
          split at counted
          · rename_i parsed parses
            obtain ⟨same, later⟩ := inductionHypothesis counted
            refine ⟨fun number found => (by rw [before] at found; cases found), ?_⟩
            intro other member isOther
            obtain here | there := List.mem_cons.mp member
            · rw [here]
              exact ⟨parsed, same parsed rfl, parses⟩
            · exact later other there isOther
          · cases counted
      · rw [if_neg isLength] at counted
        obtain ⟨same, later⟩ := inductionHypothesis counted
        refine ⟨same, fun other member isOther => ?_⟩
        obtain here | there := List.mem_cons.mp member
        · rw [here] at isOther
          exact absurd (beq_iff_eq.mpr isOther) isLength
        · exact later other there isOther

/-- Neither a sign nor white space around the number. -/
def BareNumber (value : String) : Prop :=
  value.toList.head? ≠ some '+' ∧ trim value = value

/-- A bare number that is read is a plain length, and every plain length is bare. -/
private theorem plainLength_iff {value : String} {number : Nat} (counted : length = some number)
    (parsed : parseUnsigned (2 ^ 64) (trim value) = some number) (capped : number ≤ maxBodyBytes) :
    PlainLength maxBodyBytes length value ↔ BareNumber value := by
  constructor
  · intro plain
    refine ⟨fun signed => ?_, trimMatches_eq_self fun char member =>
      isWhitespace_of_isDigit (plain.digits char member)⟩
    have plus := plain.digits '+' (List.mem_of_mem_head? signed)
    exact absurd plus (by decide)
  · intro bare
    rw [bare.2] at parsed
    obtain ⟨nonempty, digits⟩ := digits_of_parseUnsigned parsed bare.1
    refine ⟨nonempty, digits, number, counted, capped, ?_⟩
    have digitsAll : value.toList.all Char.isDigit = true := List.all_eq_true.mpr digits
    unfold parseContentLength
    rw [beq_eq_false_iff_ne.mpr nonempty, digitsAll, parsed]
    rfl

/-! ## Hosts -/

/-- The last host of a scan with one host is that host. -/
private theorem hostValue_of_mem {scan : HostScan} (facts : ScanFacts headers ⟨0, none, 0⟩ scan)
    (one : scan.hostCount ≤ 1) {header : LoweredHeader} (member : header ∈ headers)
    (isHost : header.lower = "host") : scan.hostValue = some header.value := by
  have inHosts : header ∈ headers.filter fun header => header.lower == "host" :=
    List.mem_filter.mpr ⟨member, beq_iff_eq.mpr isHost⟩
  have count := facts.hostCount
  rw [facts.hostValue]
  cases hosts : headers.filter fun header => header.lower == "host" with
  | nil =>
      rw [hosts] at inHosts
      cases inHosts
  | cons first rest =>
      rw [hosts] at inHosts count
      simp only [List.length_cons] at count
      have alone : rest = [] := List.eq_nil_of_length_eq_zero (by omega)
      rw [alone, List.mem_singleton] at inHosts
      rw [alone, inHosts]
      rfl

private theorem host_is_authority {scan : HostScan} (facts : ScanFacts headers ⟨0, none, 0⟩ scan)
    (uriForm : checkUriForm session = .ok ()) (checked : checkHost session scan = .ok ())
    (isHttp2 : session.isHttp2 = true) :
    (headers.filter fun header => header.lower == "host").length ≤ 1 ∧
      ∀ header ∈ headers, header.lower = "host" →
        ∃ authority, session.uriAuthority = some authority ∧
          eqIgnoreAsciiCase header.value authority = true := by
  have count := facts.hostCount
  rw [checkHost, refuseIf_bind_eq_ok, if_pos isHttp2, decide_eq_false_iff_not] at checked
  obtain ⟨one, same⟩ := checked
  refine ⟨by omega, fun header member isHost => ?_⟩
  rw [checkUriForm, if_pos isHttp2, refuseIf_bind_eq_ok, refuseIf_eq_ok,
    Option.isNone_eq_false_iff] at uriForm
  obtain ⟨authority, named⟩ := Option.isSome_iff_exists.mp uriForm.2
  rw [hostValue_of_mem facts (by omega) member isHost, named, refuseIf_eq_ok] at same
  exact ⟨authority, named, by simpa using same⟩

/-! ## Admitted requests -/

/-- An accepted request is unambiguous exactly when its content lengths are bare numbers. -/
theorem unambiguous_iff_bare_lengths
    (accepted : validateClientRequest session headers maxBodyBytes publicServerName =
      .ok length) :
    Unambiguous session headers maxBodyBytes length ↔
      ∀ header ∈ headers, header.lower = "content-length" → BareNumber header.value := by
  have validated := validateClientRequest_eq_ok accepted
  unfold validateClientRequest at accepted
  cases found : session.pathAndQuery with
  | none =>
      rw [found] at accepted
      cases accepted
  | some pathAndQuery =>
      rw [found] at accepted
      simp only [bind_eq_ok, refuseIf_eq_ok] at accepted
      obtain ⟨_, _, _, _, _, _, _, _, scan, scanned, _, hostOk, _, _, counted, isLength, _, capped,
        same⟩ := accepted
      cases same
      have facts := (scanClientHeaders_eq_ok scanned).1
      have lengths := (contentLength_values isLength).2
      -- every content length is the result, so the cap holds for each
      have plain : ∀ header ∈ headers, header.lower = "content-length" →
          (PlainLength maxBodyBytes length header.value ↔ BareNumber header.value) := by
        intro header member isContentLength
        obtain ⟨number, isNumber, parsed⟩ := lengths header member isContentLength
        refine plainLength_iff isNumber parsed ?_
        rw [isNumber, Option.any_some, decide_eq_false_iff_not] at capped
        omega
      constructor
      · intro unambiguous header member isContentLength
        exact (plain header member isContentLength).mp
          (unambiguous.plainLength header member isContentLength)
      · intro bare
        refine ⟨validated.few, fun header member => (validated.admitted header member).name,
          validated.headerBytes, fun header member => (validated.admitted header member).notRefused,
          fun header member => (validated.admitted header member).connection,
          validated.hostOrAuthority, host_is_authority facts validated.uriForm hostOk,
          validated.oneLength, fun header member isContentLength =>
            (plain header member isContentLength).mpr (bare header member isContentLength)⟩

/-- A `POST` over HTTP/1 with a content length. -/
def postSession (value : String) : Session where
  method := "POST"
  methodToken := by decide
  isHttp2 := false
  uriScheme := none
  uriAuthority := none
  pathAndQuery := some
    { asStr := "/"
      path := "/"
      query := none
      joined := fun _ => rfl
      plainPath := root_plain
      visible := root_visible }
  headers := [("host", utf8 "app.example"), ("content-length", utf8 value)]

def postHeaders (value : String) : List LoweredHeader :=
  [.new "host" "app.example", .new "content-length" value]

/-- A bare number is admitted and plain. -/
theorem unambiguous_iff_bare_lengths_five :
    Unambiguous (postSession "5") (postHeaders "5") 1048576 (some 5) := by
  have accepted : validateClientRequest (postSession "5") (postHeaders "5") 1048576
      (some "app.example") = .ok (some 5) := by decide +kernel
  refine (unambiguous_iff_bare_lengths accepted).mpr ?_
  unfold BareNumber
  decide +kernel

/-- A signed number is admitted, and the worker's parser refuses it. -/
theorem signed_length_admitted :
    validateClientRequest (postSession "+5") (postHeaders "+5") 1048576 (some "app.example") =
        .ok (some 5) ∧
      ¬ Unambiguous (postSession "+5") (postHeaders "+5") 1048576 (some 5) ∧
      parseContentLength "+5" = .error (.bad "bad content-length") := by
  have accepted : validateClientRequest (postSession "+5") (postHeaders "+5") 1048576
      (some "app.example") = .ok (some 5) := by decide +kernel
  refine ⟨accepted, fun unambiguous => ?_, by decide +kernel⟩
  have plain := unambiguous.plainLength (.new "content-length" "+5") (by decide +kernel)
    (by decide +kernel)
  exact absurd (plain.digits '+' (by decide)) (by decide)

end Oxo.Edge
