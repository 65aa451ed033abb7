import Oxo.Edge.Headers
import Oxo.Foundation.IpAddr

/-!
Contract: client identity behind trusted proxies (`oxo-pingora-edge/src/lib.rs`).

Owns: CIDR parsing and membership, the trusted-proxy policy, the walk over
`X-Forwarded-For`, and the statement that the resolved address cannot be chosen
by what a client writes to the left of it.

Does not own: where the peer address comes from. The texts of the CIDR parse
errors are not modelled, only which error is raised for which input.
-/

namespace Oxo.Edge

open Oxo.Foundation Oxo.Core

/-! ## Trusted CIDRs -/

/-- The address width of a family. -/
def addressWidth : IpAddr → Nat
  | .v4 _ => 32
  | .v6 _ => 128

/-- A network whose prefix length fits its family. -/
structure IpCidr where
  network : IpAddr
  prefixLen : Nat
  bounded : prefixLen ≤ addressWidth network

inductive CidrError where
  | noTrustedCidr
  | noPrefixLength (raw : String)
  | invalidAddress (raw : String)
  | invalidPrefixLength (raw : String)
  | prefixTooLong (raw : String) (max : Nat)
deriving DecidableEq, Repr

def IpCidr.parse (raw : String) : Except CidrError IpCidr :=
  match splitOnce raw '/' with
  | none => .error (.noPrefixLength raw)
  | some (network, prefixLen) =>
      match IpAddr.parse network with
      | none => .error (.invalidAddress raw)
      | some network =>
          match parseUnsigned (2 ^ 8) prefixLen with
          | none => .error (.invalidPrefixLength raw)
          | some prefixLen =>
              if bounded : prefixLen ≤ addressWidth network then
                .ok ⟨network, prefixLen, bounded⟩
              else
                .error (.prefixTooLong raw (addressWidth network))

def IpCidr.contains (cidr : IpCidr) (ip : IpAddr) : Bool :=
  match cidr.network, ip with
  | .v4 network, .v4 ip => prefixMatch network ip cidr.prefixLen
  | .v6 network, .v6 ip => prefixMatch network ip cidr.prefixLen
  | _, _ => false

structure TrustedProxyPolicy where
  cidrs : List IpCidr

def TrustedProxyPolicy.contains (policy : TrustedProxyPolicy) (ip : IpAddr) : Bool :=
  policy.cidrs.any fun cidr => cidr.contains ip

def TrustedProxyPolicy.parseAll (rawCidrs : List String) :
    Except CidrError TrustedProxyPolicy :=
  if rawCidrs = [] then .error .noTrustedCidr
  else do
    let cidrs ← rawCidrs.mapM IpCidr.parse
    return ⟨cidrs⟩

/-! ## Resolution -/

inductive IdentityRejection where
  | malformedImmediatePeer
  | untrustedImmediatePeer
  | missingForwardedFor
  | duplicateForwardedFor
  | ambiguousForwardingHeader
  | malformedForwardedFor
  | noUntrustedClientIp
deriving DecidableEq, Repr

/-- The header scan. `x-forwarded-for` is tested before the forwarding class,
which also holds it. -/
def scanForwarding : List (String × String) → Option String →
    Except IdentityRejection (Option String)
  | [], xForwardedFor => .ok xForwardedFor
  | (lower, value) :: rest, xForwardedFor =>
      if lower = "x-forwarded-for" then
        if xForwardedFor.isSome then .error .duplicateForwardedFor
        else scanForwarding rest (some value)
      else if isClientForwardingHeader lower then .error .ambiguousForwardingHeader
      else scanForwarding rest xForwardedFor

/-- Parse every entry of the chain. -/
def parseChain : List String → Except IdentityRejection (List IpAddr)
  | [] => .ok []
  | token :: rest =>
      let token := trim token
      if token = "" then .error .malformedForwardedFor
      else match IpAddr.parse token with
        | none => .error .malformedForwardedFor
        | some ip => do
            let parsed ← parseChain rest
            return ip :: parsed

namespace TrustedProxyPolicy

/-- The shared core over lowercased names. -/
def resolveRemoteAddrCore (policy : TrustedProxyPolicy) (peerIp : IpAddr)
    (loweredHeaders : List (String × String)) : Except IdentityRejection String :=
  if !policy.contains peerIp then .error .untrustedImmediatePeer
  else do
    match ← scanForwarding loweredHeaders none with
    | none => .error .missingForwardedFor
    | some chain => do
        let parsed ← parseChain (split chain ',')
        match parsed.reverse.find? fun ip => !policy.contains ip with
        | some ip => .ok ip.toString
        | none => .error .noUntrustedClientIp

def resolveRemoteAddrLowered (policy : TrustedProxyPolicy) (peerIp : IpAddr)
    (headers : List LoweredHeader) : Except IdentityRejection String :=
  policy.resolveRemoteAddrCore peerIp (headers.map fun header => (header.lower, header.value))

end TrustedProxyPolicy

def parsePeerIp (peerAddr : String) : Option IpAddr :=
  (IpAddr.parse peerAddr).or (IpAddr.parseSocketAddrIp peerAddr)

def TrustedProxyPolicy.resolveRemoteAddr (policy : TrustedProxyPolicy) (peerAddr : String)
    (headers : List (String × String)) : Except IdentityRejection String :=
  match parsePeerIp peerAddr with
  | none => .error .malformedImmediatePeer
  | some peerIp =>
      policy.resolveRemoteAddrCore peerIp
        (headers.map fun header => (toAsciiLowercase header.1, header.2))

/-! ## Meaning of membership -/

/-- Same family, and the first bits of network and address are equal. -/
def IpCidr.Covers (cidr : IpCidr) : IpAddr → Prop
  | .v4 ip => ∃ network, cidr.network = .v4 network ∧
      ∀ index < cidr.prefixLen, network.getMsbD index = ip.getMsbD index
  | .v6 ip => ∃ network, cidr.network = .v6 network ∧
      ∀ index < cidr.prefixLen, network.getMsbD index = ip.getMsbD index

theorem IpCidr.contains_iff (cidr : IpCidr) (ip : IpAddr) :
    cidr.contains ip = true ↔ cidr.Covers ip := by
  obtain ⟨network, prefixLen, bounded⟩ := cidr
  cases network with
  | v4 network =>
      cases ip with
      | v4 ip => simpa [IpCidr.contains, IpCidr.Covers] using prefixMatch_iff network ip bounded
      | v6 ip => simp [IpCidr.contains, IpCidr.Covers]
  | v6 network =>
      cases ip with
      | v4 ip => simp [IpCidr.contains, IpCidr.Covers]
      | v6 ip => simpa [IpCidr.contains, IpCidr.Covers] using prefixMatch_iff network ip bounded

namespace TrustedProxyPolicy

variable (policy : TrustedProxyPolicy)

/-- Some trusted CIDR covers the address. -/
def Trusts (ip : IpAddr) : Prop :=
  ∃ cidr ∈ policy.cidrs, cidr.Covers ip

theorem contains_iff (ip : IpAddr) : policy.contains ip = true ↔ policy.Trusts ip := by
  simp only [contains, List.any_eq_true, IpCidr.contains_iff, Trusts]

end TrustedProxyPolicy

/-! ## The header scan -/

/-- The list has one `X-Forwarded-For`, with this value, and no other header of
the forwarding class. -/
def SoleForwardedFor (headers : List LoweredHeader) (value : String) : Prop :=
  ∃ before header after, headers = before ++ header :: after ∧
    header.lower = "x-forwarded-for" ∧ header.value = value ∧
    ∀ other ∈ before ++ after, isClientForwardingHeader other.lower = false

private def lowered (headers : List LoweredHeader) : List (String × String) :=
  headers.map fun header => (header.lower, header.value)

/-- Once a value is found, the scan succeeds only over headers outside the class. -/
private theorem scanForwarding_some {headers : List LoweredHeader} {value : String}
    {result : Option String} (scanned : scanForwarding (lowered headers) (some value) = .ok result) :
    result = some value ∧ ∀ header ∈ headers, isClientForwardingHeader header.lower = false := by
  induction headers with
  | nil =>
      cases scanned
      exact ⟨rfl, by simp⟩
  | cons header rest inductionHypothesis =>
      simp only [lowered, List.map_cons, scanForwarding] at scanned
      split at scanned
      · simp at scanned
      · split at scanned
        · cases scanned
        · rename_i notClass
          obtain ⟨resultEq, others⟩ := inductionHypothesis scanned
          refine ⟨resultEq, ?_⟩
          intro other member
          rcases List.mem_cons.mp member with same | later
          · rw [same]
            exact Bool.eq_false_iff.mpr notClass
          · exact others other later

/-- A scan that finds a value finds the only one, and no rival header. -/
private theorem scanForwarding_none {headers : List LoweredHeader} {value : String}
    (scanned : scanForwarding (lowered headers) none = .ok (some value)) :
    SoleForwardedFor headers value := by
  induction headers with
  | nil => cases scanned
  | cons header rest inductionHypothesis =>
      simp only [lowered, List.map_cons, scanForwarding] at scanned
      split at scanned
      · rename_i isForwardedFor
        obtain ⟨valueEq, others⟩ := scanForwarding_some scanned
        exact ⟨[], header, rest, rfl, isForwardedFor, (Option.some_inj.mp valueEq).symm, others⟩
      · split at scanned
        · cases scanned
        · rename_i notClass
          obtain ⟨before, found, after, restEq, isForwardedFor, valueEq, others⟩ :=
            inductionHypothesis scanned
          refine ⟨header :: before, found, after, by rw [restEq]; rfl, isForwardedFor, valueEq, ?_⟩
          intro other member
          rcases List.mem_cons.mp member with same | later
          · rw [same]
            exact Bool.eq_false_iff.mpr notClass
          · exact others other later

private theorem SoleForwardedFor.unique {headers : List LoweredHeader} {left right : String}
    (leftSole : SoleForwardedFor headers left) (rightSole : SoleForwardedFor headers right) :
    left = right := by
  obtain ⟨before, header, after, headersEq, _, leftEq, others⟩ := leftSole
  obtain ⟨before', header', after', headersEq', isForwardedFor, rightEq, _⟩ := rightSole
  have member : header' ∈ before ++ header :: after := by
    rw [← headersEq, headersEq']
    simp
  have same : header' = header := by
    by_contra different
    have other : header' ∈ before ++ after := by
      simp only [List.mem_append, List.mem_cons, different, false_or] at member
      exact List.mem_append.mpr member
    have outside := others header' other
    rw [isForwardedFor] at outside
    exact absurd outside (by decide)
  rw [← leftEq, ← rightEq, same]

/-! ## The walk over the chain -/

private theorem parseChain_ok {tokens : List String} {parsed : List IpAddr}
    (accepted : parseChain tokens = .ok parsed) :
    tokens.map (fun token => IpAddr.parse (trim token)) = parsed.map some := by
  induction tokens generalizing parsed with
  | nil =>
      cases accepted
      rfl
  | cons token rest inductionHypothesis =>
      unfold parseChain at accepted
      simp only at accepted
      split at accepted
      · cases accepted
      · split at accepted
        · cases accepted
        · rename_i ip parses
          cases restParsed : parseChain rest with
          | error rejection =>
              rw [restParsed] at accepted
              cases accepted
          | ok later =>
              rw [restParsed] at accepted
              cases accepted
              rw [List.map_cons, List.map_cons, parses, inductionHypothesis restParsed]

/-- The entry at `client` is the rightmost one outside every trusted CIDR. -/
structure ResolvesAt (policy : TrustedProxyPolicy) (value : String)
    (left : List String) (client : String) (ip : IpAddr) (right : List String) : Prop where
  entries : split value ',' = left ++ client :: right
  parses : IpAddr.parse (trim client) = some ip
  untrusted : ¬ policy.Trusts ip
  trustedRight : ∀ entry ∈ right, ∃ hop, IpAddr.parse (trim entry) = some hop ∧ policy.Trusts hop

/-- Two walks that end with the same entries stop at the same address. -/
private theorem ResolvesAt.ip_eq {policy : TrustedProxyPolicy} {first second client : String}
    {leftFirst leftSecond leftFound rightFound right : List String} {clientFound : String}
    {ip found : IpAddr}
    (firstAt : ResolvesAt policy first leftFirst client ip right)
    (secondAt : ResolvesAt policy second leftFound clientFound found rightFound)
    (agrees : split second ',' = leftSecond ++ client :: right) : found = ip := by
  have sameEntries : leftSecond ++ client :: right = leftFound ++ clientFound :: rightFound := by
    rw [← agrees, secondAt.entries]
  -- Whichever of the two ends further left would leave an untrusted entry to its right.
  rcases List.append_eq_append_iff.mp sameEntries with
    ⟨gap, leftEq, rightEq⟩ | ⟨gap, leftEq, rightEq⟩
  · cases gap with
    | nil =>
        simp only [List.nil_append, List.cons.injEq] at rightEq
        have parses := firstAt.parses
        rw [rightEq.1, secondAt.parses] at parses
        exact Option.some_inj.mp parses
    | cons entry gap =>
        simp only [List.cons_append, List.cons.injEq] at rightEq
        have member : clientFound ∈ right := by
          rw [rightEq.2]
          simp
        obtain ⟨hop, parses, trusted⟩ := firstAt.trustedRight clientFound member
        rw [secondAt.parses, Option.some_inj] at parses
        rw [← parses] at trusted
        exact absurd trusted secondAt.untrusted
  · cases gap with
    | nil =>
        simp only [List.nil_append, List.cons.injEq] at rightEq
        have parses := firstAt.parses
        rw [← rightEq.1, secondAt.parses] at parses
        exact Option.some_inj.mp parses
    | cons entry gap =>
        simp only [List.cons_append, List.cons.injEq] at rightEq
        have member : client ∈ rightFound := by
          rw [rightEq.2]
          simp
        obtain ⟨hop, parses, trusted⟩ := secondAt.trustedRight client member
        rw [firstAt.parses, Option.some_inj] at parses
        rw [← parses] at trusted
        exact absurd trusted firstAt.untrusted

private theorem resolvesAt_of_find {policy : TrustedProxyPolicy} {value : String}
    {parsed : List IpAddr} {ip : IpAddr} (accepted : parseChain (split value ',') = .ok parsed)
    (found : (parsed.reverse.find? fun ip => !policy.contains ip) = some ip) :
    ∃ left client right, ResolvesAt policy value left client ip right := by
  obtain ⟨outside, after, before, reverseEq, inside⟩ := List.find?_eq_some_iff_append.mp found
  have parsedEq : parsed = before.reverse ++ ip :: after.reverse := by
    rw [← List.reverse_reverse parsed, reverseEq]
    simp
  have entries := parseChain_ok accepted
  rw [parsedEq, List.map_append, List.map_eq_append_iff] at entries
  obtain ⟨left, rest, entriesEq, _, restEq⟩ := entries
  rw [List.map_cons, List.map_eq_cons_iff] at restEq
  obtain ⟨client, right, restSplit, parses, rightEq⟩ := restEq
  refine ⟨left, client, right, ?_, parses, ?_, ?_⟩
  · rw [entriesEq, restSplit]
  · rw [← policy.contains_iff]
    simpa using outside
  · intro entry member
    have parsedEntry : IpAddr.parse (trim entry) ∈
        right.map (fun token => IpAddr.parse (trim token)) :=
      List.mem_map_of_mem member
    rw [rightEq] at parsedEntry
    obtain ⟨hop, hopMember, hopEq⟩ := List.mem_map.mp parsedEntry
    refine ⟨hop, hopEq.symm, ?_⟩
    rw [← policy.contains_iff]
    simpa using inside hop (List.mem_reverse.mp hopMember)

namespace TrustedProxyPolicy

variable (policy : TrustedProxyPolicy)

theorem resolveRemoteAddrLowered_untrusted {peerIp : IpAddr} (untrusted : ¬ policy.Trusts peerIp)
    (headers : List LoweredHeader) :
    policy.resolveRemoteAddrLowered peerIp headers = .error .untrustedImmediatePeer := by
  rw [← policy.contains_iff, Bool.not_eq_true] at untrusted
  unfold resolveRemoteAddrLowered resolveRemoteAddrCore
  rw [untrusted]
  rfl

/-- What a successful resolution rests on. -/
theorem resolveRemoteAddrLowered_ok {peerIp : IpAddr} {headers : List LoweredHeader}
    {address : String} (resolved : policy.resolveRemoteAddrLowered peerIp headers = .ok address) :
    policy.Trusts peerIp ∧ ∃ value left client ip right, SoleForwardedFor headers value ∧
      ResolvesAt policy value left client ip right ∧ address = ip.toString := by
  by_cases trusted : policy.Trusts peerIp
  · refine ⟨trusted, ?_⟩
    have contained := (policy.contains_iff peerIp).mpr trusted
    simp only [resolveRemoteAddrLowered, resolveRemoteAddrCore, contained] at resolved
    change (scanForwarding (lowered headers) none >>= _) = _ at resolved
    cases scanned : scanForwarding (lowered headers) none with
    | error rejection =>
        rw [scanned] at resolved
        cases resolved
    | ok found =>
        rw [scanned] at resolved
        cases found with
        | none => cases resolved
        | some value =>
            change (parseChain (split value ',') >>= _) = _ at resolved
            cases accepted : parseChain (split value ',') with
            | error rejection =>
                rw [accepted] at resolved
                cases resolved
            | ok parsed =>
                rw [accepted] at resolved
                change (match parsed.reverse.find? fun ip => !policy.contains ip with
                  | some ip => Except.ok ip.toString
                  | none => Except.error IdentityRejection.noUntrustedClientIp) = _ at resolved
                split at resolved
                · rename_i ip found
                  cases resolved
                  obtain ⟨left, client, right, at'⟩ := resolvesAt_of_find accepted found
                  exact ⟨value, left, client, ip, right, scanForwarding_none scanned, at', rfl⟩
                · cases resolved
  · rw [policy.resolveRemoteAddrLowered_untrusted trusted] at resolved
    cases resolved

theorem resolveRemoteAddr_eq_lowered (peerAddr : String) (headers : List (String × String)) :
    policy.resolveRemoteAddr peerAddr headers =
      match parsePeerIp peerAddr with
      | none => .error .malformedImmediatePeer
      | some peerIp => policy.resolveRemoteAddrLowered peerIp
          (headers.map fun header => LoweredHeader.new header.1 header.2) := by
  unfold resolveRemoteAddr
  cases parsePeerIp peerAddr with
  | none => rfl
  | some peerIp =>
      simp only [resolveRemoteAddrLowered, List.map_map]
      congr 2
      funext header
      simp [LoweredHeader.lower_eq]

end TrustedProxyPolicy

/-! ## No spoofing -/

/-- Client identity cannot be spoofed. A resolved address is the rightmost
untrusted entry of the only `X-Forwarded-For`, behind a trusted peer; two
requests that agree from that entry rightward resolve alike; an untrusted peer is
always refused; and the string wrapper decides as the lowered resolver. -/
theorem resolved_identity_unspoofable (policy : TrustedProxyPolicy) :
    (∀ (peerIp : IpAddr) (headers : List LoweredHeader) (address : String),
      policy.resolveRemoteAddrLowered peerIp headers = .ok address →
      policy.Trusts peerIp ∧ ∃ value left client ip right, SoleForwardedFor headers value ∧
        ResolvesAt policy value left client ip right ∧ address = ip.toString) ∧
    (∀ (peerIp : IpAddr) (first second : List LoweredHeader) (firstAddress secondAddress : String)
      (firstValue secondValue : String) (leftFirst leftSecond : List String) (client : String)
      (ip : IpAddr) (right : List String),
      policy.resolveRemoteAddrLowered peerIp first = .ok firstAddress →
      policy.resolveRemoteAddrLowered peerIp second = .ok secondAddress →
      SoleForwardedFor first firstValue → SoleForwardedFor second secondValue →
      ResolvesAt policy firstValue leftFirst client ip right →
      split secondValue ',' = leftSecond ++ client :: right →
      firstAddress = secondAddress) ∧
    (∀ (peerIp : IpAddr) (headers : List LoweredHeader), ¬ policy.Trusts peerIp →
      policy.resolveRemoteAddrLowered peerIp headers = .error .untrustedImmediatePeer) ∧
    (∀ (peerAddr : String) (headers : List (String × String)),
      policy.resolveRemoteAddr peerAddr headers =
        match parsePeerIp peerAddr with
        | none => .error .malformedImmediatePeer
        | some peerIp => policy.resolveRemoteAddrLowered peerIp
            (headers.map fun header => LoweredHeader.new header.1 header.2)) := by
  refine ⟨?_, ?_, ?_, policy.resolveRemoteAddr_eq_lowered⟩
  · intro peerIp headers address resolved
    exact policy.resolveRemoteAddrLowered_ok resolved
  · intro peerIp first second firstAddress secondAddress firstValue secondValue leftFirst leftSecond
      client ip right firstResolved secondResolved firstSole secondSole firstAt agrees
    obtain ⟨_, value, _, _, found, _, sole, foundAt, addressEq⟩ :=
      policy.resolveRemoteAddrLowered_ok firstResolved
    obtain ⟨_, value', _, _, found', _, sole', foundAt', addressEq'⟩ :=
      policy.resolveRemoteAddrLowered_ok secondResolved
    have sameFirst : value = firstValue := sole.unique firstSole
    have sameSecond : value' = secondValue := sole'.unique secondSole
    rw [sameFirst] at foundAt
    rw [sameSecond] at foundAt'
    rw [addressEq, addressEq', firstAt.ip_eq foundAt firstAt.entries,
      firstAt.ip_eq foundAt' agrees]
  · intro peerIp headers untrusted
    exact policy.resolveRemoteAddrLowered_untrusted untrusted headers

/-- One trusted private network. -/
def samplePolicy : TrustedProxyPolicy :=
  ⟨[⟨.v4 (BitVec.ofNat 32 0x0a000000), 8, by decide⟩]⟩

def samplePeer : IpAddr := .v4 (BitVec.ofNat 32 0x0a000001)

/-- Two chains that differ only to the left of the client entry, and a peer
outside the trusted network. -/
theorem resolved_identity_unspoofable_sample :
    samplePolicy.Trusts samplePeer ∧
    (∃ firstAddress secondAddress,
      samplePolicy.resolveRemoteAddrLowered samplePeer
        [.new "X-Forwarded-For" "6.6.6.6, 198.51.100.7 ,10.1.2.3"] = .ok firstAddress ∧
      samplePolicy.resolveRemoteAddrLowered samplePeer
        [.new "x-forwarded-for" "1.1.1.1,2.2.2.2, 198.51.100.7 ,10.1.2.3"] = .ok secondAddress ∧
      firstAddress = secondAddress) ∧
    samplePolicy.resolveRemoteAddrLowered (.v4 (BitVec.ofNat 32 0x0b000001)) [] =
      .error .untrustedImmediatePeer := by
  have laws := resolved_identity_unspoofable samplePolicy
  have first : samplePolicy.resolveRemoteAddrLowered samplePeer
      [.new "X-Forwarded-For" "6.6.6.6, 198.51.100.7 ,10.1.2.3"] = .ok "198.51.100.7" := by
    decide +kernel
  have second : samplePolicy.resolveRemoteAddrLowered samplePeer
      [.new "x-forwarded-for" "1.1.1.1,2.2.2.2, 198.51.100.7 ,10.1.2.3"] =
        .ok "198.51.100.7" := by
    decide +kernel
  refine ⟨(laws.1 _ _ _ first).1, ?_, ?_⟩
  · refine ⟨_, _, first, second, ?_⟩
    apply laws.2.1 samplePeer _ _ _ _ "6.6.6.6, 198.51.100.7 ,10.1.2.3"
      "1.1.1.1,2.2.2.2, 198.51.100.7 ,10.1.2.3" ["6.6.6.6"] ["1.1.1.1", "2.2.2.2"]
      " 198.51.100.7 " (.v4 (BitVec.ofNat 32 0xc6336407)) ["10.1.2.3"] first second
    · exact ⟨[], _, [], rfl, by decide, rfl, by simp⟩
    · exact ⟨[], _, [], rfl, by decide, rfl, by simp⟩
    · refine ⟨by decide, by decide +kernel, ?_, ?_⟩
      · rw [← samplePolicy.contains_iff]
        decide
      · intro entry member
        rw [List.mem_singleton] at member
        subst member
        refine ⟨.v4 (BitVec.ofNat 32 0x0a010203), by decide +kernel, ?_⟩
        rw [← samplePolicy.contains_iff]
        decide
    · decide
  · apply laws.2.2.1
    rw [← samplePolicy.contains_iff]
    decide

end Oxo.Edge
