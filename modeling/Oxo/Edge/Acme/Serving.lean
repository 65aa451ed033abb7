import Oxo.Edge.Acme.Issue
import Oxo.Edge.Acme.World
import Oxo.Edge.ServerName
import Oxo.Foundation.Outcome

/-!
Contract: the names ACME issues for and the names the edge serves
(`oxo-pingora-edge/src/acme/challenge.rs`, `platform/config.rs`).

Owns: the two validators of a configured name, the certificate check of public mode, and the
names on which issuing and serving agree.

Does not own: how a certificate is issued or persisted.
-/

namespace Oxo.Edge.Acme

open Oxo.Foundation Oxo.Edge

/-! ## The certificate check of public mode -/

inductive PublicMode where
  | alpha
  | smokeBeta
deriving DecidableEq

/-- A listener; the certificate file of a TLS listener with what reading it answers. -/
inductive ListenerMode where
  | plain
  | tls (certPath : String) (certificate : Except String (List UInt8))

/-- The errors of the identity checks. -/
inductive IdentityError where
  | configEnv (name message : String)
  | tlsFileUnavailable (role path message : String)
  | tlsCertificateName (path serverName message : String)
deriving DecidableEq

/-- `subjectAltName` answers the DNS names of the extension. -/
def validateTlsCertificateName (libraries : Libraries)
    (subjectAltName : Certificate → Except String (Option (List String))) (certPath : String)
    (certificate : Except String (List UInt8)) (serverName : String) :
    Except IdentityError Unit := do
  let pemBytes ← certificate.mapError fun detail =>
    .tlsFileUnavailable "certificate" certPath detail
  let pem ← (libraries.parseX509Pem pemBytes).mapError fun detail =>
    .tlsCertificateName certPath serverName ("failed to parse certificate PEM: " ++ detail)
  let cert ← pem.mapError fun detail =>
    .tlsCertificateName certPath serverName ("failed to parse certificate: " ++ detail)
  let san ← (subjectAltName cert).mapError fun detail =>
    .tlsCertificateName certPath serverName ("invalid subjectAltName extension: " ++ detail)
  match san with
  | none => .error (.tlsCertificateName certPath serverName "missing subjectAltName extension")
  | some dnsNames =>
      if dnsNames.any fun name => eqIgnoreAsciiCase name serverName then .ok ()
      else .error (.tlsCertificateName certPath serverName
        ("subjectAltName DNS entries [" ++
          String.intercalate ", " (dnsNames.map libraries.debugString) ++ "] do not contain " ++
          libraries.debugString serverName))

def validatePublicTlsIdentity (libraries : Libraries)
    (subjectAltName : Certificate → Except String (Option (List String)))
    (publicMode : Option PublicMode) (listener : ListenerMode) (serverName : String) :
    Except IdentityError Unit :=
  match publicMode with
  | none => .ok ()
  | some _ =>
      if !isSingleAsciiFqdn serverName then
        .error (.configEnv "OXO_EDGE_SERVER_NAME"
          "public mode requires a single ASCII DNS FQDN without wildcard, port, or IP literal")
      else match listener with
        | .plain => .ok ()
        | .tls certPath certificate =>
            validateTlsCertificateName libraries subjectAltName certPath certificate serverName

/-! ## Agreement -/

/-- The name without outer blanks and trailing dots. -/
def bareName (value : String) : String :=
  trimEndMatches (· == '.') (trim value)

/-- The two ways of reading a file find the same first certificate and, where there are DNS
names, the same names. -/
structure SameLeaf (libraries : Libraries)
    (subjectAltName : Certificate → Except String (Option (List String))) : Prop where
  first : ∀ bytes pem rest, libraries.pemIterFromBuffer bytes = .ok (pem :: rest) →
    libraries.parseX509Pem bytes = .ok pem
  names : ∀ cert, cert.dnsNames ≠ [] → subjectAltName cert = .ok (some cert.dnsNames)

/-- Whatever pair is accepted for the name ACME makes of a value is served under the value, and
the two validators accept the same. -/
structure Aligned (value : String) : Prop where
  served : ∀ libraries subjectAltName, SameLeaf libraries subjectAltName →
    ∀ fqdn certPem keyPem, validateSingleAsciiFqdn libraries value = .ok fqdn →
      validateIssuedPair libraries certPem keyPem fqdn = .ok () → ∀ mode certPath,
        validatePublicTlsIdentity libraries subjectAltName (some mode)
          (.tls certPath (.ok (utf8 certPem))) value = .ok ()
  validators : ∀ libraries, (∃ fqdn, validateSingleAsciiFqdn libraries value = .ok fqdn) ↔
    isSingleAsciiFqdn value = true

/-- Where the bare name is an FQDN: a host name is written bare, an address between blanks. -/
structure SpelledAlike (value : String) : Prop where
  hostName : isSingleAsciiFqdn (bareName value) = true →
    (IpAddr.parse (toAsciiLowercase (bareName value))).isSome = false → bareName value = value
  address : isSingleAsciiFqdn (bareName value) = true →
    (IpAddr.parse (toAsciiLowercase (bareName value))).isSome = true → trim value ≠ value

section

variable {libraries : Libraries} {value fqdn certPem keyPem : String}
  {subjectAltName : Certificate → Except String (Option (List String))}

private theorem trimEnd_bareName : trimEndMatches (· == '.') (bareName value) = bareName value := by
  rw [bareName, trimEndMatches, trimEndMatches, String.toList_ofList, List.rdropWhile_idempotent]

theorem isSingleAsciiFqdn_bareName :
    isSingleAsciiFqdn (bareName value) = true ↔ DnsName (bareName value) := by
  rw [isSingleAsciiFqdn_iff, trimEnd_bareName]

/-- The edge accepts a value without blanks whose bare name is an FQDN. -/
private theorem isSingleAsciiFqdn_iff_bare :
    isSingleAsciiFqdn value = true ↔ trim value = value ∧ DnsName (bareName value) := by
  constructor
  · intro fqdn
    have trimmed : trim value = value := by
      refine trimMatches_eq_self fun char member => ?_
      by_cases dot : char = '.'
      · rw [dot]
        decide
      · obtain ⟨label, isLabel, inLabel⟩ := isSingleAsciiFqdn_label fqdn member dot
        exact isWhitespace_of_token (token_of_isDnsLabel isLabel) inLabel
    refine ⟨trimmed, ?_⟩
    rw [bareName, trimmed]
    exact isSingleAsciiFqdn_iff.mp fqdn
  · rintro ⟨trimmed, isName⟩
    rw [bareName, trimmed] at isName
    exact isSingleAsciiFqdn_iff.mpr isName

/-- The rule for one label, over characters, is the rule over bytes. -/
private theorem label_refused (label : String) :
    (decide (label = "") || decide (63 < (utf8 label).length) || label.toList.head? == some '-' ||
      label.toList.getLast? == some '-' ||
      !(utf8 label).all fun byte => isAsciiAlphanumeric byte || byte == 0x2d) =
      !isDnsLabel label := by
  have hyphen : ∀ char : Char, char.toNat < 128 →
      (UInt8.ofNat char.toNat == 45) = (char == '-') := by
    intro char small
    rw [Bool.eq_iff_iff, beq_iff_eq, beq_iff_eq, ← UInt8.toNat_inj, toNat_asciiByte small,
      ← Char.toNat_inj]
    rfl
  by_cases allowed : (utf8 label).all (fun byte => isAsciiAlphanumeric byte || byte == 0x2d) = true
  · have ascii : ∀ char ∈ label.toList, char.toNat < 128 :=
      fun char member => (token_char (token_of_labelBytes allowed) member).1
    have bytes := utf8_of_ascii ascii
    have first : ((utf8 label).head? == some 45) = (label.toList.head? == some '-') := by
      rw [bytes, List.head?_map]
      exact option_map_beq fun char member => hyphen char (ascii char (List.mem_of_mem_head? member))
    have last : ((utf8 label).getLast? == some 45) = (label.toList.getLast? == some '-') := by
      rw [bytes, List.getLast?_map]
      exact option_map_beq fun char member =>
        hyphen char (ascii char (List.mem_of_getLast? member))
    have empty : (utf8 label).isEmpty = decide (label = "") := by
      rw [Bool.eq_iff_iff, List.isEmpty_iff, decide_eq_true_eq]
      exact ⟨fun none => utf8_injective none, fun none => none ▸ rfl⟩
    simp only [isDnsLabel, first, last, empty, Bool.not_not, gt_iff_lt]
  · rw [Bool.not_eq_true] at allowed
    simp only [isDnsLabel, allowed, Bool.not_false, Bool.or_true, Bool.not_true]

/-- The labels are checked one after the other. -/
private theorem checkLabels_eq_ok {labels : List String} {refused : String → Bool}
    {error : String → AcmeError} {checked : String} :
    (do
      for label in labels do
        if refused label = true then
          .error (error label)
      return checked : Except AcmeError String) = .ok fqdn ↔
      (∀ label ∈ labels, refused label = false) ∧ checked = fqdn := by
  induction labels with
  | nil => simp [bind, Except.bind, pure, Except.pure]
  | cons label rest inductionHypothesis =>
      rw [List.forall_mem_cons, and_assoc, ← inductionHypothesis]
      cases isRefused : refused label with
      | true => simp [isRefused, bind, Except.bind]
      | false => simp [isRefused]

/-- ACME accepts a value whose bare name is an FQDN and no address, and lowercases it. -/
theorem validateSingleAsciiFqdn_eq_ok :
    validateSingleAsciiFqdn libraries value = .ok fqdn ↔
      DnsName (bareName value) ∧
        (IpAddr.parse (toAsciiLowercase (bareName value))).isSome = false ∧
        toAsciiLowercase (bareName value) = fqdn := by
  rw [← DnsName.toAsciiLowercase_iff]
  have unfolded : toAsciiLowercase (trimEndMatches (· == '.') (trim value)) =
      toAsciiLowercase (bareName value) := rfl
  simp only [validateSingleAsciiFqdn, unfolded, label_refused]
  generalize toAsciiLowercase (bareName value) = normalised
  constructor
  · intro accepted
    split at accepted
    · cases accepted
    · rename_i sized
      split at accepted
      · cases accepted
      · rename_i plain
        split at accepted
        · cases accepted
        · rename_i several
          obtain ⟨labels, same⟩ := checkLabels_eq_ok.mp accepted
          simp only [Bool.or_eq_true, not_or] at sized plain
          refine ⟨⟨Nat.not_lt.mp sized.2, fun label member => ?_, Nat.not_lt.mp several⟩,
            Bool.eq_false_iff.mpr plain.2, same⟩
          simpa using labels label member
  · rintro ⟨isName, notAddress, rfl⟩
    have noStar : startsWith normalised "*." = false := by
      rw [Bool.eq_false_iff]
      intro opens
      have star : '*' ∈ normalised.toList :=
        (List.isPrefixOf_iff_prefix.mp opens).subset (by decide)
      exact isName.not_mem (by decide) star
    have ascii : normalised.toList.any (fun char => 128 ≤ char.toNat) = false := by
      rw [List.any_eq_false]
      intro char member
      have small := (isName.chars member).1
      simpa using small
    have short : ¬ (normalised = "" ∨ (utf8 normalised).length > 253) := by
      rw [not_or, utf8_length]
      exact ⟨isName.nonempty, Nat.not_lt.mpr isName.short⟩
    rw [if_neg short, ascii, noStar, notAddress, if_neg (by decide),
      if_neg (Nat.not_lt.mpr isName.several), checkLabels_eq_ok]
    refine ⟨fun label member => ?_, rfl⟩
    rw [isName.labels label member]
    rfl

/-- An accepted pair is a leaf that names the host and its key. -/
private theorem validateIssuedPair_eq_ok :
    validateIssuedPair libraries certPem keyPem fqdn = .ok () ↔
      ∃ leaf rest, libraries.pemIterFromBuffer (utf8 certPem) = .ok (.ok leaf :: rest) ∧
        leaf.dnsNames.any (fun dns => eqIgnoreAsciiCase dns fqdn) = true ∧
        libraries.keyPairFromPem keyPem = .ok leaf.publicKey := by
  simp only [validateIssuedPair, bind_eq_ok, mapError_eq_ok]
  constructor
  · rintro ⟨pems, read, accepted⟩
    split at accepted
    · cases accepted
    · rename_i leafPem rest
      obtain ⟨leaf, isLeaf, accepted⟩ := bind_eq_ok.mp accepted
      rw [mapError_eq_ok.mp isLeaf] at read
      split at accepted
      · cases accepted
      · rename_i named
        obtain ⟨key, isKey, accepted⟩ := bind_eq_ok.mp accepted
        split at accepted
        · cases accepted
        · rename_i same
          rw [mapError_eq_ok.mp isKey, not_ne_iff.mp same]
          exact ⟨leaf, rest, read, by simpa using named, rfl⟩
  · rintro ⟨leaf, rest, read, named, isKey⟩
    refine ⟨_, read, ?_⟩
    simp only [Except.mapError, ok_bind, named, isKey, Bool.not_true, Bool.false_eq_true,
      ne_eq, not_true_eq_false, if_false]

/-- A leaf that names the host as ACME spells it is served under the bare name. -/
private theorem served_of_issued (sameLeaf : SameLeaf libraries subjectAltName)
    (bare : bareName value = value)
    (validated : validateSingleAsciiFqdn libraries value = .ok fqdn)
    (issued : validateIssuedPair libraries certPem keyPem fqdn = .ok ()) (mode : PublicMode)
    (certPath : String) :
    validatePublicTlsIdentity libraries subjectAltName (some mode)
      (.tls certPath (.ok (utf8 certPem))) value = .ok () := by
  obtain ⟨isName, _, rfl⟩ := validateSingleAsciiFqdn_eq_ok.mp validated
  obtain ⟨leaf, rest, read, named, _⟩ := validateIssuedPair_eq_ok.mp issued
  have fqdn : isSingleAsciiFqdn value = true := by
    have bareFqdn := isSingleAsciiFqdn_bareName.mpr isName
    rwa [bare] at bareFqdn
  have names : leaf.dnsNames ≠ [] := by
    intro empty
    rw [empty] at named
    cases named
  have covered : leaf.dnsNames.any (fun name => eqIgnoreAsciiCase name value) = true := by
    simpa only [eqIgnoreAsciiCase, toAsciiLowercase_idem, bare] using named
  simp only [validatePublicTlsIdentity, fqdn, validateTlsCertificateName, sameLeaf.first _ _ _ read,
    sameLeaf.names leaf names, Except.mapError, ok_bind, covered]
  rfl

/-- A served certificate names the value as it is configured. -/
private theorem named_of_served {mode : PublicMode} {certPath : String} {leaf : Certificate}
    {bytes : List UInt8} {names : List String} (parsed : libraries.parseX509Pem bytes = .ok (.ok leaf))
    (read : subjectAltName leaf = .ok (some names))
    (served : validatePublicTlsIdentity libraries subjectAltName (some mode)
      (.tls certPath (.ok bytes)) value = .ok ()) :
    names.any (fun name => eqIgnoreAsciiCase name value) = true := by
  simp only [validatePublicTlsIdentity, validateTlsCertificateName, parsed, read, Except.mapError,
    ok_bind] at served
  split at served
  · cases served
  · split at served
    · assumption
    · cases served

/-- The bare name is shorter than a value that is not bare. -/
private theorem bareName_eq_of_length
    (same : (bareName value).toList.length = value.toList.length) : bareName value = value := by
  have inside : (bareName value).toList <:+: value.toList := by
    rw [bareName, trimEndMatches, String.toList_ofList, trim, trimMatches, String.toList_ofList]
    exact (List.rdropWhile_prefix _ _).isInfix.trans
      ((List.rdropWhile_prefix _ _).isInfix.trans (List.dropWhile_suffix _).isInfix)
  exact String.toList_inj.mp (inside.eq_of_length same)

end

/-- Libraries for which every file is one certificate for a name, and every key is its key. -/
def oneLeafLibraries (name : String) : Libraries where
  fromSlice _ := .error "expected value at line 1 column 1"
  toStringPretty _ := .error "unknown object"
  reads_back _ _ encoded := nomatch encoded
  parseX509Pem _ := .ok (.ok ⟨[name], [], 0⟩)
  pemIterFromBuffer _ := .ok [.ok ⟨[name], [], 0⟩]
  keyPairFromPem _ := .ok []
  decodeCredentials _ := .error "missing field id"
  debugString text := "\"" ++ text ++ "\""

/-- The extension as it is read from a certificate that has one. -/
def onlyExtension (cert : Certificate) : Except String (Option (List String)) :=
  .ok (some cert.dnsNames)

private theorem oneLeaf_same (name : String) : SameLeaf (oneLeafLibraries name) onlyExtension where
  first _ _ _ read := by
    cases read
    rfl
  names _ _ := rfl

private theorem oneLeaf_issued (name : String) :
    validateIssuedPair (oneLeafLibraries name) "" "" (toAsciiLowercase name) = .ok () := by
  refine validateIssuedPair_eq_ok.mpr ⟨⟨[name], [], 0⟩, [], rfl, ?_, rfl⟩
  rw [List.any_cons, eqIgnoreAsciiCase, toAsciiLowercase_idem, beq_self_eq_true, Bool.true_or]

private theorem oneLeaf_named {name value certPath : String} {mode : PublicMode}
    {bytes : List UInt8}
    (served : validatePublicTlsIdentity (oneLeafLibraries name) onlyExtension (some mode)
      (.tls certPath (.ok bytes)) value = .ok ()) : eqIgnoreAsciiCase name value = true := by
  have parsed : (oneLeafLibraries name).parseX509Pem bytes = .ok (.ok ⟨[name], [], 0⟩) := rfl
  have read : onlyExtension ⟨[name], [], 0⟩ = .ok (some [name]) := rfl
  have named := named_of_served parsed read served
  rwa [List.any_cons, List.any_nil, Bool.or_false] at named

/-- Issuing and serving agree on a value exactly when it is spelled alike for both. -/
theorem aligned_iff_spelled_alike (value : String) : Aligned value ↔ SpelledAlike value := by
  constructor
  · intro aligned
    refine ⟨fun bareFqdn notAddress => ?_, fun bareFqdn address trimmed => ?_⟩
    · have isName := isSingleAsciiFqdn_bareName.mp bareFqdn
      have accepted : validateSingleAsciiFqdn (oneLeafLibraries (bareName value)) value =
          .ok (toAsciiLowercase (bareName value)) :=
        validateSingleAsciiFqdn_eq_ok.mpr ⟨isName, notAddress, rfl⟩
      have served := aligned.served (oneLeafLibraries (bareName value)) onlyExtension
        (oneLeaf_same (bareName value)) _ _ _ accepted (oneLeaf_issued (bareName value)) .alpha ""
      exact bareName_eq_of_length (length_of_eqIgnoreAsciiCase (oneLeaf_named served))
    · have isName := isSingleAsciiFqdn_bareName.mp bareFqdn
      obtain ⟨fqdn, accepted⟩ := (aligned.validators (oneLeafLibraries value)).mpr
        (isSingleAsciiFqdn_iff_bare.mpr ⟨trimmed, isName⟩)
      have notAddress := (validateSingleAsciiFqdn_eq_ok.mp accepted).2.1
      rw [address] at notAddress
      cases notAddress
  · intro alike
    have bare : ∀ libraries fqdn, validateSingleAsciiFqdn libraries value = .ok fqdn →
        bareName value = value := by
      intro libraries fqdn accepted
      obtain ⟨isName, notAddress, _⟩ := validateSingleAsciiFqdn_eq_ok.mp accepted
      exact alike.hostName (isSingleAsciiFqdn_bareName.mpr isName) notAddress
    refine ⟨fun libraries _ sameLeaf fqdn _ _ accepted issued mode certPath =>
      served_of_issued sameLeaf (bare libraries fqdn accepted) accepted issued mode certPath,
      fun libraries => ⟨fun ⟨fqdn, accepted⟩ => ?_, fun fqdn => ?_⟩⟩
    · have bareFqdn :=
        isSingleAsciiFqdn_bareName.mpr (validateSingleAsciiFqdn_eq_ok.mp accepted).1
      rwa [bare libraries fqdn accepted] at bareFqdn
    · obtain ⟨trimmed, isName⟩ := isSingleAsciiFqdn_iff_bare.mp fqdn
      refine ⟨_, validateSingleAsciiFqdn_eq_ok.mpr ⟨isName, ?_, rfl⟩⟩
      rw [Bool.eq_false_iff]
      exact fun address => alike.address (isSingleAsciiFqdn_bareName.mpr isName) address trimmed

namespace Sample

/-- The libraries on the two sample certificates. -/
def serving : Libraries :=
  librariesOf [] (fun _ absent => nomatch absent)

private theorem certificateOf_firstPem :
    certificateOf (utf8 firstPem) = .ok (.ok firstCertificate) := by
  unfold certificateOf
  rw [if_pos rfl]

private theorem serving_parse (bytes : List UInt8) :
    serving.parseX509Pem bytes = certificateOf bytes :=
  rfl

private theorem serving_iter (bytes : List UInt8) :
    serving.pemIterFromBuffer bytes = (certificateOf bytes).map fun pem => [pem] :=
  rfl

private theorem serving_key (text : String) :
    serving.keyPairFromPem text =
      if text = firstKeyPem then .ok firstCertificate.publicKey
      else if text = secondKeyPem then .ok secondCertificate.publicKey
      else .error "no private key" :=
  rfl

private theorem serving_same : SameLeaf serving onlyExtension where
  first bytes pem rest read := by
    rw [serving_iter] at read
    rw [serving_parse]
    cases found : certificateOf bytes with
    | error detail =>
        rw [found] at read
        cases read
    | ok other =>
        rw [found] at read
        cases read
        rfl
  names _ _ := rfl

end Sample

/-- A name with a trailing dot: its certificate is issued, and the edge refuses to serve it. -/
theorem trailing_dot_issued_not_served :
    validateSingleAsciiFqdn Sample.serving "a.io." = .ok "a.io" ∧
      validateIssuedPair Sample.serving Sample.firstPem Sample.firstKeyPem "a.io" = .ok () ∧
      validatePublicTlsIdentity Sample.serving onlyExtension (some .alpha)
          (.tls "/acme/cert.pem" (.ok (utf8 Sample.firstPem))) "a.io." =
        .error (.tlsCertificateName "/acme/cert.pem" "a.io."
          "subjectAltName DNS entries [\"a.io\"] do not contain \"a.io.\"") ∧
      ¬ Aligned "a.io." := by
  have validated : validateSingleAsciiFqdn Sample.serving "a.io." = .ok "a.io" :=
    validateSingleAsciiFqdn_eq_ok.mpr
      ⟨isSingleAsciiFqdn_bareName.mp (by decide +kernel), by decide +kernel, by decide +kernel⟩
  have issued : validateIssuedPair Sample.serving Sample.firstPem Sample.firstKeyPem "a.io" =
      .ok () := by
    refine validateIssuedPair_eq_ok.mpr ⟨Sample.firstCertificate, [], ?_, by decide +kernel, ?_⟩
    · rw [Sample.serving_iter, Sample.certificateOf_firstPem]
      rfl
    · rw [Sample.serving_key, if_pos rfl]
  have refused : validatePublicTlsIdentity Sample.serving onlyExtension (some .alpha)
      (.tls "/acme/cert.pem" (.ok (utf8 Sample.firstPem))) "a.io." =
      .error (.tlsCertificateName "/acme/cert.pem" "a.io."
        "subjectAltName DNS entries [\"a.io\"] do not contain \"a.io.\"") := by
    have fqdn : isSingleAsciiFqdn "a.io." = true := by decide +kernel
    have missing : Sample.firstCertificate.dnsNames.any
        (fun name => eqIgnoreAsciiCase name "a.io.") = false := by decide +kernel
    simp only [validatePublicTlsIdentity, fqdn, validateTlsCertificateName, Sample.serving_parse,
      Sample.certificateOf_firstPem, onlyExtension, Except.mapError, ok_bind, missing, Bool.not_true, Bool.false_eq_true, if_false]
    decide +kernel
  refine ⟨validated, issued, refused, fun aligned => ?_⟩
  have served := aligned.served _ _ Sample.serving_same _ _ _ validated issued .alpha
    "/acme/cert.pem"
  rw [refused] at served
  cases served

end Oxo.Edge.Acme
