import Oxo.Foundation.IpAddr

/-!
Contract: the server names the edge can be configured with
(`oxo-pingora-edge/src/platform/config.rs`).

Owns: the test for a single FQDN, and what its characters are.

Does not own: certificates, or the requests that present a name.
-/

namespace Oxo.Edge

open Oxo.Foundation

/-- The rule for one label of a DNS name. -/
def isDnsLabel (label : String) : Bool :=
  let bytes := utf8 label
  !(bytes.isEmpty || decide (bytes.length > 63) || bytes.head? == some 45 ||
    bytes.getLast? == some 45 ||
    !bytes.all fun byte => isAsciiAlphanumeric byte || byte == 45)

/-- `str::is_ascii`. -/
def isAscii (text : String) : Bool :=
  (utf8 text).all (· < 128)

def isSingleAsciiFqdn (value : String) : Bool :=
  let name := trimEndMatches (· == '.') value
  if name == "" || decide (name.utf8ByteSize > 253) || !isAscii name ||
      name.toList.contains ':' || name.toList.contains '*' then false
  else (split name '.').all isDnsLabel && decide ((split name '.').length ≥ 2)

/-! ## Labels -/

/-- The bytes of a label are token bytes. -/
theorem token_of_labelBytes {label : String}
    (allowed : ((utf8 label).all fun byte => isAsciiAlphanumeric byte || byte == 45) = true) :
    (utf8 label).all isTokenByte = true := by
  rw [List.all_eq_true] at allowed ⊢
  intro byte member
  have isAllowed := allowed byte member
  rw [Bool.or_eq_true, beq_iff_eq] at isAllowed
  rcases isAllowed with alphanumeric | hyphen
  · rw [isTokenByte, alphanumeric, Bool.true_or]
  · rw [hyphen]
    decide

theorem labelBytes_of_isDnsLabel {label : String} (isLabel : isDnsLabel label = true) :
    ((utf8 label).all fun byte => isAsciiAlphanumeric byte || byte == 45) = true := by
  simp only [isDnsLabel, Bool.not_or, Bool.and_eq_true, Bool.not_not] at isLabel
  exact isLabel.2

theorem token_of_isDnsLabel {label : String} (isLabel : isDnsLabel label = true) :
    (utf8 label).all isTokenByte = true :=
  token_of_labelBytes (labelBytes_of_isDnsLabel isLabel)

/-- A letter keeps its class in lower case. -/
private theorem labelByte_toLower (byte : UInt8) :
    (isAsciiAlphanumeric (byteToAsciiLowercase byte) || byteToAsciiLowercase byte == 45) =
        (isAsciiAlphanumeric byte || byte == 45) ∧
      (byteToAsciiLowercase byte == 45) = (byte == 45) := by
  have all : ∀ byte : UInt8,
      (isAsciiAlphanumeric (byteToAsciiLowercase byte) || byteToAsciiLowercase byte == 45) =
          (isAsciiAlphanumeric byte || byte == 45) ∧
        (byteToAsciiLowercase byte == 45) = (byte == 45) := by
    decide +kernel
  exact all byte

theorem option_map_beq {α β : Type} [BEq α] [BEq β] {found : Option α} {change : α → β} {item : α}
    {image : β} (kept : ∀ other ∈ found, (change other == image) = (other == item)) :
    (found.map change == some image) = (found == some item) := by
  cases found with
  | none => rfl
  | some other => exact kept other rfl

theorem isDnsLabel_toAsciiLowercase (label : String) :
    isDnsLabel (toAsciiLowercase label) = isDnsLabel label := by
  have hyphen := fun (found : Option UInt8) =>
    @option_map_beq _ _ _ _ found byteToAsciiLowercase 45 45
      fun byte _ => (labelByte_toLower byte).2
  have allowed := funext fun byte => (labelByte_toLower byte).1
  simp only [isDnsLabel, utf8_toAsciiLowercase, List.isEmpty_map, List.length_map, List.head?_map,
    List.getLast?_map, List.all_map, hyphen]
  simp only [Function.comp_def, allowed]

/-! ## Names -/

/-- What both validators ask of a name: labels, at least two, in at most 253 bytes. -/
structure DnsName (name : String) : Prop where
  short : name.utf8ByteSize ≤ 253
  labels : ∀ label ∈ split name '.', isDnsLabel label = true
  several : 2 ≤ (split name '.').length

section

variable {name value : String} {char : Char}

/-- Every character of a name but the dots is in a label. -/
theorem DnsName.inLabel (isName : DnsName name) (member : char ∈ name.toList)
    (notDot : char ≠ '.') : ∃ label, isDnsLabel label = true ∧ char ∈ label.toList := by
  obtain ⟨label, labelMember, inLabel⟩ := mem_split member notDot
  exact ⟨label, isName.labels label labelMember, inLabel⟩

theorem DnsName.chars (isName : DnsName name) (member : char ∈ name.toList) :
    char.toNat < 128 ∧ (isAsciiAlphanumeric (UInt8.ofNat char.toNat) = true ∨ char = '-' ∨
      char = '.') := by
  by_cases dot : char = '.'
  · rw [dot]
    exact ⟨by decide, .inr (.inr rfl)⟩
  · obtain ⟨label, isLabel, inLabel⟩ := isName.inLabel member dot
    have small := (token_char (token_of_isDnsLabel isLabel) inLabel).1
    have toNat := toNat_asciiByte small
    have allowed := List.all_eq_true.mp (labelBytes_of_isDnsLabel isLabel) _
      (asciiByte_mem_utf8 inLabel small)
    rw [Bool.or_eq_true, beq_iff_eq] at allowed
    refine ⟨small, allowed.imp id fun hyphen => .inl ?_⟩
    apply Char.toNat_inj.mp
    rw [← toNat, hyphen]
    rfl

theorem DnsName.toAsciiLowercase_iff :
    DnsName (toAsciiLowercase name) ↔ DnsName name := by
  have size : (toAsciiLowercase name).utf8ByteSize = name.utf8ByteSize := by
    rw [← utf8_length, utf8_toAsciiLowercase, List.length_map, utf8_length]
  have pieces := split_toAsciiLowercase name (show ¬ (65 ≤ '.'.toNat ∧ '.'.toNat ≤ 90) by decide)
    (by decide)
  constructor
  · rintro ⟨short, labels, several⟩
    rw [size] at short
    rw [pieces, List.length_map] at several
    refine ⟨short, fun label member => ?_, several⟩
    rw [← isDnsLabel_toAsciiLowercase]
    exact labels _ (pieces ▸ List.mem_map_of_mem member)
  · rintro ⟨short, labels, several⟩
    refine ⟨size ▸ short, fun label member => ?_, by rwa [pieces, List.length_map]⟩
    rw [pieces] at member
    obtain ⟨original, originalMember, rfl⟩ := List.mem_map.mp member
    rw [isDnsLabel_toAsciiLowercase]
    exact labels original originalMember

theorem DnsName.nonempty (isName : DnsName name) : name ≠ "" := by
  intro empty
  have several := isName.several
  rw [empty] at several
  exact absurd several (by decide)

theorem DnsName.isAscii (isName : DnsName name) : isAscii name = true := by
  rw [Edge.isAscii, List.all_eq_true]
  intro byte member
  rw [utf8_of_ascii fun char charMember => (isName.chars charMember).1] at member
  obtain ⟨char, charMember, rfl⟩ := List.mem_map.mp member
  have small := (isName.chars charMember).1
  rw [decide_eq_true_eq, UInt8.lt_iff_toNat_lt, toNat_asciiByte small]
  exact small

theorem DnsName.not_mem (isName : DnsName name)
    (outside : isAsciiAlphanumeric (UInt8.ofNat char.toNat) = false ∧ char ≠ '-' ∧ char ≠ '.') :
    char ∉ name.toList := by
  intro member
  rcases (isName.chars member).2 with alphanumeric | hyphen | dot
  · rw [outside.1] at alphanumeric
    cases alphanumeric
  · exact outside.2.1 hyphen
  · exact outside.2.2 dot

theorem DnsName.noBlank (isName : DnsName name) (member : char ∈ name.toList) :
    isWhitespace char = false := by
  by_cases dot : char = '.'
  · rw [dot]
    decide
  · obtain ⟨label, isLabel, inLabel⟩ := isName.inLabel member dot
    exact isWhitespace_of_token (token_of_isDnsLabel isLabel) inLabel

theorem isSingleAsciiFqdn_iff :
    isSingleAsciiFqdn value = true ↔ DnsName (trimEndMatches (· == '.') value) := by
  simp only [isSingleAsciiFqdn]
  constructor
  · intro fqdn
    split at fqdn
    · cases fqdn
    · rename_i admitted
      simp only [Bool.or_eq_true, decide_eq_true_eq, not_or] at admitted
      rw [Bool.and_eq_true, List.all_eq_true, decide_eq_true_eq] at fqdn
      exact ⟨Nat.not_lt.mp admitted.1.1.1.2, fqdn.1, fqdn.2⟩
  · intro isName
    have noColon : ':' ∉ (trimEndMatches (· == '.') value).toList := isName.not_mem (by decide)
    have noStar : '*' ∉ (trimEndMatches (· == '.') value).toList := isName.not_mem (by decide)
    rw [if_neg, Bool.and_eq_true, List.all_eq_true, decide_eq_true_eq]
    · exact ⟨isName.labels, isName.several⟩
    · simp only [Bool.or_eq_true, decide_eq_true_eq, not_or, beq_iff_eq, Bool.not_eq_true',
        List.contains_iff_mem, isName.isAscii]
      exact ⟨⟨⟨⟨isName.nonempty, Nat.not_lt.mpr isName.short⟩, fun same => nomatch same⟩,
        noColon⟩, noStar⟩

/-- Every character of an FQDN but the dots is in a label. -/
theorem isSingleAsciiFqdn_label (fqdn : isSingleAsciiFqdn value = true)
    (member : char ∈ value.toList) (notDot : char ≠ '.') :
    ∃ label, isDnsLabel label = true ∧ char ∈ label.toList :=
  (isSingleAsciiFqdn_iff.mp fqdn).inLabel
    (mem_trimEndMatches member (beq_eq_false_iff_ne.mpr notDot)) notDot

end

end Oxo.Edge
