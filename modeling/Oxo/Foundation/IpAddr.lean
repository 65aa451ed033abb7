import Oxo.Foundation.Text

/-!
Contract: IP addresses as the standard library of the source language parses,
prints and compares them.

Owns: the address type, the text grammar of addresses and socket addresses, the
canonical text form, and prefix matching with its bit-by-bit meaning.

Does not own: which prefixes a policy trusts.
-/

namespace Oxo.Foundation

/-- An address as its big-endian integer, `u32::from` and `u128::from`. -/
inductive IpAddr where
  | v4 (bits : BitVec 32)
  | v6 (bits : BitVec 128)
deriving DecidableEq, Repr

namespace IpAddr

/-! ## Parsing -/

/-- A parser over the remaining characters. A failed step reads nothing. -/
abbrev Parser (α : Type) := StateT (List Char) Option α

def readGivenChar (expected : Char) : Parser Unit := fun chars =>
  match chars with
  | [] => none
  | char :: rest => if char = expected then some ((), rest) else none

/-- A number below `limit`, with at most `maxDigits` digits when that is given. -/
def readNumber (radix : Nat) (maxDigits : Option Nat) (allowZeroPrefix : Bool) (limit : Nat) :
    Parser Nat := fun chars =>
  let digits := chars.takeWhile fun char => (toDigit radix char).isSome
  let rest := chars.dropWhile fun char => (toDigit radix char).isSome
  let value := digitsValue radix digits
  if digits.length = 0 then none
  else if maxDigits.any (· < digits.length) then none
  else if !allowZeroPrefix && digits.head? == some '0' && 1 < digits.length then none
  else if value < limit then some (value, rest)
  else none

/-- Read a separator first, except in front of the first item. -/
def readSeparator {α : Type} (separator : Char) (index : Nat) (inner : Parser α) : Parser α :=
  if index = 0 then inner
  else do
    readGivenChar separator
    inner

/-- The big-endian integer of a group list. -/
def ofGroups (radix : Nat) (groups : List Nat) : Nat :=
  groups.foldl (fun total group => total * radix + group) 0

def readOctet (index : Nat) : Parser Nat :=
  readSeparator '.' index (readNumber 10 (some 3) false 256)

def readIpv4Addr : Parser (List Nat) := do
  let one ← readOctet 0
  let two ← readOctet 1
  let three ← readOctet 2
  let four ← readOctet 3
  return [one, two, three, four]

/-- Colon-separated groups with an optional trailing IPv4 address, which needs
two free slots. The flag tells whether one was read. -/
def readGroups (limit : Nat) : (slots index : Nat) → List Char → (List Nat × Bool) × List Char
  | 0, _, chars => (([], false), chars)
  | slots + 1, index, chars =>
      let embedded :=
        if index < limit - 1 then readSeparator ':' index readIpv4Addr chars else none
      match embedded with
      | some (octets, rest) =>
          (([ofGroups 256 (octets.take 2), ofGroups 256 (octets.drop 2)], true), rest)
      | none =>
          match readSeparator ':' index (readNumber 16 (some 4) true 65536) chars with
          | some (group, rest) =>
              let later := readGroups limit slots (index + 1) rest
              ((group :: later.1.1, later.1.2), later.2)
          | none => (([], false), chars)

/-- Eight groups, or a head and a tail around `::`. -/
def readIpv6Addr : Parser (List Nat) := fun chars =>
  let ((head, headIpv4), rest) := readGroups 8 8 0 chars
  if head.length = 8 then some (head, rest)
  else if headIpv4 then none
  else do
    let ((), rest) ← readGivenChar ':' rest
    let ((), rest) ← readGivenChar ':' rest
    let limit := 8 - (head.length + 1)
    let ((tail, _), rest) := readGroups limit limit 0 rest
    some (head ++ List.replicate (8 - head.length - tail.length) 0 ++ tail, rest)

def ofOctets (octets : List Nat) : IpAddr :=
  .v4 (BitVec.ofNat 32 (ofGroups 256 octets))

def ofSegments (segments : List Nat) : IpAddr :=
  .v6 (BitVec.ofNat 128 (ofGroups 65536 segments))

def readIpAddr : Parser IpAddr := fun chars =>
  match readIpv4Addr chars with
  | some (octets, rest) => some (ofOctets octets, rest)
  | none => (readIpv6Addr chars).map fun (segments, rest) => (ofSegments segments, rest)

def readPort : Parser Nat := do
  readGivenChar ':'
  readNumber 10 none true (2 ^ 16)

def readScopeId : Parser Nat := do
  readGivenChar '%'
  readNumber 10 none true (2 ^ 32)

/-- The address of an IPv4 socket address. -/
def readSocketAddrV4 : Parser IpAddr := do
  let octets ← readIpv4Addr
  let _ ← readPort
  return ofOctets octets

/-- The address of a bracketed IPv6 socket address with an optional scope. -/
def readSocketAddrV6 : Parser IpAddr := do
  readGivenChar '['
  let segments ← readIpv6Addr
  let _ ← fun chars => some ((readScopeId chars).getD (0, chars))
  readGivenChar ']'
  let _ ← readPort
  return ofSegments segments

def readSocketAddr : Parser IpAddr := fun chars =>
  (readSocketAddrV4 chars).or (readSocketAddrV6 chars)

/-- Run a parser over the whole text. -/
def parseWith {α : Type} (inner : Parser α) (text : String) : Option α :=
  match inner text.toList with
  | some (value, []) => some value
  | _ => none

/-! ## What an IPv6 literal is made of -/

/-- A parser that reads characters of a class only. -/
def Reads {α : Type} (inClass : Char → Prop) (inner : Parser α) : Prop :=
  ∀ chars value rest, inner chars = some (value, rest) →
    ∃ used, chars = used ++ rest ∧ ∀ char ∈ used, inClass char

section

variable {α β : Type} {inClass : Char → Prop}

private theorem Reads.pure (value : α) : Reads inClass (Pure.pure value : Parser α) := by
  intro chars result rest read
  cases read
  exact ⟨[], rfl, fun _ absent => nomatch absent⟩

private theorem Reads.bind {first : Parser α} {later : α → Parser β} (reads : Reads inClass first)
    (laterReads : ∀ value, Reads inClass (later value)) : Reads inClass (first >>= later) := by
  intro chars result rest read
  obtain ⟨⟨value, middle⟩, firstRead, laterRead⟩ := Option.bind_eq_some_iff.mp read
  obtain ⟨used, rfl, usedClass⟩ := reads chars value middle firstRead
  obtain ⟨more, rfl, moreClass⟩ := laterReads value middle result rest laterRead
  refine ⟨used ++ more, (List.append_assoc ..).symm, fun char member => ?_⟩
  exact (List.mem_append.mp member).elim (usedClass char) (moreClass char)

private theorem readGivenChar_eq_some {expected : Char} {chars rest : List Char} {value : Unit}
    (read : readGivenChar expected chars = some (value, rest)) : chars = expected :: rest := by
  unfold readGivenChar at read
  split at read
  · cases read
  · split at read
    · rename_i same
      cases read
      rw [same]
    · cases read

private theorem Reads.givenChar {expected : Char} (isClass : inClass expected) :
    Reads inClass (readGivenChar expected) := by
  intro chars value rest read
  refine ⟨[expected], readGivenChar_eq_some read, fun char member => ?_⟩
  rwa [List.mem_singleton.mp member]

private theorem Reads.number {radix limit : Nat} {maxDigits : Option Nat} {allowZeroPrefix : Bool}
    (digits : ∀ char, (toDigit radix char).isSome = true → inClass char) :
    Reads inClass (readNumber radix maxDigits allowZeroPrefix limit) := by
  intro chars value rest read
  simp only [readNumber] at read
  split_ifs at read
  cases read
  refine ⟨_, List.takeWhile_append_dropWhile.symm, fun char member => digits char ?_⟩
  exact List.mem_takeWhile_imp (p := fun char => (toDigit radix char).isSome) member

private theorem Reads.separator {separator : Char} {index : Nat} {inner : Parser α}
    (isClass : inClass separator) (reads : Reads inClass inner) :
    Reads inClass (readSeparator separator index inner) := by
  unfold readSeparator
  split
  · exact reads
  · exact (Reads.givenChar isClass).bind fun _ => reads

end

/-- Hexadecimal digits, colons and dots. -/
def Ipv6Char (char : Char) : Prop :=
  (toDigit 16 char).isSome = true ∨ char = ':' ∨ char = '.'

private theorem ipv6Char_of_decimal {char : Char} (digit : (toDigit 10 char).isSome = true) :
    Ipv6Char char := by
  obtain ⟨value, found⟩ := Option.isSome_iff_exists.mp digit
  refine .inl (Option.isSome_iff_exists.mpr ⟨value, ?_⟩)
  unfold toDigit at found ⊢
  rw [Option.filter_eq_some_iff] at found ⊢
  have small := of_decide_eq_true found.2
  exact ⟨found.1, decide_eq_true (by omega)⟩

private theorem readIpv4Addr_reads : Reads Ipv6Char readIpv4Addr := by
  have octet : ∀ index, Reads Ipv6Char (readOctet index) := fun index =>
    .separator (.inr (.inr rfl)) (.number fun _ => ipv6Char_of_decimal)
  exact (octet 0).bind fun _ => (octet 1).bind fun _ => (octet 2).bind fun _ =>
    (octet 3).bind fun _ => .pure _

private theorem readGroup_reads (index : Nat) :
    Reads Ipv6Char (readSeparator ':' index (readNumber 16 (some 4) true 65536)) :=
  .separator (.inr (.inl rfl)) (.number fun _ => .inl)

private theorem readGroups_reads (limit slots index : Nat) (chars : List Char) :
    ∃ used, chars = used ++ (readGroups limit slots index chars).2 ∧
      ∀ char ∈ used, Ipv6Char char := by
  induction slots generalizing index chars with
  | zero => exact ⟨[], rfl, fun _ absent => nomatch absent⟩
  | succ slots inductionHypothesis =>
      simp only [readGroups]
      split
      · rename_i octets remaining embedded
        split at embedded
        · exact Reads.separator (.inr (.inl rfl)) readIpv4Addr_reads _ _ _ embedded
        · cases embedded
      · split
        · rename_i group remaining found
          obtain ⟨used, rfl, usedClass⟩ := readGroup_reads index _ _ _ found
          obtain ⟨more, same, moreClass⟩ := inductionHypothesis (index + 1) remaining
          refine ⟨used ++ more, ?_, fun char member => ?_⟩
          · rw [List.append_assoc, ← same]
          · exact (List.mem_append.mp member).elim (usedClass char) (moreClass char)
        · exact ⟨[], rfl, fun _ absent => nomatch absent⟩

private theorem readSeparator_eq_some {α : Type} {separator : Char} {index : Nat}
    {inner : Parser α} {chars rest : List Char} {value : α}
    (read : readSeparator separator (index + 1) inner chars = some (value, rest)) :
    separator ∈ chars := by
  rw [readSeparator, if_neg (Nat.succ_ne_zero index)] at read
  obtain ⟨⟨_, middle⟩, separatorRead, _⟩ := Option.bind_eq_some_iff.mp read
  rw [readGivenChar_eq_some separatorRead]
  exact List.mem_cons_self

/-- A later group stands behind a colon. -/
private theorem colon_mem_readGroups_succ {limit slots index : Nat} {chars rest : List Char}
    {groups : List Nat} {embedded : Bool}
    (read : readGroups limit slots (index + 1) chars = ((groups, embedded), rest))
    (nonempty : groups ≠ []) : ':' ∈ chars := by
  cases slots with
  | zero =>
      cases read
      exact absurd rfl nonempty
  | succ slots =>
      simp only [readGroups] at read
      split at read
      · rename_i found
        split at found
        · exact readSeparator_eq_some found
        · cases found
      · split at read
        · rename_i found
          exact readSeparator_eq_some found
        · cases read
          exact absurd rfl nonempty

/-- Three groups or more have a colon between them. -/
private theorem colon_mem_readGroups {limit slots : Nat} {chars rest : List Char}
    {groups : List Nat} {embedded : Bool}
    (read : readGroups limit slots 0 chars = ((groups, embedded), rest))
    (many : 2 < groups.length) : ':' ∈ chars := by
  cases slots with
  | zero =>
      cases read
      cases many
  | succ slots =>
      simp only [readGroups] at read
      split at read
      · cases read
        exact absurd many (lt_irrefl 2)
      · split at read
        · rename_i group remaining found
          obtain ⟨used, same, _⟩ := readGroup_reads 0 _ _ _ found
          have later : (readGroups limit slots 1 remaining).1.1 ≠ [] := by
            intro empty
            cases read
            rw [List.length_cons, empty] at many
            exact absurd many (by decide)
          rw [same]
          exact List.mem_append_right _ (colon_mem_readGroups_succ rfl later)
        · cases read
          cases many

/-- What `readIpv6Addr` reads, and that a colon is part of it. -/
private theorem readIpv6Addr_reads {chars rest : List Char} {segments : List Nat}
    (read : readIpv6Addr chars = some (segments, rest)) :
    ':' ∈ chars ∧ ∃ used, chars = used ++ rest ∧ ∀ char ∈ used, Ipv6Char char := by
  unfold readIpv6Addr at read
  split at read
  rename_i head headIpv4 middle found
  obtain ⟨used, same, usedClass⟩ := readGroups_reads 8 8 0 chars
  rw [found] at same
  split at read
  · rename_i full
    cases read
    exact ⟨colon_mem_readGroups found (by omega), used, same, usedClass⟩
  · split at read
    · cases read
    · obtain ⟨⟨_, afterFirst⟩, first, read⟩ := Option.bind_eq_some_iff.mp read
      obtain ⟨⟨_, afterSecond⟩, second, read⟩ := Option.bind_eq_some_iff.mp read
      rw [readGivenChar_eq_some first, readGivenChar_eq_some second] at same
      cases read
      obtain ⟨tail, tailSame, tailClass⟩ :=
        readGroups_reads (8 - (head.length + 1)) (8 - (head.length + 1)) 0 afterSecond
      refine ⟨by simp [same], used ++ ':' :: ':' :: tail, ?_, fun char member => ?_⟩
      · rw [same]
        conv_lhs => rw [tailSame]
        simp
      · rw [List.mem_append, List.mem_cons, List.mem_cons] at member
        rcases member with inHead | isColon | isColon | inTail
        · exact usedClass char inHead
        · exact .inr (.inl isColon)
        · exact .inr (.inl isColon)
        · exact tailClass char inTail

/-- `str::parse::<Ipv6Addr>` succeeds. -/
def isIpv6Literal (text : String) : Bool :=
  (parseWith readIpv6Addr text).isSome

theorem isIpv6Literal_chars {text : String} (literal : isIpv6Literal text = true) :
    ':' ∈ text.toList ∧ ∀ char ∈ text.toList, Ipv6Char char := by
  obtain ⟨segments, parsed⟩ := Option.isSome_iff_exists.mp literal
  unfold parseWith at parsed
  split at parsed
  · rename_i found
    obtain ⟨colon, used, same, usedClass⟩ := readIpv6Addr_reads found
    rw [List.append_nil] at same
    exact ⟨colon, same ▸ usedClass⟩
  · cases parsed

/-- `str::parse::<IpAddr>`. -/
def parse (text : String) : Option IpAddr :=
  parseWith readIpAddr text

/-- `str::parse::<SocketAddr>` followed by `ip`. -/
def parseSocketAddrIp (text : String) : Option IpAddr :=
  parseWith readSocketAddr text

/-! ## Printing -/

def octets (bits : BitVec 32) : List Nat :=
  [24, 16, 8, 0].map fun shift => (bits.toNat >>> shift) % 256

def segments (bits : BitVec 128) : List Nat :=
  [112, 96, 80, 64, 48, 32, 16, 0].map fun shift => (bits.toNat >>> shift) % 65536

def ipv4Text (groups : List Nat) : String :=
  String.intercalate "." (groups.map (numeral 10))

def segmentsText (groups : List Nat) : String :=
  String.intercalate ":" (groups.map (numeral 16))

structure Span where
  start : Nat
  len : Nat

/-- The first longest run of zero segments. -/
def longestZeroes : (index : Nat) → List Nat → (longest current : Span) → Span
  | _, [], longest, _ => longest
  | index, segment :: rest, longest, current =>
      if segment = 0 then
        let current : Span := ⟨if current.len = 0 then index else current.start, current.len + 1⟩
        longestZeroes (index + 1) rest (if current.len > longest.len then current else longest)
          current
      else
        longestZeroes (index + 1) rest longest ⟨0, 0⟩

def ipv6Text (groups : List Nat) : String :=
  match groups with
  | [0, 0, 0, 0, 0, 0xffff, high, low] =>
      "::ffff:" ++ ipv4Text [high / 256, high % 256, low / 256, low % 256]
  | _ =>
      let zeroes := longestZeroes 0 groups ⟨0, 0⟩ ⟨0, 0⟩
      if zeroes.len > 1 then
        segmentsText (groups.take zeroes.start) ++ "::" ++
          segmentsText (groups.drop (zeroes.start + zeroes.len))
      else
        segmentsText groups

/-- The `Display` form. -/
def toString : IpAddr → String
  | .v4 bits => ipv4Text (octets bits)
  | .v6 bits => ipv6Text (segments bits)

end IpAddr

/-! ## Prefix matching -/

/-- Compare the first `prefixLen` bits through a mask. -/
def prefixMatch {width : Nat} (network ip : BitVec width) (prefixLen : Nat) : Bool :=
  if prefixLen = 0 then true
  else
    let mask := BitVec.allOnes width <<< (width - prefixLen)
    (network &&& mask) == (ip &&& mask)

/-- The mask comparison is equality of the first bits, at every length from zero
to the full width. -/
theorem prefixMatch_iff {width : Nat} (network ip : BitVec width) {prefixLen : Nat}
    (bounded : prefixLen ≤ width) :
    prefixMatch network ip prefixLen = true ↔
      ∀ index < prefixLen, network.getMsbD index = ip.getMsbD index := by
  have maskBit : ∀ index, (BitVec.allOnes width <<< (width - prefixLen)).getMsbD index =
      decide (index < prefixLen) := by
    intro index
    rw [BitVec.getMsbD_shiftLeft, BitVec.getMsbD_allOnes, decide_eq_decide]
    omega
  have maskedBit : ∀ (address : BitVec width) (index : Nat),
      (address &&& BitVec.allOnes width <<< (width - prefixLen)).getMsbD index =
        (address.getMsbD index && decide (index < prefixLen)) := by
    intro address index
    rw [BitVec.getMsbD_and, maskBit]
  unfold prefixMatch
  split
  · rename_i zero
    simp [zero]
  · rw [beq_iff_eq]
    constructor
    · intro same index inside
      have bits := congrArg (fun address => address.getMsbD index) same
      simp only [maskedBit, inside, decide_true, Bool.and_true] at bits
      exact bits
    · intro same
      apply BitVec.eq_of_getMsbD_eq
      intro index _
      rw [maskedBit, maskedBit]
      by_cases inside : index < prefixLen
      · rw [same index inside]
      · simp [inside]

end Oxo.Foundation
