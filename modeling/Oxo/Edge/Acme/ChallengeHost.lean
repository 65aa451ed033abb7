import Oxo.Edge.Acme.Challenge
import Oxo.Edge.Acme.Serving

/-!
Contract: the host of a challenge request (`oxo-pingora-edge/src/acme/challenge.rs`,
`host_matches_fqdn`).

Owns: the values that name the served host, the texts that the comparison accepts, and the values
on which the two differ.

Does not own: which line of a request the host is taken from.
-/

namespace Oxo.Edge.Acme

open Oxo.Foundation

/-! ## Hosts -/

/-- Nothing, or a colon and decimal digits. -/
def IsPort (port : String) : Prop :=
  port = "" ∨ ∃ digits, digits ≠ "" ∧ (∀ char ∈ digits.toList, char.isDigit = true) ∧
    port = ":" ++ digits

def isOws (byte : UInt8) : Bool :=
  byte == 0x20 || byte == 0x09

/-- A field value without the blanks around it. -/
def trimOws (value : List UInt8) : List UInt8 :=
  (value.dropWhile isOws).rdropWhile isOws

/-- A field value that is the name in any case, with or without a dot at its end and a port. -/
def NamesHost (fqdn : String) (value : List UInt8) : Prop :=
  ∃ dot port, (dot = "" ∨ dot = ".") ∧ IsPort port ∧
    bytesEqIgnoreAsciiCase (trimOws value) (utf8 (fqdn ++ dot ++ port)) = true

/-- The host that the responder sees in a field value. -/
def seenHost (value : List UInt8) : String :=
  trim (fromUtf8Lossy value)

/-- A value that is refused for a port behind a dot, or accepted with other white space around it,
with several dots at its end or with one behind a port. -/
def Misread (fqdn : String) (value : List UInt8) : Prop :=
  (∃ port, IsPort port ∧ port ≠ "" ∧
    bytesEqIgnoreAsciiCase (trimOws value) (utf8 (fqdn ++ "." ++ port)) = true) ∨
  hostMatchesFqdn (seenHost value) fqdn = true ∧
    (trimOws value ≠ utf8 (seenHost value) ∨
      ['.', '.'] <:+ (seenHost value).toList ∨
      ':' ∈ (seenHost value).toList ∧ ['.'] <:+ (seenHost value).toList)

/-! ## Names -/

/-- A name as it is served. -/
structure ServedName (fqdn : String) : Prop where
  isName : DnsName fqdn
  lower : toAsciiLowercase fqdn = fqdn

theorem servedName_of_validated {libraries : Libraries} {value fqdn : String}
    (validated : validateSingleAsciiFqdn libraries value = .ok fqdn) : ServedName fqdn := by
  obtain ⟨isName, -, rfl⟩ := validateSingleAsciiFqdn_eq_ok.mp validated
  exact ⟨DnsName.toAsciiLowercase_iff.mpr isName, toAsciiLowercase_idem _⟩

section

variable {fqdn host port : String}

/-- No dot at the end of a name: the label behind it would be empty. -/
private theorem last_of_name (isName : DnsName fqdn) : ¬ ['.'] <:+ fqdn.toList := by
  rintro ⟨front, parts⟩
  have empty : "" ∈ split fqdn '.' := by
    rw [split, ← parts, List.splitOn_eq_splitOnP,
      List.splitOnP_append_cons (p := (· == '.')) front [] rfl, List.splitOnP_nil,
      List.map_append, List.mem_append]
    exact .inr List.mem_cons_self
  exact absurd (isName.labels "" empty) (by decide)

private theorem toAsciiLowercase_trimEnd (text : String) :
    toAsciiLowercase (trimEndMatches (· == '.') text) =
      trimEndMatches (· == '.') (toAsciiLowercase text) := by
  have same : (fun char : Char => char.toLower == '.') = fun char => char == '.' := by
    funext char
    rw [Bool.eq_iff_iff, beq_iff_eq, beq_iff_eq]
    exact toLower_eq_iff (by decide) (by decide)
  simp only [toAsciiLowercase, trimEndMatches, String.toList_ofList, List.rdropWhile,
    ← List.map_reverse, List.dropWhile_map, Function.comp_def, same]

private theorem utf8_digits {digits : String}
    (all : ∀ char ∈ digits.toList, char.isDigit = true) :
    (utf8 digits).all (fun byte => 0x30 ≤ byte && byte ≤ 0x39) = true := by
  have ascii : ∀ char ∈ digits.toList, char.toNat < 128 := by
    intro char member
    have bounds := isDigit_iff.mp (all char member)
    omega
  rw [utf8_of_ascii ascii, List.all_map, List.all_eq_true]
  intro char member
  have bounds := isDigit_iff.mp (all char member)
  simp only [Function.comp_apply, Bool.and_eq_true, decide_eq_true_eq, UInt8.le_iff_toNat_le,
    toNat_asciiByte (ascii char member), UInt8.reduceToNat]
  exact bounds

private theorem digits_of_utf8 {digits : String}
    (all : (utf8 digits).all (fun byte => 0x30 ≤ byte && byte ≤ 0x39) = true) :
    ∀ char ∈ digits.toList, char.isDigit = true := by
  intro char member
  have range : ∀ byte : UInt8, (0x30 ≤ byte && byte ≤ 0x39) = true → byte < 0x80 := by
    decide +kernel
  have small := ascii_of_utf8 (fun byte inText => range byte (List.all_eq_true.mp all byte inText))
    member
  have bounds := List.all_eq_true.mp all _ (asciiByte_mem_utf8 member small)
  simp only [Bool.and_eq_true, decide_eq_true_eq, UInt8.le_iff_toNat_le, toNat_asciiByte small,
    UInt8.reduceToNat] at bounds
  exact isDigit_iff.mpr bounds

/-- The last character of a port is a digit. -/
private theorem last_of_port (isPort : IsPort port) (nonempty : port ≠ "") (front : List Char) :
    ¬ ['.'] <:+ front ++ port.toList := by
  obtain rfl | ⟨digits, filled, all, rfl⟩ := isPort
  · exact absurd rfl nonempty
  rintro ⟨other, same⟩
  have some : digits.toList ≠ [] := fun empty => filled (String.toList_inj.mp empty)
  have last := congrArg List.getLast? same
  rw [List.getLast?_append, List.getLast?_append, String.toList_append, List.getLast?_append,
    List.getLast?_eq_some_getLast some] at last
  have digit := all _ (List.getLast_mem some)
  simp only [List.getLast?_singleton, Option.some_or, Option.some.injEq] at last
  rw [← last] at digit
  exact absurd digit (by decide)

/-- What is left of a text that ends with dots. -/
private theorem trimEnd_dots {text dots : String} (undotted : ¬ ['.'] <:+ text.toList)
    (all : ∀ char ∈ dots.toList, char = '.') :
    trimEndMatches (· == '.') (text ++ dots) = text := by
  have kept : text.toList.rdropWhile (· == '.') = text.toList := by
    rw [List.rdropWhile_eq_self_iff]
    intro nonempty isDot
    refine undotted ⟨text.toList.dropLast, ?_⟩
    rw [← beq_iff_eq.mp isDot]
    exact List.dropLast_append_getLast nonempty
  have dropped : ∀ char ∈ dots.toList.reverse, (char == '.') = true :=
    fun char member => beq_iff_eq.mpr (all char (List.mem_reverse.mp member))
  rw [trimEndMatches, String.toList_append, List.rdropWhile, List.reverse_append,
    List.dropWhile_append_of_pos dropped]
  change String.ofList (text.toList.rdropWhile (· == '.')) = text
  rw [kept, String.ofList_toList]

/-- The comparison accepts the name, with or without a port, and any number of dots behind it. -/
theorem hostMatchesFqdn_iff (served : ServedName fqdn) :
    hostMatchesFqdn host fqdn = true ↔
      ∃ port dots, IsPort port ∧ (∀ char ∈ dots.toList, char = '.') ∧
        toAsciiLowercase host = fqdn ++ port ++ dots := by
  have bare : trimEndMatches (· == '.') fqdn = fqdn := by
    have whole := @trimEnd_dots fqdn "" (last_of_name served.isName) fun _ member => nomatch member
    rwa [String.append_empty] at whole
  have dotted : ∃ dots : String, (∀ char ∈ dots.toList, char = '.') ∧
      toAsciiLowercase host =
        trimEndMatches (· == '.') (toAsciiLowercase host) ++ dots := by
    refine ⟨String.ofList ((toAsciiLowercase host).toList.rtakeWhile (· == '.')), ?_, ?_⟩
    · intro char member
      rw [String.toList_ofList] at member
      have isDot : (char == '.') = true := List.mem_rtakeWhile_imp (p := (· == '.')) member
      exact beq_iff_eq.mp isDot
    · rw [← String.toList_inj, trimEndMatches, String.toList_append, String.toList_ofList,
        String.toList_ofList, List.rdropWhile_append_rtakeWhile]
  unfold hostMatchesFqdn
  rw [bare, served.lower, toAsciiLowercase_trimEnd]
  obtain ⟨dots, areDots, parts⟩ := dotted
  constructor
  · intro accepted
    dsimp only at accepted
    rw [Bool.or_eq_true, beq_iff_eq, Option.any_eq_true] at accepted
    rcases accepted with same | ⟨digits, opened, isNumber⟩
    · refine ⟨"", dots, .inl rfl, areDots, ?_⟩
      rw [parts, same, String.append_empty]
    · rw [Bool.and_eq_true, bne_iff_ne] at isNumber
      rw [stripPrefix_eq_some] at opened
      refine ⟨":" ++ digits, dots, .inr ⟨digits, isNumber.1, digits_of_utf8 isNumber.2, rfl⟩,
        areDots, ?_⟩
      rw [parts, opened, ← @String.append_assoc fqdn]
  · rintro ⟨port, dots, isPort, areDots, same⟩
    dsimp only
    have undotted : ¬ ['.'] <:+ (fqdn ++ port).toList := by
      rw [String.toList_append]
      by_cases none : port = ""
      · rw [none, String.toList_empty, List.append_nil]
        exact last_of_name served.isName
      · exact last_of_port isPort none _
    rw [same, trimEnd_dots undotted areDots, Bool.or_eq_true, beq_iff_eq, Option.any_eq_true]
    obtain rfl | ⟨digits, filled, all, rfl⟩ := isPort
    · exact .inl (String.append_empty)
    · refine .inr ⟨digits, stripPrefix_eq_some.mpr String.append_assoc.symm, ?_⟩
      rw [Bool.and_eq_true, bne_iff_ne]
      exact ⟨filled, utf8_digits all⟩

/-! ## Field values -/

/-- Blanks in front of a text and behind it. -/
private theorem trim_padded {front text back : String}
    (blankFront : ∀ char ∈ front.toList, isWhitespace char = true)
    (plain : ∀ char ∈ text.toList, isWhitespace char = false) (nonempty : text ≠ "")
    (blankBack : ∀ char ∈ back.toList, isWhitespace char = true) :
    trim (front ++ text ++ back) = text := by
  have filled : text.toList ≠ [] := fun empty => nonempty (String.toList_inj.mp empty)
  obtain ⟨first, rest, parts⟩ := List.exists_cons_of_ne_nil filled
  have opens : (text.toList ++ back.toList).dropWhile isWhitespace =
      text.toList ++ back.toList := by
    rw [parts, List.cons_append, List.dropWhile_cons, plain first (by simp [parts])]
    rfl
  have ends : (text.toList ++ back.toList).rdropWhile isWhitespace = text.toList := by
    have dropped : ∀ char ∈ back.toList.reverse, isWhitespace char = true :=
      fun char member => blankBack char (List.mem_reverse.mp member)
    rw [List.rdropWhile, List.reverse_append, List.dropWhile_append_of_pos dropped]
    change text.toList.rdropWhile isWhitespace = text.toList
    rw [List.rdropWhile_eq_self_iff]
    intro some
    rw [plain _ (List.getLast_mem some)]
    exact Bool.false_ne_true
  rw [trim, trimMatches, String.toList_append, String.toList_append, List.append_assoc,
    List.dropWhile_append_of_pos blankFront, opens, ends, String.ofList_toList]

/-- The blanks of a field value as a text. -/
private theorem exists_blanks {bytes : List UInt8} (blank : ∀ byte ∈ bytes, isOws byte = true) :
    ∃ text, utf8 text = bytes ∧ ∀ char ∈ text.toList, isWhitespace char = true := by
  induction bytes with
  | nil => exact ⟨"", rfl, fun _ member => nomatch member⟩
  | cons byte rest inductionHypothesis =>
      obtain ⟨isBlank, others⟩ := List.forall_mem_cons.mp blank
      obtain ⟨text, encoded, isText⟩ := inductionHypothesis others
      simp only [isOws, Bool.or_eq_true, beq_iff_eq] at isBlank
      rcases isBlank with rfl | rfl
      · refine ⟨" " ++ text, by rw [utf8_append, encoded]; rfl, ?_⟩
        rw [String.toList_append, List.forall_mem_append]
        exact ⟨by decide, isText⟩
      · refine ⟨"\t" ++ text, by rw [utf8_append, encoded]; rfl, ?_⟩
        rw [String.toList_append, List.forall_mem_append]
        exact ⟨by decide, isText⟩

private theorem trimOws_parts (value : List UInt8) :
    ∃ front back, value = front ++ trimOws value ++ back ∧
      (∀ byte ∈ front, isOws byte = true) ∧ ∀ byte ∈ back, isOws byte = true := by
  refine ⟨value.takeWhile isOws, (value.dropWhile isOws).rtakeWhile isOws, ?_,
    fun byte member => List.mem_takeWhile_imp member,
    fun byte member => List.mem_rtakeWhile_imp member⟩
  rw [trimOws, List.append_assoc, List.rdropWhile_append_rtakeWhile,
    List.takeWhile_append_dropWhile]

variable {value : List UInt8} {dot : String}

/-- A text that is a name up to case: its characters are ASCII and no white space. -/
private theorem named_plain (served : ServedName fqdn) (isDot : dot = "" ∨ dot = ".")
    (isPort : IsPort port) :
    toAsciiLowercase (fqdn ++ dot ++ port) = fqdn ++ dot ++ port ∧
      ∀ char ∈ (fqdn ++ dot ++ port).toList, char.toNat < 128 ∧ isWhitespace char = false := by
  have chars : ∀ char ∈ (fqdn ++ dot ++ port).toList, char.toNat < 128 ∧
      isWhitespace char = false ∧ (char ∈ fqdn.toList ∨ char.toLower = char) := by
    intro char member
    rw [String.toList_append, String.toList_append, List.mem_append, List.mem_append] at member
    rcases member with (inName | inDot) | inPort
    · exact ⟨(served.isName.chars inName).1, served.isName.noBlank inName, .inl inName⟩
    · obtain rfl | rfl := isDot
      · cases inDot
      · rw [List.mem_singleton.mp inDot]
        exact ⟨by decide, by decide, .inr (by decide)⟩
    · obtain rfl | ⟨digits, -, all, rfl⟩ := isPort
      · cases inPort
      · rw [String.toList_append, List.mem_append] at inPort
        rcases inPort with colon | digit
        · rw [List.mem_singleton.mp colon]
          exact ⟨by decide, by decide, .inr (by decide)⟩
        · have isDigit := all char digit
          have bounds := isDigit_iff.mp isDigit
          refine ⟨by omega, isWhitespace_of_isDigit isDigit, .inr ?_⟩
          rw [← Char.toNat_inj, toLower_toNat, if_neg (by omega)]
  refine ⟨?_, fun char member => ⟨(chars char member).1, (chars char member).2.1⟩⟩
  have lowered : ∀ char ∈ fqdn.toList, char.toLower = char := by
    have same := congrArg String.toList served.lower
    rw [toAsciiLowercase, String.toList_ofList, ← List.map_id fqdn.toList, List.map_map] at same
    exact List.map_inj_left.mp same
  rw [toAsciiLowercase, ← String.toList_inj, String.toList_ofList]
  have kept : ∀ char ∈ (fqdn ++ dot ++ port).toList, char.toLower = id char :=
    fun char member => (chars char member).2.2.elim (lowered char) id
  exact (List.map_congr_left kept).trans (List.map_id _)

/-- What the responder sees of a value that names the host. -/
private theorem seenHost_of_named (served : ServedName fqdn) (isDot : dot = "" ∨ dot = ".")
    (isPort : IsPort port)
    (named : bytesEqIgnoreAsciiCase (trimOws value) (utf8 (fqdn ++ dot ++ port)) = true) :
    utf8 (seenHost value) = trimOws value ∧
      toAsciiLowercase (seenHost value) = fqdn ++ dot ++ port := by
  obtain ⟨lower, plain⟩ := named_plain served isDot isPort
  rw [bytesEqIgnoreAsciiCase, beq_iff_eq, ← utf8_toAsciiLowercase, lower] at named
  have ascii : ∀ byte ∈ trimOws value, byte < 0x80 := by
    intro byte member
    have lowered : byteToAsciiLowercase byte ∈ utf8 (fqdn ++ dot ++ port) := by
      rw [← named]
      exact List.mem_map_of_mem member
    rw [utf8_of_ascii fun char charMember => (plain char charMember).1] at lowered
    obtain ⟨char, charMember, isByte⟩ := List.mem_map.mp lowered
    have all : ∀ byte : UInt8, byteToAsciiLowercase byte < 0x80 → byte < 0x80 := by
      decide +kernel
    apply all
    rw [← isByte, UInt8.lt_iff_toNat_lt, toNat_asciiByte (plain char charMember).1]
    exact (plain char charMember).1
  obtain ⟨text, decoded⟩ := Option.isSome_iff_exists.mp (fromUtf8_isSome_of_ascii ascii)
  have encoded := utf8_of_fromUtf8 decoded
  have lowerText : toAsciiLowercase text = fqdn ++ dot ++ port := by
    apply utf8_injective
    rw [utf8_toAsciiLowercase, encoded, named]
  have unblank : ∀ char ∈ text.toList, isWhitespace char = false := by
    intro char member
    have lowered : char.toLower ∈ (fqdn ++ dot ++ port).toList := by
      rw [← lowerText, toAsciiLowercase, String.toList_ofList]
      exact List.mem_map_of_mem member
    by_contra blank
    rw [Bool.not_eq_false] at blank
    have kept : char.toLower = char := by
      rw [← Char.toNat_inj, toLower_toNat, if_neg]
      intro bounds
      simp only [isWhitespace, Bool.or_eq_true, Bool.and_eq_true, decide_eq_true_eq,
        beq_iff_eq] at blank
      omega
    rw [kept] at lowered
    rw [(plain char lowered).2] at blank
    cases blank
  have nonempty : text ≠ "" := by
    rintro rfl
    have empty := congrArg String.toList lowerText
    rw [String.toList_append, String.toList_append] at empty
    have none := (List.append_eq_nil_iff.mp (List.append_eq_nil_iff.mp empty.symm).1).1
    exact served.isName.nonempty (String.toList_inj.mp none)
  obtain ⟨front, back, parts, blankFront, blankBack⟩ := trimOws_parts value
  obtain ⟨frontText, frontEncoded, isFront⟩ := exists_blanks blankFront
  obtain ⟨backText, backEncoded, isBack⟩ := exists_blanks blankBack
  have whole : value = utf8 (frontText ++ text ++ backText) := by
    rw [utf8_append, utf8_append, frontEncoded, backEncoded, encoded]
    exact parts
  have seen : seenHost value = text := by
    rw [seenHost, whole, fromUtf8Lossy_utf8, trim_padded isFront unblank nonempty isBack]
  rw [seen]
  exact ⟨encoded, lowerText⟩

/-- A dot in front of a port is neither a port nor dots. -/
private theorem dotted_ne {dots other : String} (isPort : IsPort port) (nonempty : port ≠ "")
    (isOther : IsPort other) (areDots : ∀ char ∈ dots.toList, char = '.')
    (same : fqdn ++ "." ++ port = fqdn ++ other ++ dots) : False := by
  obtain rfl | ⟨digits, -, -, rfl⟩ := isPort
  · exact nonempty rfl
  simp only [← String.toList_inj, String.toList_append, List.append_assoc] at same
  have tails := List.append_cancel_left same
  obtain rfl | ⟨otherDigits, -, -, rfl⟩ := isOther
  · have colon : ':' ∈ dots.toList := by
      rw [String.toList_empty, List.nil_append] at tails
      rw [← tails]
      simp
    exact absurd (areDots ':' colon) (by decide)
  · have heads := congrArg List.head? tails
    rw [String.toList_append] at heads
    exact absurd (Option.some.inj heads) (by decide)

/-- Some dots end with as many or fewer. -/
private theorem dots_suffix {dots : String} (areDots : ∀ char ∈ dots.toList, char = '.')
    {count : Nat} (enough : count ≤ dots.toList.length) :
    List.replicate count '.' <:+ dots.toList := by
  have all : dots.toList = List.replicate dots.toList.length '.' :=
    List.eq_replicate_iff.mpr ⟨rfl, areDots⟩
  refine ⟨List.replicate (dots.toList.length - count) '.', ?_⟩
  rw [List.replicate_append_replicate, Nat.sub_add_cancel enough, ← all]

/-- Lowercasing keeps the dots at the end of a text. -/
private theorem dots_lower {text : String} {dots : List Char}
    (areDots : ∀ char ∈ dots, char = '.') :
    dots <:+ (toAsciiLowercase text).toList ↔ dots <:+ text.toList := by
  rw [toAsciiLowercase, String.toList_ofList]
  constructor
  · rintro ⟨front, parts⟩
    obtain ⟨before, last, whole, -, isLast⟩ := List.map_eq_append_iff.mp parts.symm
    have kept : ∀ char ∈ last, char.toLower = id char := by
      intro char member
      have isDot : char.toLower = '.' :=
        areDots _ (isLast ▸ List.mem_map_of_mem member)
      rw [isDot]
      exact ((toLower_eq_iff (by decide) (by decide)).mp isDot).symm
    rw [List.map_congr_left kept, List.map_id] at isLast
    exact ⟨before, by rw [whole, isLast]⟩
  · rintro ⟨front, parts⟩
    have kept : ∀ char ∈ dots, char.toLower = id char := by
      intro char member
      rw [areDots char member]
      decide
    refine ⟨front.map Char.toLower, ?_⟩
    rw [← parts, List.map_append, List.map_congr_left kept, List.map_id]

private theorem colon_lower {text : String} :
    ':' ∈ (toAsciiLowercase text).toList ↔ ':' ∈ text.toList := by
  rw [toAsciiLowercase, String.toList_ofList, List.mem_map]
  constructor
  · rintro ⟨char, member, isColon⟩
    rwa [← (toLower_eq_iff (by decide) (by decide)).mp isColon]
  · exact fun member => ⟨':', member, by decide⟩

private theorem colon_of_port (isPort : IsPort port) (nonempty : port ≠ "") :
    ':' ∈ port.toList := by
  obtain rfl | ⟨digits, -, -, rfl⟩ := isPort
  · exact absurd rfl nonempty
  · simp

/-- What names the host ends neither with two dots nor with a dot behind a port. -/
private theorem named_regular (served : ServedName fqdn) (isDot : dot = "" ∨ dot = ".")
    (isPort : IsPort port) :
    ¬ ['.', '.'] <:+ (fqdn ++ dot ++ port).toList ∧
      ¬ (':' ∈ (fqdn ++ dot ++ port).toList ∧ ['.'] <:+ (fqdn ++ dot ++ port).toList) := by
  have one : (['.'] : List Char) <:+ ['.', '.'] := ⟨['.'], rfl⟩
  rw [String.toList_append]
  by_cases none : port = ""
  · rw [none, String.toList_empty, List.append_nil]
    obtain rfl | rfl := isDot
    · rw [String.append_empty]
      have undotted := last_of_name served.isName
      exact ⟨fun two => undotted (one.trans two), fun both => undotted both.2⟩
    · rw [String.toList_append]
      refine ⟨?_, ?_⟩
      · rintro ⟨front, parts⟩
        refine last_of_name served.isName ⟨front, ?_⟩
        have split : (front ++ ['.']) ++ ['.'] = fqdn.toList ++ ".".toList := by
          rw [← parts]
          simp
        exact List.append_cancel_right split
      · rintro ⟨colon, -⟩
        rw [List.mem_append] at colon
        rcases colon with inName | inDot
        · exact served.isName.not_mem (by decide) inName
        · exact absurd (List.mem_singleton.mp inDot) (by decide)
  · have undotted := last_of_port isPort none (fqdn ++ dot).toList
    exact ⟨fun two => undotted (one.trans two), fun both => undotted both.2⟩

private theorem named_of_lower (served : ServedName fqdn) (isDot : dot = "" ∨ dot = ".")
    (isPort : IsPort port) (encoded : trimOws value = utf8 (seenHost value))
    (lower : toAsciiLowercase (seenHost value) = fqdn ++ dot ++ port) : NamesHost fqdn value := by
  refine ⟨dot, port, isDot, isPort, ?_⟩
  rw [bytesEqIgnoreAsciiCase, beq_iff_eq, encoded, ← utf8_toAsciiLowercase,
    ← utf8_toAsciiLowercase, lower, (named_plain served isDot isPort).1]

/-- The responder reads a value right unless it is of the misread ones. -/
theorem host_judged_iff (served : ServedName fqdn) :
    (hostMatchesFqdn (seenHost value) fqdn = true ↔ NamesHost fqdn value) ↔
      ¬ Misread fqdn value := by
  have two : ∀ char ∈ ['.', '.'], char = '.' := by decide
  have one : ∀ char ∈ ['.'], char = '.' := by decide
  constructor
  · rintro same (⟨port, isPort, nonempty, named⟩ | ⟨accepted, odd⟩)
    · obtain ⟨-, lower⟩ := seenHost_of_named served (.inr rfl) isPort named
      obtain ⟨other, dots, isOther, areDots, isLower⟩ :=
        (hostMatchesFqdn_iff served).mp (same.mpr ⟨".", port, .inr rfl, isPort, named⟩)
      exact dotted_ne isPort nonempty isOther areDots (lower.symm.trans isLower)
    · obtain ⟨dot, port, isDot, isPort, named⟩ := same.mp accepted
      obtain ⟨encoded, lower⟩ := seenHost_of_named served isDot isPort named
      rw [← dots_lower two, ← dots_lower one, ← colon_lower, lower] at odd
      obtain ⟨notTwo, notBoth⟩ := named_regular served isDot isPort
      rcases odd with other | isTwo | isBoth
      · exact other encoded.symm
      · exact notTwo isTwo
      · exact notBoth isBoth
  · intro regular
    constructor
    · intro accepted
      have plain : ¬ (trimOws value ≠ utf8 (seenHost value) ∨
          ['.', '.'] <:+ (seenHost value).toList ∨
            ':' ∈ (seenHost value).toList ∧ ['.'] <:+ (seenHost value).toList) :=
        fun odd => regular (.inr ⟨accepted, odd⟩)
      obtain ⟨port, dots, isPort, areDots, lower⟩ := (hostMatchesFqdn_iff served).mp accepted
      rw [← dots_lower two, ← dots_lower one, ← colon_lower, lower, not_or, not_or, not_not]
        at plain
      obtain ⟨encoded, notTwo, notBoth⟩ := plain
      have ends : dots.toList <:+ (fqdn ++ port ++ dots).toList := by
        rw [String.toList_append]
        exact List.suffix_append _ _
      by_cases none : port = ""
      · have atMostOne : dots.toList.length ≤ 1 := by
          by_contra several
          exact notTwo ((dots_suffix areDots (Nat.lt_of_not_le several)).trans ends)
        have isDot : dots = "" ∨ dots = "." := by
          have all : dots.toList = List.replicate dots.toList.length '.' :=
            List.eq_replicate_iff.mpr ⟨rfl, areDots⟩
          rcases Nat.le_one_iff_eq_zero_or_eq_one.mp atMostOne with zero | single
          · exact .inl (String.toList_inj.mp (by rw [all, zero]; rfl))
          · exact .inr (String.toList_inj.mp (by rw [all, single]; rfl))
        refine named_of_lower served isDot (.inl rfl) encoded ?_
        rw [lower, none, String.append_empty, String.append_empty]
      · have undotted : dots = "" := by
          by_contra dotted
          have some : 1 ≤ dots.toList.length := List.length_pos_iff.mpr
            fun empty => dotted (String.toList_inj.mp empty)
          refine notBoth ⟨?_, (dots_suffix areDots some).trans ends⟩
          rw [String.toList_append, String.toList_append, List.mem_append, List.mem_append]
          exact .inl (.inr (colon_of_port isPort none))
        refine named_of_lower served (.inl rfl) isPort encoded ?_
        rw [lower, undotted, String.append_empty, String.append_empty]
    · rintro ⟨dot, port, isDot, isPort, named⟩
      obtain ⟨-, lower⟩ := seenHost_of_named served isDot isPort named
      rw [hostMatchesFqdn_iff served]
      obtain rfl | rfl := isDot
      · refine ⟨port, "", isPort, ?_, ?_⟩
        · exact fun _ member => nomatch member
        · rw [lower, String.append_empty, String.append_empty]
      · by_cases none : port = ""
        · refine ⟨"", ".", .inl rfl, by decide, ?_⟩
          rw [lower, none, String.append_empty, String.append_empty]
        · exact absurd (.inl ⟨port, isPort, none, named⟩) regular

end

end Oxo.Edge.Acme
