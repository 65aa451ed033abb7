import Mathlib.Data.List.DropRight
import Oxo.Foundation.Utf8

/-!
Contract: the string operations of the source language, over Lean strings.

Owns: ASCII lowercasing of strings and of their bytes, case-insensitive
comparison, trimming of Unicode white space, splitting at a character, prefix
tests, and the agreement of the byte-level and the character-level versions.

Does not own: any particular header, separator or token.
-/

namespace Oxo.Foundation

/-! ## Letter case -/

def toAsciiLowercase (text : String) : String :=
  String.ofList (text.toList.map Char.toLower)

def eqIgnoreAsciiCase (left right : String) : Bool :=
  toAsciiLowercase left == toAsciiLowercase right

def isAsciiUppercase (byte : UInt8) : Bool :=
  0x41 ≤ byte && byte ≤ 0x5a

/-- `u8::to_ascii_lowercase`. -/
def byteToAsciiLowercase (byte : UInt8) : UInt8 :=
  if isAsciiUppercase byte then byte + 0x20 else byte

/-- `<[u8]>::eq_ignore_ascii_case`. -/
def bytesEqIgnoreAsciiCase (left right : List UInt8) : Bool :=
  left.map byteToAsciiLowercase == right.map byteToAsciiLowercase

theorem toLower_toNat (char : Char) :
    char.toLower.toNat =
      if 65 ≤ char.toNat ∧ char.toNat ≤ 90 then char.toNat + 32 else char.toNat := by
  have range : (char.val ≥ 'A'.val ∧ char.val ≤ 'Z'.val) ↔
      65 ≤ char.toNat ∧ char.toNat ≤ 90 := by
    simp only [ge_iff_le, UInt32.le_iff_toNat_le]
    exact Iff.rfl
  unfold Char.toLower
  split
  · rename_i upper
    have bounds := range.mp upper
    rw [if_pos bounds]
    have value : (char.val + ('a'.val - 'A'.val)).toNat = char.toNat + 32 := by
      rw [UInt32.toNat_add]
      change (char.toNat + 32) % 2 ^ 32 = _
      omega
    exact value
  · rename_i notUpper
    rw [if_neg (fun bounds => notUpper (range.mpr bounds))]

private theorem toLower_idem (char : Char) : char.toLower.toLower = char.toLower := by
  apply Char.toNat_inj.mp
  rw [toLower_toNat char.toLower, toLower_toNat char]
  split_ifs <;> omega

@[simp] theorem toAsciiLowercase_idem (text : String) :
    toAsciiLowercase (toAsciiLowercase text) = toAsciiLowercase text := by
  simp only [toAsciiLowercase, String.toList_ofList, List.map_map]
  congr 1
  apply List.map_congr_left
  intro char _
  exact toLower_idem char

private theorem byteToAsciiLowercase_of_not_upper {byte : UInt8}
    (notUpper : isAsciiUppercase byte = false) : byteToAsciiLowercase byte = byte := by
  simp [byteToAsciiLowercase, notUpper]

private theorem isAsciiUppercase_iff (byte : UInt8) :
    isAsciiUppercase byte = true ↔ 65 ≤ byte.toNat ∧ byte.toNat ≤ 90 := by
  simp [isAsciiUppercase, UInt8.le_iff_toNat_le]

/-- A non-ASCII character has no ASCII byte in its encoding, so lowercasing its
bytes changes nothing. -/
private theorem encodeChar_toLower (char : Char) :
    String.utf8EncodeChar char.toLower =
      (String.utf8EncodeChar char).map byteToAsciiLowercase := by
  by_cases ascii : char.toNat ≤ 127
  · have lowerNat := toLower_toNat char
    have lowerAscii : char.toLower.toNat ≤ 127 := by
      rw [lowerNat]
      split <;> omega
    have encoded : ∀ other : Char, other.toNat ≤ 127 →
        String.utf8EncodeChar other = [UInt8.ofNat other.toNat] := by
      intro other small
      exact if_pos small
    rw [encoded _ ascii, encoded _ lowerAscii, lowerNat, List.map_singleton]
    congr 1
    have byteNat := toNat_asciiByte (show char.toNat < 128 by omega)
    have upper := isAsciiUppercase_iff (UInt8.ofNat char.toNat)
    rw [byteNat] at upper
    unfold byteToAsciiLowercase
    by_cases isUpper : 65 ≤ char.toNat ∧ char.toNat ≤ 90
    · rw [if_pos isUpper, if_pos (upper.mpr isUpper), UInt8.ofNat_add]
      rfl
    · rw [if_neg isUpper, if_neg (fun holds => isUpper (upper.mp holds))]
  · have sameChar : char.toLower = char := by
      apply Char.toNat_inj.mp
      rw [toLower_toNat, if_neg (by omega)]
    rw [sameChar]
    conv_lhs => rw [← List.map_id (String.utf8EncodeChar char)]
    apply List.map_congr_left
    intro byte member
    change byte = byteToAsciiLowercase byte
    refine (byteToAsciiLowercase_of_not_upper ?_).symm
    rw [Bool.eq_false_iff, Ne, isAsciiUppercase_iff]
    intro bounds
    have small : byte < 0x80 := by
      rw [UInt8.lt_iff_toNat_lt]
      change byte.toNat < 128
      omega
    have := (ascii_mem_encodeChar small char).mp member
    omega

/-- Lowercasing a string lowercases its bytes. -/
theorem utf8_toAsciiLowercase (text : String) :
    utf8 (toAsciiLowercase text) = (utf8 text).map byteToAsciiLowercase := by
  simp only [utf8_eq_flatMap, toAsciiLowercase, String.toList_ofList, List.flatMap_map,
    List.map_flatMap, encodeChar_toLower]

/-- A string without an uppercase ASCII byte is its own lowercase form. -/
theorem toAsciiLowercase_of_no_uppercase {text : String}
    (noUppercase : (utf8 text).any isAsciiUppercase = false) : toAsciiLowercase text = text := by
  apply utf8_injective
  rw [utf8_toAsciiLowercase]
  conv_rhs => rw [← List.map_id (utf8 text)]
  apply List.map_congr_left
  intro byte member
  apply byteToAsciiLowercase_of_not_upper
  simpa using List.any_eq_false.mp noUppercase byte member

/-- Texts equal up to case have the same characters outside the letters. -/
theorem mem_of_eqIgnoreAsciiCase {left right : String} {char : Char}
    (same : eqIgnoreAsciiCase left right = true)
    (upper : ¬ (65 ≤ char.toNat ∧ char.toNat ≤ 90)) (lower : ¬ (97 ≤ char.toNat ∧ char.toNat ≤ 122))
    (member : char ∈ left.toList) : char ∈ right.toList := by
  have mapped : left.toList.map Char.toLower = right.toList.map Char.toLower := by
    have texts := congrArg String.toList (beq_iff_eq.mp same)
    rwa [toAsciiLowercase, toAsciiLowercase, String.toList_ofList, String.toList_ofList] at texts
  have inRight : char.toLower ∈ right.toList.map Char.toLower := by
    rw [← mapped]
    exact List.mem_map_of_mem member
  obtain ⟨other, otherMember, lowered⟩ := List.mem_map.mp inRight
  have sameCode : other.toLower.toNat = char.toLower.toNat := by rw [lowered]
  rw [toLower_toNat, toLower_toNat, if_neg upper] at sameCode
  have notUpper : ¬ (65 ≤ other.toNat ∧ other.toNat ≤ 90) := by
    intro isUpper
    rw [if_pos isUpper] at sameCode
    omega
  rw [if_neg notUpper] at sameCode
  rwa [← Char.toNat_inj.mp sameCode]

theorem length_of_eqIgnoreAsciiCase {left right : String}
    (same : eqIgnoreAsciiCase left right = true) : left.toList.length = right.toList.length := by
  have texts := congrArg (fun text => text.toList.length) (beq_iff_eq.mp same)
  simpa only [toAsciiLowercase, String.toList_ofList, List.length_map] using texts

/-! ## Prefixes -/

def startsWith (text head : String) : Bool :=
  head.toList.isPrefixOf text.toList

/-- A character's encoding opens a byte string for at most one character. -/
private theorem encodeChar_append_inj {left right : Char} {leftTail rightTail : List UInt8}
    (same : String.utf8EncodeChar left ++ leftTail = String.utf8EncodeChar right ++ rightTail) :
    left = right ∧ leftTail = rightTail := by
  have decoded : ∀ (char : Char) (tail : List UInt8),
      (String.utf8EncodeChar char ++ tail).toByteArray.utf8DecodeChar? 0 = some char := by
    intro char tail
    rw [List.toByteArray_append]
    exact ByteArray.utf8DecodeChar?_utf8EncodeChar_append
  have sameChar : left = right := by
    have leftDecoded := decoded left leftTail
    rw [same, decoded right rightTail] at leftDecoded
    exact (Option.some_inj.mp leftDecoded).symm
  subst sameChar
  exact ⟨rfl, List.append_cancel_left same⟩

private theorem flatMap_encodeChar_prefix_iff (head text : List Char) :
    head.flatMap String.utf8EncodeChar <+: text.flatMap String.utf8EncodeChar ↔
      head <+: text := by
  induction head generalizing text with
  | nil => simp
  | cons char head inductionHypothesis =>
      cases text with
      | nil =>
          have nonempty : String.utf8EncodeChar char ≠ [] := by
            intro empty
            have size := String.length_utf8EncodeChar char
            rw [empty] at size
            exact absurd size.symm (Nat.ne_of_gt char.utf8Size_pos)
          simp [nonempty]
      | cons other text =>
          simp only [List.flatMap_cons, List.cons_prefix_cons, ← inductionHypothesis]
          constructor
          · rintro ⟨tail, same⟩
            rw [List.append_assoc] at same
            obtain ⟨sameChar, sameTail⟩ := encodeChar_append_inj same
            exact ⟨sameChar, tail, sameTail⟩
          · rintro ⟨rfl, tail, sameTail⟩
            exact ⟨tail, by rw [List.append_assoc, sameTail]⟩

/-- A string opens with another exactly when its bytes do. -/
theorem utf8_isPrefixOf (text head : String) :
    (utf8 head).isPrefixOf (utf8 text) = startsWith text head := by
  rw [Bool.eq_iff_iff, List.isPrefixOf_iff_prefix, startsWith, List.isPrefixOf_iff_prefix,
    utf8_eq_flatMap, utf8_eq_flatMap]
  exact flatMap_encodeChar_prefix_iff head.toList text.toList

/-! ## White space and separators -/

/-- The Unicode `White_Space` property. -/
def isWhitespace (char : Char) : Bool :=
  let code := char.toNat
  (0x09 ≤ code && code ≤ 0x0d) || code == 0x20 || code == 0x85 || code == 0xa0 ||
    code == 0x1680 || (0x2000 ≤ code && code ≤ 0x200a) || code == 0x2028 || code == 0x2029 ||
    code == 0x202f || code == 0x205f || code == 0x3000

theorem isDigit_iff {char : Char} :
    char.isDigit = true ↔ 48 ≤ char.toNat ∧ char.toNat ≤ 57 :=
  Char.isDigit_iff_toNat

theorem isWhitespace_of_isDigit {char : Char} (digit : char.isDigit = true) :
    isWhitespace char = false := by
  have bounds := isDigit_iff.mp digit
  simp only [isWhitespace, Bool.or_eq_false_iff, Bool.and_eq_false_iff, decide_eq_false_iff_not,
    beq_eq_false_iff_ne]
  omega

/-- Drop the characters of a class from both ends. -/
def trimMatches (inClass : Char → Bool) (text : String) : String :=
  String.ofList ((text.toList.dropWhile inClass).rdropWhile inClass)

/-- Drop the characters of a class from the end. -/
def trimEndMatches (inClass : Char → Bool) (text : String) : String :=
  String.ofList (text.toList.rdropWhile inClass)

def trim (text : String) : String :=
  trimMatches isWhitespace text

theorem trimMatches_cons {inClass : Char → Bool} {char : Char} (blank : inClass char = true)
    (text : List Char) :
    trimMatches inClass (String.ofList (char :: text)) =
      trimMatches inClass (String.ofList text) := by
  unfold trimMatches
  rw [String.toList_ofList, String.toList_ofList, List.dropWhile_cons, if_pos blank]

private theorem mem_dropWhile {α : Type} {drops : α → Bool} {items : List α} {item : α}
    (member : item ∈ items) (kept : drops item = false) : item ∈ items.dropWhile drops := by
  rw [← List.takeWhile_append_dropWhile (p := drops) (l := items), List.mem_append] at member
  rcases member with dropped | remains
  · rw [List.mem_takeWhile_imp dropped] at kept
    cases kept
  · exact remains

/-- Trimming keeps every character outside the class. -/
theorem mem_trimMatches {inClass : Char → Bool} {text : String} {char : Char}
    (member : char ∈ text.toList) (kept : inClass char = false) :
    char ∈ (trimMatches inClass text).toList := by
  rw [trimMatches, String.toList_ofList, List.rdropWhile, List.mem_reverse]
  apply mem_dropWhile _ kept
  rw [List.mem_reverse]
  exact mem_dropWhile member kept

theorem mem_of_mem_trimMatches {inClass : Char → Bool} {text : String} {char : Char}
    (member : char ∈ (trimMatches inClass text).toList) : char ∈ text.toList := by
  rw [trimMatches, String.toList_ofList] at member
  exact List.dropWhile_subset _ ((List.rdropWhile_prefix _ _).subset member)

theorem mem_trimEndMatches {inClass : Char → Bool} {text : String} {char : Char}
    (member : char ∈ text.toList) (kept : inClass char = false) :
    char ∈ (trimEndMatches inClass text).toList := by
  rw [trimEndMatches, String.toList_ofList, List.rdropWhile, List.mem_reverse]
  apply mem_dropWhile _ kept
  rwa [List.mem_reverse]

theorem trimMatches_eq_self {inClass : Char → Bool} {text : String}
    (plain : ∀ char ∈ text.toList, inClass char = false) : trimMatches inClass text = text := by
  have front : text.toList.dropWhile inClass = text.toList := by
    rw [List.dropWhile_eq_self_iff]
    intro nonempty
    rw [plain _ (List.getElem_mem nonempty)]
    exact Bool.false_ne_true
  have back : text.toList.rdropWhile inClass = text.toList := by
    rw [List.rdropWhile_eq_self_iff]
    intro nonempty
    rw [plain _ (List.getLast_mem nonempty)]
    exact Bool.false_ne_true
  rw [trimMatches, front, back, String.ofList_toList]

/-- The pieces between the separators; one piece more than separators. -/
def split (text : String) (separator : Char) : List String :=
  (text.toList.splitOn separator).map String.ofList

private theorem splitOn_map {change : Char → Char} {separator : Char} {chars : List Char}
    (kept : ∀ char, (change char == separator) = (char == separator)) :
    (chars.map change).splitOn separator = (chars.splitOn separator).map (List.map change) := by
  induction chars with
  | nil => rfl
  | cons char rest inductionHypothesis =>
      rw [List.map_cons, List.splitOn_cons_eq_if_modifyHead, List.splitOn_cons_eq_if_modifyHead,
        kept, inductionHypothesis]
      split
      · rfl
      · cases rest.splitOn separator <;> rfl

/-- Lowercasing keeps the pieces between separators that are no letters. -/
theorem split_toAsciiLowercase (text : String) {separator : Char}
    (upper : ¬ (65 ≤ separator.toNat ∧ separator.toNat ≤ 90))
    (lower : ¬ (97 ≤ separator.toNat ∧ separator.toNat ≤ 122)) :
    split (toAsciiLowercase text) separator = (split text separator).map toAsciiLowercase := by
  have kept : ∀ char : Char, (char.toLower == separator) = (char == separator) := by
    intro char
    rw [Bool.eq_iff_iff, beq_iff_eq, beq_iff_eq, ← Char.toNat_inj, ← Char.toNat_inj, toLower_toNat]
    split_ifs with isUpper
    · omega
    · rfl
  rw [split, split, toAsciiLowercase, String.toList_ofList, splitOn_map kept, List.map_map,
    List.map_map]
  refine List.map_congr_left fun piece _ => ?_
  rw [Function.comp_apply, Function.comp_apply, toAsciiLowercase, String.toList_ofList]

private theorem mem_intercalate {separator char : Char} {pieces : List (List Char)}
    (member : char ∈ [separator].intercalate pieces) :
    char = separator ∨ ∃ piece ∈ pieces, char ∈ piece := by
  induction pieces with
  | nil => cases member
  | cons piece rest inductionHypothesis =>
      cases rest with
      | nil =>
          rw [List.intercalate_singleton] at member
          exact .inr ⟨piece, List.mem_singleton_self piece, member⟩
      | cons next rest =>
          rw [List.intercalate_cons_cons, List.mem_append, List.mem_append,
            List.mem_singleton] at member
          rcases member with (here | isSeparator) | later
          · exact .inr ⟨piece, List.mem_cons_self, here⟩
          · exact .inl isSeparator
          · obtain same | ⟨other, otherMember, inOther⟩ := inductionHypothesis later
            · exact .inl same
            · exact .inr ⟨other, List.mem_cons_of_mem _ otherMember, inOther⟩

/-- Every character but the separators is in a piece. -/
theorem mem_split {text : String} {separator char : Char} (member : char ∈ text.toList)
    (other : char ≠ separator) : ∃ piece ∈ split text separator, char ∈ piece.toList := by
  have joined : [separator].intercalate (text.toList.splitOn separator) = text.toList :=
    List.intercalate_splitOn separator
  rw [← joined] at member
  obtain same | ⟨piece, pieceMember, inPiece⟩ := mem_intercalate member
  · exact absurd same other
  · exact ⟨String.ofList piece, List.mem_map_of_mem pieceMember, by rwa [String.toList_ofList]⟩

/-- The text before and after the first separator. -/
def splitOnce (text : String) (separator : Char) : Option (String × String) :=
  match text.toList.dropWhile (· ≠ separator) with
  | [] => none
  | _ :: rest =>
      some (String.ofList (text.toList.takeWhile (· ≠ separator)), String.ofList rest)

theorem splitOnce_eq_some {text before after : String} {separator : Char} :
    splitOnce text separator = some (before, after) ↔
      text.toList = before.toList ++ separator :: after.toList ∧ separator ∉ before.toList := by
  have takes : ∀ char ∈ text.toList.takeWhile (· ≠ separator), char ≠ separator := by
    intro char member
    simpa using List.mem_takeWhile_imp member
  constructor
  · intro found
    unfold splitOnce at found
    split at found
    · cases found
    · rename_i head rest dropped
      cases found
      have isSeparator : head = separator := by
        have stops := List.head?_dropWhile_not (· ≠ separator) text.toList
        rw [dropped] at stops
        simpa using stops
      rw [String.toList_ofList, String.toList_ofList]
      refine ⟨?_, fun member => takes separator member rfl⟩
      rw [← isSeparator, ← dropped, isSeparator, List.takeWhile_append_dropWhile]
  · rintro ⟨parts, absent⟩
    have passes : ∀ char ∈ before.toList, decide (char ≠ separator) = true := by
      intro char member
      exact decide_eq_true fun same => absent (same ▸ member)
    have stops : ¬ (fun char => decide (char ≠ separator)) separator = true := by simp
    unfold splitOnce
    rw [parts, List.dropWhile_append_of_pos passes, List.takeWhile_append_of_pos passes,
      List.dropWhile_cons, List.takeWhile_cons, if_neg stops, if_neg stops, List.append_nil]
    simp only [String.ofList_toList]

theorem splitOnce_eq_none {text : String} {separator : Char} :
    splitOnce text separator = none ↔ separator ∉ text.toList := by
  unfold splitOnce
  split
  · rename_i dropped
    rw [List.dropWhile_eq_nil_iff] at dropped
    exact iff_of_true rfl fun member => of_decide_eq_true (dropped separator member) rfl
  · rename_i head rest dropped
    refine iff_of_false (fun found => nomatch found) fun absent => ?_
    have passes : ∀ char ∈ text.toList, decide (char ≠ separator) = true := by
      intro char member
      exact decide_eq_true fun same => absent (same ▸ member)
    rw [List.dropWhile_eq_nil_iff.mpr passes] at dropped
    cases dropped

/-- The text before and after the last separator. -/
def rsplitOnce (text : String) (separator : Char) : Option (String × String) :=
  match text.toList.reverse.dropWhile (· ≠ separator) with
  | [] => none
  | _ :: before =>
      some (String.ofList before.reverse,
        String.ofList (text.toList.reverse.takeWhile (· ≠ separator)).reverse)

/-- The characters before and after the first occurrence of a needle. -/
def splitOnceAt (needle : List Char) : List Char → Option (List Char × List Char)
  | [] => if needle = [] then some ([], []) else none
  | char :: rest =>
      if needle.isPrefixOf (char :: rest) then some ([], (char :: rest).drop needle.length)
      else (splitOnceAt needle rest).map fun parts => (char :: parts.1, parts.2)

/-- `str::split_once` at a text. -/
def splitOnceText (text needle : String) : Option (String × String) :=
  (splitOnceAt needle.toList text.toList).map fun parts =>
    (String.ofList parts.1, String.ofList parts.2)

/-- `str::contains` of a text. -/
def containsText (text needle : String) : Bool :=
  decide (needle.toList <:+: text.toList)

/-- `str::split` at each carriage return and line feed. -/
def splitLines : List Char → List (List Char)
  | [] => [[]]
  | '\r' :: '\n' :: rest => [] :: splitLines rest
  | char :: rest =>
      match splitLines rest with
      | [] => [[char]]
      | line :: lines => (char :: line) :: lines

/-- A line without a carriage return ends at the first line break. -/
theorem splitLines_line {line : List Char} (plain : '\r' ∉ line) (rest : List Char) :
    splitLines (line ++ '\r' :: '\n' :: rest) = line :: splitLines rest := by
  induction line with
  | nil => rfl
  | cons char line inductionHypothesis =>
      rw [List.mem_cons, not_or] at plain
      obtain ⟨notReturn, plainRest⟩ := plain
      have step : splitLines (char :: (line ++ '\r' :: '\n' :: rest)) =
          match splitLines (line ++ '\r' :: '\n' :: rest) with
          | [] => [[char]]
          | line :: lines => (char :: line) :: lines := by
        rw [splitLines.eq_def]
        split
        · rename_i empty
          cases empty
        · rename_i opened
          exact absurd (List.cons.inj opened).1.symm notReturn
        · rename_i other otherRest _ opened
          obtain ⟨sameChar, sameRest⟩ := List.cons.inj opened
          rw [sameChar, sameRest]
      rw [List.cons_append, step, inductionHypothesis plainRest]

/-! ## Tokens -/

def isAsciiAlphanumeric (byte : UInt8) : Bool :=
  (0x30 ≤ byte && byte ≤ 0x39) || (0x41 ≤ byte && byte ≤ 0x5a) || (0x61 ≤ byte && byte ≤ 0x7a)

/-- The bytes of an HTTP token. -/
def isTokenByte (byte : UInt8) : Bool :=
  isAsciiAlphanumeric byte ||
    [33, 35, 36, 37, 38, 39, 42, 43, 45, 46, 94, 95, 96, 124, 126].contains byte

theorem getToken : "GET" ≠ "" ∧ (utf8 "GET").all isTokenByte = true := by decide

/-- The characters of a token are ASCII and of the token class. -/
theorem token_char {text : String} (token : (utf8 text).all isTokenByte = true) {char : Char}
    (member : char ∈ text.toList) :
    char.toNat < 128 ∧ isTokenByte (UInt8.ofNat char.toNat) = true := by
  have bytesToken : ∀ byte ∈ utf8 text, isTokenByte byte = true := List.all_eq_true.mp token
  have tokenSmall : ∀ byte : UInt8, isTokenByte byte = true → byte < 0x80 := by
    decide +kernel
  have small := ascii_of_utf8 (fun byte inText => tokenSmall byte (bytesToken byte inText)) member
  exact ⟨small, bytesToken _ (asciiByte_mem_utf8 member small)⟩

/-- A character outside the token class is not in a token. -/
theorem not_mem_token {text : String} (token : (utf8 text).all isTokenByte = true) {char : Char}
    (outside : char.toNat < 128 → isTokenByte (UInt8.ofNat char.toNat) = false) :
    char ∉ text.toList := by
  intro member
  obtain ⟨small, isToken⟩ := token_char token member
  rw [outside small] at isToken
  cases isToken

/-- No white space ends a token. -/
theorem isWhitespace_of_token {text : String} (token : (utf8 text).all isTokenByte = true)
    {char : Char} (member : char ∈ text.toList) : isWhitespace char = false := by
  obtain ⟨small, isToken⟩ := token_char token member
  have all : ∀ code < 128, isTokenByte (UInt8.ofNat code) = true →
      isWhitespace (Char.ofNat code) = false := by
    decide +kernel
  have found := all char.toNat small isToken
  rwa [Char.ofNat_toNat] at found

/-! ## Numbers -/

/-- `char::to_digit`. -/
def toDigit (radix : Nat) (char : Char) : Option Nat :=
  let code := char.toNat
  let digit :=
    if 48 ≤ code ∧ code ≤ 57 then some (code - 48)
    else if 97 ≤ code ∧ code ≤ 122 then some (code - 87)
    else if 65 ≤ code ∧ code ≤ 90 then some (code - 55)
    else none
  digit.filter (· < radix)

/-- The number a digit string writes in the radix. -/
def digitsValue (radix : Nat) (digits : List Char) : Nat :=
  digits.foldl (fun total char => total * radix + (toDigit radix char).getD 0) 0

/-- `str::parse` of an unsigned integer below `limit`: an optional `+`, then
decimal digits, without overflow. -/
def parseUnsigned (limit : Nat) (text : String) : Option Nat :=
  let digits := match text.toList with
    | '+' :: rest => rest
    | chars => chars
  if digits = [] ∨ digits.any (fun char => (toDigit 10 char).isNone) then none
  else if digitsValue 10 digits < limit then some (digitsValue 10 digits)
  else none

/-- The digits of a number, as it prints. -/
def numeral (radix value : Nat) : String :=
  String.ofList (Nat.toDigits radix value)

theorem toDigit_of_isDigit {char : Char} (digit : char.isDigit = true) :
    toDigit 10 char = some (char.toNat - 48) := by
  have bounds := isDigit_iff.mp digit
  have small : char.toNat - 48 < 10 := by omega
  simp only [toDigit, if_pos bounds, Option.filter_some, small, decide_true, ↓reduceIte]

theorem isDigit_of_toDigit {char : Char} (digit : (toDigit 10 char).isSome = true) :
    char.isDigit = true := by
  by_cases decimal : 48 ≤ char.toNat ∧ char.toNat ≤ 57
  · exact isDigit_iff.mpr decimal
  · simp only [toDigit, if_neg decimal] at digit
    split_ifs at digit
    · simp only [Option.filter_some] at digit
      split_ifs at digit with small
      · simp only [decide_eq_true_eq] at small
        omega
      · cases digit
    · simp only [Option.filter_some] at digit
      split_ifs at digit with small
      · simp only [decide_eq_true_eq] at small
        omega
      · cases digit
    · cases digit

private theorem digitsValue_of_isDigit {digits : List Char}
    (all : ∀ char ∈ digits, char.isDigit = true) (total : Nat) :
    digits.foldl (fun total char => total * 10 + (toDigit 10 char).getD 0) total =
      Nat.ofDigitChars 10 digits total := by
  induction digits generalizing total with
  | nil => rfl
  | cons char rest inductionHypothesis =>
      obtain ⟨isDigit, restDigits⟩ := List.forall_mem_cons.mp all
      rw [List.foldl_cons, Nat.ofDigitChars_cons, inductionHypothesis restDigits,
        toDigit_of_isDigit isDigit, Nat.mul_comm]
      rfl

theorem numeral_digits {value : Nat} {char : Char} (member : char ∈ (numeral 10 value).toList) :
    char.isDigit = true := by
  rw [numeral, String.toList_ofList] at member
  exact Nat.isDigit_of_mem_toDigits (by decide) (by decide) member

/-- A printed number parses back, below the limit. -/
theorem parseUnsigned_numeral {limit value : Nat} (below : value < limit) :
    parseUnsigned limit (numeral 10 value) = some value := by
  have digits : ∀ char ∈ Nat.toDigits 10 value, char.isDigit = true := by
    intro char member
    exact Nat.isDigit_of_mem_toDigits (by decide) (by decide) member
  have unsigned : (match Nat.toDigits 10 value with
      | '+' :: rest => rest
      | chars => chars) = Nat.toDigits 10 value := by
    split
    · rename_i rest opened
      have plus : '+' ∈ Nat.toDigits 10 value := by
        rw [opened]
        simp
      exact absurd (digits '+' plus) (by decide)
    · rfl
  have allDigits : ¬ (Nat.toDigits 10 value = [] ∨
      (Nat.toDigits 10 value).any (fun char => (toDigit 10 char).isNone) = true) := by
    intro bad
    rcases bad with empty | notDigit
    · exact Nat.toDigits_ne_nil empty
    · obtain ⟨char, member, none⟩ := List.any_eq_true.mp notDigit
      rw [toDigit_of_isDigit (digits char member)] at none
      cases none
  have valueEq : digitsValue 10 (Nat.toDigits 10 value) = value := by
    rw [digitsValue, digitsValue_of_isDigit digits, Nat.ofDigitChars_ten_toDigits]
  unfold parseUnsigned numeral
  rw [String.toList_ofList, unsigned, if_neg allDigits, valueEq, if_pos below]

/-- Digits that write the number, behind a plus sign if any. -/
def WritesNumber (text : String) (value : Nat) : Prop :=
  ∃ digits, (text = digits ∨ text = "+" ++ digits) ∧ digits ≠ "" ∧
    (∀ char ∈ digits.toList, char.isDigit = true) ∧ digitsValue 10 digits.toList = value

private theorem parseDigits_eq_some {limit value : Nat} {digits : List Char} :
    (if digits = [] ∨ digits.any (fun char => (toDigit 10 char).isNone) then none
      else if digitsValue 10 digits < limit then some (digitsValue 10 digits)
      else none) = some value ↔
      digits ≠ [] ∧ (∀ char ∈ digits, char.isDigit = true) ∧ digitsValue 10 digits = value ∧
        value < limit := by
  have decimal : digits.any (fun char => (toDigit 10 char).isNone) = false ↔
      ∀ char ∈ digits, char.isDigit = true := by
    rw [List.any_eq_false]
    refine forall₂_congr fun char _ => ?_
    rw [Bool.not_eq_true, Option.isNone_eq_false_iff]
    exact ⟨isDigit_of_toDigit, fun digit => by rw [toDigit_of_isDigit digit]; rfl⟩
  constructor
  · intro parsed
    split at parsed
    · cases parsed
    · rename_i valid
      rw [not_or, Bool.not_eq_true] at valid
      split at parsed
      · rename_i below
        cases parsed
        exact ⟨valid.1, decimal.mp valid.2, rfl, below⟩
      · cases parsed
  · rintro ⟨nonempty, digit, rfl, below⟩
    rw [if_neg (by simp [nonempty, decimal.mpr digit]), if_pos below]

theorem parseUnsigned_eq_some {limit value : Nat} {text : String} :
    parseUnsigned limit text = some value ↔ WritesNumber text value ∧ value < limit := by
  by_cases signed : ∃ rest, text.toList = '+' :: rest
  · obtain ⟨rest, opened⟩ := signed
    unfold parseUnsigned
    rw [opened]
    simp only [parseDigits_eq_some]
    constructor
    · rintro ⟨nonempty, digit, same, below⟩
      refine ⟨⟨String.ofList rest, .inr ?_, ?_, ?_, ?_⟩, below⟩
      · apply String.toList_inj.mp
        simp [opened]
      · intro empty
        exact nonempty (by simpa using congrArg String.toList empty)
      · rwa [String.toList_ofList]
      · rwa [String.toList_ofList]
    · rintro ⟨⟨digits, plain | plus, nonempty, digit, same⟩, below⟩
      · rw [plain] at opened
        exact absurd (digit '+' (by simp [opened])) (by decide)
      · have rest_eq : rest = digits.toList := by
          rw [plus, String.toList_append] at opened
          exact (List.cons.inj opened).2.symm
        rw [rest_eq]
        exact ⟨fun empty => nonempty (String.toList_inj.mp empty), digit, same, below⟩
  · have unsigned : (match text.toList with
        | '+' :: rest => rest
        | chars => chars) = text.toList := by
      split
      · rename_i rest opened
        exact absurd ⟨rest, opened⟩ signed
      · rfl
    unfold parseUnsigned
    rw [unsigned]
    simp only [parseDigits_eq_some]
    constructor
    · rintro ⟨nonempty, digit, same, below⟩
      exact ⟨⟨text, .inl rfl, fun empty => nonempty (by rw [empty]; rfl), digit, same⟩, below⟩
    · rintro ⟨⟨digits, plain | plus, nonempty, digit, same⟩, below⟩
      · rw [plain]
        exact ⟨fun empty => nonempty (String.toList_inj.mp empty), digit, same, below⟩
      · exact absurd ⟨digits.toList, by rw [plus]; simp⟩ signed

/-- Without a leading `+`, only digits parse. -/
theorem digits_of_parseUnsigned {limit value : Nat} {text : String}
    (parsed : parseUnsigned limit text = some value) (unsigned : text.toList.head? ≠ some '+') :
    text ≠ "" ∧ ∀ char ∈ text.toList, char.isDigit = true := by
  obtain ⟨⟨digits, plain | plus, nonempty, digit, -⟩, -⟩ := parseUnsigned_eq_some.mp parsed
  · rw [plain]
    exact ⟨nonempty, digit⟩
  · rw [plus] at unsigned
    simp at unsigned

end Oxo.Foundation
