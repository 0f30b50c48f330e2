import TxSubmission.Cli.Value
import TxSubmission.Proofs.CanonicalQuantity
import TxSubmission.Proofs.SmallLetters

/-!
Block parameters and the two ways to them. A caller hands over a number or a text; the command line
reads the text first and hands over a number where it finds one. Both end in the same normal form: a
tag in small letters or a canonical quantity. A text with the mark is never a tag, a decimal number
or below zero, so that the ways part only on decimal numbers, which a text does not name a block by.
-/

namespace TxSubmission

open Text Number

namespace Number

variable {c : Char} {rest : List Char}

theorem readInt_nonneg {base : Nat} {n : Int} (bare : isBare c = true)
    (read : readInt base (String.ofList (c :: rest)) = .ok n) : ∃ m : Nat, n = m := by
  simp only [readInt, literal?, String.toList_ofList, unsigned_of_isBare bare] at read
  cases found : digits? base ((body base (c :: rest)).takeWhile (isRunChar base)) with
  | none =>
    rw [found] at read
    cases read
  | some digits =>
    simp only [found, Option.map_some, literalValue] at read
    split at read
    next => cases read
    next =>
      split at read
      next =>
        cases read
        exact ⟨_, rfl⟩
      next => cases read

theorem readInt_marked_decimal {x : Char} (mark : x = 'x' ∨ x = 'X') (rest : List Char) :
    ∃ fault, readInt 10 (String.ofList ('0' :: x :: rest)) = .error fault := by
  have run : isRunChar 10 x = false ∧ isBlank x = false := by
    rcases mark with rfl | rfl
    · exact ⟨by decide, by decide⟩
    · exact ⟨by decide, by decide⟩
  have digit : isRunChar 10 '0' = true := by decide
  have unsigned := unsigned_of_isBare (c := '0') (by decide) (x :: rest)
  have found : literal? 10 ('0' :: x :: rest) = some (false, [0], x :: rest) := by
    simp only [literal?, unsigned, body]
    rw [if_neg (by decide), List.takeWhile_cons_of_pos digit,
      List.takeWhile_cons_of_neg (by simp [run.1]), List.dropWhile_cons_of_pos digit,
      List.dropWhile_cons_of_neg (by simp [run.1])]
    rfl
  refine ⟨.malformed 10 (String.ofList ('0' :: x :: rest)), ?_⟩
  simp [readInt, found, maxDecimalDigits, run.2]

end Number

namespace Text

theorem exists_of_hasHexPrefix {s : String} (seen : hasHexPrefix s = true) :
    ∃ x rest, (x = 'x' ∨ x = 'X') ∧ s = String.ofList ('0' :: x :: rest) := by
  rw [← String.ofList_toList (s := s)] at seen ⊢
  generalize s.toList = chars at seen
  rw [hasHexPrefix, String.toList_ofList] at seen
  unfold marked at seen
  split at seen
  next rest => exact ⟨'x', rest, .inl rfl, rfl⟩
  next rest => exact ⟨'X', rest, .inr rfl, rfl⟩
  next => cases seen

theorem readInt_of_hasHexPrefix {s : String} {n : Int} (seen : hasHexPrefix s = true)
    (read : readInt 16 s = .ok n) : ∃ m : Nat, n = m := by
  obtain ⟨x, rest, -, rfl⟩ := exists_of_hasHexPrefix seen
  exact readInt_nonneg (by decide) read

theorem not_hasHexPrefix_of_readInt {s : String} {n : Int} (read : readInt 10 s = .ok n) :
    hasHexPrefix s = false := by
  by_contra seen
  obtain ⟨x, rest, mark, rfl⟩ := exists_of_hasHexPrefix (Bool.not_eq_false _ ▸ seen)
  obtain ⟨fault, refused⟩ := readInt_marked_decimal mark rest
  rw [refused] at read
  cases read

end Text

namespace BlockParameter

variable {s : String}

theorem small_tags : ∀ tag ∈ tags, ∀ c ∈ tag.toList, isOwnSmall c = true := by
  have checked : ∀ tag ∈ tags, tag.toList.all isOwnSmall = true := by decide
  exact fun tag member => List.all_eq_true.mp (checked tag member)

theorem unmarked_tags : ∀ tag ∈ tags, tag.toList.head? ≠ some '0' := by decide

theorem lowered_tags : ∀ tag ∈ tags, lowered tag = tag := by decide

theorem lowered_mem_iff :
    lowered s ∈ tags ↔ ∃ tag ∈ tags, s.toList.map Char.toLower = tag.toList := by
  constructor
  · intro member
    exact ⟨lowered s, member, String.toList_ofList.symm⟩
  · rintro ⟨tag, member, same⟩
    rwa [lowered, same, String.ofList_toList]

theorem small_mem_iff : String.ofList (small s.toList) ∈ tags ↔ lowered s ∈ tags := by
  constructor
  · intro member
    have same := (small_eq_iff (small_tags _ member)).mp String.toList_ofList.symm
    exact lowered_mem_iff.mpr ⟨_, member, same⟩
  · intro member
    have same := (small_eq_iff (small_tags _ member)).mpr String.toList_ofList.symm
    rwa [same, String.ofList_toList]

theorem lowered_not_mem (seen : hasHexPrefix s = true) : lowered s ∉ tags := by
  obtain ⟨x, rest, -, rfl⟩ := exists_of_hasHexPrefix seen
  intro member
  apply unmarked_tags _ member
  rw [lowered, String.toList_ofList, String.toList_ofList]
  rfl

theorem encodeText_of_readInt {n : Nat} (seen : hasHexPrefix s = true)
    (read : readInt 16 s = .ok (n : Int)) : encodeText s = .ok (Quantity.written n) := by
  rw [encodeText, if_neg (lowered_not_mem seen), if_pos seen, Quantity.decode, read]
  rfl

theorem encodeText_of_malformed {fault : LiteralFault} (seen : hasHexPrefix s = true)
    (refused : readInt 16 s = .error fault) : encodeText s = .error (.literal fault) := by
  rw [encodeText, if_neg (lowered_not_mem seen), if_pos seen, Quantity.decode, refused]
  rfl

/-- All ways in which the encoding of a text ends. -/
inductive TextCourse (s : String) : Except Invalid String → Prop where
  | tag (member : lowered s ∈ tags) : TextCourse s (.ok (lowered s))
  | quantity (n : Nat) (seen : hasHexPrefix s = true) (read : readInt 16 s = .ok (n : Int)) :
    TextCourse s (.ok (Quantity.written n))
  | malformed (fault : LiteralFault) (seen : hasHexPrefix s = true)
    (refused : readInt 16 s = .error fault) : TextCourse s (.error (.literal fault))
  | unknown (other : lowered s ∉ tags) (unseen : hasHexPrefix s = false) :
    TextCourse s (.error (.unknownBlock s))

theorem encodeText_course (s : String) : TextCourse s (encodeText s) := by
  by_cases member : lowered s ∈ tags
  · rw [encodeText, if_pos member]
    exact .tag member
  · cases seen : hasHexPrefix s with
    | false =>
      rw [encodeText, if_neg member, if_neg (by simp [seen])]
      exact .unknown member seen
    | true =>
      cases read : readInt 16 s with
      | error fault =>
        rw [encodeText_of_malformed seen read]
        exact .malformed fault seen read
      | ok n =>
        obtain ⟨n, rfl⟩ := readInt_of_hasHexPrefix seen read
        rw [encodeText_of_readInt seen read]
        exact .quantity n seen read

theorem encodeText_written (n : Nat) :
    encodeText (Quantity.written n) = .ok (Quantity.written n) :=
  encodeText_of_readInt (Quantity.hasHexPrefix_written n) (Quantity.readInt_written n)

theorem encodeText_isOk_iff :
    (∃ text, encodeText s = .ok text) ↔
      (∃ tag ∈ tags, s.toList.map Char.toLower = tag.toList) ∨
        hasHexPrefix s = true ∧ ∃ n, readInt 16 s = .ok n := by
  rw [← lowered_mem_iff]
  constructor
  · rintro ⟨text, encoded⟩
    have course := encodeText_course s
    rw [encoded] at course
    cases course with
    | tag member => exact .inl member
    | quantity n seen read => exact .inr ⟨seen, n, read⟩
  · rintro (member | ⟨seen, n, read⟩)
    · exact ⟨lowered s, if_pos member⟩
    · obtain ⟨n, rfl⟩ := readInt_of_hasHexPrefix seen read
      exact ⟨_, encodeText_of_readInt seen read⟩

/-- The normal form of a block: a tag or a canonical quantity. -/
def Normal (text : String) : Prop := text ∈ tags ∨ Quantity.Canonical text

variable {text : String} {b : BlockParameter}

theorem encode_text_iff : (BlockParameter.text s).encode = .ok text ↔ encodeText s = .ok text := by
  rw [encode]
  cases encodeText s with
  | ok _ => simp [Except.mapError]
  | error _ => simp [Except.mapError]

theorem encode_natCast (n : Nat) : (number n).encode = .ok (Quantity.written n) := rfl

theorem Normal.encode (normal : Normal text) : (BlockParameter.text text).encode = .ok text := by
  rw [encode_text_iff]
  rcases normal with tag | canonical
  · have own := lowered_tags text tag
    rw [encodeText, own, if_pos tag]
  · obtain ⟨n, rfl⟩ := canonical.exists_written
    exact encodeText_written n

theorem normal_of_encode (encoded : b.encode = .ok text) : Normal text := by
  cases b with
  | number n =>
    cases n with
    | ofNat n =>
      cases encoded
      exact .inr (Quantity.canonical_written n)
    | negSucc n => cases encoded
  | text s =>
    have course := encodeText_course s
    rw [encode_text_iff.mp encoded] at course
    cases course with
    | tag member => exact .inl member
    | quantity n => exact .inr (Quantity.canonical_written n)
  | flag b => cases encoded
  | other value => cases encoded

theorem encode_course (b : BlockParameter) :
    (∃ text, b.encode = .ok text ∧ Normal text) ∨ (∃ cause, b.encode = .error (.invalid cause)) ∨
      ∃ value, b = .other value := by
  cases b with
  | number n =>
    cases n with
    | ofNat n => exact .inl ⟨_, rfl, .inr (Quantity.canonical_written n)⟩
    | negSucc n => exact .inr (.inl ⟨_, rfl⟩)
  | text s =>
    cases encoded : encodeText s with
    | ok text =>
      have whole := encode_text_iff.mpr encoded
      exact .inl ⟨text, whole, normal_of_encode whole⟩
    | error cause =>
      refine .inr (.inl ⟨cause, ?_⟩)
      rw [encode, encoded]
      rfl
  | flag b => exact .inr (.inl ⟨_, rfl⟩)
  | other value => exact .inr (.inr ⟨value, rfl⟩)

end BlockParameter

namespace Cli

variable {s : String}

theorem readBlock_of_decimal {n : Int} (read : readInt 10 s = .ok n) : readBlock s = .number n := by
  rw [readBlock, readNumber, if_neg (by simp [not_hasHexPrefix_of_readInt read]), read]

theorem encode_readBlock (undecimal : ∀ n, readInt 10 s ≠ .ok n) :
    (readBlock s).encode = (BlockParameter.text s).encode := by
  cases seen : hasHexPrefix s with
  | false =>
    cases read : readInt 10 s with
    | ok n => exact absurd read (undecimal n)
    | error fault => rw [readBlock, readNumber, if_neg (by simp [seen]), read]
  | true =>
    cases read : readInt 16 s with
    | error fault => rw [readBlock, readNumber, if_pos seen, read]
    | ok n =>
      obtain ⟨n, rfl⟩ := readInt_of_hasHexPrefix seen read
      have encoded := BlockParameter.encodeText_of_readInt seen read
      rw [readBlock, readNumber, if_pos seen, read, BlockParameter.encode_text_iff.mpr encoded]
      rfl

end Cli

namespace BlockParameter

/-- How a text names a block, on its own and on the command line. A decimal number is one that its
reader takes; a text with more digits than it reads is none. -/
structure Named (s : String) : Prop where
  tag : String.ofList (small s.toList) ∈ tags ↔
    ∃ tag ∈ tags, s.toList.map Char.toLower = tag.toList
  marked : ['0', 'x'] <+: small s.toList ↔ hasHexPrefix s = true
  accepted : (∃ text, (BlockParameter.text s).encode = .ok text) ↔
    (∃ tag ∈ tags, s.toList.map Char.toLower = tag.toList) ∨
      hasHexPrefix s = true ∧ ∃ n, readInt 16 s = .ok n
  above : ∀ n, (BlockParameter.text s).encode ≠ .error (.invalid (.negativeQuantity n))
  read : ∀ n, hasHexPrefix s = true → readInt 16 s = .ok n →
    (BlockParameter.text s).encode = (number n).encode
  undecimal : (∀ n, readInt 10 s ≠ .ok n) →
    (Cli.readBlock s).encode = (BlockParameter.text s).encode
  decimal : ∀ n, readInt 10 s = .ok n →
    (Cli.readBlock s).encode = (Quantity.encode n).mapError .invalid

theorem encode_text_ne_negative (n : Int) :
    (BlockParameter.text s).encode ≠ .error (.invalid (.negativeQuantity n)) := by
  have course := encodeText_course s
  rw [encode]
  cases ended : encodeText s with
  | ok text => exact nofun
  | error cause =>
    rw [ended] at course
    cases course with
    | malformed fault => exact nofun
    | unknown => exact nofun

theorem named (s : String) : Named s where
  tag := small_mem_iff.trans lowered_mem_iff
  marked := mark_prefix_small_iff s
  accepted := by
    simp only [encode_text_iff]
    exact encodeText_isOk_iff
  above := encode_text_ne_negative
  read := by
    intro n seen read
    obtain ⟨n, rfl⟩ := readInt_of_hasHexPrefix seen read
    rw [encode_natCast]
    exact encode_text_iff.mpr (encodeText_of_readInt seen read)
  undecimal := Cli.encode_readBlock
  decimal := by
    intro n read
    rw [Cli.readBlock_of_decimal read]
    rfl

/-- A block that is given as a number, a text or a flag is refused for what it says or encoded as
its normal form, a tag or a canonical quantity. Normal forms are encoded as they are, and a number
has the same one as any of its spellings in hex. A text is accepted exactly if it is a tag but for
its ASCII capitals or a hex number with the mark. The command line comes to the same end as the text
itself unless the text is a decimal number, and to that of the number if it is one. -/
theorem encode_normal :
    (∀ b : BlockParameter, (∃ text, b.encode = .ok text ∧ Normal text) ∨
      (∃ cause, b.encode = .error (.invalid cause)) ∨ ∃ value, b = .other value) ∧
    (∀ s, Named s) ∧
    (∀ b text, encode b = .ok text → (BlockParameter.text text).encode = .ok text) ∧
    ∀ x digits, (x = 'x' ∨ x = 'X') → digits ≠ [] → (∀ c ∈ digits, isHexDigit c = true) →
      (BlockParameter.text (String.ofList ('0' :: x :: digits))).encode =
        (number (digitsValue 16 (digits.filterMap hexValue?))).encode := by
  refine ⟨encode_course, named, fun b text encoded => (normal_of_encode encoded).encode, ?_⟩
  intro x digits mark inhabited hex
  have spelled := spells_of_isHexDigit hex
  have read := readInt_marked mark (spelled.inhabited inhabited) spelled
  have seen : hasHexPrefix (String.ofList ('0' :: x :: digits)) = true := by
    rw [hasHexPrefix, String.toList_ofList]
    rcases mark with rfl | rfl
    · rfl
    · rfl
  exact (named _).read _ seen read

theorem encode_normal_padded :
    (BlockParameter.text "0X00fF").encode = .ok "0xff" ∧
      (BlockParameter.text "0xff").encode = .ok "0xff" ∧
      (Cli.readBlock "0X00fF").encode = .ok "0xff" := by
  obtain ⟨-, texts, fixed, spelled⟩ := encode_normal
  have hex : ∀ c ∈ ['0', '0', 'f', 'F'], isHexDigit c = true := List.all_eq_true.mp (by decide)
  have padded := spelled 'X' ['0', '0', 'f', 'F'] (.inr rfl) (List.cons_ne_nil _ _) hex
  have canonical : (number 255).encode = .ok "0xff" := rfl
  have undecimal : ∀ n, readInt 10 "0X00fF" ≠ .ok n := by
    intro n read
    exact absurd (not_hasHexPrefix_of_readInt read) (by decide)
  exact ⟨padded, fixed _ _ canonical, ((texts _).undecimal undecimal).trans padded⟩

end BlockParameter

end TxSubmission
