import Mathlib.Algebra.Group.Nat.Defs
import Mathlib.Data.List.Basic
import Mathlib.Data.List.TakeWhile
import TxSubmission.Number.Literal
import TxSubmission.Text.HexBytes

/-!
Hex digits in text. A text spells a list of digits if each of its characters is the hex digit of its
place, in either letter case; such a text holds no blank, sign, underscore or mark, so the reader of
whole numbers takes every character at its value. Numbers are spelled by the digits that are written
for them, with zeros in front or without, and bytes by two digits each.
-/

namespace TxSubmission

open Text Number

namespace Text

/-- A text of hex digits that have the given values. -/
def Spells (s : List Char) (ds : List Nat) : Prop := s.map hexValue? = ds.map some

theorem forall_hexDigit {p : Char → Nat → Bool}
    (checked : ∀ n < 103, (hexValue? (Char.ofNat n)).all (p (Char.ofNat n)) = true) {c : Char}
    {d : Nat} (hex : hexValue? c = some d) : p c d = true := by
  have small : c.toNat < 103 := by
    by_cases small : c.toNat < 103
    · exact small
    · rw [hexValue?, if_neg (by omega), if_neg (by omega), if_neg (by omega)] at hex
      cases hex
  have held := checked c.toNat small
  rw [Char.ofNat_toNat, hex] at held
  exact held

theorem hexValue?_digitChar : ∀ d < 16, hexValue? (Nat.digitChar d) = some d := by decide

theorem toLower_of_foreign {c : Char} (foreign : 128 ≤ c.toNat) : c.toLower = c := by
  apply dif_neg
  rintro ⟨-, capital⟩
  have ascii : c.toNat < 128 :=
    Nat.lt_of_le_of_lt (UInt32.le_iff_toNat_le.mp capital) (by decide)
  omega

theorem hexValue?_toLower (c : Char) : hexValue? c.toLower = hexValue? c := by
  by_cases ascii : c.toNat < 128
  · have checked : ∀ n < 128,
        hexValue? (Char.ofNat n).toLower = hexValue? (Char.ofNat n) := by decide
    have held := checked c.toNat ascii
    rwa [Char.ofNat_toNat] at held
  · rw [toLower_of_foreign (Nat.not_lt.mp ascii)]

namespace Spells

variable {s t : List Char} {ds es : List Nat}

theorem length (spelled : Spells s ds) : s.length = ds.length := by
  have same := congrArg List.length spelled
  rwa [List.length_map, List.length_map] at same

theorem append (spelled : Spells s ds) (further : Spells t es) : Spells (s ++ t) (ds ++ es) := by
  rw [Spells, List.map_append, List.map_append, spelled, further]

theorem digitChar {d : Nat} (small : d < 16) : Spells [Nat.digitChar d] [d] := by
  rw [Spells, List.map_singleton, hexValue?_digitChar d small, List.map_singleton]

theorem zeros (n : Nat) : Spells (List.replicate n '0') (List.replicate n 0) := by
  rw [Spells, List.map_replicate, List.map_replicate]
  rfl

theorem of_toLower (spelled : Spells (s.map Char.toLower) ds) : Spells s ds := by
  rw [Spells, List.map_map] at spelled
  rw [Spells, ← spelled]
  exact List.map_congr_left fun c _ => (hexValue?_toLower c).symm

theorem exists_of_mem (spelled : Spells s ds) {c : Char} (member : c ∈ s) :
    ∃ d, hexValue? c = some d := by
  have held : hexValue? c ∈ ds.map some := spelled ▸ List.mem_map_of_mem member
  obtain ⟨d, -, value⟩ := List.mem_map.mp held
  exact ⟨d, value.symm⟩

end Spells

theorem digitsValue_zeros (n : Nat) (ds : List Nat) :
    digitsValue 16 (List.replicate n 0 ++ ds) = digitsValue 16 ds := by
  induction n with
  | zero => rfl
  | succ n ih => exact ih

theorem exists_digits (n : Nat) :
    ∃ ds : List Nat, ds ≠ [] ∧ Spells (Nat.toDigits 16 n) ds ∧ digitsValue 16 ds = n := by
  induction n using Nat.strongRecOn with
  | ind n ih =>
    by_cases small : n < 16
    · refine ⟨[n], by simp, ?_, by simp [digitsValue]⟩
      rw [Nat.toDigits_of_lt_base small]
      exact Spells.digitChar small
    · obtain ⟨ds, -, spelled, value⟩ := ih (n / 16) (by omega)
      refine ⟨ds ++ [n % 16], by simp, ?_, ?_⟩
      · rw [Nat.toDigits_of_base_le (by decide) (by omega)]
        exact spelled.append (Spells.digitChar (Nat.mod_lt n (by decide)))
      · rw [digitsValue, List.foldl_append]
        change 16 * digitsValue 16 ds + n % 16 = n
        rw [value]
        omega

theorem exists_paddedDigits {width n : Nat} (positive : 0 < width) (fits : n < 16 ^ width) :
    ∃ ds : List Nat, ds.length = width ∧ Spells (paddedDigits 16 width n) ds ∧
      digitsValue 16 ds = n := by
  obtain ⟨ds, -, spelled, value⟩ := exists_digits n
  have narrow : (Nat.toDigits 16 n).length ≤ width :=
    (Nat.length_toDigits_le_iff (by decide) positive).mpr fits
  refine ⟨List.replicate (width - (Nat.toDigits 16 n).length) 0 ++ ds, ?_,
    (Spells.zeros _).append spelled, by rw [digitsValue_zeros, value]⟩
  rw [List.length_append, List.length_replicate, ← spelled.length]
  omega

theorem isAsciiBlank_of_hexValue? {c : Char} {d : Nat} (hex : hexValue? c = some d) :
    isAsciiBlank c = false := by
  simpa using forall_hexDigit (p := fun c _ => !isAsciiBlank c) (by decide) hex

theorem lt_of_hexValue? {c : Char} {d : Nat} (hex : hexValue? c = some d) : d < 16 :=
  of_decide_eq_true (forall_hexDigit (p := fun _ d => decide (d < 16)) (by decide) hex)

theorem toLower_of_hexValue? {c : Char} {d : Nat} (hex : hexValue? c = some d) :
    c.toLower = Nat.digitChar d :=
  of_decide_eq_true
    (forall_hexDigit (p := fun c d => decide (c.toLower = Nat.digitChar d)) (by decide) hex)

theorem hexValue?_of_toLower {c : Char} {d : Nat} (small : d < 16)
    (lowered : c.toLower = Nat.digitChar d) : hexValue? c = some d := by
  rw [← hexValue?_toLower, lowered, hexValue?_digitChar d small]

/-! Bytes -/

theorem paddedDigits_byte : ∀ high < 16, ∀ low < 16,
    paddedDigits 16 2 (16 * high + low) = [Nat.digitChar high, Nat.digitChar low] := by decide

theorem hexOfBytes_cons {high low : Nat} (upper : high < 16) (lower : low < 16)
    (rest : List UInt8) :
    hexOfBytes (UInt8.ofNat (16 * high + low) :: rest) =
      Nat.digitChar high :: Nat.digitChar low :: hexOfBytes rest := by
  have whole : (UInt8.ofNat (16 * high + low)).toNat = 16 * high + low :=
    UInt8.toNat_ofNat_of_lt' (show 16 * high + low < 256 by omega)
  rw [hexOfBytes, List.flatMap_cons, whole, paddedDigits_byte high upper low lower]
  rfl

theorem exists_halves (b : UInt8) :
    ∃ high low, high < 16 ∧ low < 16 ∧ b = UInt8.ofNat (16 * high + low) := by
  have bound := b.toNat_lt
  refine ⟨b.toNat / 16, b.toNat % 16, by omega, by omega, ?_⟩
  rw [Nat.div_add_mod, UInt8.ofNat_toNat]

theorem length_hexOfBytes (bytes : List UInt8) : (hexOfBytes bytes).length = 2 * bytes.length := by
  induction bytes with
  | nil => rfl
  | cons b rest ih =>
    obtain ⟨high, low, upper, lower, rfl⟩ := exists_halves b
    rw [hexOfBytes_cons upper lower]
    simp only [List.length_cons, ih]
    omega

theorem hexBytes?_pair {c d : Char} {high low : Nat} (first : hexValue? c = some high)
    (second : hexValue? d = some low) (rest : List Char) :
    hexBytes? (c :: d :: rest) = (hexBytes? rest).map (UInt8.ofNat (16 * high + low) :: ·) := by
  simp [hexBytes?, isAsciiBlank_of_hexValue? first, first, second]

theorem hexBytes?_of_hexOfBytes {digits : List Char} {bytes : List UInt8}
    (lowered : digits.map Char.toLower = hexOfBytes bytes) : hexBytes? digits = some bytes := by
  induction bytes generalizing digits with
  | nil =>
    cases List.map_eq_nil_iff.mp lowered
    rfl
  | cons b rest ih =>
    obtain ⟨high, low, upper, lower, rfl⟩ := exists_halves b
    rw [hexOfBytes_cons upper lower] at lowered
    obtain ⟨c, behind, rfl, first, lowered⟩ := List.map_eq_cons_iff.mp lowered
    obtain ⟨d, others, rfl, second, lowered⟩ := List.map_eq_cons_iff.mp lowered
    rw [hexBytes?_pair (hexValue?_of_toLower upper first) (hexValue?_of_toLower lower second),
      ih lowered]
    rfl

/-- No more bytes are read than there are pairs of characters; if there are as many, the text is
nothing but their digits. -/
theorem length_of_hexBytes? {digits : List Char} {bytes : List UInt8}
    (read : hexBytes? digits = some bytes) :
    2 * bytes.length ≤ digits.length ∧
      (digits.length ≤ 2 * bytes.length → digits.map Char.toLower = hexOfBytes bytes) := by
  induction digits using hexBytes?.induct generalizing bytes with
  | case1 =>
    cases read
    exact ⟨Nat.le_refl 0, fun _ => rfl⟩
  | case2 c rest blank ih =>
    -- a blank takes room and gives no byte, so such a text is never full
    rw [hexBytes?.eq_def] at read
    simp only [blank, if_true] at read
    have fewer := (ih read).1
    rw [List.length_cons]
    exact ⟨by omega, fun full => by omega⟩
  | case3 c unblank => simp [hexBytes?, unblank] at read
  | case4 c unblank d others high low second first ih =>
    rw [hexBytes?_pair first second] at read
    obtain ⟨later, goes, rfl⟩ := Option.map_eq_some_iff.mp read
    obtain ⟨fewer, spelled⟩ := ih goes
    simp only [List.length_cons]
    refine ⟨by omega, fun full => ?_⟩
    rw [hexOfBytes_cons (lt_of_hexValue? first) (lt_of_hexValue? second), List.map_cons,
      List.map_cons, toLower_of_hexValue? first, toLower_of_hexValue? second,
      spelled (by omega)]
  | case5 c unblank d others unpaired =>
    rw [hexBytes?, if_neg unblank] at read
    split at read
    next high low first second => exact (unpaired high low first second).elim
    next => cases read

theorem isHexDigit_of_hexOfBytes {digits : List Char} {bytes : List UInt8}
    (lowered : digits.map Char.toLower = hexOfBytes bytes) : ∀ c ∈ digits, isHexDigit c = true := by
  induction bytes generalizing digits with
  | nil =>
    cases List.map_eq_nil_iff.mp lowered
    exact nofun
  | cons b rest ih =>
    obtain ⟨high, low, upper, lower, rfl⟩ := exists_halves b
    rw [hexOfBytes_cons upper lower] at lowered
    obtain ⟨c, behind, rfl, first, lowered⟩ := List.map_eq_cons_iff.mp lowered
    obtain ⟨d, others, rfl, second, lowered⟩ := List.map_eq_cons_iff.mp lowered
    simp only [List.forall_mem_cons, isHexDigit, hexValue?_of_toLower upper first,
      hexValue?_of_toLower lower second, Option.isSome_some, true_and]
    exact ih lowered

theorem exists_hexBytes? {digits : List Char} {n : Nat} (even : digits.length = 2 * n)
    (hex : ∀ c ∈ digits, isHexDigit c = true) :
    ∃ bytes : List UInt8, bytes.length = n ∧ digits.map Char.toLower = hexOfBytes bytes := by
  induction n generalizing digits with
  | zero =>
    cases List.length_eq_zero_iff.mp even
    exact ⟨[], rfl, rfl⟩
  | succ n ih =>
    match digits with
    | c :: d :: rest =>
      simp only [List.forall_mem_cons] at hex
      obtain ⟨high, first⟩ := Option.isSome_iff_exists.mp hex.1
      obtain ⟨low, second⟩ := Option.isSome_iff_exists.mp hex.2.1
      have fewer : rest.length = 2 * n := by
        rw [List.length_cons, List.length_cons] at even
        omega
      obtain ⟨bytes, counted, spelled⟩ := ih fewer hex.2.2
      refine ⟨UInt8.ofNat (16 * high + low) :: bytes, by simp [counted], ?_⟩
      rw [hexOfBytes_cons (lt_of_hexValue? first) (lt_of_hexValue? second), List.map_cons,
        List.map_cons, toLower_of_hexValue? first, toLower_of_hexValue? second, spelled]

end Text

namespace Number

theorem digit?_of_hexValue? {c : Char} {d : Nat} (hex : hexValue? c = some d) :
    digit? 16 c = some d :=
  of_decide_eq_true
    (forall_hexDigit (p := fun c d => decide (digit? 16 c = some d)) (by decide) hex)

/-- What is no blank, sign or underscore and marks nothing. -/
def isBare (c : Char) : Bool :=
  !isBlank c && c != '+' && c != '-' && c != '_' && c != 'x' && c != 'X'

theorem isBare_of_hexValue? {c : Char} {d : Nat} (hex : hexValue? c = some d) : isBare c = true :=
  forall_hexDigit (p := fun c _ => isBare c) (by decide) hex

theorem digits?_of_spells {s : List Char} {ds : List Nat} (inhabited : ds ≠ [])
    (spelled : Spells s ds) : digits? 16 s = some ds := by
  induction ds generalizing s with
  | nil => exact absurd rfl inhabited
  | cons d rest ih =>
    obtain ⟨c, later, rfl, value, spelled⟩ := List.map_eq_cons_iff.mp spelled
    have first := digit?_of_hexValue? value
    cases rest with
    | nil =>
      cases List.map_eq_nil_iff.mp spelled
      exact digits?.eq_3 16 c d first
    | cons e others =>
      obtain ⟨x, behind, rfl, follows, -⟩ := List.map_eq_cons_iff.mp spelled
      have bare := isBare_of_hexValue? follows
      rw [digits?.eq_5 16 _ _ d first (by simp), ih (by simp) spelled]
      · rfl
      · intro others same
        rw [(List.cons.inj same).1] at bare
        exact absurd bare (by decide)

theorem literal?_of_body {s t : List Char} {ds : List Nat} (inhabited : ds ≠ [])
    (unsigned : signed (s.dropWhile isBlank) = (false, s)) (bared : dropHexMark s = t)
    (spelled : Spells t ds) : literal? 16 s = some (false, ds, []) := by
  have run : ∀ c ∈ t, isRunChar 16 c = true := by
    intro c member
    obtain ⟨d, value⟩ := spelled.exists_of_mem member
    rw [isRunChar, digit?_of_hexValue? value]
    exact Bool.or_true _
  have whole : t.takeWhile (isRunChar 16) = t := List.takeWhile_eq_self_iff.mpr run
  have ended : t.dropWhile (isRunChar 16) = [] := List.dropWhile_eq_nil_iff.mpr run
  simp only [literal?, unsigned, body, if_true, bared, whole, ended,
    digits?_of_spells inhabited spelled, Option.map_some]

theorem unsigned_of_isBare {c : Char} (bare : isBare c = true) (rest : List Char) :
    signed ((c :: rest).dropWhile isBlank) = (false, c :: rest) := by
  simp only [isBare, Bool.and_eq_true, Bool.not_eq_true', bne_iff_ne] at bare
  obtain ⟨⟨⟨⟨⟨unblank, plus⟩, minus⟩, -⟩, -⟩, -⟩ := bare
  rw [List.dropWhile_cons_of_neg (by simp [unblank])]
  unfold signed
  split
  next same => exact absurd (List.cons.inj same).1 minus
  next same => exact absurd (List.cons.inj same).1 plus
  next => rfl

theorem dropHexMark_of_spells {s : List Char} {ds : List Nat} (spelled : Spells s ds) :
    dropHexMark s = s := by
  unfold dropHexMark
  split
  next c x rest =>
    obtain ⟨d, value⟩ := spelled.exists_of_mem (c := x) (by simp)
    have bare := isBare_of_hexValue? value
    apply if_neg
    rintro ⟨-, rfl | rfl⟩
    · exact absurd bare (by decide)
    · exact absurd bare (by decide)
  next => rfl

theorem dropHexMark_marked {x : Char} (mark : x = 'x' ∨ x = 'X') {s : List Char} {ds : List Nat}
    (spelled : Spells s ds) : dropHexMark ('0' :: x :: s) = s := by
  have zero : decimalValue? '0' = some 0 := by decide
  unfold dropHexMark
  dsimp only
  rw [if_pos ⟨zero, mark⟩]
  split
  next others =>
    obtain ⟨d, value⟩ := spelled.exists_of_mem (c := '_') (by simp)
    exact absurd (isBare_of_hexValue? value) (by decide)
  next => rfl

theorem readInt_of_spells {s : List Char} {ds : List Nat} (inhabited : ds ≠ [])
    (spelled : Spells s ds) : readInt 16 (String.ofList s) = .ok (digitsValue 16 ds : Int) := by
  have unsigned : signed (s.dropWhile isBlank) = (false, s) := by
    cases s with
    | nil => rfl
    | cons c rest =>
      obtain ⟨d, value⟩ := spelled.exists_of_mem List.mem_cons_self
      exact unsigned_of_isBare (isBare_of_hexValue? value) rest
  have read := literal?_of_body inhabited unsigned (dropHexMark_of_spells spelled) spelled
  rw [readInt, String.toList_ofList, read]
  rfl

theorem readInt_marked {x : Char} (mark : x = 'x' ∨ x = 'X') {s : List Char} {ds : List Nat}
    (inhabited : ds ≠ []) (spelled : Spells s ds) :
    readInt 16 (String.ofList ('0' :: x :: s)) = .ok (digitsValue 16 ds : Int) := by
  have unsigned := unsigned_of_isBare (c := '0') (by decide) (x :: s)
  have read := literal?_of_body inhabited unsigned (dropHexMark_marked mark spelled) spelled
  rw [readInt, String.toList_ofList, read]
  rfl

end Number

end TxSubmission
