import Mathlib.Data.List.TakeWhile
import Mathlib.Data.Nat.Digits.Defs
import TxSubmission.Text.LongHex

/-!
What is left of long hex runs. A character that cannot stand in a run cuts a text in two parts that
are shortened apart from each other, so whether a string of hex digits is shown is a question for
each part alone. Many digits are never shown by a short part, nor by the run that they make up
behind the mark 0x; behind the mark 0X they are no run and stay.
-/

namespace TxSubmission.Text

def isBreak (c : Char) : Bool := c != 'x' && !isHexDigit c

variable {c : Char} {front rest digits chars run : List Char} {skip : Nat}

theorem not_isHexDigit_of_isBreak (breaks : isBreak c = true) : isHexDigit c = false := by
  simp only [isBreak, Bool.and_eq_true, Bool.not_eq_true'] at breaks
  exact breaks.2

theorem ne_of_isBreak (breaks : isBreak c = true) : c ≠ '0' ∧ c ≠ 'x' := by
  constructor <;> rintro rfl <;> exact absurd breaks (by decide)

/-- Hex digits that are too many to be shown in full. -/
structure Long (digits : List Char) : Prop where
  hex : ∀ c ∈ digits, isHexDigit c = true
  many : maxHexChars - 1 ≤ digits.length

theorem Long.not_mem (long : Long digits) (other : isHexDigit c = false) : c ∉ digits := by
  intro member
  have hex := long.hex c member
  rw [other] at hex
  exact Bool.false_ne_true hex

theorem takeWhile_append_cons {p : Char → Bool} (ends : p c = false) :
    (front ++ c :: rest).takeWhile p = front.takeWhile p := by
  induction front with
  | nil => simp [ends]
  | cons d front ih => simp only [List.cons_append, List.takeWhile_cons, ih]

theorem exists_of_append_cons_eq (breaks : isBreak c = true)
    (marked : front ++ c :: rest = '0' :: 'x' :: chars) :
    ∃ behind, front = '0' :: 'x' :: behind := by
  match front with
  | [] => exact absurd (List.cons.inj marked).1 (ne_of_isBreak breaks).1
  | [d] =>
    have second := (List.cons.inj marked).2
    exact absurd (List.cons.inj second).1 (ne_of_isBreak breaks).2
  | d :: e :: behind =>
    obtain ⟨rfl, second⟩ := List.cons.inj marked
    obtain ⟨rfl, -⟩ := List.cons.inj second
    exact ⟨behind, rfl⟩

theorem longRun?_append_cons (breaks : isBreak c = true) :
    longRun? (front ++ c :: rest) = longRun? front := by
  have cut (digits : List Char) : (digits ++ c :: rest).takeWhile isHexDigit =
      digits.takeWhile isHexDigit := takeWhile_append_cons (not_isHexDigit_of_isBreak breaks)
  fun_cases longRun? front with
  | case1 behind digits long =>
    simp only [List.cons_append, longRun?, cut]
    exact if_pos long
  | case2 behind digits short =>
    simp only [List.cons_append, longRun?, cut]
    exact if_neg short
  | case3 _ unmarked =>
    unfold longRun?
    split
    next marked =>
      obtain ⟨behind, same⟩ := exists_of_append_cons_eq breaks marked
      exact absurd same (unmarked behind)
    next => rfl

/-- The digits of a run end where a text does, or in front of another character. -/
def Stops (rest : List Char) : Prop := ∀ c, rest.head? = some c → isHexDigit c = false

theorem takeWhile_run (long : Long digits) (stops : Stops rest) :
    (digits ++ rest).takeWhile isHexDigit = digits := by
  rw [List.takeWhile_append_of_pos long.hex]
  cases rest with
  | nil => rw [List.takeWhile_nil, List.append_nil]
  | cons c rest =>
    have other : ¬isHexDigit c = true := by
      rw [stops c rfl]
      exact Bool.false_ne_true
    rw [List.takeWhile_cons_of_neg other, List.append_nil]

theorem longRun?_run (long : Long digits) (stops : Stops rest) :
    longRun? ('0' :: 'x' :: (digits ++ rest)) = some ('0' :: 'x' :: digits) := by
  simp only [longRun?, takeWhile_run long stops]
  exact if_pos long.many

theorem exists_of_longRun? (found : longRun? chars = some run) :
    ∃ digits rest, Long digits ∧ Stops rest ∧ run = '0' :: 'x' :: digits ∧
      chars = '0' :: 'x' :: (digits ++ rest) := by
  unfold longRun? at found
  split at found
  next behind =>
    dsimp only at found
    split at found
    next many =>
      refine ⟨behind.takeWhile isHexDigit, behind.dropWhile isHexDigit,
        ⟨fun c member => List.mem_takeWhile_imp member, many⟩, ?_, (Option.some.inj found).symm,
        ?_⟩
      · intro c first
        have other := List.head?_dropWhile_not isHexDigit behind
        rw [first] at other
        exact other
      · rw [List.takeWhile_append_dropWhile]
    next => cases found
  next => cases found

theorem length_of_longRun? (found : longRun? chars = some run) :
    maxHexChars < run.length ∧ run.length ≤ chars.length := by
  obtain ⟨digits, rest, long, -, rfl, rfl⟩ := exists_of_longRun? found
  have many := long.many
  simp only [List.length_cons, List.length_append]
  omega

/-- A break cuts a text in two parts that are shortened apart from each other. -/
theorem shortenFrom_append_cons (breaks : isBreak c = true) (within : skip ≤ front.length) :
    shortenFrom skip (front ++ c :: rest) =
      shortenFrom skip front ++ c :: shortenFrom 0 rest := by
  -- what is left to skip of a run lies in front of the break, as no run goes beyond it
  induction front generalizing skip with
  | nil =>
    obtain rfl : skip = 0 := by simpa using within
    have unmarked : longRun? ([] ++ c :: rest) = none := longRun?_append_cons breaks
    rw [List.nil_append] at unmarked ⊢
    simp [shortenFrom, unmarked]
  | cons d front ih =>
    cases skip with
    | succ skip =>
      have within : skip ≤ front.length := by simpa using within
      simp only [List.cons_append, shortenFrom, ih within]
    | zero =>
      have same : longRun? (d :: front ++ c :: rest) = longRun? (d :: front) :=
        longRun?_append_cons breaks
      rw [List.cons_append] at same ⊢
      rw [shortenFrom, shortenFrom, same]
      cases found : longRun? (d :: front) with
      | none =>
        simp only [ih (Nat.zero_le _)]
        rfl
      | some run =>
        have within : run.length - 1 ≤ front.length := by
          have fewer := (length_of_longRun? found).2
          rw [List.length_cons] at fewer
          omega
        simp only [ih within]
        simp

theorem shortenFrom_append
    (unbegun : ∀ tail, tail <:+ front → tail ≠ [] → longRun? (tail ++ rest) = none) :
    shortenFrom 0 (front ++ rest) = front ++ shortenFrom 0 rest := by
  induction front with
  | nil => rfl
  | cons c front ih =>
    have first : longRun? (c :: (front ++ rest)) = none :=
      unbegun (c :: front) List.suffix_rfl (List.cons_ne_nil _ _)
    have later := ih fun tail ends => unbegun tail (ends.trans (List.suffix_cons c front))
    rw [List.cons_append, shortenFrom, first]
    exact congrArg (c :: ·) later

theorem shortenFrom_eq_self (free : ∀ tail, tail <:+ chars → longRun? tail = none) :
    shortenFrom 0 chars = chars := by
  have kept : shortenFrom 0 (chars ++ []) = chars ++ shortenFrom 0 [] := by
    apply shortenFrom_append
    intro tail ends _
    rw [List.append_nil]
    exact free tail ends
  simpa [shortenFrom] using kept

theorem longRun?_of_short (short : chars.length < maxHexChars) : longRun? chars = none := by
  cases found : longRun? chars with
  | none => rfl
  | some run =>
    obtain ⟨long, fewer⟩ := length_of_longRun? found
    omega

theorem longRun?_of_not_mem (unmarked : 'x' ∉ chars) : longRun? chars = none := by
  unfold longRun?
  split
  next behind => simp at unmarked
  next => rfl

/-! What is left of a run -/

/-- Sixteen digits and the last eight of a run, and the number of bytes that it spells. -/
def abridgement (digits : List Char) : List Char :=
  '0' :: 'x' :: digits.take 16 ++ "...".toList ++ digits.drop (digits.length - 8) ++
    " (".toList ++ Nat.toDigits 10 (digits.length / 2) ++ " bytes)".toList

theorem abridgement_parts (front digits rest : List Char) :
    front ++ abridgement digits ++ rest =
      (front ++ '0' :: 'x' :: digits.take 16) ++ '.' :: ([] ++ '.' :: ([] ++ '.' ::
        (digits.drop (digits.length - 8) ++ ' ' :: ([] ++ '(' ::
          (Nat.toDigits 10 (digits.length / 2) ++ ' ' :: ("bytes".toList ++ ')' :: rest)))))) := by
  simp [abridgement]

theorem abbreviate_run (long : Long digits) :
    abbreviate ('0' :: 'x' :: digits) = abridgement digits := by
  have many := long.many
  rw [maxHexChars] at many
  have last : digits.length + 2 - 8 = digits.length - 8 + 2 := by omega
  simp [abbreviate, abridgement, last]

theorem shortenFrom_drop : shortenFrom skip chars = shortenFrom 0 (chars.drop skip) := by
  induction chars generalizing skip with
  | nil => cases skip <;> rfl
  | cons c rest ih =>
    cases skip with
    | zero => rfl
    | succ skip => exact ih

theorem shortenFrom_run (long : Long digits) (stops : Stops rest) :
    shortenFrom 0 ('0' :: 'x' :: (digits ++ rest)) = abridgement digits ++ shortenFrom 0 rest := by
  have behind : ('x' :: (digits ++ rest)).drop (digits.length + 1) = rest := by
    rw [List.drop_succ_cons, List.drop_left]
  rw [shortenFrom, longRun?_run long stops]
  simp only [abbreviate_run long, List.length_cons, Nat.add_sub_cancel]
  rw [shortenFrom_drop, behind]

/-! Shown digits -/

/-- Whether the shortened form of a text shows some digits. -/
def Shows (digits chars : List Char) : Prop := digits <:+: shortenFrom 0 chars

theorem infix_append_cons_iff (outside : c ∉ digits) :
    digits <:+: front ++ c :: rest ↔ digits <:+: front ∨ digits <:+: rest := by
  constructor
  · rintro ⟨before, after, same⟩
    rcases List.append_eq_append_iff.mp same with ⟨left, rfl, -⟩ | ⟨left, ends, begins⟩
    · exact .inl ⟨before, left, rfl⟩
    · cases left with
      | nil => exact .inl ⟨before, [], by rw [List.append_nil, ends, List.append_nil]⟩
      | cons d left =>
        obtain ⟨rfl, rfl⟩ := List.cons.inj begins
        rcases List.append_eq_append_iff.mp ends with ⟨inner, -, digits_eq⟩ | ⟨inner, -, inner_eq⟩
        · have member : c ∈ digits := by simp [digits_eq]
          exact absurd member outside
        · cases inner with
          | nil =>
            have digits_eq : c :: left = digits := inner_eq
            have member : c ∈ digits := by simp [← digits_eq]
            exact absurd member outside
          | cons e inner =>
            obtain ⟨-, rfl⟩ := List.cons.inj inner_eq
            exact .inr ⟨inner, after, rfl⟩
  · rintro (shown | shown)
    · exact shown.trans (List.prefix_append _ _).isInfix
    · exact shown.trans ((List.suffix_cons _ _).trans (List.suffix_append _ _)).isInfix

namespace Long

theorem not_shows_of_short (long : Long digits) (short : chars.length < maxHexChars - 1) :
    ¬Shows digits chars := by
  intro shown
  have many := long.many
  have kept : shortenFrom 0 chars = chars := by
    refine shortenFrom_eq_self fun tail ends => longRun?_of_short ?_
    have fewer := ends.length_le
    omega
  rw [Shows, kept] at shown
  have fewer := shown.length_le
  omega

theorem not_shows_nil (long : Long digits) : ¬Shows digits [] :=
  long.not_shows_of_short (by decide)

theorem shows_append_cons (long : Long digits) (breaks : isBreak c = true) :
    Shows digits (front ++ c :: rest) ↔ Shows digits front ∨ Shows digits rest := by
  unfold Shows
  rw [shortenFrom_append_cons breaks (Nat.zero_le _)]
  exact infix_append_cons_iff (long.not_mem (not_isHexDigit_of_isBreak breaks))

theorem shows_cons (long : Long digits) (breaks : isBreak c = true) :
    Shows digits (c :: rest) ↔ Shows digits rest := by
  have parts : Shows digits ([] ++ c :: rest) ↔ Shows digits [] ∨ Shows digits rest :=
    long.shows_append_cons breaks
  simpa [long.not_shows_nil] using parts

theorem shows_capital (long : Long digits) : Shows digits ('0' :: 'X' :: digits) := by
  have unmarked : 'x' ∉ '0' :: 'X' :: digits := by
    simpa using long.not_mem (show isHexDigit 'x' = false by decide)
  have kept : shortenFrom 0 ('0' :: 'X' :: digits) = '0' :: 'X' :: digits :=
    shortenFrom_eq_self fun tail ends => longRun?_of_not_mem fun member =>
      unmarked (ends.subset member)
  rw [Shows, kept]
  exact ⟨['0', 'X'], [], by simp⟩

theorem length_toDigits_lt (long : Long digits) :
    (Nat.toDigits 10 (digits.length / 2)).length < digits.length := by
  have many := long.many
  rw [maxHexChars] at many
  have fewer : (Nat.toDigits 10 (digits.length / 2)).length ≤ digits.length / 2 :=
    Nat.toDigits_length 10 _ _ (by omega) (Nat.lt_pow_self (by omega))
  omega

theorem not_shows_marked (long : Long digits) : ¬Shows digits ('0' :: 'x' :: digits) := by
  have many := long.many
  rw [maxHexChars] at many
  have fewer := long.length_toDigits_lt
  have whole : shortenFrom 0 ('0' :: 'x' :: (digits ++ [])) =
      abridgement digits ++ shortenFrom 0 [] := shortenFrom_run long nofun
  have shortened : shortenFrom 0 ('0' :: 'x' :: digits) = [] ++ abridgement digits ++ [] := by
    rw [List.append_nil, shortenFrom] at whole
    exact whole
  have roomless {chars : List Char} (short : chars.length < digits.length) :
      ¬digits <:+: chars := fun shown => by
    have room := shown.length_le
    omega
  rw [Shows, shortened, abridgement_parts]
  simp only [infix_append_cons_iff (long.not_mem (show isHexDigit '.' = false by decide)),
    infix_append_cons_iff (long.not_mem (show isHexDigit ' ' = false by decide)),
    infix_append_cons_iff (long.not_mem (show isHexDigit '(' = false by decide)),
    infix_append_cons_iff (long.not_mem (show isHexDigit ')' = false by decide)), not_or]
  refine ⟨roomless ?_, roomless ?_, roomless ?_, roomless ?_, roomless ?_, roomless fewer,
    roomless ?_, roomless ?_⟩
  all_goals simp; omega

end Long

end TxSubmission.Text
