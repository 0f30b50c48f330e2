import Mathlib.Data.List.Forall2
import TxSubmission.Log.Payload
import TxSubmission.Proofs.LongHexText

/-!
How the texts of an event are abridged. Of the long runs in a text the one that begins first is cut
down to its ends and its size, then the first behind it, and what stands between them is kept. What
is left of a run has characters in it that no run can have, and in front of it nothing begins a run
that did not begin one before; so no long run is left, and abridging once more changes nothing.
-/

namespace TxSubmission

namespace Text

variable {before chars digits front rest shown : List Char} {c : Char}

def Begins (chars : List Char) : Prop :=
  ∃ digits rest, Long digits ∧ chars = '0' :: 'x' :: (digits ++ rest)

/-- No long run stands in a text. -/
def Free (chars : List Char) : Prop :=
  ∀ digits, Long digits → ¬ '0' :: 'x' :: digits <:+: chars

theorem longRun?_eq_none_iff : longRun? chars = none ↔ ¬Begins chars := by
  constructor
  · rintro missing ⟨digits, rest, long, rfl⟩
    have many := long.many
    simp only [longRun?, List.takeWhile_append_of_pos long.hex, List.length_append] at missing
    rw [if_pos (by omega)] at missing
    cases missing
  · intro unbegun
    cases found : longRun? chars with
    | none => rfl
    | some run =>
      obtain ⟨digits, rest, long, -, -, same⟩ := exists_of_longRun? found
      exact absurd ⟨digits, rest, long, same⟩ unbegun

theorem not_begins_of_short (short : chars.length < maxHexChars) : ¬Begins chars :=
  longRun?_eq_none_iff.mp (longRun?_of_short short)

/-! Texts without a long run -/

theorem free_iff : Free chars ↔ ∀ tail, tail <:+ chars → ¬Begins tail := by
  constructor
  · rintro free tail ends ⟨digits, rest, long, same⟩
    exact free digits long (List.infix_iff_prefix_suffix.mpr ⟨tail, ⟨rest, same.symm⟩, ends⟩)
  · intro unbegun digits long stands
    obtain ⟨tail, ⟨rest, same⟩, ends⟩ := List.infix_iff_prefix_suffix.mp stands
    exact unbegun tail ends ⟨digits, rest, long, same.symm⟩

theorem free_of_not_mem (unmarked : 'x' ∉ chars) : Free chars := fun _ _ stands =>
  unmarked (stands.subset (by simp))

theorem free_nil : Free [] := free_of_not_mem (by simp)

theorem free_append_cons (breaks : isBreak c = true) :
    Free (front ++ c :: rest) ↔ Free front ∧ Free rest := by
  have parts {digits : List Char} (long : Long digits) :
      '0' :: 'x' :: digits <:+: front ++ c :: rest ↔
        '0' :: 'x' :: digits <:+: front ∨ '0' :: 'x' :: digits <:+: rest := by
    apply infix_append_cons_iff
    have other := long.not_mem (not_isHexDigit_of_isBreak breaks)
    simpa [other] using ne_of_isBreak breaks
  constructor
  · intro free
    exact ⟨fun digits long stands => free digits long ((parts long).mpr (.inl stands)),
      fun digits long stands => free digits long ((parts long).mpr (.inr stands))⟩
  · rintro ⟨first, last⟩ digits long stands
    rcases (parts long).mp stands with stands | stands
    · exact first digits long stands
    · exact last digits long stands

theorem free_cons (unbegun : ¬Begins (c :: rest)) (free : Free rest) : Free (c :: rest) := by
  rw [free_iff] at free ⊢
  intro tail ends
  rcases List.suffix_cons_iff.mp ends with rfl | later
  · exact unbegun
  · exact free tail later

/-- Whether a run that begins in front of a mark is long does not depend on what stands behind the
mark: its digits may take the zero of the mark, but not more. -/
theorem begins_of_marked (inhabited : front ≠ [])
    (begins : Begins (front ++ '0' :: 'x' :: chars)) : Begins (front ++ '0' :: rest) := by
  obtain ⟨digits, behind, long, same⟩ := begins
  match front with
  | [] => exact absurd rfl inhabited
  | [d] => exact absurd (List.cons.inj (List.cons.inj same).2).1 (by decide)
  | d :: e :: front =>
    obtain ⟨zero, second⟩ := List.cons.inj same
    obtain ⟨mark, last⟩ := List.cons.inj second
    subst zero mark
    have apart : (front ++ ['0']) ++ 'x' :: chars = digits ++ behind := by
      rw [← last, List.append_assoc]
      rfl
    -- the digits end in front of the x of the second mark, which is no digit
    have taken : ∃ left, front ++ ['0'] = digits ++ left := by
      rcases List.append_eq_append_iff.mp apart with ⟨left, ends, further⟩ | ⟨left, ends, -⟩
      · cases left with
        | nil => exact ⟨[], by rw [ends, List.append_nil, List.append_nil]⟩
        | cons c left =>
          obtain ⟨rfl, -⟩ := List.cons.inj further
          have member : 'x' ∈ digits := by simp [ends]
          exact absurd member (long.not_mem (by decide))
      · exact ⟨left, ends⟩
    obtain ⟨left, taken⟩ := taken
    refine ⟨digits, left ++ rest, long, ?_⟩
    rw [← List.append_assoc, ← taken]
    simp

def Quiet (before rest : List Char) : Prop :=
  ∀ tail, tail <:+ before → tail ≠ [] → ¬Begins (tail ++ rest)

theorem free_append_mark (quiet : Quiet before ('0' :: 'x' :: rest))
    (few : front.length < maxHexChars - 2) : Free (before ++ '0' :: 'x' :: front) := by
  have short : ('0' :: 'x' :: front).length < maxHexChars := by
    simp only [List.length_cons]
    omega
  rw [free_iff]
  intro tail ends
  rcases List.suffix_or_suffix_of_suffix ends (List.suffix_append before ('0' :: 'x' :: front))
    with later | ⟨last, rfl⟩
  · exact not_begins_of_short (Nat.lt_of_le_of_lt later.length_le short)
  · obtain ⟨ahead, same⟩ := ends
    rw [← List.append_assoc] at same
    have part : last <:+ before := ⟨ahead, List.append_cancel_right same⟩
    by_cases inhabited : last = []
    · rw [inhabited]
      exact not_begins_of_short short
    · intro begins
      exact quiet last part inhabited (begins_of_marked inhabited begins)

theorem free_append_abridgement (long : Long digits)
    (quiet : Quiet before ('0' :: 'x' :: rest)) (free : Free shown) :
    Free (before ++ abridgement digits ++ shown) := by
  have few : (digits.take 16).length < maxHexChars - 2 :=
    Nat.lt_of_le_of_lt (List.length_take_le 16 digits) (by decide)
  have last : 'x' ∉ digits.drop (digits.length - 8) := fun member =>
    long.not_mem (by decide) (List.mem_of_mem_drop member)
  have size : 'x' ∉ Nat.toDigits 10 (digits.length / 2) := fun member =>
    absurd (Nat.isDigit_of_mem_toDigits (by decide) (by decide) member) (by decide)
  rw [abridgement_parts]
  simp only [free_append_cons (show isBreak '.' = true by decide),
    free_append_cons (show isBreak ' ' = true by decide),
    free_append_cons (show isBreak '(' = true by decide),
    free_append_cons (show isBreak ')' = true by decide)]
  exact ⟨free_append_mark quiet few, free_nil, free_nil, free_of_not_mem last, free_nil,
    free_of_not_mem size, free_of_not_mem (by decide), free⟩

/-! Abridged texts -/

/-- How a text is abridged, from left to right: the first long run is taken whole, and cut. -/
inductive Abridged : List Char → List Char → Prop
  | kept {chars : List Char} (free : Free chars) : Abridged chars chars
  | cut {before digits rest shown : List Char} (long : Long digits)
      (first : Quiet before ('0' :: 'x' :: (digits ++ rest))) (whole : Stops rest)
      (later : Abridged rest shown) :
      Abridged (before ++ '0' :: 'x' :: (digits ++ rest)) (before ++ abridgement digits ++ shown)

theorem Abridged.free (abridged : Abridged chars shown) : Free shown := by
  induction abridged with
  | kept free => exact free
  | cut long first whole later ih => exact free_append_abridgement long first ih

theorem shortenFrom_of_free (free : Free chars) : shortenFrom 0 chars = chars :=
  shortenFrom_eq_self fun tail ends => longRun?_eq_none_iff.mpr (free_iff.mp free tail ends)

theorem shortenFrom_of_quiet (quiet : Quiet before rest) :
    shortenFrom 0 (before ++ rest) = before ++ shortenFrom 0 rest :=
  shortenFrom_append fun tail ends inhabited =>
    longRun?_eq_none_iff.mpr (quiet tail ends inhabited)

theorem Abridged.shortenFrom (abridged : Abridged chars shown) :
    Text.shortenFrom 0 chars = shown := by
  induction abridged with
  | kept free => exact shortenFrom_of_free free
  | cut long first whole later ih =>
    rw [shortenFrom_of_quiet first, shortenFrom_run long whole, ih, List.append_assoc]

theorem exists_cut (crowded : ¬Free chars) :
    ∃ before digits rest, Long digits ∧ Quiet before ('0' :: 'x' :: (digits ++ rest)) ∧
      Stops rest ∧ chars = before ++ '0' :: 'x' :: (digits ++ rest) := by
  induction chars with
  | nil => exact absurd free_nil crowded
  | cons c chars ih =>
    cases found : longRun? (c :: chars) with
    | some run =>
      obtain ⟨digits, rest, long, stops, -, same⟩ := exists_of_longRun? found
      refine ⟨[], digits, rest, long, ?_, stops, same⟩
      intro tail ends inhabited
      exact absurd (List.suffix_nil.mp ends) inhabited
    | none =>
      have unbegun := longRun?_eq_none_iff.mp found
      obtain ⟨before, digits, rest, long, quiet, stops, rfl⟩ :=
        ih fun free => crowded (free_cons unbegun free)
      refine ⟨c :: before, digits, rest, long, ?_, stops, rfl⟩
      intro tail ends inhabited
      rcases List.suffix_cons_iff.mp ends with rfl | later
      · exact unbegun
      · exact quiet tail later inhabited

theorem abridged_shortenFrom (chars : List Char) : Abridged chars (shortenFrom 0 chars) := by
  -- on the length, as a cut takes many characters at once
  induction size : chars.length using Nat.strong_induction_on generalizing chars with
  | h n ih =>
    by_cases free : Free chars
    · rw [shortenFrom_of_free free]
      exact .kept free
    · obtain ⟨before, digits, rest, long, quiet, stops, rfl⟩ := exists_cut free
      have fewer : rest.length < n := by
        rw [← size]
        simp only [List.length_append, List.length_cons]
        omega
      rw [shortenFrom_of_quiet quiet, shortenFrom_run long stops, ← List.append_assoc]
      exact .cut long quiet stops (ih rest.length fewer rest rfl)

/-- What becomes of a text: it is abridged, in the one way that there is, has no long run then, and
is kept if it had none. -/
structure Abridges (s t : String) : Prop where
  exactly : ∀ chars, Abridged s.toList chars ↔ chars = t.toList
  free : Free t.toList
  kept : Free s.toList → t = s
  hashes : (∀ digits, (∀ c ∈ digits, isHexDigit c = true) →
    '0' :: 'x' :: digits <:+: s.toList → digits.length ≤ 64) → t = s

theorem shortenHex_of_free {s : String} (free : Free s.toList) : shortenHex s = s := by
  rw [shortenHex, shortenFrom_of_free free, String.ofList_toList]

theorem free_of_hashes
    (hashes : ∀ digits, (∀ c ∈ digits, isHexDigit c = true) →
      '0' :: 'x' :: digits <:+: chars → digits.length ≤ 64) : Free chars := by
  intro digits long stands
  have many := long.many
  rw [maxHexChars] at many
  have few := hashes digits long.hex stands
  omega

theorem abridges_shortenHex (s : String) : Abridges s (shortenHex s) := by
  have abridged := abridged_shortenFrom s.toList
  have shown : (shortenHex s).toList = shortenFrom 0 s.toList := String.toList_ofList
  constructor
  case exactly =>
    intro chars
    rw [shown]
    constructor
    · exact fun other => other.shortenFrom.symm
    · rintro rfl
      exact abridged
  case free =>
    rw [shown]
    exact abridged.free
  case kept => exact shortenHex_of_free
  case hashes => exact fun hashes => shortenHex_of_free (free_of_hashes hashes)

end Text

namespace Log

/-- What becomes of a value: texts are abridged, and nothing else is changed. -/
def Abridges : Json → Json → Prop
  | .text s, value => ∃ t, value = .text t ∧ Text.Abridges s t
  | value, other => other = value

theorem abridges_shortenValue (value : Json) : Abridges value (shortenValue value) := by
  cases value with
  | text s => exact ⟨_, rfl, Text.abridges_shortenHex s⟩
  | _ => rfl

theorem shortenValue_idem (value : Json) :
    shortenValue (shortenValue value) = shortenValue value := by
  cases value with
  | text s =>
    have free := (Text.abridges_shortenHex s).free
    exact congrArg Json.text (Text.shortenHex_of_free free)
  | _ => rfl

/-- What becomes of an event: its names stay in their order, each with its own value, abridged. -/
structure AbridgesEvent (event shown : Members) : Prop where
  values : List.Forall₂ (fun before after => after.1 = before.1 ∧ Abridges before.2 after.2)
    event shown
  free : ∀ name s, (name, Json.text s) ∈ shown → Text.Free s.toList
  settled : shortenPayloads shown = shown

/-- Every event is abridged, once and for all. -/
theorem shortenPayloads_abridges (event : Members) :
    AbridgesEvent event (shortenPayloads event) := by
  constructor
  case values =>
    rw [shortenPayloads, List.forall₂_map_right_iff, List.forall₂_same]
    intro field _
    exact ⟨rfl, abridges_shortenValue field.2⟩
  case free =>
    intro name s member
    obtain ⟨⟨other, value⟩, -, same⟩ := List.mem_map.mp member
    obtain ⟨rfl, shortened⟩ := Prod.mk.inj same
    cases value with
    | text t =>
      cases shortened
      exact (Text.abridges_shortenHex t).free
    | _ => cases shortened
  case settled =>
    rw [shortenPayloads, shortenPayloads, List.map_map]
    refine List.map_congr_left fun field _ => ?_
    exact congrArg (field.1, ·) (shortenValue_idem field.2)

end Log

end TxSubmission
