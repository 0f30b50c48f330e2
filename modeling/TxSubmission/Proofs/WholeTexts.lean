import TxSubmission.Node

/-!
Whole bodies. Only an escape names half of a surrogate pair where bytes are read one by one, so a
body without a backslash reads the same whatever stands for a half.
-/

namespace TxSubmission

namespace Json

/-- A place at which no escape is under way and no half of a pair waits for the other. -/
inductive Progress.IsPlain : Progress → Prop
  | between : IsPlain .between
  | scalar (read : List Char) : IsPlain (.scalar read)
  | text (read : List Char) : IsPlain (.text read none)

theorem isPlain_start (c : Char) : (start c).1.IsPlain := by
  unfold start
  split
  next => exact .between
  next =>
    split
    next => exact .between
    next =>
      split
      next => exact .text []
      next => exact .scalar [c]

variable {progress next : Progress} {c : Char} {tokens : List Token}

theorem Progress.IsPlain.step_eq (plain : progress.IsPlain) (unescaped : c ≠ '\\')
    (stand other : Char) : progress.step stand c = progress.step other c := by
  cases plain with
  | between | scalar read => rfl
  | text read =>
    unfold Progress.step
    simp only [settled, if_neg unescaped]

theorem Progress.IsPlain.step (plain : progress.IsPlain) (unescaped : c ≠ '\\') {stand : Char}
    (stepped : progress.step stand c = some (next, tokens)) : next.IsPlain := by
  have begun := isPlain_start c
  cases plain with
  | between =>
    rw [Option.some.inj stepped] at begun
    exact begun
  | scalar read =>
    rw [Progress.step] at stepped
    split at stepped
    next =>
      obtain ⟨value, -, same⟩ := Option.map_eq_some_iff.mp stepped
      exact (Prod.mk.inj same).1 ▸ begun
    next =>
      cases stepped
      exact .scalar (c :: read)
  | text read =>
    rw [Progress.step, if_neg unescaped] at stepped
    split at stepped
    next =>
      cases stepped
      exact .between
    next =>
      split at stepped
      next => cases stepped
      next =>
        cases stepped
        exact .text (c :: read)

theorem Reading.scan_eq {s : List Char} (unescaped : '\\' ∉ s) (stand other : Char) (limit : Nat)
    (reading : Reading) (plain : progress.IsPlain) :
    reading.scan stand limit progress s = reading.scan other limit progress s := by
  -- only an escape can name a half, and without one a plain state is followed by another
  induction s generalizing reading progress with
  | nil => rfl
  | cons c rest ih =>
    obtain ⟨first, later⟩ := not_or.mp (mt List.mem_cons.mpr unescaped)
    unfold Reading.scan
    rw [← plain.step_eq (Ne.symm first) stand other]
    cases stepped : progress.step stand c with
    | none => rfl
    | some found =>
      obtain ⟨next, tokens⟩ := found
      have onward := plain.step (Ne.symm first) stepped
      dsimp only
      cases reading.run limit tokens with
      | error fault => rfl
      | ok reached => exact ih later reached onward

theorem read_eq {s : List Char} (unescaped : '\\' ∉ s) (stand other : Char) (limit : Nat) :
    read stand limit s = read other limit s := by
  unfold read
  rw [Reading.scan_eq unescaped stand other limit _ .between]

end Json

namespace Http.Body

/-- A body of single bytes without a backslash is whole. -/
theorem isWhole_text {s : String} (limit : Nat)
    (narrow : Text.unitsOf (Text.encodeUtf8 s.toList) = .bytes) (unescaped : '\\' ∉ s.toList) :
    (text s limit).IsWhole := by
  have spelled (stand : Char) :
      (text s limit).readWith stand = Json.readMarked stand limit s.toList := by
    simp only [readWith, Text.unfoldUnits?, narrow]
  intro stand
  rw [read, spelled, spelled]
  unfold Json.readMarked
  split
  next rest same =>
    rw [same] at unescaped
    exact Json.read_eq (mt (List.mem_cons_of_mem _) unescaped) _ _ _
  next => exact Json.read_eq unescaped _ _ _

-- a half that stands alone is what keeps a body from being whole
example : (text "\"\\ud800\"").readWith 'a' = .ok (.text "a") := rfl

end Http.Body

end TxSubmission
