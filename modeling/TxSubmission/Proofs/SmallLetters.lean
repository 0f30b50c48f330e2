import TxSubmission.Proofs.HexText
import TxSubmission.Text.HexPrefix
import TxSubmission.Text.SmallLetter

/-!
Small letters of ASCII and of all scripts. The small forms of the characters beside ASCII are beside
ASCII as well, with two exceptions: the sign of the unit kelvin has the form k, and the capital i
with a dot is written as an i and a dot on its own. So a text of small ASCII letters without a k is
the small form of another text if it is so by its ASCII letters alone, and the mark of hex text
stands in front of a small form only where it stands in front of the text, in either case.
-/

namespace TxSubmission.Text

variable {c : Char} {s t : List Char} {before : Option Char}

/-- The ASCII characters that are the small forms of ASCII characters alone. -/
def isOwnSmall (c : Char) : Bool := c.toNat < 128 && c != 'k' && c != '\x00'

theorem smallForm_of_ascii (ascii : c.toNat < 128) : smallForm c = [c.toLower] := by
  have undotted : c ≠ 'İ' := by
    rintro rfl
    exact absurd ascii (by decide)
  rw [smallForm, if_neg undotted, if_pos ascii]

theorem small_capitalRuns : ∀ run ∈ capitalRuns,
    128 ≤ run.small ∨ run.small = 'k'.toNat ∧ run.first = run.last := by
  decide +kernel

theorem not_isOwnSmall_of_foreign (foreign : 128 ≤ c.toNat) : isOwnSmall c = false := by
  simp [isOwnSmall, Nat.not_lt.mpr foreign]

theorem not_isOwnSmall_ofNat {n : Nat} (foreign : 128 ≤ n) :
    isOwnSmall (Char.ofNat n) = false := by
  by_cases valid : n.isValidChar
  · have value : (Char.ofNat n).toNat = n := by
      rw [Char.ofNat, dif_pos valid]
      rfl
    exact not_isOwnSmall_of_foreign (by omega)
  · rw [Char.ofNat, dif_neg valid]
    rfl

theorem smallForm_of_foreign (foreign : 128 ≤ c.toNat) :
    (∃ d, smallForm c = [d] ∧ isOwnSmall d = false) ∨ smallForm c = ['i', '\u0307'] := by
  by_cases dotted : c = 'İ'
  · exact .inr (if_pos dotted)
  · rw [smallForm, if_neg dotted, if_neg (Nat.not_lt.mpr foreign)]
    left
    split
    next run found =>
      refine ⟨_, rfl, ?_⟩
      have covers := List.find?_some found
      simp only [CapitalRun.covers, Bool.and_eq_true, decide_eq_true_eq] at covers
      -- The run of the kelvin sign is the only one whose small letters lie in ASCII.
      rcases small_capitalRuns run (List.mem_of_find?_eq_some found) with beyond | ⟨kelvin, alone⟩
      · exact not_isOwnSmall_ofNat (by omega)
      · have same : run.small + (c.toNat - run.first) = 'k'.toNat := by omega
        rw [same]
        rfl
    next =>
      exact ⟨c, rfl, not_isOwnSmall_of_foreign foreign⟩

theorem smallFrom_cons_of_ascii (ascii : c.toNat < 128) :
    smallFrom before (c :: s) = c.toLower :: smallFrom (some c) s := by
  have unlike : c ≠ 'Σ' := by
    rintro rfl
    exact absurd ascii (by decide)
  simp [smallFrom, unlike, smallForm_of_ascii ascii]

theorem smallFrom_cons_of_foreign (foreign : 128 ≤ c.toNat) (before : Option Char)
    (s : List Char) :
    (∃ d, smallFrom before (c :: s) = d :: smallFrom (some c) s ∧ isOwnSmall d = false) ∨
      smallFrom before (c :: s) = 'i' :: '\u0307' :: smallFrom (some c) s := by
  simp only [smallFrom]
  split
  next => exact .inl ⟨'ς', rfl, rfl⟩
  next =>
    rcases smallForm_of_foreign foreign with ⟨d, written, other⟩ | written
    · exact .inl ⟨d, by rw [written]; rfl, other⟩
    · exact .inr (by rw [written]; rfl)

theorem smallFrom_of_ascii (ascii : ∀ c ∈ s, c.toNat < 128) :
    smallFrom before s = s.map Char.toLower := by
  induction s generalizing before with
  | nil => rfl
  | cons c rest ih =>
    obtain ⟨first, later⟩ := List.forall_mem_cons.mp ascii
    rw [smallFrom_cons_of_ascii first, ih later, List.map_cons]

theorem exists_of_foreign (foreign : ∃ c ∈ s, 128 ≤ c.toNat) (before : Option Char) :
    ∃ d ∈ smallFrom before s, isOwnSmall d = false := by
  induction s generalizing before with
  | nil =>
    obtain ⟨c, member, -⟩ := foreign
    cases member
  | cons c rest ih =>
    by_cases ascii : c.toNat < 128
    · have later : ∃ d ∈ rest, 128 ≤ d.toNat := by
        obtain ⟨d, member, other⟩ := foreign
        rcases List.mem_cons.mp member with rfl | member
        · omega
        · exact ⟨d, member, other⟩
      obtain ⟨d, member, other⟩ := ih later (some c)
      refine ⟨d, ?_, other⟩
      rw [smallFrom_cons_of_ascii ascii]
      exact List.mem_cons_of_mem _ member
    · rcases smallFrom_cons_of_foreign (Nat.not_lt.mp ascii) before rest with
        ⟨d, written, other⟩ | written
      · exact ⟨d, by rw [written]; exact List.mem_cons_self, other⟩
      · exact ⟨'\u0307', by rw [written]; simp, rfl⟩

/-- A text of characters that are small forms of ASCII characters alone is the small form of a text
if and only if it is so by the capitals of ASCII. -/
theorem small_eq_iff (own : ∀ d ∈ t, isOwnSmall d = true) :
    small s = t ↔ s.map Char.toLower = t := by
  by_cases ascii : ∀ c ∈ s, c.toNat < 128
  · rw [small, smallFrom_of_ascii ascii]
  · simp only [not_forall, Nat.not_lt, exists_prop] at ascii
    constructor
    · rintro rfl
      obtain ⟨d, member, other⟩ := exists_of_foreign ascii none
      rw [own d member] at other
      cases other
    · rintro rfl
      obtain ⟨c, member, foreign⟩ := ascii
      have lowered := own c.toLower (List.mem_map_of_mem member)
      rw [toLower_of_foreign foreign, not_isOwnSmall_of_foreign foreign] at lowered
      cases lowered

theorem ascii_of_toLower {d : Char} (own : isOwnSmall d = true) (lowered : c.toLower = d) :
    c.toNat < 128 := by
  by_cases ascii : c.toNat < 128
  · exact ascii
  · have foreign := Nat.not_lt.mp ascii
    rw [toLower_of_foreign foreign] at lowered
    rw [← lowered, not_isOwnSmall_of_foreign foreign] at own
    cases own

theorem head?_smallFrom_iff {d : Char} (own : isOwnSmall d = true) (undotted : d ≠ 'i') :
    (smallFrom before s).head? = some d ↔ s.head?.map Char.toLower = some d := by
  cases s with
  | nil => exact Iff.rfl
  | cons c rest =>
    by_cases ascii : c.toNat < 128
    · rw [smallFrom_cons_of_ascii ascii]
      exact Iff.rfl
    · have foreign := Nat.not_lt.mp ascii
      have unlike : c.toLower ≠ d := fun lowered => ascii (ascii_of_toLower own lowered)
      rw [List.head?_cons, Option.map_some, Option.some.injEq]
      refine iff_of_false ?_ unlike
      rcases smallFrom_cons_of_foreign foreign before rest with ⟨e, written, other⟩ | written
      · rw [written, List.head?_cons, Option.some.injEq]
        rintro rfl
        rw [own] at other
        cases other
      · rw [written, List.head?_cons, Option.some.injEq]
        exact undotted.symm

theorem eq_of_toLower_zero (lowered : c.toLower = '0') : c = '0' := by
  have checked : ∀ n < 128, (Char.ofNat n).toLower = '0' → Char.ofNat n = '0' := by decide
  have held := checked c.toNat (ascii_of_toLower rfl lowered)
  rw [Char.ofNat_toNat] at held
  exact held lowered

theorem eq_of_toLower_x (lowered : c.toLower = 'x') : c = 'x' ∨ c = 'X' := by
  have checked : ∀ n < 128, (Char.ofNat n).toLower = 'x' →
      Char.ofNat n = 'x' ∨ Char.ofNat n = 'X' := by decide
  have held := checked c.toNat (ascii_of_toLower rfl lowered)
  rw [Char.ofNat_toNat] at held
  exact held lowered

theorem mark_prefix_small_iff (s : String) :
    ['0', 'x'] <+: small s.toList ↔ hasHexPrefix s = true := by
  rw [hasHexPrefix, small]
  generalize s.toList = chars
  constructor
  · rintro ⟨behind, written⟩
    have first : (smallFrom none chars).head? = some '0' := by rw [← written]; rfl
    obtain ⟨c, begun, lowered⟩ :=
      Option.map_eq_some_iff.mp ((head?_smallFrom_iff rfl (by decide)).mp first)
    obtain rfl := eq_of_toLower_zero lowered
    obtain ⟨rest, rfl⟩ := List.head?_eq_some_iff.mp begun
    rw [smallFrom_cons_of_ascii (by decide)] at written
    have second : (smallFrom (some '0') rest).head? = some 'x' := by
      rw [← (List.cons.inj written).2]
      rfl
    obtain ⟨x, begun, lowered⟩ :=
      Option.map_eq_some_iff.mp ((head?_smallFrom_iff rfl (by decide)).mp second)
    obtain ⟨more, rfl⟩ := List.head?_eq_some_iff.mp begun
    rcases eq_of_toLower_x lowered with rfl | rfl
    · rfl
    · rfl
  · intro seen
    unfold marked at seen
    split at seen
    next rest =>
      rw [smallFrom_cons_of_ascii (by decide), smallFrom_cons_of_ascii (by decide)]
      exact ⟨_, rfl⟩
    next rest =>
      rw [smallFrom_cons_of_ascii (by decide), smallFrom_cons_of_ascii (by decide)]
      exact ⟨_, rfl⟩
    next => cases seen

end TxSubmission.Text
