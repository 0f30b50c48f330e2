import TxSubmission.Cli.Value
import TxSubmission.Proofs.QuantityText

/-!
The canonical form of quantities. A quantity is canonical if it is the mark 0x and small hex digits
of which the first is no needless zero. Every number from zero up is written so, and no other
canonical text is read as the same number. The reader accepts much more: signs, blanks, underscores
and digits of other scripts. Writing what it has read is therefore a normal form of all that it
accepts, apart from the numbers below zero, which have none.
-/

namespace TxSubmission

open Text Number

namespace Text

/-- Small hex digits, at least one of them and no zero in front of another. -/
structure Minimal (digits : List Char) : Prop where
  inhabited : digits ≠ []
  hex : ∀ c ∈ digits, isHexDigit c = true
  small : ∀ c ∈ digits, c.toLower = c
  bare : digits.head? = some '0' → digits = ['0']

theorem toLower_digitChar : ∀ d < 16, (Nat.digitChar d).toLower = Nat.digitChar d := by decide

theorem eq_zero_of_digitChar : ∀ d < 16, Nat.digitChar d = '0' → d = 0 := by decide

theorem exists_of_mem_toDigits {n : Nat} {c : Char} (member : c ∈ Nat.toDigits 16 n) :
    ∃ d < 16, c = Nat.digitChar d := by
  induction n using Nat.strongRecOn with
  | ind n ih =>
    by_cases small : n < 16
    · rw [Nat.toDigits_of_lt_base small] at member
      exact ⟨n, small, List.mem_singleton.mp member⟩
    · rw [Nat.toDigits_of_base_le (by decide) (by omega)] at member
      rcases List.mem_append.mp member with front | last
      · exact ih (n / 16) (by omega) front
      · exact ⟨n % 16, Nat.mod_lt n (by decide), List.mem_singleton.mp last⟩

theorem eq_zero_of_head?_toDigits {n : Nat} (zero : (Nat.toDigits 16 n).head? = some '0') :
    n = 0 := by
  induction n using Nat.strongRecOn with
  | ind n ih =>
    by_cases small : n < 16
    · rw [Nat.toDigits_of_lt_base small, List.head?_cons] at zero
      exact eq_zero_of_digitChar n small (Option.some.inj zero)
    · rw [Nat.toDigits_of_base_le (by decide) (by omega),
        List.head?_append_of_ne_nil _ Nat.toDigits_ne_nil] at zero
      have quotient : n / 16 = 0 := ih (n / 16) (by omega) zero
      omega

theorem minimal_toDigits (n : Nat) : Minimal (Nat.toDigits 16 n) where
  inhabited := Nat.toDigits_ne_nil
  hex := by
    intro c member
    obtain ⟨d, bound, rfl⟩ := exists_of_mem_toDigits member
    rw [isHexDigit, hexValue?_digitChar d bound]
    rfl
  small := by
    intro c member
    obtain ⟨d, bound, rfl⟩ := exists_of_mem_toDigits member
    exact toLower_digitChar d bound
  bare := by
    intro zero
    rw [eq_zero_of_head?_toDigits zero]
    rfl

theorem spells_of_isHexDigit {s : List Char} (hex : ∀ c ∈ s, isHexDigit c = true) :
    Spells s (s.filterMap hexValue?) := by
  induction s with
  | nil => rfl
  | cons c rest ih =>
    obtain ⟨first, later⟩ := List.forall_mem_cons.mp hex
    obtain ⟨d, value⟩ := Option.isSome_iff_exists.mp first
    have spelled := ih later
    rw [Spells] at spelled ⊢
    rw [List.filterMap_cons_some value, List.map_cons, List.map_cons, value, spelled]

theorem Spells.inhabited {s : List Char} {ds : List Nat} (spelled : Spells s ds)
    (nonempty : s ≠ []) : ds ≠ [] := by
  have counted := spelled.length
  have long := List.length_pos_iff.mpr nonempty
  exact List.length_pos_iff.mp (by omega)

theorem Spells.recased {s t : List Char} {ds : List Nat} (spelled : Spells s ds)
    (same : t.map Char.toLower = s.map Char.toLower) : Spells t ds := by
  apply Spells.of_toLower
  rw [same, Spells, List.map_map, ← spelled]
  exact List.map_congr_left fun c _ => hexValue?_toLower c

theorem toDigits_of_hexValue? {c : Char} {d : Nat} (value : hexValue? c = some d)
    (small : c.toLower = c) : Nat.toDigits 16 d = [c] := by
  rw [Nat.toDigits_of_lt_base (lt_of_hexValue? value), ← toLower_of_hexValue? value, small]

theorem toDigits_append {s : List Char} {ds : List Nat} {n : Nat} (positive : 0 < n)
    (spelled : Spells s ds) (small : ∀ c ∈ s, c.toLower = c) :
    Nat.toDigits 16 n ++ s =
      Nat.toDigits 16 (ds.foldl (fun value digit => 16 * value + digit) n) := by
  induction s generalizing n ds with
  | nil =>
    obtain rfl : ds = [] := List.map_eq_nil_iff.mp spelled.symm
    exact List.append_nil _
  | cons c rest ih =>
    obtain ⟨d, es, rfl, value, later⟩ := List.map_eq_cons_iff.mp spelled.symm
    have bound := lt_of_hexValue? value.symm
    have written := toDigits_of_hexValue? value.symm (small c List.mem_cons_self)
    -- The number so far takes in the next digit and stays positive, as the induction needs it.
    have further : 0 < 16 * n + d := by omega
    calc Nat.toDigits 16 n ++ c :: rest
        = (Nat.toDigits 16 n ++ Nat.toDigits 16 d) ++ rest := by
          rw [written, List.append_assoc, List.singleton_append]
      _ = Nat.toDigits 16 (16 * n + d) ++ rest := by
          rw [Nat.toDigits_append_toDigits (by decide) positive bound]
      _ = Nat.toDigits 16 ((d :: es).foldl (fun value digit => 16 * value + digit) n) :=
          ih further later.symm fun c member => small c (List.mem_cons_of_mem _ member)

theorem Minimal.eq_toDigits {digits : List Char} {ds : List Nat} (minimal : Minimal digits)
    (spelled : Spells digits ds) : digits = Nat.toDigits 16 (digitsValue 16 ds) := by
  cases digits with
  | nil => exact absurd rfl minimal.inhabited
  | cons c rest =>
    obtain ⟨d, es, rfl, value, later⟩ := List.map_eq_cons_iff.mp spelled.symm
    have written := toDigits_of_hexValue? value.symm (minimal.small c List.mem_cons_self)
    -- A zero in front stands alone; what is behind any other digit continues a positive number.
    by_cases zero : d = 0
    · subst zero
      obtain rfl : c = '0' := (List.cons.inj written).1.symm
      obtain rfl : rest = [] := (List.cons.inj (minimal.bare rfl)).2
      obtain rfl : es = [] := List.map_eq_nil_iff.mp later
      rfl
    · have goes := toDigits_append (Nat.pos_of_ne_zero zero) later.symm
        fun c member => minimal.small c (List.mem_cons_of_mem _ member)
      have whole : digitsValue 16 (d :: es) =
          es.foldl (fun value digit => 16 * value + digit) d := by
        rw [digitsValue, List.foldl_cons, Nat.mul_zero, Nat.zero_add]
      rw [whole, ← goes, written, List.singleton_append]

end Text

namespace Quantity

/-- The canonical form of a quantity. -/
def Canonical (text : String) : Prop :=
  ∃ digits, text = String.ofList ('0' :: 'x' :: digits) ∧ Minimal digits

theorem written_eq (n : Nat) : written n = String.ofList ('0' :: 'x' :: Nat.toDigits 16 n) :=
  String.ofList_append.symm

theorem canonical_written (n : Nat) : Canonical (written n) :=
  ⟨Nat.toDigits 16 n, written_eq n, minimal_toDigits n⟩

theorem Canonical.exists_written {text : String} (canonical : Canonical text) :
    ∃ n, text = written n := by
  obtain ⟨digits, rfl, minimal⟩ := canonical
  have spelled := spells_of_isHexDigit minimal.hex
  refine ⟨digitsValue 16 (digits.filterMap hexValue?), ?_⟩
  rw [written_eq, ← minimal.eq_toDigits spelled]

theorem Canonical.eq_written {text : String} {n : Nat} (canonical : Canonical text)
    (read : decode text = .ok (n : Int)) : text = written n := by
  obtain ⟨m, rfl⟩ := canonical.exists_written
  obtain rfl : m = n := Int.ofNat.inj (Except.ok.inj ((decode_written m).symm.trans read))
  rfl

theorem decode_of_spells {s : List Char} {ds : List Nat} (inhabited : ds ≠ [])
    (spelled : Spells s ds) :
    decode (String.ofList s) = .ok (digitsValue 16 ds : Int) ∧
      decode ("0x" ++ String.ofList s) = .ok (digitsValue 16 ds : Int) ∧
      decode ("0X" ++ String.ofList s) = .ok (digitsValue 16 ds : Int) := by
  have small : "0x" ++ String.ofList s = String.ofList ('0' :: 'x' :: s) :=
    String.ofList_append.symm
  have capital : "0X" ++ String.ofList s = String.ofList ('0' :: 'X' :: s) :=
    String.ofList_append.symm
  refine ⟨?_, ?_, ?_⟩
  · rw [decode, readInt_of_spells inhabited spelled]
    rfl
  · rw [small, decode, readInt_marked (.inl rfl) inhabited spelled]
    rfl
  · rw [capital, decode, readInt_marked (.inr rfl) inhabited spelled]
    rfl

theorem encode_eq_error_iff {n : Int} {cause : Invalid} :
    encode n = .error cause ↔ n < 0 ∧ cause = .negativeQuantity n := by
  cases n with
  | ofNat n =>
    refine ⟨nofun, fun ⟨below, _⟩ => ?_⟩
    exact absurd below (Int.not_lt.mpr (Int.natCast_nonneg n))
  | negSucc n => simp [encode, Int.negSucc_lt_zero, eq_comm]

theorem hasHexPrefix_written (n : Nat) : hasHexPrefix (written n) = true := by
  rw [hasHexPrefix, written_eq, String.toList_ofList]
  rfl

end Quantity

theorem Cli.readNumber_written (n : Nat) : readNumber (Quantity.written n) = .ok (n : Int) := by
  rw [readNumber, if_pos (Quantity.hasHexPrefix_written n), Quantity.readInt_written]

namespace Quantity

/-- Writing gives every number from zero up its one canonical text, which is read back on the wire
and on the command line, and refuses the numbers below zero alone. Hex digits have one value in
either letter case, without a mark and with either one. So writing what was read brings every text
that is read as a number from zero up into its canonical form. -/
theorem encode_canonical :
    (∀ n : Int, 0 ≤ n → ∃ text, encode n = .ok text ∧ Canonical text ∧ decode text = .ok n ∧
      Cli.readNumber text = .ok n) ∧
    (∀ hex : String, hex ≠ "" → (∀ c ∈ hex.toList, isHexDigit c = true) →
      ∃ n : Nat, n = digitsValue 16 (hex.toList.filterMap hexValue?) ∧
        ∀ cased : String, cased.toList.map Char.toLower = hex.toList.map Char.toLower →
          decode cased = .ok (n : Int) ∧ decode ("0x" ++ cased) = .ok (n : Int) ∧
            decode ("0X" ++ cased) = .ok (n : Int)) ∧
    (∀ text n, decode text = .ok n → 0 ≤ n →
      ∃ canonical, encode n = .ok canonical ∧ Canonical canonical ∧ decode canonical = .ok n ∧
        ∀ other, Canonical other → decode other = .ok n → other = canonical) ∧
    ∀ n cause, encode n = .error cause ↔ n < 0 ∧ cause = .negativeQuantity n := by
  refine ⟨?_, ?_, ?_, fun n cause => encode_eq_error_iff⟩
  · intro n above
    obtain ⟨n, rfl⟩ := Int.eq_ofNat_of_zero_le above
    exact ⟨written n, rfl, canonical_written n, decode_written n, Cli.readNumber_written n⟩
  · intro hex inhabited digits
    have spelled := spells_of_isHexDigit digits
    refine ⟨_, rfl, ?_⟩
    intro cased same
    have nonempty : hex.toList ≠ [] := fun empty => inhabited (String.toList_eq_nil_iff.mp empty)
    have read := decode_of_spells (spelled.inhabited nonempty) (spelled.recased same)
    rwa [String.ofList_toList] at read
  · intro text n read above
    obtain ⟨n, rfl⟩ := Int.eq_ofNat_of_zero_le above
    exact ⟨written n, rfl, canonical_written n, decode_written n,
      fun other canonical read => canonical.eq_written read⟩

theorem encode_canonical_binary :
    encode 177 = .ok "0xb1" ∧ decode "0b1" = .ok 177 ∧ decode "0X0B1" = .ok 177 ∧
      ∀ other, Canonical other → decode other = .ok 177 → other = "0xb1" := by
  obtain ⟨-, alike, normal, -⟩ := encode_canonical
  have hex : ∀ c ∈ "0b1".toList, isHexDigit c = true := List.all_eq_true.mp (by decide)
  obtain ⟨n, rfl, read⟩ := alike "0b1" (by decide) hex
  obtain ⟨canonical, written, -, -, unique⟩ := normal "0b1" 177 (read "0b1" rfl).1 (by decide)
  have text : "0xb1" = canonical := Except.ok.inj written
  exact ⟨rfl, (read "0b1" rfl).1, (read "0B1" (by decide)).2.2, text ▸ unique⟩

end Quantity

end TxSubmission
