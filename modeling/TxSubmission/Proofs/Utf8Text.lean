import Mathlib.Algebra.Group.Nat.Defs
import TxSubmission.Text.Utf8

/-!
Text survives UTF-8. A character is written as one byte, or as a lead byte with the high bits and
followers with six bits each. The decoder takes the lead as the start of a sequence whose range
admits the first follower, and every follower completes six more bits, so the characters of a text
come back one by one and nothing is replaced.

Bytes survive too where the decoder replaces nothing. The bytes of an unfinished character start
every character that the range of the next byte leaves, each byte in range keeps this up, and a
completed character is written with just the bytes that were read for it.
-/

namespace TxSubmission.Text

def follower (n : Nat) : UInt8 := UInt8.ofNat (n % 64 + 0x80)

theorem toNat_follower (n : Nat) : (follower n).toNat = n % 64 + 0x80 := by
  rw [follower, UInt8.toNat_ofNat']
  omega

theorem bits_follower (n : Nat) : 64 * (n / 64) + ((follower n).toNat - 0x80) = n := by
  rw [toNat_follower]
  omega

theorem decodeFrom_lead {b : UInt8} {sequence : Sequence} (begun : lead b.toNat = .more sequence)
    (rest : List UInt8) : decodeFrom none (b :: rest) = decodeFrom (some sequence) rest := by
  rw [decodeFrom, begun]

theorem decodeFrom_follower {n missing low high : Nat} (inside : low ≤ n % 64 + 0x80)
    (below : n % 64 + 0x80 ≤ high) (rest : List UInt8) :
    decodeFrom (some ⟨n / 64, missing + 2, low, high⟩) (follower n :: rest) =
      decodeFrom (some ⟨n, missing + 1, 0x80, 0xbf⟩) rest := by
  rw [decodeFrom, if_pos (by rw [toNat_follower]; exact ⟨inside, below⟩), bits_follower]
  exact if_neg (by dsimp only; omega)

theorem decodeFrom_last_follower {n low high : Nat} (inside : low ≤ n % 64 + 0x80)
    (below : n % 64 + 0x80 ≤ high) (rest : List UInt8) :
    decodeFrom (some ⟨n / 64, 1, low, high⟩) (follower n :: rest) =
      Char.ofNat n :: decodeFrom none rest := by
  rw [decodeFrom, if_pos (by rw [toNat_follower]; exact ⟨inside, below⟩), bits_follower]
  exact if_pos (Nat.le_refl 1)

theorem lead_two {n : Nat} (least : 0x80 ≤ n) (most : n < 0x800) :
    lead (n / 64 + 0xc0) = .more ⟨n / 64, 1, 0x80, 0xbf⟩ := by
  unfold lead
  rw [if_neg (by omega), if_neg (by omega), if_pos (by omega), Nat.add_sub_cancel]

theorem lead_three {n : Nat} (least : 0x800 ≤ n) (most : n < 0x10000)
    (allowed : n < 0xd800 ∨ 0xdfff < n) :
    ∃ low high, lead (n / 64 / 64 + 0xe0) = .more ⟨n / 64 / 64, 2, low, high⟩ ∧
      low ≤ n / 64 % 64 + 0x80 ∧ n / 64 % 64 + 0x80 ≤ high := by
  unfold lead
  rw [if_neg (by omega), if_neg (by omega), if_neg (by omega)]
  by_cases first : n / 64 / 64 = 0
  · rw [if_pos (by omega), first]
    exact ⟨_, _, rfl, by omega, by omega⟩
  rw [if_neg (by omega)]
  by_cases surrogates : n / 64 / 64 = 0xd
  · rw [if_pos (by omega), surrogates]
    exact ⟨_, _, rfl, by omega, by omega⟩
  rw [if_neg (by omega), if_pos (by omega), Nat.add_sub_cancel]
  exact ⟨_, _, rfl, by omega, by omega⟩

theorem lead_four {n : Nat} (least : 0x10000 ≤ n) (most : n < 0x110000) :
    ∃ low high, lead (n / 64 / 64 / 64 + 0xf0) = .more ⟨n / 64 / 64 / 64, 3, low, high⟩ ∧
      low ≤ n / 64 / 64 % 64 + 0x80 ∧ n / 64 / 64 % 64 + 0x80 ≤ high := by
  unfold lead
  rw [if_neg (by omega), if_neg (by omega), if_neg (by omega), if_neg (by omega),
    if_neg (by omega), if_neg (by omega)]
  by_cases first : n / 64 / 64 / 64 = 0
  · rw [if_pos (by omega), first]
    exact ⟨_, _, rfl, by omega, by omega⟩
  rw [if_neg (by omega)]
  by_cases last : n / 64 / 64 / 64 = 4
  · rw [if_neg (by omega), if_pos (by omega), last]
    exact ⟨_, _, rfl, by omega, by omega⟩
  rw [if_pos (by omega), Nat.add_sub_cancel]
  exact ⟨_, _, rfl, by omega, by omega⟩

section Characters

variable {c : Char}

theorem toNat_allowed (c : Char) : c.toNat < 0xd800 ∨ 0xdfff < c.toNat ∧ c.toNat < 0x110000 :=
  c.valid

theorem encode_one (most : c.toNat < 0x80) :
    String.utf8EncodeChar c = [UInt8.ofNat c.toNat] :=
  if_pos (show c.toNat ≤ 0x7f by omega)

theorem encode_two (least : 0x80 ≤ c.toNat) (most : c.toNat < 0x800) :
    String.utf8EncodeChar c = [UInt8.ofNat (c.toNat / 64 + 0xc0), follower c.toNat] := by
  have high : c.toNat / 64 % 0x20 = c.toNat / 64 := by omega
  refine (if_neg (show ¬c.toNat ≤ 0x7f by omega)).trans
    ((if_pos (show c.toNat ≤ 0x7ff by omega)).trans ?_)
  change [UInt8.ofNat (c.toNat / 64 % 0x20 + 0xc0), follower c.toNat] = _
  rw [high]

theorem encode_three (least : 0x800 ≤ c.toNat) (most : c.toNat < 0x10000) :
    String.utf8EncodeChar c =
      [UInt8.ofNat (c.toNat / 64 / 64 + 0xe0), follower (c.toNat / 64), follower c.toNat] := by
  have high : c.toNat / 4096 % 0x10 = c.toNat / 64 / 64 := by omega
  refine (if_neg (show ¬c.toNat ≤ 0x7f by omega)).trans
    ((if_neg (show ¬c.toNat ≤ 0x7ff by omega)).trans
      ((if_pos (show c.toNat ≤ 0xffff by omega)).trans ?_))
  change [UInt8.ofNat (c.toNat / 4096 % 0x10 + 0xe0), follower (c.toNat / 64),
    follower c.toNat] = _
  rw [high]

theorem encode_four (least : 0x10000 ≤ c.toNat) (most : c.toNat < 0x110000) :
    String.utf8EncodeChar c =
      [UInt8.ofNat (c.toNat / 64 / 64 / 64 + 0xf0), follower (c.toNat / 64 / 64),
        follower (c.toNat / 64), follower c.toNat] := by
  have high : c.toNat / 262144 % 0x08 = c.toNat / 64 / 64 / 64 := by omega
  have middle : c.toNat / 4096 = c.toNat / 64 / 64 := by omega
  refine (if_neg (show ¬c.toNat ≤ 0x7f by omega)).trans
    ((if_neg (show ¬c.toNat ≤ 0x7ff by omega)).trans
      ((if_neg (show ¬c.toNat ≤ 0xffff by omega)).trans ?_))
  change [UInt8.ofNat (c.toNat / 262144 % 0x08 + 0xf0), follower (c.toNat / 4096),
    follower (c.toNat / 64), follower c.toNat] = _
  rw [high, middle]

/-- Of the bytes of a text the decoder takes those of the first character and goes on behind
them. -/
theorem decodeFrom_encode (c : Char) (rest : List UInt8) :
    decodeFrom none (String.utf8EncodeChar c ++ rest) = c :: decodeFrom none rest := by
  have allowed := toNat_allowed c
  have whole : Char.ofNat c.toNat = c := Char.ofNat_toNat c
  by_cases one : c.toNat < 0x80
  · rw [encode_one one, List.singleton_append, decodeFrom,
      UInt8.toNat_ofNat_of_lt' (show c.toNat < 256 by omega)]
    simp only [lead, if_pos one, whole]
  by_cases two : c.toNat < 0x800
  · have begun := lead_two (by omega) two
    rw [← UInt8.toNat_ofNat_of_lt' (show c.toNat / 64 + 0xc0 < 256 by omega)] at begun
    rw [encode_two (by omega) two, List.cons_append, decodeFrom_lead begun, List.singleton_append,
      decodeFrom_last_follower (by omega) (by omega), whole]
  by_cases three : c.toNat < 0x10000
  · obtain ⟨low, high, begun, inside, below⟩ := lead_three (by omega) three (by omega)
    rw [← UInt8.toNat_ofNat_of_lt' (show c.toNat / 64 / 64 + 0xe0 < 256 by omega)] at begun
    rw [encode_three (by omega) three, List.cons_append, decodeFrom_lead begun, List.cons_append,
      decodeFrom_follower inside below, List.singleton_append,
      decodeFrom_last_follower (by omega) (by omega), whole]
  · obtain ⟨low, high, begun, inside, below⟩ :=
      lead_four (show 0x10000 ≤ c.toNat by omega) (by omega)
    rw [← UInt8.toNat_ofNat_of_lt' (show c.toNat / 64 / 64 / 64 + 0xf0 < 256 by omega)] at begun
    rw [encode_four (by omega) (by omega), List.cons_append, decodeFrom_lead begun,
      List.cons_append, decodeFrom_follower inside below, List.cons_append,
      decodeFrom_follower (by omega) (by omega), List.singleton_append,
      decodeFrom_last_follower (by omega) (by omega), whole]

end Characters

theorem decodeUtf8_encodeUtf8 (s : List Char) : decodeUtf8 (encodeUtf8 s) = s := by
  unfold decodeUtf8 encodeUtf8
  induction s with
  | nil => rfl
  | cons c rest ih => rw [List.flatMap_cons, decodeFrom_encode, ih]

/-! The way back -/

def followers : Nat → Nat → List UInt8
  | 0, _ => []
  | missing + 1, n => follower (n / 64 ^ missing) :: followers missing n

/-- Bytes that start every character whose number has the bits of a sequence in front and whose next
byte lies in its range. -/
structure Starts (seen : List UInt8) (sequence : Sequence) : Prop where
  unfinished : 0 < sequence.missing
  least : 0x80 ≤ sequence.low
  most : sequence.high ≤ 0xbf
  completed : ∀ n, n / 64 ^ sequence.missing = sequence.bits →
    sequence.low ≤ n / 64 ^ (sequence.missing - 1) % 64 + 0x80 →
    n / 64 ^ (sequence.missing - 1) % 64 + 0x80 ≤ sequence.high →
    String.utf8EncodeChar (Char.ofNat n) = seen ++ followers sequence.missing n

theorem toNat_ofNat {n : Nat} (allowed : n < 0xd800 ∨ 0xdfff < n ∧ n < 0x110000) :
    (Char.ofNat n).toNat = n := by
  rw [Char.ofNat, dif_pos allowed]
  rfl

theorem ofNat_eq {n : Nat} {b : UInt8} (same : n = b.toNat) : UInt8.ofNat n = b := by
  rw [same, UInt8.ofNat_toNat]

theorem square_64 (n : Nat) : n / 64 ^ 2 = n / 64 / 64 := by omega

theorem cube_64 (n : Nat) : n / 64 ^ 3 = n / 64 / 64 / 64 := by omega

theorem encode_of_whole {b : UInt8} {c : Char} (read : lead b.toNat = .whole c) :
    String.utf8EncodeChar c = [b] := by
  have small : b.toNat < 0x80 := by
    apply Nat.lt_of_not_le
    intro foreign
    simp only [lead, if_neg (Nat.not_lt.mpr foreign)] at read
    repeat' split at read
    all_goals cases read
  obtain rfl : Char.ofNat b.toNat = c := by simpa [lead, small] using read
  have value : (Char.ofNat b.toNat).toNat = b.toNat := toNat_ofNat (.inl (by omega))
  rw [encode_one (by omega), value, UInt8.ofNat_toNat]

section Leads

variable {b : UInt8} {bits low high : Nat}

theorem starts_two (first : b.toNat = bits + 0xc0) (least : 2 ≤ bits) (most : bits < 32) :
    Starts [b] ⟨bits, 1, 0x80, 0xbf⟩ where
  unfinished := Nat.one_pos
  least := Nat.le_refl 0x80
  most := Nat.le_refl 0xbf
  completed := by
    intro n same inside below
    simp only [Nat.pow_one] at same
    have value : (Char.ofNat n).toNat = n := toNat_ofNat (by omega)
    rw [encode_two (by omega) (by omega), value, ofNat_eq (b := b) (by omega)]
    simp [followers]

theorem starts_three (first : b.toNat = bits + 0xe0) (most : bits < 16) (inside : 0x80 ≤ low)
    (below : high ≤ 0xbf) (long : bits = 0 → 0xa0 ≤ low) (plain : bits = 0xd → high ≤ 0x9f) :
    Starts [b] ⟨bits, 2, low, high⟩ where
  unfinished := Nat.succ_pos _
  least := inside
  most := below
  completed := by
    intro n same inside below
    simp only [square_64, Nat.pow_one, Nat.add_one_sub_one] at same inside below
    have value : (Char.ofNat n).toNat = n := toNat_ofNat (by omega)
    rw [encode_three (by omega) (by omega), value, ofNat_eq (b := b) (by omega)]
    simp [followers]

theorem starts_four (first : b.toNat = bits + 0xf0) (most : bits ≤ 4) (inside : 0x80 ≤ low)
    (below : high ≤ 0xbf) (long : bits = 0 → 0x90 ≤ low) (last : bits = 4 → high ≤ 0x8f) :
    Starts [b] ⟨bits, 3, low, high⟩ where
  unfinished := Nat.succ_pos _
  least := inside
  most := below
  completed := by
    intro n same inside below
    simp only [cube_64, square_64, Nat.add_one_sub_one] at same inside below
    have value : (Char.ofNat n).toNat = n := toNat_ofNat (by omega)
    rw [encode_four (by omega) (by omega), value, ofNat_eq (b := b) (by omega)]
    simp only [followers, square_64, Nat.pow_one, Nat.pow_zero, Nat.div_one]
    rfl

theorem starts_of_lead {sequence : Sequence} (read : lead b.toNat = .more sequence) :
    Starts [b] sequence := by
  unfold lead at read
  split at read
  next => cases read
  split at read
  next => cases read
  split at read
  next =>
    obtain rfl := Lead.more.inj read
    exact starts_two (by omega) (by omega) (by omega)
  split at read
  next =>
    obtain rfl := Lead.more.inj read
    exact starts_three (by omega) (by omega) (by omega) (by omega) (by omega) (by omega)
  split at read
  next =>
    obtain rfl := Lead.more.inj read
    exact starts_three (by omega) (by omega) (by omega) (by omega) (by omega) (by omega)
  split at read
  next =>
    obtain rfl := Lead.more.inj read
    exact starts_three (by omega) (by omega) (by omega) (by omega) (by omega) (by omega)
  split at read
  next =>
    obtain rfl := Lead.more.inj read
    exact starts_four (by omega) (by omega) (by omega) (by omega) (by omega) (by omega)
  split at read
  next =>
    obtain rfl := Lead.more.inj read
    exact starts_four (by omega) (by omega) (by omega) (by omega) (by omega) (by omega)
  split at read
  next =>
    obtain rfl := Lead.more.inj read
    exact starts_four (by omega) (by omega) (by omega) (by omega) (by omega) (by omega)
  next => cases read

end Leads

section Pending

variable {seen : List UInt8} {bits missing low high : Nat} {b : UInt8}

theorem follower_joined (least : 0x80 ≤ b.toNat) (most : b.toNat ≤ 0xbf) {n : Nat}
    (same : n = 64 * bits + (b.toNat - 0x80)) :
    n / 64 = bits ∧ n % 64 + 0x80 = b.toNat ∧ follower n = b := by
  have rest : n % 64 + 0x80 = b.toNat := by omega
  exact ⟨by omega, rest, ofNat_eq rest⟩

/-- A byte in range brings a sequence nearer to its end. -/
theorem Starts.next (starts : Starts seen ⟨bits, missing + 2, low, high⟩)
    (inside : low ≤ b.toNat) (below : b.toNat ≤ high) :
    Starts (seen ++ [b]) ⟨64 * bits + (b.toNat - 0x80), missing + 1, 0x80, 0xbf⟩ where
  unfinished := Nat.succ_pos missing
  least := Nat.le_refl 0x80
  most := Nat.le_refl 0xbf
  completed := by
    intro n same _ _
    obtain ⟨front, last, read⟩ := follower_joined (Nat.le_trans starts.least inside)
      (Nat.le_trans below starts.most) same
    have whole : n / 64 ^ (missing + 2) = bits := by
      rw [Nat.pow_succ, ← Nat.div_div_eq_div_mul, front]
    rw [starts.completed n whole (by simpa [last] using inside) (by simpa [last] using below)]
    simp [followers, read]

theorem Starts.encode (starts : Starts seen ⟨bits, 1, low, high⟩) (inside : low ≤ b.toNat)
    (below : b.toNat ≤ high) :
    String.utf8EncodeChar (Char.ofNat (64 * bits + (b.toNat - 0x80))) = seen ++ [b] := by
  generalize whole : 64 * bits + (b.toNat - 0x80) = n
  obtain ⟨front, last, read⟩ := follower_joined (Nat.le_trans starts.least inside)
    (Nat.le_trans below starts.most) whole.symm
  rw [starts.completed n (by simpa using front) (by simpa [last] using inside)
    (by simpa [last] using below)]
  simp [followers, read]

end Pending

theorem encodeUtf8_cons (c : Char) (rest : List Char) :
    encodeUtf8 (c :: rest) = String.utf8EncodeChar c ++ encodeUtf8 rest := List.flatMap_cons

/-- Where nothing is replaced, the text is written with the bytes that were read, those of an
unfinished character in front. -/
theorem encodeUtf8_decodeFrom (bytes : List UInt8) :
    (replacement ∉ decodeFrom none bytes → encodeUtf8 (decodeFrom none bytes) = bytes) ∧
      ∀ seen sequence, Starts seen sequence → replacement ∉ decodeFrom (some sequence) bytes →
        encodeUtf8 (decodeFrom (some sequence) bytes) = seen ++ bytes := by
  -- Both states of the decoder go through the induction together, as each may follow the other.
  induction bytes with
  | nil =>
    refine ⟨fun _ => rfl, fun seen sequence _ clean => ?_⟩
    exact absurd List.mem_cons_self clean
  | cons b rest ih =>
    obtain ⟨fresh, pending⟩ := ih
    constructor
    · intro clean
      rw [decodeFrom] at clean ⊢
      cases read : lead b.toNat with
      | whole c =>
        simp only [read, List.mem_cons, not_or] at clean ⊢
        rw [encodeUtf8_cons, encode_of_whole read, fresh clean.2, List.singleton_append]
      | more sequence =>
        simp only [read] at clean ⊢
        exact pending [b] sequence (starts_of_lead read) clean
      | bad => simp [read] at clean
    · rintro seen ⟨bits, missing, low, high⟩ starts clean
      rw [decodeFrom] at clean ⊢
      by_cases inside : low ≤ b.toNat ∧ b.toNat ≤ high
      · simp only [inside, and_self, if_true] at clean ⊢
        match missing, starts.unfinished with
        | 1, _ =>
          simp only [Nat.le_refl, if_true, List.mem_cons, not_or] at clean ⊢
          rw [encodeUtf8_cons, starts.encode inside.1 inside.2, fresh clean.2, List.append_assoc,
            List.singleton_append]
        | missing + 2, _ =>
          have more : ¬missing + 2 ≤ 1 := by omega
          simp only [more, if_false] at clean ⊢
          have goes := pending _ _ (starts.next inside.1 inside.2) clean
          simpa using goes
      · simp only [inside, if_false] at clean
        cases read : lead b.toNat <;> simp [read] at clean

theorem encodeUtf8_decodeUtf8 {bytes : List UInt8} (clean : replacement ∉ decodeUtf8 bytes) :
    encodeUtf8 (decodeUtf8 bytes) = bytes :=
  (encodeUtf8_decodeFrom bytes).1 clean

end TxSubmission.Text
