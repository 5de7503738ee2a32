import Isl.Text.Base64
/-!
# Base64 that is read back

Encoded bytes are symbols and up to two padding characters, whole blocks of four in all, and the
last symbol has no bits that belong to no byte. That is all that decoding asks for.

* `Encoded`, `encoded`: what encoded bytes are made of;
* `decode_encode`: decoding takes them back;
* `slashes_iff`: which bytes have two slashes in front.
-/
namespace Isl.Base64

variable {bytes : List UInt8} {sextets : List Nat} {padding base index offset n : Nat}

/-- What six bits are written as. -/
def code (n : Nat) : Nat := (symbol n).toNat

theorem sextet?_code : ∀ n < 64, sextet? (code n) = some n := by decide +kernel

theorem code_ne_pad : ∀ n < 64, code n ≠ padByte := by decide +kernel

/-! ## Encoded bytes -/

/-- Bytes as sextets with some padding behind them. -/
structure Encoded (bytes : List UInt8) (sextets : List Nat) (padding : Nat) : Prop where
  text : encode bytes = sextets.map symbol ++ List.replicate padding '='
  small : ∀ s ∈ sextets, s < 64
  whole : (sextets.length + padding) % 4 = 0
  few : padding ≤ 2
  packed : pack sextets = bytes
  clean : leftOver sextets = 0

theorem leftOver_four (a b c d : Nat) (sextets : List Nat) :
    leftOver (a :: b :: c :: d :: sextets) = leftOver sextets := by
  cases sextets with
  | nil => simp [leftOver]
  | cons s sextets =>
    have length : (a :: b :: c :: d :: s :: sextets).length % 4 = (s :: sextets).length % 4 := by
      simp only [List.length_cons]
      omega
    have last : (a :: b :: c :: d :: s :: sextets).getLast? = (s :: sextets).getLast? := by
      simp [List.getLast?_cons]
    unfold leftOver
    rw [length, last]

theorem byte_eq {n : Nat} (a : UInt8) (h : n = a.toNat) : UInt8.ofNat n = a := by
  rw [h, UInt8.ofNat_toNat]

/-- Three bytes as four sextets, in front of what is encoded already. -/
theorem Encoded.block (a b c : UInt8) (rest : Encoded bytes sextets padding) :
    Encoded (a :: b :: c :: bytes)
      (a.toNat / 4 :: (a.toNat % 4 * 16 + b.toNat / 16) :: (b.toNat % 16 * 4 + c.toNat / 64) ::
        c.toNat % 64 :: sextets) padding := by
  have boundA := a.toNat_lt
  have boundB := b.toNat_lt
  have boundC := c.toNat_lt
  refine { text := ?_, small := ?_, whole := ?_, few := rest.few, packed := ?_, clean := ?_ }
  · rw [encode, rest.text]
    rfl
  · simp only [List.forall_mem_cons]
    exact ⟨by omega, by omega, by omega, by omega, rest.small⟩
  · have whole := rest.whole
    simp only [List.length_cons]
    omega
  · rw [pack, rest.packed, byte_eq a (by omega), byte_eq b (by omega), byte_eq c (by omega)]
  · rw [leftOver_four, rest.clean]

theorem encoded_one (a : UInt8) : Encoded [a] [a.toNat / 4, a.toNat % 4 * 16] 2 := by
  have bound := a.toNat_lt
  refine { text := rfl, small := ?_, whole := by simp, few := by decide, packed := ?_, clean := ?_ }
  · simp only [List.forall_mem_cons, List.not_mem_nil, false_imp_iff, implies_true, and_true]
    omega
  · rw [pack, byte_eq a (by omega)]
  · simp [leftOver]

theorem encoded_two (a b : UInt8) :
    Encoded [a, b] [a.toNat / 4, a.toNat % 4 * 16 + b.toNat / 16, b.toNat % 16 * 4] 1 := by
  have boundA := a.toNat_lt
  have boundB := b.toNat_lt
  refine { text := rfl, small := ?_, whole := by simp, few := by decide, packed := ?_, clean := ?_ }
  · simp only [List.forall_mem_cons, List.not_mem_nil, false_imp_iff, implies_true, and_true]
    omega
  · rw [pack, byte_eq a (by omega), byte_eq b (by omega)]
  · simp [leftOver]

theorem encoded (bytes : List UInt8) : ∃ sextets padding, Encoded bytes sextets padding := by
  fun_induction encode bytes with
  | case1 =>
    exact ⟨[], 0, rfl, by simp, rfl, by decide, rfl, rfl⟩
  | case2 a => exact ⟨_, _, encoded_one a⟩
  | case3 a b => exact ⟨_, _, encoded_two a b⟩
  | case4 a b c bytes _ _ _ ih =>
    obtain ⟨sextets, padding, rest⟩ := ih
    exact ⟨_, _, rest.block a b c⟩

/-! ## Decoding -/

theorem readPlain_codes (small : ∀ s ∈ sextets, s < 64) (offset : Nat) :
    readPlain offset (sextets.map code) = .ok sextets := by
  induction sextets generalizing offset with
  | nil => rfl
  | cons s sextets ih =>
    obtain ⟨first, others⟩ := List.forall_mem_cons.1 small
    simp [readPlain, sextet?_code s first, ih others, Except.map]

theorem readLast_padding (some : 2 ≤ index % 4) (few : index % 4 + padding ≤ 4)
    (seen : Option (Nat × Nat)) :
    readLast base index seen (List.replicate padding padByte) =
      .ok ([], (seen.map (·.2)).getD 0 + padding) := by
  induction padding generalizing index seen with
  | zero => rfl
  | succ padding ih =>
    have again : 2 ≤ (index + 1) % 4 ∨ padding = 0 := by omega
    rw [List.replicate_succ, readLast.eq_def]
    dsimp only
    rw [if_pos rfl, if_neg (by omega)]
    obtain next | rfl := again
    · rw [ih next (by omega)]
      simp [Nat.add_assoc, Nat.add_comm padding]
    · rfl

theorem readLast_codes (small : ∀ s ∈ sextets, s < 64)
    (tail : readLast base (index + sextets.length) none (List.replicate padding padByte) =
      .ok ([], padding)) :
    readLast base index none (sextets.map code ++ List.replicate padding padByte) =
      .ok (sextets, padding) := by
  induction sextets generalizing index with
  | nil => exact tail
  | cons s sextets ih =>
    obtain ⟨first, others⟩ := List.forall_mem_cons.1 small
    rw [List.length_cons, Nat.add_comm _ 1, ← Nat.add_assoc] at tail
    simp [readLast, code_ne_pad s first, sextet?_code s first, ih others tail, Except.map]

/-- The last block has the bits left over that all have. -/
theorem leftOver_drop (whole : base % 4 = 0) (within : base ≤ sextets.length) :
    leftOver (sextets.drop base) = leftOver sextets := by
  induction base using Nat.strongRecOn generalizing sextets with
  | ind base ih =>
    match sextets, base with
    | _, 0 => rfl
    | a :: b :: c :: d :: sextets, base + 4 =>
      simp only [List.length_cons] at within
      exact (ih base (by omega) (by omega) (by omega)).trans (leftOver_four a b c d sextets).symm

theorem decode_codes (h : Encoded bytes sextets padding) :
    decode (sextets.map code ++ List.replicate padding padByte) = .ok bytes := by
  obtain ⟨-, small, whole, few, packed, clean⟩ := h
  have count : (sextets.map code ++ List.replicate padding padByte).length =
      sextets.length + padding := by simp
  unfold decode
  dsimp only
  rw [count, if_neg (by omega)]
  generalize split : (sextets.length + padding - 1) / 8 * 8 = base
  have within : base ≤ sextets.length := by omega
  have front : (sextets.map code ++ List.replicate padding padByte).take base =
      (sextets.take base).map code := by
    rw [List.take_append_of_le_length (by simpa using within), List.map_take]
  have back : (sextets.map code ++ List.replicate padding padByte).drop base =
      (sextets.drop base).map code ++ List.replicate padding padByte := by
    rw [List.drop_append_of_le_length (by simpa using within), List.map_drop]
  have plain : readPlain 0 ((sextets.take base).map code) = .ok (sextets.take base) :=
    readPlain_codes (fun s h => small s (List.mem_of_mem_take h)) 0
  have tail : readLast base (0 + (sextets.drop base).length) none
      (List.replicate padding padByte) = .ok ([], padding) := by
    rw [List.length_drop]
    cases padding with
    | zero => rfl
    | succ padding =>
      refine (readLast_padding (by omega) (by omega) none).trans ?_
      simp
  have last := readLast_codes (fun s h => small s (List.mem_of_mem_drop h)) tail
  have remains : leftOver (sextets.drop base) = 0 := by
    rw [leftOver_drop (by omega) within, clean]
  have filled : ¬(padding + (sextets.drop base).length) % 4 ≠ 0 := by
    rw [List.length_drop]
    omega
  rw [front, back, plain, last]
  refine (if_neg filled).trans ((if_neg (not_not_intro remains)).trans ?_)
  rw [List.take_append_drop, packed]

theorem decode_encode (bytes : List UInt8) :
    decode ((encode bytes).map Char.toNat) = .ok bytes := by
  obtain ⟨sextets, padding, h⟩ := encoded bytes
  have codes : (encode bytes).map Char.toNat =
      sextets.map code ++ List.replicate padding padByte := by
    simp [h.text, code, padByte, Function.comp_def]
  rw [codes]
  exact decode_codes h

/-! ## Characters -/

/-- Whatever holds of the symbols and of the padding holds of all encoded characters. -/
theorem forall_mem_encode {P : Char → Prop} (symbols : ∀ n < 64, P (symbol n)) (pad : P '=')
    (bytes : List UInt8) : ∀ c ∈ encode bytes, P c := by
  obtain ⟨sextets, padding, h⟩ := encoded bytes
  intro c mem
  simp only [h.text, List.mem_append, List.mem_map, List.mem_replicate] at mem
  obtain ⟨s, inside, rfl⟩ | ⟨-, rfl⟩ := mem
  · exact symbols s (h.small s inside)
  · exact pad

/-- The bytes whose text begins like a line comment. -/
def opensComment : List UInt8 → Bool
  | a :: b :: _ => a = 0xff && 0xf0 ≤ b
  | _ => false

theorem slash_beq_symbol : ∀ n < 64, ('/' == symbol n) = (n == 63) := by decide +kernel

theorem opensComment_eq (a b : UInt8) (rest : List UInt8) :
    opensComment (a :: b :: rest) =
      (a.toNat / 4 == 63 && a.toNat % 4 * 16 + b.toNat / 16 == 63) := by
  have boundA := a.toNat_lt
  have boundB := b.toNat_lt
  rw [Bool.eq_iff_iff]
  simp only [opensComment, Bool.and_eq_true, decide_eq_true_eq, beq_iff_eq, ← UInt8.toNat_inj,
    UInt8.le_iff_toNat_le, UInt8.reduceToNat]
  omega

theorem slashes_iff (bytes : List UInt8) :
    ['/', '/'].isPrefixOf (encode bytes) = opensComment bytes := by
  match bytes with
  | [] => rfl
  | [a] =>
    have bound := a.toNat_lt
    have second : ('/' == symbol (a.toNat % 4 * 16)) = false := by
      rw [slash_beq_symbol _ (by omega)]
      simp only [beq_eq_false_iff_ne]
      omega
    simp [encode, List.isPrefixOf, second, opensComment]
  | [a, b] =>
    have boundA := a.toNat_lt
    have boundB := b.toNat_lt
    rw [opensComment_eq, ← slash_beq_symbol _ (by omega), ← slash_beq_symbol _ (by omega)]
    simp [encode, List.isPrefixOf]
  | a :: b :: c :: rest =>
    have boundA := a.toNat_lt
    have boundB := b.toNat_lt
    rw [opensComment_eq, ← slash_beq_symbol _ (by omega), ← slash_beq_symbol _ (by omega)]
    simp [encode, List.isPrefixOf]

end Isl.Base64
