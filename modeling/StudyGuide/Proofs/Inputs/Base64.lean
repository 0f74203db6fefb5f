import StudyGuide.Base64

/-!
Base64 loses nothing. A group of three bytes is a number of 24 bits, and its four characters are
the digits of that number to the base 64, so a group is read back by arithmetic alone
(`decode_group`); the last group, which is filled with `=`, is the same number with zero bits at
its end. `isEncoding_encode` gathers what the standard asks of an encoded text: it reads back to
its bytes, is made of whole groups of four, and holds nothing but the alphabet and the filling.
-/

set_option autoImplicit false
set_option relaxedAutoImplicit false

namespace StudyGuide.Base64

/-- The padded Base64 text of some bytes. -/
structure IsEncoding (bytes : Bytes) (text : Text) : Prop where
  decodes : decode text = some bytes
  length_eq : text.length = 4 * ((bytes.length + 2) / 3)
  subset : text ⊆ '=' :: alphabet

/-! ### Digits -/

theorem value?_digit : ∀ value < 64, value? (digit value) = some value := by decide +kernel

theorem digit_ne_filling : ∀ value < 64, digit value ≠ '=' := by decide +kernel

theorem digit_mem : ∀ value < 64, digit value ∈ '=' :: alphabet := by decide +kernel

/-! ### Groups -/

section Groups

variable (a b c : UInt8)

theorem first_digit_lt : a.toNat / 4 < 64 := by
  have ha := a.toNat_lt
  omega

theorem second_digit_lt : a.toNat % 4 * 16 + b.toNat / 16 < 64 := by
  have hb := b.toNat_lt
  omega

theorem third_digit_lt : b.toNat % 16 * 4 + c.toNat / 64 < 64 := by
  have hc := c.toNat_lt
  omega

theorem fourth_digit_lt : c.toNat % 64 < 64 := Nat.mod_lt _ (by decide)

/-- A byte is its high part and its low part. -/
theorem toUInt8_eq {n : Nat} {byte : UInt8} (h : n = byte.toNat) : n.toUInt8 = byte := by
  rw [h]
  exact UInt8.ofNat_toNat

/-- A whole group reads back, and the rest is read by itself. -/
theorem decode_group (rest : Text) :
    decode (digit (a.toNat / 4) :: digit (a.toNat % 4 * 16 + b.toNat / 16) ::
        digit (b.toNat % 16 * 4 + c.toNat / 64) :: digit (c.toNat % 64) :: rest) =
      (decode rest).map fun tail ↦ a :: b :: c :: tail := by
  have hfourth : digit (c.toNat % 64) ≠ '=' := digit_ne_filling _ (fourth_digit_lt c)
  have ha := a.toNat_lt
  have hb := b.toNat_lt
  have hc := c.toNat_lt
  have hfirst : (a.toNat / 4 * 4 + (a.toNat % 4 * 16 + b.toNat / 16) / 16).toUInt8 = a :=
    toUInt8_eq (by omega)
  have hsecond : ((a.toNat % 4 * 16 + b.toNat / 16) % 16 * 16 +
      (b.toNat % 16 * 4 + c.toNat / 64) / 4).toUInt8 = b :=
    toUInt8_eq (by omega)
  have hthird : ((b.toNat % 16 * 4 + c.toNat / 64) % 4 * 64 + c.toNat % 64).toUInt8 = c :=
    toUInt8_eq (by omega)
  rw [decode.eq_4 _ _ _ _ _ (fun _ h _ ↦ hfourth h) fun h _ ↦ hfourth h,
    value?_digit _ (first_digit_lt a), value?_digit _ (second_digit_lt a b),
    value?_digit _ (third_digit_lt b c), value?_digit _ (fourth_digit_lt c)]
  cases decode rest with
  | none => rfl
  | some tail =>
    simp only [Option.bind_eq_bind, Option.bind_some, Option.pure_def, Option.map_some]
    rw [hfirst, hsecond, hthird]

theorem decode_one_byte :
    decode [digit (a.toNat / 4), digit (a.toNat % 4 * 16), '=', '='] = some [a] := by
  have ha := a.toNat_lt
  have hfirst : (a.toNat / 4 * 4 + a.toNat % 4 * 16 / 16).toUInt8 = a := toUInt8_eq (by omega)
  have hzero : a.toNat % 4 * 16 % 16 = 0 := by omega
  rw [decode.eq_2, value?_digit _ (first_digit_lt a), value?_digit _ (by omega)]
  simp only [Option.bind_eq_bind, Option.bind_some, decodeLast, if_pos hzero]
  rw [hfirst]

theorem decode_two_bytes :
    decode [digit (a.toNat / 4), digit (a.toNat % 4 * 16 + b.toNat / 16),
      digit (b.toNat % 16 * 4), '='] = some [a, b] := by
  have ha := a.toNat_lt
  have hb := b.toNat_lt
  have hthird : b.toNat % 16 * 4 < 64 := by omega
  have hfirst : (a.toNat / 4 * 4 + (a.toNat % 4 * 16 + b.toNat / 16) / 16).toUInt8 = a :=
    toUInt8_eq (by omega)
  have hsecond : ((a.toNat % 4 * 16 + b.toNat / 16) % 16 * 16 + b.toNat % 16 * 4 / 4).toUInt8 = b :=
    toUInt8_eq (by omega)
  have hzero : b.toNat % 16 * 4 % 4 = 0 := by omega
  rw [decode.eq_3 _ _ _ (digit_ne_filling _ hthird), value?_digit _ (first_digit_lt a),
    value?_digit _ (second_digit_lt a b), value?_digit _ hthird]
  simp only [Option.bind_eq_bind, Option.bind_some, decodeLast, if_pos hzero]
  rw [hfirst, hsecond]

end Groups

/-! ### Whole texts -/

/-- What is written reads back. -/
theorem decode_encode (bytes : Bytes) : decode (encode bytes) = some bytes := by
  induction bytes using encode.induct with
  | case1 => rfl
  | case2 a => exact decode_one_byte a
  | case3 a b => exact decode_two_bytes a b
  | case4 a b c rest ih =>
    rw [encode, decode_group, ih]
    rfl

/-- Every three bytes make four characters, and what is left over makes four more. -/
theorem length_encode (bytes : Bytes) :
    (encode bytes).length = 4 * ((bytes.length + 2) / 3) := by
  induction bytes using encode.induct with
  | case1 => rfl
  | case2 a => simp [encode]
  | case3 a b => simp [encode]
  | case4 a b c rest ih =>
    simp only [encode, List.length_cons, ih]
    omega

theorem encode_subset (bytes : Bytes) : encode bytes ⊆ '=' :: alphabet := by
  have hfilling : '=' ∈ '=' :: alphabet := List.mem_cons_self
  induction bytes using encode.induct with
  | case1 => exact List.nil_subset _
  | case2 a =>
    simp only [encode, List.cons_subset]
    exact ⟨digit_mem _ (first_digit_lt a), digit_mem _ (by omega), hfilling, hfilling,
      List.nil_subset _⟩
  | case3 a b =>
    simp only [encode, List.cons_subset]
    exact ⟨digit_mem _ (first_digit_lt a), digit_mem _ (second_digit_lt a b),
      digit_mem _ (by omega), hfilling, List.nil_subset _⟩
  | case4 a b c rest ih =>
    simp only [encode, List.cons_subset]
    exact ⟨digit_mem _ (first_digit_lt a), digit_mem _ (second_digit_lt a b),
      digit_mem _ (third_digit_lt b c), digit_mem _ (fourth_digit_lt c), ih⟩

theorem isEncoding_encode (bytes : Bytes) : IsEncoding bytes (encode bytes) where
  decodes := decode_encode bytes
  length_eq := length_encode bytes
  subset := encode_subset bytes

end StudyGuide.Base64
