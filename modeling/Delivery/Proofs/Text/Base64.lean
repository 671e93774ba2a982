import Delivery.Text.Base64
set_option autoImplicit false

namespace Delivery.Text.Base64

theorem value_symbol : ∀ value < 64, value? (symbol value) = some value := by decide

theorem symbol_ne_padding : ∀ value < 64, symbol value ≠ '=' := by decide

theorem symbol_of_value {c : Char} {value : Nat} (read : value? c = some value) :
    value < 64 ∧ symbol value = c := by
  simp only [value?, Bool.and_eq_true, decide_eq_true_eq] at read
  have same : Char.ofNat c.toNat = c := Char.ofNat_toNat c
  split at read
  · next capital =>
      cases read
      refine ⟨by omega, ?_⟩
      rw [symbol, if_pos (by omega), Nat.add_sub_cancel' capital.1, same]
  split at read
  · next small =>
      cases read
      refine ⟨by omega, ?_⟩
      rw [symbol, if_neg (by omega), if_pos (by omega), Nat.add_sub_cancel, Nat.add_sub_cancel' small.1, same]
  split at read
  · next digit =>
      cases read
      refine ⟨by omega, ?_⟩
      rw [symbol, if_neg (by omega), if_neg (by omega), if_pos (by omega), Nat.add_sub_cancel,
        Nat.add_sub_cancel' digit.1, same]
  split at read
  · next plus =>
      cases read
      exact ⟨by decide, plus.symm⟩
  split at read
  · next slash =>
      cases read
      exact ⟨by decide, slash.symm⟩
  cases read

section Groups

variable {v w x y : Nat}

theorem decode_one (first : v < 64) (second : w < 64) (unused : (v * 64 + w) % 16 = 0) :
    decode [symbol v, symbol w, '=', '='] = some [UInt8.ofNat ((v * 64 + w) / 16)] := by
  simp [decode, value_symbol v first, value_symbol w second, unused]

theorem decode_two (first : v < 64) (second : w < 64) (third : x < 64)
    (unused : ((v * 64 + w) * 64 + x) % 4 = 0) :
    decode [symbol v, symbol w, symbol x, '='] =
      some [UInt8.ofNat (((v * 64 + w) * 64 + x) / 1024), UInt8.ofNat (((v * 64 + w) * 64 + x) / 4 % 256)] := by
  rw [decode, value_symbol v first, value_symbol w second, value_symbol x third]
  · exact if_pos unused
  · exact symbol_ne_padding x third

theorem decode_three (first : v < 64) (second : w < 64) (third : x < 64) (fourth : y < 64) {rest : List Char}
    {more : List UInt8} (read : decode rest = some more) :
    decode (symbol v :: symbol w :: symbol x :: symbol y :: rest) =
      some (UInt8.ofNat ((((v * 64 + w) * 64 + x) * 64 + y) / 65536) ::
        UInt8.ofNat ((((v * 64 + w) * 64 + x) * 64 + y) / 256 % 256) ::
        UInt8.ofNat ((((v * 64 + w) * 64 + x) * 64 + y) % 256) :: more) := by
  have shown := symbol_ne_padding y fourth
  simp [decode, shown, read, value_symbol v first, value_symbol w second, value_symbol x third,
    value_symbol y fourth]

theorem byte_of_small {n : Nat} (small : n < 256) : (UInt8.ofNat n).toNat = n :=
  UInt8.toNat_ofNat_of_lt' small

theorem encode_one (first : v < 64) (second : w < 64) (unused : (v * 64 + w) % 16 = 0) :
    encode [UInt8.ofNat ((v * 64 + w) / 16)] = [symbol v, symbol w, '=', '='] := by
  rw [encode, byte_of_small (by omega)]
  have whole : (v * 64 + w) / 16 * 16 = v * 64 + w := Nat.div_mul_cancel (Nat.dvd_of_mod_eq_zero unused)
  have high : (v * 64 + w) / 64 = v := by omega
  have low : (v * 64 + w) % 64 = w := by omega
  rw [whole, high, low]

theorem encode_two (first : v < 64) (second : w < 64) (third : x < 64)
    (unused : ((v * 64 + w) * 64 + x) % 4 = 0) :
    encode [UInt8.ofNat (((v * 64 + w) * 64 + x) / 1024), UInt8.ofNat (((v * 64 + w) * 64 + x) / 4 % 256)] =
      [symbol v, symbol w, symbol x, '='] := by
  rw [encode, byte_of_small (by omega), byte_of_small (by omega)]
  generalize group : (v * 64 + w) * 64 + x = bits at unused
  have whole : (bits / 1024 * 256 + bits / 4 % 256) * 4 = bits := by omega
  have high : bits / 4096 = v := by omega
  have middle : bits / 64 % 64 = w := by omega
  have low : bits % 64 = x := by omega
  rw [whole, high, middle, low]

theorem encode_three (first : v < 64) (second : w < 64) (third : x < 64) (fourth : y < 64) (rest : List UInt8) :
    encode (UInt8.ofNat ((((v * 64 + w) * 64 + x) * 64 + y) / 65536) ::
        UInt8.ofNat ((((v * 64 + w) * 64 + x) * 64 + y) / 256 % 256) ::
        UInt8.ofNat ((((v * 64 + w) * 64 + x) * 64 + y) % 256) :: rest) =
      symbol v :: symbol w :: symbol x :: symbol y :: encode rest := by
  rw [encode, byte_of_small (by omega), byte_of_small (by omega),
    byte_of_small (by omega)]
  generalize group : ((v * 64 + w) * 64 + x) * 64 + y = bits
  have whole : (bits / 65536 * 256 + bits / 256 % 256) * 256 + bits % 256 = bits := by omega
  have top : bits / 262144 = v := by omega
  have high : bits / 4096 % 64 = w := by omega
  have middle : bits / 64 % 64 = x := by omega
  have low : bits % 64 = y := by omega
  rw [whole, top, high, middle, low]

end Groups

theorem decode_of_encode : ∀ bytes : List UInt8, decode (encode bytes) = some bytes
  | [] => rfl
  | [a] => by
      have byte := a.toNat_lt
      have whole : a.toNat * 16 / 64 * 64 + a.toNat * 16 % 64 = a.toNat * 16 := Nat.div_add_mod' _ _
      rw [encode, decode_one (by omega) (by omega) (by omega), whole, Nat.mul_div_cancel _ (by decide),
        UInt8.ofNat_toNat]
  | [a, b] => by
      have high := a.toNat_lt
      have low := b.toNat_lt
      simp only [encode]
      generalize group : (a.toNat * 256 + b.toNat) * 4 = bits
      have whole : (bits / 4096 * 64 + bits / 64 % 64) * 64 + bits % 64 = bits := by omega
      rw [decode_two (by omega) (by omega) (by omega) (by omega), whole]
      have first : bits / 1024 = a.toNat := by omega
      have second : bits / 4 % 256 = b.toNat := by omega
      rw [first, second, UInt8.ofNat_toNat, UInt8.ofNat_toNat]
  | a :: b :: c :: rest => by
      have high := a.toNat_lt
      have middle := b.toNat_lt
      have low := c.toNat_lt
      simp only [encode]
      generalize group : (a.toNat * 256 + b.toNat) * 256 + c.toNat = bits
      have whole : ((bits / 262144 * 64 + bits / 4096 % 64) * 64 + bits / 64 % 64) * 64 + bits % 64 = bits := by
        omega
      rw [decode_three (by omega) (by omega) (by omega) (by omega) (decode_of_encode rest), whole]
      have first : bits / 65536 = a.toNat := by omega
      have second : bits / 256 % 256 = b.toNat := by omega
      have third : bits % 256 = c.toNat := by omega
      rw [first, second, third, UInt8.ofNat_toNat, UInt8.ofNat_toNat, UInt8.ofNat_toNat]

theorem encode_of_decode {cs : List Char} {bytes : List UInt8} (read : decode cs = some bytes) :
    encode bytes = cs := by
  fun_induction decode cs generalizing bytes with
  | case1 =>
      cases read
      rfl
  | case2 c d =>
      obtain ⟨v, first, more⟩ := Option.bind_eq_some_iff.mp read
      obtain ⟨w, second, group⟩ := Option.bind_eq_some_iff.mp more
      obtain ⟨low, rfl⟩ := symbol_of_value first
      obtain ⟨lower, rfl⟩ := symbol_of_value second
      simp only at group
      split at group
      · next unused =>
          cases group
          exact encode_one low lower unused
      · cases group
  | case3 c d e =>
      obtain ⟨v, first, more⟩ := Option.bind_eq_some_iff.mp read
      obtain ⟨w, second, others⟩ := Option.bind_eq_some_iff.mp more
      obtain ⟨x, third, group⟩ := Option.bind_eq_some_iff.mp others
      obtain ⟨low, rfl⟩ := symbol_of_value first
      obtain ⟨lower, rfl⟩ := symbol_of_value second
      obtain ⟨lowest, rfl⟩ := symbol_of_value third
      simp only at group
      split at group
      · next unused =>
          cases group
          exact encode_two low lower lowest unused
      · cases group
  | case4 c d e f rest _ _ ih =>
      obtain ⟨v, first, more⟩ := Option.bind_eq_some_iff.mp read
      obtain ⟨w, second, others⟩ := Option.bind_eq_some_iff.mp more
      obtain ⟨x, third, last⟩ := Option.bind_eq_some_iff.mp others
      obtain ⟨y, fourth, group⟩ := Option.bind_eq_some_iff.mp last
      obtain ⟨behind, later, same⟩ := Option.bind_eq_some_iff.mp group
      cases same
      obtain ⟨one, rfl⟩ := symbol_of_value first
      obtain ⟨two, rfl⟩ := symbol_of_value second
      obtain ⟨three, rfl⟩ := symbol_of_value third
      obtain ⟨four, rfl⟩ := symbol_of_value fourth
      rw [encode_three one two three four, ih later]
  | case5 => cases read

theorem decode_iff {cs : List Char} {bytes : List UInt8} : decode cs = some bytes ↔ cs = encode bytes := by
  constructor
  · exact fun read => (encode_of_decode read).symm
  · rintro rfl
    exact decode_of_encode bytes

section Symbols

def IsSymbol (c : Char) : Prop :=
  c = '=' ∨ ∃ value < 64, c = symbol value

theorem symbol_is_symbol {value : Nat} (small : value < 64) : IsSymbol (symbol value) :=
  .inr ⟨value, small, rfl⟩

theorem encoded_symbols : ∀ (bytes : List UInt8), ∀ c ∈ encode bytes, IsSymbol c
  | [] => nofun
  | [a] => by
      have byte := a.toNat_lt
      simp only [encode, List.forall_mem_cons]
      exact ⟨symbol_is_symbol (by omega), symbol_is_symbol (by omega), .inl rfl, .inl rfl, nofun⟩
  | [a, b] => by
      have high := a.toNat_lt
      have low := b.toNat_lt
      simp only [encode, List.forall_mem_cons]
      exact ⟨symbol_is_symbol (by omega), symbol_is_symbol (by omega), symbol_is_symbol (by omega), .inl rfl, nofun⟩
  | a :: b :: c :: rest => by
      have high := a.toNat_lt
      have middle := b.toNat_lt
      have low := c.toNat_lt
      simp only [encode, List.forall_mem_cons]
      exact ⟨symbol_is_symbol (by omega), symbol_is_symbol (by omega), symbol_is_symbol (by omega),
        symbol_is_symbol (by omega), encoded_symbols rest⟩

theorem point_not_encoded (bytes : List UInt8) : '.' ∉ encode bytes := by
  have noSymbol : ∀ value < 64, '.' ≠ symbol value := by decide
  intro member
  rcases encoded_symbols bytes _ member with padding | ⟨value, small, same⟩
  · cases padding
  · exact noSymbol value small same

end Symbols

end Delivery.Text.Base64
