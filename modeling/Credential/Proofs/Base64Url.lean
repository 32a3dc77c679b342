import Credential.Base64Url

/-! Each octet string has exactly one written form in base64: what the encoder writes reads back, and
nothing else is read. -/

namespace Credential.Base64Url

theorem value?_symbol {value : Nat} (small : value < 64) : value? (symbol value) = some value := by
  have every : ∀ value : Fin 64, value? (symbol value) = some value.val := by decide
  exact every ⟨value, small⟩

private theorem symbol_plain (value : Nat) : (symbol value).toNat < 0x80 ∧ symbol value ≠ '.' := by
  by_cases small : value < 64
  · have every : ∀ value : Fin 64, (symbol value).toNat < 0x80 ∧ symbol value ≠ '.' := by decide
    exact every ⟨value, small⟩
  · have large : symbol value = '_' := by
      unfold symbol
      repeat rw [if_neg (by omega)]
    rw [large]
    decide

theorem encode_plain (bytes : Bytes) : ∀ c ∈ encode bytes, c.toNat < 0x80 ∧ c ≠ '.' := by
  fun_induction encode bytes with
  | case1 a b c rest ih =>
    intro symbol member
    simp only [List.mem_cons] at member
    rcases member with rfl | rfl | rfl | rfl | later
    · exact symbol_plain _
    · exact symbol_plain _
    · exact symbol_plain _
    · exact symbol_plain _
    · exact ih symbol later
  | case2 a b => simp [symbol_plain]
  | case3 a => simp [symbol_plain]
  | case4 => simp

theorem length_encode (bytes : Bytes) : (encode bytes).length = (4 * bytes.length + 2) / 3 := by
  fun_induction encode bytes with
  | case1 a b c rest ih =>
    simp only [List.length_cons, ih]
    omega
  | case2 a b => simp
  | case3 a => simp
  | case4 => rfl

private theorem octet_eq {number : Nat} {byte : UInt8} (same : number % 256 = byte.toNat) :
    UInt8.ofNat number = byte := by
  apply UInt8.toNat_inj.1
  rw [UInt8.toNat_ofNat']
  exact same

/-- What the symbols of a written form are worth packs to the octets again. -/
theorem values_encode (bytes : Bytes) :
    ∃ values, (encode bytes).mapM value? = some values ∧ pack values = bytes := by
  fun_induction encode bytes with
  | case1 a b c rest ih =>
    obtain ⟨values, read, packed⟩ := ih
    have first := a.toNat_lt
    have second := b.toNat_lt
    have third := c.toNat_lt
    refine ⟨a.toNat / 4 :: (a.toNat % 4 * 16 + b.toNat / 16) :: (b.toNat % 16 * 4 + c.toNat / 64) ::
      c.toNat % 64 :: values, ?_, ?_⟩
    · simp only [List.mapM_cons, read]
      rw [value?_symbol (by omega), value?_symbol (by omega), value?_symbol (by omega), value?_symbol (by omega)]
      rfl
    · simp only [pack, packed, List.cons.injEq, and_true]
      exact ⟨octet_eq (by omega), octet_eq (by omega), octet_eq (by omega)⟩
  | case2 a b =>
    have first := a.toNat_lt
    have second := b.toNat_lt
    refine ⟨[a.toNat / 4, a.toNat % 4 * 16 + b.toNat / 16, b.toNat % 16 * 4], ?_, ?_⟩
    · simp only [List.mapM_cons, List.mapM_nil]
      rw [value?_symbol (by omega), value?_symbol (by omega), value?_symbol (by omega)]
      rfl
    · simp only [pack, List.cons.injEq, and_true]
      exact ⟨octet_eq (by omega), octet_eq (by omega)⟩
  | case3 a =>
    have first := a.toNat_lt
    refine ⟨[a.toNat / 4, a.toNat % 4 * 16], ?_, ?_⟩
    · simp only [List.mapM_cons, List.mapM_nil]
      rw [value?_symbol (by omega), value?_symbol (by omega)]
      rfl
    · simp only [pack, List.cons.injEq, and_true]
      exact octet_eq (by omega)
  | case4 => exact ⟨[], rfl, rfl⟩

theorem length_mapM_value? {segment : List Char} {values : List Nat} (read : segment.mapM value? = some values) :
    values.length = segment.length := by
  induction segment generalizing values with
  | nil =>
    cases read
    rfl
  | cons c rest ih =>
    simp only [List.mapM_cons, Option.bind_eq_bind, Option.bind_eq_some_iff] at read
    obtain ⟨value, -, more, later, same⟩ := read
    cases same
    simp [ih later]

theorem encode_ne_nil {bytes : Bytes} (some_ : bytes ≠ []) : encode bytes ≠ [] := by
  have size := length_encode bytes
  have long := List.length_pos_iff.2 some_
  intro none_
  rw [none_, List.length_nil] at size
  omega

theorem decode_encode {bytes : Bytes} (some_ : bytes ≠ []) : decode (encode bytes) = .ok bytes := by
  obtain ⟨values, read, packed⟩ := values_encode bytes
  have size := length_mapM_value? read
  have long := length_encode bytes
  have more := List.length_pos_iff.2 some_
  have proper : ¬(values = [] ∨ values.length % 4 = 1) := by
    intro short
    rcases short with rfl | odd
    · rw [List.length_nil] at size
      omega
    · omega
  simp only [decode, read]
  rw [if_neg proper, packed, if_pos rfl]

private theorem pack_ne_nil {values : List Nat} (proper : ¬(values = [] ∨ values.length % 4 = 1)) :
    pack values ≠ [] := by
  match values with
  | [] => exact absurd (.inl rfl) proper
  | [_] => exact absurd (.inr rfl) proper
  | [_, _] => simp [pack]
  | [_, _, _] => simp [pack]
  | _ :: _ :: _ :: _ :: _ => simp [pack]

/-- Nothing is read but a written form, and a written form is never that of no octets. -/
theorem decode_ok_iff {segment : List Char} {bytes : Bytes} :
    decode segment = .ok bytes ↔ bytes ≠ [] ∧ segment = encode bytes := by
  constructor
  · intro decoded
    unfold decode at decoded
    split at decoded
    · cases decoded
    · split at decoded
      · cases decoded
      next values read proper =>
        split at decoded
        next written =>
          cases decoded
          exact ⟨pack_ne_nil proper, written.symm⟩
        · cases decoded
  · intro written
    obtain ⟨some_, rfl⟩ := written
    exact decode_encode some_

end Credential.Base64Url
