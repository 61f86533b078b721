import Collation.Text.Utf8

/-! Texts that are written as bytes in UTF-8 can be read again. -/

namespace Collation.Utf8

variable {c : Char} {t : Text} {bs : List UInt8} {b low high : UInt8} {n code good k position : Nat}

/-! The bytes of a text are those of its characters. -/

theorem toList_loop_eq (bytes : ByteArray) (i : Nat) (read : List UInt8) :
    ByteArray.toList.loop bytes i read = read.reverse ++ bytes.data.toList.drop i := by
  induction i, read using ByteArray.toList.loop.induct bytes with
  | case1 i read hi ih =>
    have hlength : i < bytes.data.toList.length := hi
    rw [ByteArray.toList.loop, if_pos hi, ih, List.drop_eq_getElem_cons hlength]
    simp [ByteArray.get!, getElem!_pos bytes.data i hi]
  | case2 i read hi =>
    have hlength : bytes.data.toList.length ≤ i := Nat.le_of_not_lt hi
    rw [ByteArray.toList.loop, if_neg hi, List.drop_eq_nil_of_le hlength, List.append_nil]

theorem encode_eq_flatMap (t : Text) : encode t = t.flatMap String.utf8EncodeChar := by
  have hbytes : (String.ofList t).toUTF8 = (t.flatMap String.utf8EncodeChar).toByteArray :=
    String.toByteArray_ofList
  rw [encode, hbytes, ByteArray.toList, toList_loop_eq, List.toList_data_toByteArray]
  rfl

theorem encode_cons (c : Char) (t : Text) : encode (c :: t) = String.utf8EncodeChar c ++ encode t := by
  rw [encode_eq_flatMap, encode_eq_flatMap, List.flatMap_cons]

/-! Continuation bytes are read by their lower six bits. -/

theorem toNat_ofNat_of_lt (h : n < 256) : (UInt8.ofNat n).toNat = n := by
  rw [UInt8.toNat_ofNat']
  exact Nat.mod_eq_of_lt h

theorem continuation_cons (hlow : low.toNat ≤ n % 64 + 0x80) (hhigh : n % 64 + 0x80 ≤ high.toNat)
    (code good k : Nat) (bs : List UInt8) :
    continuation code low high good (k + 1) (UInt8.ofNat (n % 64 + 0x80) :: bs) =
      continuation (code * 64 + n % 64) 0x80 0xBF (good + 1) k bs := by
  have hvalue : (UInt8.ofNat (n % 64 + 0x80)).toNat = n % 64 + 0x80 := toNat_ofNat_of_lt (by omega)
  have hrange : (low ≤ UInt8.ofNat (n % 64 + 0x80) && UInt8.ofNat (n % 64 + 0x80) ≤ high) = true := by
    rw [Bool.and_eq_true, decide_eq_true_eq, decide_eq_true_eq, UInt8.le_iff_toNat_le,
      UInt8.le_iff_toNat_le, hvalue]
    exact ⟨hlow, hhigh⟩
  rw [continuation, if_pos hrange, hvalue, Nat.add_sub_cancel]

theorem decodeFrom_skip (position : Nat) (skipped bs : List UInt8) :
    decodeFrom position skipped.length (skipped ++ bs) =
      decodeFrom (position + skipped.length) 0 bs := by
  induction skipped generalizing position with
  | nil => rfl
  | cons b skipped ih =>
    rw [List.length_cons, List.cons_append, decodeFrom, ih]
    congr 1
    omega

/-- A character of several bytes is read by its first byte and the bits of those after it. -/
theorem decodeFrom_lead {first : UInt8} {bits : Nat} (rest : List UInt8)
    (hfirst : ¬ first < 0x80) (hlead : lead? first = some (rest.length, bits, low, high))
    (hcode : continuation bits low high 1 rest.length (rest ++ bs) = .ok c.toNat) (position : Nat) :
    decodeFrom position 0 (first :: rest ++ bs) =
      (decodeFrom (position + 1 + rest.length) 0 bs).map (c :: ·) := by
  rw [List.cons_append, decodeFrom, if_neg hfirst, hlead]
  dsimp only
  rw [hcode]
  dsimp only
  rw [decodeFrom_skip, Char.ofNat_toNat]

/-! The first byte tells how many bytes follow, and what the first of them can be. -/

theorem lead?_ofNat : ∀ n < 256, lead? (UInt8.ofNat n) =
    if n < 0xC2 then none
    else if n < 0xE0 then some (1, n - 0xC0, 0x80, 0xBF)
    else if n < 0xF0 then
      some (2, n - 0xE0, if n = 0xE0 then 0xA0 else 0x80, if n = 0xED then 0x9F else 0xBF)
    else if n < 0xF5 then
      some (3, n - 0xF0, if n = 0xF0 then 0x90 else 0x80, if n = 0xF4 then 0x8F else 0xBF)
    else none := by
  decide +kernel

theorem not_lt_of_ofNat (h : n < 256) (hn : 0x80 ≤ n) : ¬ UInt8.ofNat n < 0x80 := by
  rw [UInt8.lt_iff_toNat_lt, toNat_ofNat_of_lt h]
  exact Nat.not_lt.mpr hn

theorem decodeFrom_one (h : c.toNat < 0x80) (position : Nat) (bs : List UInt8) :
    decodeFrom position 0 (UInt8.ofNat c.toNat :: bs) =
      (decodeFrom (position + 1) 0 bs).map (c :: ·) := by
  have hvalue : (UInt8.ofNat c.toNat).toNat = c.toNat := toNat_ofNat_of_lt (by omega)
  have hsmall : UInt8.ofNat c.toNat < 0x80 := by
    rw [UInt8.lt_iff_toNat_lt, hvalue]
    exact h
  rw [decodeFrom, if_pos hsmall, hvalue, Char.ofNat_toNat]

theorem decodeFrom_two (hlow : 0x80 ≤ c.toNat) (hhigh : c.toNat < 0x800) (position : Nat)
    (bs : List UInt8) :
    decodeFrom position 0 ([UInt8.ofNat (c.toNat / 64 % 32 + 0xC0),
      UInt8.ofNat (c.toNat % 64 + 0x80)] ++ bs) =
      (decodeFrom (position + 2) 0 bs).map (c :: ·) := by
  have hlead := lead?_ofNat (c.toNat / 64 % 32 + 0xC0) (by omega)
  rw [if_neg (by omega), if_pos (by omega), Nat.add_sub_cancel] at hlead
  refine decodeFrom_lead [_] (not_lt_of_ofNat (by omega) (by omega)) hlead ?_ position
  have hcode : c.toNat / 64 % 32 * 64 + c.toNat % 64 = c.toNat := by omega
  change continuation _ _ _ _ 1 _ = _
  rw [List.singleton_append, continuation_cons (by simp) (by simp; omega), continuation, hcode]

theorem toNat_ite {p : Prop} [Decidable p] (x y : UInt8) :
    (if p then x else y).toNat = if p then x.toNat else y.toNat := by
  split <;> rfl

/-- No character has the code of a surrogate. -/
theorem not_surrogate (c : Char) : c.toNat < 0xD800 ∨ 0xDFFF < c.toNat ∧ c.toNat < 0x110000 :=
  c.valid

theorem decodeFrom_three (hlow : 0x800 ≤ c.toNat) (hhigh : c.toNat < 0x10000) (position : Nat)
    (bs : List UInt8) :
    decodeFrom position 0 ([UInt8.ofNat (c.toNat / 4096 % 16 + 0xE0),
      UInt8.ofNat (c.toNat / 64 % 64 + 0x80), UInt8.ofNat (c.toNat % 64 + 0x80)] ++ bs) =
      (decodeFrom (position + 3) 0 bs).map (c :: ·) := by
  have hvalid := not_surrogate c
  have hlead := lead?_ofNat (c.toNat / 4096 % 16 + 0xE0) (by omega)
  rw [if_neg (by omega), if_neg (by omega), if_pos (by omega), Nat.add_sub_cancel] at hlead
  refine decodeFrom_lead [_, _] (not_lt_of_ofNat (by omega) (by omega)) hlead ?_ position
  have hcode : (c.toNat / 4096 % 16 * 64 + c.toNat / 64 % 64) * 64 + c.toNat % 64 = c.toNat := by
    omega
  change continuation _ _ _ _ 2 (_ :: _ :: bs) = _
  rw [continuation_cons (by rw [toNat_ite]; simp; split <;> omega)
    (by rw [toNat_ite]; simp; split <;> omega), continuation_cons (by simp) (by simp; omega),
    continuation, hcode]

theorem decodeFrom_four (hlow : 0x10000 ≤ c.toNat) (position : Nat) (bs : List UInt8) :
    decodeFrom position 0 ([UInt8.ofNat (c.toNat / 262144 % 8 + 0xF0),
      UInt8.ofNat (c.toNat / 4096 % 64 + 0x80), UInt8.ofNat (c.toNat / 64 % 64 + 0x80),
      UInt8.ofNat (c.toNat % 64 + 0x80)] ++ bs) =
      (decodeFrom (position + 4) 0 bs).map (c :: ·) := by
  have hvalid := not_surrogate c
  have hlead := lead?_ofNat (c.toNat / 262144 % 8 + 0xF0) (by omega)
  rw [if_neg (by omega), if_neg (by omega), if_neg (by omega), if_pos (by omega),
    Nat.add_sub_cancel] at hlead
  refine decodeFrom_lead [_, _, _] (not_lt_of_ofNat (by omega) (by omega)) hlead ?_ position
  have hcode : ((c.toNat / 262144 % 8 * 64 + c.toNat / 4096 % 64) * 64 + c.toNat / 64 % 64) * 64 +
      c.toNat % 64 = c.toNat := by
    omega
  change continuation _ _ _ _ 3 (_ :: _ :: _ :: bs) = _
  rw [continuation_cons (by rw [toNat_ite]; simp; split <;> omega)
    (by rw [toNat_ite]; simp; split <;> omega), continuation_cons (by simp) (by simp; omega),
    continuation_cons (by simp) (by simp; omega), continuation, hcode]

theorem decodeFrom_character (c : Char) (position : Nat) (bs : List UInt8) :
    ∃ next, decodeFrom position 0 (String.utf8EncodeChar c ++ bs) =
      (decodeFrom next 0 bs).map (c :: ·) := by
  have hcode : c.val.toNat = c.toNat := rfl
  unfold String.utf8EncodeChar
  dsimp only
  rw [hcode]
  split
  · exact ⟨_, decodeFrom_one (by omega) position bs⟩
  · split
    · exact ⟨_, decodeFrom_two (by omega) (by omega) position bs⟩
    · split
      · exact ⟨_, decodeFrom_three (by omega) (by omega) position bs⟩
      · exact ⟨_, decodeFrom_four (by omega) position bs⟩

/-- What was written is read. -/
theorem decode_encode (t : Text) : decode (encode t) = .ok t := by
  have hread : ∀ position, decodeFrom position 0 (encode t) = .ok t := by
    induction t with
    | nil =>
      intro position
      rw [encode_eq_flatMap]
      rfl
    | cons c t ih =>
      intro position
      obtain ⟨next, hnext⟩ := decodeFrom_character c position (encode t)
      rw [encode_cons, hnext, ih next]
      rfl
  exact hread 0

end Collation.Utf8
