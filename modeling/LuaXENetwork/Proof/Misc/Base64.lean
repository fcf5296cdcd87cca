import LuaXENetwork.Library.Except
import LuaXENetwork.Misc.Base64

namespace LuaXENetwork.Base64
open Library

/-! ## The two alphabets -/

/-- The character for six bits. -/
def letter (url : Bool) (index : Nat) : UInt8 := (chars url).getD index 0

def pad (url : Bool) : UInt8 := if url then 46 else 61

theorem letters_read (url : Bool) : ∀ index : Fin 64,
    posOfChar (letter url index) = .ok index.val ∧ isPadding (letter url index) = false ∧
      letter url index ≠ 10 := by
  cases url
  · decide +kernel
  · decide +kernel

theorem posOfChar_letter (url : Bool) {index : Nat} (small : index < 64) :
    posOfChar (letter url index) = .ok index := (letters_read url ⟨index, small⟩).1

theorem isPadding_letter (url : Bool) {index : Nat} (small : index < 64) :
    isPadding (letter url index) = false := (letters_read url ⟨index, small⟩).2.1

theorem letter_ne_newline (url : Bool) {index : Nat} (small : index < 64) : letter url index ≠ 10 :=
  (letters_read url ⟨index, small⟩).2.2

theorem isPadding_pad (url : Bool) : isPadding (pad url) = true := by cases url <;> rfl

/-! ## Encoding -/

/-- The encoding, three bytes at a time. -/
def encoding (url : Bool) : Bytes → Bytes
  | [] => []
  | [a] => [letter url (a.toNat / 4), letter url (a.toNat % 4 * 16), pad url, pad url]
  | [a, b] => [letter url (a.toNat / 4), letter url (a.toNat % 4 * 16 + b.toNat / 16),
      letter url (b.toNat % 16 * 4), pad url]
  | a :: b :: c :: rest =>
      letter url (a.toNat / 4) :: letter url (a.toNat % 4 * 16 + b.toNat / 16) ::
        letter url (b.toNat % 16 * 4 + c.toNat / 64) :: letter url (c.toNat % 64) :: encoding url rest

/-- How the shifts and masks of the encoder cut a byte. -/
theorem cuts (a : UInt8) :
    ((a &&& 0xfc) >>> 2).toNat = a.toNat / 4 ∧ ((a &&& 0x03) <<< 4).toNat = a.toNat % 4 * 16 ∧
      ((a &&& 0xf0) >>> 4).toNat = a.toNat / 16 ∧ ((a &&& 0x0f) <<< 2).toNat = a.toNat % 16 * 4 ∧
      ((a &&& 0xc0) >>> 6).toNat = a.toNat / 64 ∧ (a &&& 0x3f).toNat = a.toNat % 64 := by
  have each : ∀ n : Fin 256, ((UInt8.ofNat n &&& 0xfc) >>> 2).toNat = n / 4 ∧
      ((UInt8.ofNat n &&& 0x03) <<< 4).toNat = n % 4 * 16 ∧
      ((UInt8.ofNat n &&& 0xf0) >>> 4).toNat = n / 16 ∧
      ((UInt8.ofNat n &&& 0x0f) <<< 2).toNat = n % 16 * 4 ∧
      ((UInt8.ofNat n &&& 0xc0) >>> 6).toNat = n / 64 ∧ (UInt8.ofNat n &&& 0x3f).toNat = n % 64 := by
    decide +kernel
  have cut := each ⟨a.toNat, a.toNat_lt⟩
  rwa [UInt8.ofNat_toNat] at cut

theorem second_index (a b : UInt8) :
    (((a &&& 0x03) <<< 4) + ((b &&& 0xf0) >>> 4)).toNat = a.toNat % 4 * 16 + b.toNat / 16 := by
  have small := b.toNat_lt
  rw [UInt8.toNat_add, (cuts a).2.1, (cuts b).2.2.1, Nat.mod_eq_of_lt (by omega)]

theorem third_index (b c : UInt8) :
    (((b &&& 0x0f) <<< 2) + ((c &&& 0xc0) >>> 6)).toNat = b.toNat % 16 * 4 + c.toNat / 64 := by
  have small := c.toNat_lt
  rw [UInt8.toNat_add, (cuts b).2.2.2.1, (cuts c).2.2.2.2.1, Nat.mod_eq_of_lt (by omega)]

theorem getD_behind (front rest : Bytes) (offset : Nat) :
    (front ++ rest).getD (front.length + offset) 0 = rest.getD offset 0 := by
  rw [List.getD_eq_getElem?_getD, List.getElem?_append_right (by omega), Nat.add_sub_cancel_left,
    List.getD_eq_getElem?_getD]

/-- One turn appends the encoding of the next three bytes, or of the last ones. -/
theorem encodeGroup_append (url : Bool) {front rest : Bytes} {pos : UInt32} (reached : pos.toNat = front.length)
    (small : front.length + rest.length < 2 ^ 32) (some_left : rest ≠ []) :
    encodeGroup url (front ++ rest) pos ++ encoding url (rest.drop 3) = encoding url rest := by
  have positive := List.length_pos_iff.mpr some_left
  have next : (pos + 1).toNat = front.length + 1 := by
    rw [UInt32.toNat_add]
    simp only [UInt32.reduceToNat]
    omega
  have after : 1 < rest.length → (pos + 2).toNat = front.length + 2 := by
    intro more
    rw [UInt32.toNat_add]
    simp only [UInt32.reduceToNat]
    omega
  have here := getD_behind front rest 0
  rw [Nat.add_zero, ← reached] at here
  simp only [encodeGroup, here, next, getD_behind, List.length_append]
  cases rest with
  | nil => contradiction
  | cons a rest =>
      cases rest with
      | nil =>
          rw [if_neg (by simp)]
          simp only [List.getD_cons_zero, (cuts a).1, (cuts a).2.1]
          rfl
      | cons b rest =>
          simp only [after (by simp : 1 < (a :: b :: rest).length), getD_behind]
          rw [if_pos (by simp)]
          cases rest with
          | nil =>
              rw [if_neg (by simp)]
              simp only [List.getD_cons_zero, List.getD_cons_succ, (cuts a).1, second_index, (cuts b).2.2.2.1]
              rfl
          | cons c rest =>
              rw [if_pos (by simp)]
              simp only [List.getD_cons_zero, List.getD_cons_succ, (cuts a).1, second_index, third_index,
                (cuts c).2.2.2.2.2]
              rfl

theorem encodeLoop_eq (url : Bool) {bytes : Bytes} (small : bytes.length < 2 ^ 32) {turns : Nat} {pos : UInt32}
    (threes : pos.toNat % 3 = 0) (within : pos.toNat < bytes.length + 3)
    (enough : bytes.length + 3 ≤ pos.toNat + 3 * turns) :
    encodeLoop url bytes turns pos = some (encoding url (bytes.drop pos.toNat)) := by
  induction turns generalizing pos with
  | zero => omega
  | succ turns ih =>
      rw [encodeLoop]
      split
      · rename_i more
        have next : (pos + 3).toNat = pos.toNat + 3 := by
          rw [UInt32.toNat_add]
          simp only [UInt32.reduceToNat]
          omega
        rw [ih (by omega) (by omega) (by omega)]
        have reached : pos.toNat = (bytes.take pos.toNat).length := by
          rw [List.length_take_of_le (by omega)]
        have group : encodeGroup url (bytes.take pos.toNat ++ bytes.drop pos.toNat) pos ++
            encoding url ((bytes.drop pos.toNat).drop 3) = encoding url (bytes.drop pos.toNat) := by
          apply encodeGroup_append url reached
          · rwa [← List.length_append, List.take_append_drop]
          · apply List.ne_nil_of_length_pos
            rw [List.length_drop]
            omega
        rw [List.take_append_drop, List.drop_drop, ← next] at group
        rw [← group]
        rfl
      · rename_i none_left
        rw [List.drop_of_length_le (by omega)]
        rfl

/-- From 2^32 bytes on, the position never gets past the end. -/
theorem encodeLoop_endless (url : Bool) {bytes : Bytes} (large : 2 ^ 32 ≤ bytes.length) (turns : Nat)
    (pos : UInt32) : encodeLoop url bytes turns pos = none := by
  induction turns generalizing pos with
  | zero => rfl
  | succ turns ih =>
      have inside : pos.toNat < bytes.length := lt_of_lt_of_le pos.toNat_lt large
      rw [encodeLoop, if_pos inside, ih]
      rfl

theorem base64Encode_eq (s : Bytes) (url : Bool) :
    base64Encode s url = if s.length < 2 ^ 32 then some (encoding url s) else none := by
  split
  · rename_i small
    apply encodeLoop_eq url small <;> simp only [UInt32.reduceToNat] <;> omega
  · exact encodeLoop_endless url (by omega) _ _

theorem length_encoding (url : Bool) (s : Bytes) : (encoding url s).length = (s.length + 2) / 3 * 4 := by
  induction s using encoding.induct with
  | case1 => rfl
  | case2 a => simp [encoding]
  | case3 a b => simp [encoding]
  | case4 a b c rest ih =>
      simp only [encoding, List.length_cons, ih]
      omega

theorem newline_notMem_encoding (url : Bool) (s : Bytes) : 10 ∉ encoding url s := by
  have pad_ne : (10 : UInt8) ≠ pad url := by cases url <;> decide
  have letter_ne {index : Nat} (small : index < 64) : (10 : UInt8) ≠ letter url index :=
    (letter_ne_newline url small).symm
  induction s using encoding.induct with
  | case1 => exact List.not_mem_nil
  | case2 a =>
      have := a.toNat_lt
      simp only [encoding, List.mem_cons, List.not_mem_nil, or_false, pad_ne]
      simp only [letter_ne (show a.toNat / 4 < 64 by omega), letter_ne (show a.toNat % 4 * 16 < 64 by omega),
        or_false, not_false_eq_true]
  | case3 a b =>
      have := a.toNat_lt
      have := b.toNat_lt
      simp only [encoding, List.mem_cons, List.not_mem_nil, or_false, pad_ne]
      simp only [letter_ne (show a.toNat / 4 < 64 by omega),
        letter_ne (show a.toNat % 4 * 16 + b.toNat / 16 < 64 by omega),
        letter_ne (show b.toNat % 16 * 4 < 64 by omega), or_false, not_false_eq_true]
  | case4 a b c rest ih =>
      have := a.toNat_lt
      have := b.toNat_lt
      have := c.toNat_lt
      simp only [encoding, List.mem_cons, ih, or_false]
      simp only [letter_ne (show a.toNat / 4 < 64 by omega),
        letter_ne (show a.toNat % 4 * 16 + b.toNat / 16 < 64 by omega),
        letter_ne (show b.toNat % 16 * 4 + c.toNat / 64 < 64 by omega),
        letter_ne (show c.toNat % 64 < 64 by omega), or_false, not_false_eq_true]

/-! ## Decoding -/

/-- The texts that are decoded. After a first padding character the fourth character is not looked
at, and it may be missing at the end. Padding ends a group and not the text. -/
inductive Decodes : Bytes → Bytes → Prop where
  | done : Decodes [] []
  | three {a b c d : UInt8} {i j k l : Nat} {text out : Bytes} : posOfChar a = .ok i → posOfChar b = .ok j →
      posOfChar c = .ok k → posOfChar d = .ok l → Decodes text out →
      Decodes (a :: b :: c :: d :: text)
        (UInt8.ofNat (i * 4 + j / 16) :: UInt8.ofNat (j % 16 * 16 + k / 4) :: UInt8.ofNat (k % 4 * 64 + l) :: out)
  | two {a b c d : UInt8} {i j k : Nat} {text out : Bytes} : posOfChar a = .ok i → posOfChar b = .ok j →
      posOfChar c = .ok k → isPadding d = true → Decodes text out →
      Decodes (a :: b :: c :: d :: text) (UInt8.ofNat (i * 4 + j / 16) :: UInt8.ofNat (j % 16 * 16 + k / 4) :: out)
  | one {a b c d : UInt8} {i j : Nat} {text out : Bytes} : posOfChar a = .ok i → posOfChar b = .ok j →
      isPadding c = true → Decodes text out →
      Decodes (a :: b :: c :: d :: text) (UInt8.ofNat (i * 4 + j / 16) :: out)
  | last {a b c : UInt8} {i j : Nat} : posOfChar a = .ok i → posOfChar b = .ok j → isPadding c = true →
      Decodes [a, b, c] [UInt8.ofNat (i * 4 + j / 16)]

theorem decodes_encoding (url : Bool) (s : Bytes) : Decodes (encoding url s) s := by
  induction s using encoding.induct with
  | case1 => exact .done
  | case2 a =>
      have small := a.toNat_lt
      have decoded := Decodes.one (d := pad url) (posOfChar_letter url (show a.toNat / 4 < 64 by omega))
        (posOfChar_letter url (show a.toNat % 4 * 16 < 64 by omega)) (isPadding_pad url) .done
      rwa [show a.toNat / 4 * 4 + a.toNat % 4 * 16 / 16 = a.toNat by omega, UInt8.ofNat_toNat] at decoded
  | case3 a b =>
      have small := a.toNat_lt
      have small' := b.toNat_lt
      have decoded := Decodes.two (posOfChar_letter url (show a.toNat / 4 < 64 by omega))
        (posOfChar_letter url (show a.toNat % 4 * 16 + b.toNat / 16 < 64 by omega))
        (posOfChar_letter url (show b.toNat % 16 * 4 < 64 by omega)) (isPadding_pad url) .done
      rwa [show a.toNat / 4 * 4 + (a.toNat % 4 * 16 + b.toNat / 16) / 16 = a.toNat by omega,
        show (a.toNat % 4 * 16 + b.toNat / 16) % 16 * 16 + b.toNat % 16 * 4 / 4 = b.toNat by omega,
        UInt8.ofNat_toNat, UInt8.ofNat_toNat] at decoded
  | case4 a b c rest ih =>
      have small := a.toNat_lt
      have small' := b.toNat_lt
      have small'' := c.toNat_lt
      have decoded := Decodes.three (posOfChar_letter url (show a.toNat / 4 < 64 by omega))
        (posOfChar_letter url (show a.toNat % 4 * 16 + b.toNat / 16 < 64 by omega))
        (posOfChar_letter url (show b.toNat % 16 * 4 + c.toNat / 64 < 64 by omega))
        (posOfChar_letter url (show c.toNat % 64 < 64 by omega)) ih
      rwa [show a.toNat / 4 * 4 + (a.toNat % 4 * 16 + b.toNat / 16) / 16 = a.toNat by omega,
        show (a.toNat % 4 * 16 + b.toNat / 16) % 16 * 16 + (b.toNat % 16 * 4 + c.toNat / 64) / 4 = b.toNat by omega,
        show (b.toNat % 16 * 4 + c.toNat / 64) % 4 * 64 + c.toNat % 64 = c.toNat by omega,
        UInt8.ofNat_toNat, UInt8.ofNat_toNat, UInt8.ofNat_toNat] at decoded

theorem mul_shift (i j : Nat) (small : j < 64) : (i <<< 2) + ((j &&& 0x30) >>> 4) = i * 4 + j / 16 := by
  have each : ∀ n : Fin 64, (n.val &&& 0x30) >>> 4 = n / 16 := by decide +kernel
  rw [each ⟨j, small⟩, Nat.shiftLeft_eq]

theorem mask_shift (j k : Nat) (small : k < 64) :
    ((j &&& 0x0f) <<< 4) + ((k &&& 0x3c) >>> 2) = j % 16 * 16 + k / 4 := by
  have each : ∀ n : Fin 64, (n.val &&& 0x3c) >>> 2 = n / 4 := by decide +kernel
  rw [each ⟨k, small⟩, Nat.shiftLeft_eq, show 0x0f = 2 ^ 4 - 1 from rfl, Nat.and_two_pow_sub_one_eq_mod]

theorem mask_last (k l : Nat) : ((k &&& 0x03) <<< 6) + l = k % 4 * 64 + l := by
  rw [Nat.shiftLeft_eq, show 0x03 = 2 ^ 2 - 1 from rfl, Nat.and_two_pow_sub_one_eq_mod]

theorem posOfChar_small {chr : UInt8} {index : Nat} (read : posOfChar chr = .ok index) : index < 64 := by
  have each : ∀ n : Fin 256, ∀ index ∈ (posOfChar (UInt8.ofNat n)).toOption, index < 64 := by decide +kernel
  have small := each ⟨chr.toNat, chr.toNat_lt⟩ index
  rw [UInt8.ofNat_toNat, read] at small
  exact small rfl

theorem charAt_drop {encoded : Bytes} {pos : Nat} (inside : pos ≤ encoded.length) (i : Nat) :
    charAt encoded (pos + i) = charAt (encoded.drop pos) i := by
  rw [charAt, charAt, List.getElem?_drop, List.length_drop]
  by_cases ends : pos + i = encoded.length
  · rw [if_pos ends, if_pos (by omega)]
  · rw [if_neg ends, if_neg (by omega)]

theorem decodeGroup_drop {encoded : Bytes} {pos : Nat} (inside : pos ≤ encoded.length) :
    decodeGroup encoded pos = decodeGroup (encoded.drop pos) 0 := by
  have here := charAt_drop inside 0
  rw [Nat.add_zero] at here
  simp only [decodeGroup, here, charAt_drop inside, Nat.zero_add]

theorem decodeLoop_drop (encoded : Bytes) (pos : Nat) : decodeLoop encoded pos = decodeLoop (encoded.drop pos) 0 := by
  induction left : encoded.length - pos using Nat.strong_induction_on generalizing encoded pos with
  | h left ih =>
      unfold decodeLoop
      by_cases more : pos < encoded.length
      · have here := ih _ (by omega) encoded (pos + 4) rfl
        have there := ih _ (by rw [List.length_drop]; omega) (encoded.drop pos) (0 + 4) rfl
        rw [if_pos more, if_pos (by rw [List.length_drop]; omega), decodeGroup_drop (by omega), here, there,
          List.drop_drop]
      · rw [if_neg more, if_neg (by rw [List.length_drop]; omega)]

theorem decodeLoop_of_ne_nil {text : Bytes} (more : text ≠ []) :
    decodeLoop text 0 =
      decodeGroup text 0 >>= fun group => decodeLoop (text.drop 4) 0 >>= fun rest => pure (group ++ rest) := by
  rw [decodeLoop, if_pos (List.length_pos_iff.mpr more), decodeLoop_drop text (0 + 4)]

theorem decodeLoop_nil : decodeLoop [] 0 = .ok [] := by
  rw [decodeLoop]
  rfl

theorem posOfChar_null : posOfChar 0 = .error .thrown := rfl

/-- Four characters or more. -/
theorem decodeGroup_four (a b c d : UInt8) (rest : Bytes) :
    decodeGroup (a :: b :: c :: d :: rest) 0 =
      posOfChar b >>= fun j => posOfChar a >>= fun i =>
        if isPadding c then .ok [UInt8.ofNat (i * 4 + j / 16)]
        else posOfChar c >>= fun k =>
          if isPadding d then .ok [UInt8.ofNat (i * 4 + j / 16), UInt8.ofNat (j % 16 * 16 + k / 4)]
          else posOfChar d >>= fun l =>
            .ok [UInt8.ofNat (i * 4 + j / 16), UInt8.ofNat (j % 16 * 16 + k / 4), UInt8.ofNat (k % 4 * 64 + l)] := by
  have third : ¬ 2 = (a :: b :: c :: d :: rest).length := by simp
  have fourth : ¬ 3 = (a :: b :: c :: d :: rest).length := by simp
  have first : ¬ 0 = (a :: b :: c :: d :: rest).length := by simp
  have second : ¬ 1 = (a :: b :: c :: d :: rest).length := by simp
  simp only [decodeGroup, charAt, Nat.zero_add, if_neg first, if_neg second, if_neg third, if_neg fourth,
    List.getElem?_cons_zero, List.getElem?_cons_succ, ok_bind]
  cases readB : posOfChar b with
  | error failure => rfl
  | ok j =>
      cases posOfChar a with
      | error failure => rfl
      | ok i =>
          simp only [ok_bind, mul_shift i j (posOfChar_small readB)]
          split
          · rfl
          · cases readC : posOfChar c with
            | error failure => rfl
            | ok k =>
                simp only [ok_bind, mask_shift j k (posOfChar_small readC), mask_last]
                rfl

/-- Behind the last characters a null is read, which fails unless the third character is padding. -/
theorem decodeGroup_few {text : Bytes} (more : text ≠ []) (few : text.length < 4) :
    decodeGroup text 0 = decodeGroup (text ++ [0, 0, 0]) 0 := by
  cases text with
  | nil => contradiction
  | cons a text =>
      cases text with
      | nil => rfl
      | cons b text =>
          cases text with
          | nil =>
              simp only [List.cons_append, List.nil_append, decodeGroup_four]
              rfl
          | cons c text =>
              cases text with
              | nil => rfl
              | cons d text =>
                  simp only [List.length_cons] at few
                  omega

theorem posOfChar_padding {chr : UInt8} (padding : isPadding chr = true) : posOfChar chr = .error .thrown := by
  simp only [isPadding, Bool.or_eq_true, beq_iff_eq] at padding
  rcases padding with rfl | rfl
  · rfl
  · rfl

theorem not_padding {chr : UInt8} {index : Nat} (read : posOfChar chr = .ok index) : isPadding chr = false := by
  cases padding : isPadding chr with
  | false => rfl
  | true => rw [posOfChar_padding padding] at read; contradiction

/-- What a group of four characters says. -/
theorem decodeGroup_four_ok {a b c d : UInt8} {rest group : Bytes} :
    decodeGroup (a :: b :: c :: d :: rest) 0 = .ok group ↔
      ∃ i j, posOfChar a = .ok i ∧ posOfChar b = .ok j ∧
        (isPadding c = true ∧ group = [UInt8.ofNat (i * 4 + j / 16)] ∨
          ∃ k, posOfChar c = .ok k ∧
            (isPadding d = true ∧ group = [UInt8.ofNat (i * 4 + j / 16), UInt8.ofNat (j % 16 * 16 + k / 4)] ∨
              ∃ l, posOfChar d = .ok l ∧ group =
                [UInt8.ofNat (i * 4 + j / 16), UInt8.ofNat (j % 16 * 16 + k / 4), UInt8.ofNat (k % 4 * 64 + l)])) := by
  rw [decodeGroup_four]
  constructor
  · intro decoded
    obtain ⟨j, readB, decoded⟩ := bind_eq_ok.mp decoded
    obtain ⟨i, readA, decoded⟩ := bind_eq_ok.mp decoded
    refine ⟨i, j, readA, readB, ?_⟩
    split at decoded
    · rename_i padding
      cases decoded
      exact .inl ⟨padding, rfl⟩
    · obtain ⟨k, readC, decoded⟩ := bind_eq_ok.mp decoded
      right
      refine ⟨k, readC, ?_⟩
      split at decoded
      · rename_i padding
        cases decoded
        exact .inl ⟨padding, rfl⟩
      · obtain ⟨l, readD, decoded⟩ := bind_eq_ok.mp decoded
        cases decoded
        exact .inr ⟨l, readD, rfl⟩
  · rintro ⟨i, j, readA, readB, ⟨padding, rfl⟩ | ⟨k, readC, ⟨padding, rfl⟩ | ⟨l, readD, rfl⟩⟩⟩
    · simp only [readA, readB, ok_bind, padding, if_true]
    · simp only [readA, readB, readC, ok_bind, not_padding readC, padding, if_true, Bool.false_eq_true, if_false]
    · simp only [readA, readB, readC, readD, ok_bind, not_padding readC, not_padding readD, Bool.false_eq_true,
        if_false]

theorem decodeLoop_of_decodes {text out : Bytes} (decodes : Decodes text out) : decodeLoop text 0 = .ok out := by
  induction decodes with
  | done => exact decodeLoop_nil
  | three readA readB readC readD _ ih =>
      rw [decodeLoop_of_ne_nil (List.cons_ne_nil _ _),
        decodeGroup_four_ok.mpr ⟨_, _, readA, readB, .inr ⟨_, readC, .inr ⟨_, readD, rfl⟩⟩⟩]
      simp only [List.drop_succ_cons, List.drop_zero, ih]
      rfl
  | two readA readB readC padding _ ih =>
      rw [decodeLoop_of_ne_nil (List.cons_ne_nil _ _),
        decodeGroup_four_ok.mpr ⟨_, _, readA, readB, .inr ⟨_, readC, .inl ⟨padding, rfl⟩⟩⟩]
      simp only [List.drop_succ_cons, List.drop_zero, ih]
      rfl
  | one readA readB padding _ ih =>
      rw [decodeLoop_of_ne_nil (List.cons_ne_nil _ _),
        decodeGroup_four_ok.mpr ⟨_, _, readA, readB, .inl ⟨padding, rfl⟩⟩]
      simp only [List.drop_succ_cons, List.drop_zero, ih]
      rfl
  | last readA readB padding =>
      rw [decodeLoop_of_ne_nil (List.cons_ne_nil _ _), decodeGroup_few (List.cons_ne_nil _ _) (by simp)]
      simp only [List.cons_append, List.nil_append]
      rw [decodeGroup_four_ok.mpr ⟨_, _, readA, readB, .inl ⟨padding, rfl⟩⟩]
      simp only [List.drop_succ_cons, List.drop_nil, decodeLoop_nil]
      rfl

theorem filter_newlines {text : Bytes} (absent : 10 ∉ text) : text.filter (· ≠ 10) = text := by
  rw [List.filter_eq_self]
  intro chr member
  exact decide_eq_true fun newline => absent (newline ▸ member)

theorem eraseLinebreaks_eq {copy : Bytes} {pos : Nat} (inside : pos ≤ copy.length) :
    eraseLinebreaks copy pos = copy.take pos ++ (copy.drop pos).filter (· ≠ 10) := by
  induction length : copy.length using Nat.strong_induction_on generalizing copy pos with
  | h length ih =>
      unfold eraseLinebreaks
      split
      · rename_i none_left
        have absent := find_letter_none.mp none_left
        rw [filter_newlines absent, List.take_append_drop]
      · rename_i i found
        obtain ⟨before, after, split, absent, rfl⟩ := find_letter_some.mp found
        have front : copy.take (pos + before.length) = copy.take pos ++ before := by
          rw [List.take_add, split, List.take_left]
        have back : copy.drop (pos + before.length + 1) = after := by
          rw [Nat.add_assoc, ← List.drop_drop, split, List.drop_append, List.drop_of_length_le (by omega)]
          simp
        have reach : (copy.take pos ++ before).length = pos + before.length := by
          rw [List.length_append, List.length_take_of_le inside]
        have whole : copy.length = pos + before.length + (after.length + 1) := by
          rw [← List.take_append_drop pos copy, split, List.length_append, List.length_take_of_le inside,
            List.length_append, List.length_cons]
          omega
        rw [front, back, ih _ (by rw [List.length_append, reach]; omega)
          (by rw [List.length_append, reach]; omega) rfl, ← reach, List.take_left, List.drop_left, split,
          List.filter_append, filter_newlines absent, List.append_assoc]
        rfl

theorem base64Decode_eq (s : Bytes) (removeLinebreaks : Bool) :
    base64Decode s removeLinebreaks = decodeLoop (if removeLinebreaks then s.filter (· ≠ 10) else s) 0 := by
  cases removeLinebreaks with
  | false => rfl
  | true =>
      rw [base64Decode]
      by_cases none_given : s = []
      · rw [if_pos rfl, if_pos none_given, none_given]
        exact decodeLoop_nil.symm
      · rw [if_pos rfl, if_neg none_given, if_pos rfl, eraseLinebreaks_eq (Nat.zero_le _)]
        rfl

/-- The lines of a text, each as long as it may be. -/
def linesOf (distance : Nat) [NeZero distance] (text : Bytes) : List Bytes :=
  if distance < text.length then text.take distance :: linesOf distance (text.drop distance) else [text]
termination_by text.length
decreasing_by
  have := NeZero.ne distance
  rw [List.length_drop]
  omega

theorem linesOf_ne_nil (distance : Nat) [NeZero distance] (text : Bytes) : linesOf distance text ≠ [] := by
  unfold linesOf
  split
  · exact List.cons_ne_nil _ _
  · exact List.cons_ne_nil _ _

theorem insertLoop_eq (distance : Nat) [NeZero distance] (front text : Bytes) :
    insertLoop distance (front ++ text) (front.length + distance) =
      front ++ [10].intercalate (linesOf distance text) := by
  induction length : text.length using Nat.strong_induction_on generalizing front text with
  | h length ih =>
      have positive := NeZero.ne distance
      unfold insertLoop linesOf
      rw [List.length_append]
      by_cases longer : distance < text.length
      · have reach : (front ++ text.take distance ++ [10]).length + distance =
            front.length + distance + (distance + 1) := by
          simp only [List.length_append, List.length_take, List.length_cons, List.length_nil]
          omega
        have later := ih _ (by rw [← length, List.length_drop]; omega) (front ++ text.take distance ++ [10])
          (text.drop distance) rfl
        rw [reach] at later
        rw [if_pos (by omega), if_pos longer, List.take_length_add_append, List.drop_length_add_append, later,
          List.intercalate_cons_of_ne_nil (linesOf_ne_nil _ _)]
        simp only [List.append_assoc]
      · rw [if_neg (by omega), if_neg longer, List.intercalate_singleton]

theorem insertLinebreaks_eq (distance : Nat) [NeZero distance] (text : Bytes) :
    insertLinebreaks text distance = [10].intercalate (linesOf distance text) := by
  have inserted := insertLoop_eq distance [] text
  rw [List.nil_append, List.nil_append, List.length_nil, Nat.zero_add] at inserted
  rw [insertLinebreaks, inserted]
  split
  · rename_i none_given
    rw [none_given]
    unfold linesOf
    rfl
  · rfl

theorem flatten_linesOf (distance : Nat) [NeZero distance] (text : Bytes) :
    (linesOf distance text).flatten = text := by
  induction text using linesOf.induct distance with
  | case1 text longer ih =>
      unfold linesOf
      rw [if_pos longer, List.flatten_cons, ih, List.take_append_drop]
  | case2 text short =>
      unfold linesOf
      rw [if_neg short, List.flatten_singleton]

theorem length_linesOf (distance : Nat) [NeZero distance] (text : Bytes) :
    (∀ line ∈ (linesOf distance text).dropLast, line.length = distance) ∧
      ∀ line ∈ linesOf distance text, line.length ≤ distance := by
  induction text using linesOf.induct distance with
  | case1 text longer ih =>
      have first : (text.take distance).length = distance := List.length_take_of_le (Nat.le_of_lt longer)
      unfold linesOf
      rw [if_pos longer, List.dropLast_cons_of_ne_nil (linesOf_ne_nil _ _)]
      constructor
      · intro line member
        rcases List.mem_cons.mp member with rfl | member
        · exact first
        · exact ih.1 line member
      · intro line member
        rcases List.mem_cons.mp member with rfl | member
        · exact Nat.le_of_eq first
        · exact ih.2 line member
  | case2 text short =>
      unfold linesOf
      rw [if_neg short]
      constructor
      · intro line member
        contradiction
      · intro line member
        rw [List.mem_singleton.mp member]
        exact Nat.le_of_not_lt short

theorem filter_intercalate {lines : List Bytes} (kept : ∀ line ∈ lines, 10 ∉ line) :
    ([10].intercalate lines).filter (· ≠ 10) = lines.flatten := by
  induction lines with
  | nil => rfl
  | cons line lines ih =>
      have first := filter_newlines (kept line List.mem_cons_self)
      have later := ih fun line member => kept line (List.mem_cons_of_mem _ member)
      by_cases more : lines = []
      · rw [more, List.intercalate_singleton, first, List.flatten_singleton]
      · have gone : [10].filter (· ≠ (10 : UInt8)) = [] := rfl
        rw [List.intercalate_cons_of_ne_nil more, List.filter_append, List.filter_append, first, later, gone,
          List.append_nil, List.flatten_cons]

/-! ## Round trips -/

/-- The text in lines of one length, the last of which may be shorter. -/
def Wrapped (distance : Nat) (plain text : Bytes) : Prop :=
  ∃ lines, text = [10].intercalate lines ∧ lines.flatten = plain ∧
    (∀ line ∈ lines.dropLast, line.length = distance) ∧ ∀ line ∈ lines, line.length ≤ distance

theorem insertLinebreaks_wraps (distance : Nat) [NeZero distance] (text : Bytes) :
    Wrapped distance text (insertLinebreaks text distance) := by
  have lengths := length_linesOf distance text
  exact ⟨linesOf distance text, insertLinebreaks_eq distance text, flatten_linesOf distance text,
    lengths.1, lengths.2⟩

theorem Wrapped.decoded {distance : Nat} {s text : Bytes} (wrapped : Wrapped distance (encoding false s) text) :
    base64Decode text true = .ok s := by
  obtain ⟨lines, rfl, whole, _, _⟩ := wrapped
  have kept : ∀ line ∈ lines, 10 ∉ line := by
    intro line member newline
    apply newline_notMem_encoding false s
    rw [← whole]
    exact List.mem_flatten.mpr ⟨line, member, newline⟩
  rw [base64Decode_eq, if_pos rfl, filter_intercalate kept, whole]
  exact decodeLoop_of_decodes (decodes_encoding false s)

/-- Whatever is encoded decodes to itself, with either alphabet and in lines or not. -/
theorem base64_round_trip {s : Bytes} (small : s.length < 2 ^ 32) :
    (∀ url, ∃ text, base64Encode s url = some text ∧ text.length = (s.length + 2) / 3 * 4 ∧
      ∀ removeLinebreaks, base64Decode text removeLinebreaks = .ok s) ∧
    ∃ plain pem mime, base64Encode s false = some plain ∧
      (base64EncodePem s = some pem ∧ Wrapped 64 plain pem ∧ base64Decode pem true = .ok s) ∧
      (base64EncodeMime s = some mime ∧ Wrapped 76 plain mime ∧ base64Decode mime true = .ok s) := by
  have encoded : ∀ url, base64Encode s url = some (encoding url s) := by
    intro url
    rw [base64Encode_eq, if_pos small]
  constructor
  · intro url
    refine ⟨encoding url s, encoded url, length_encoding url s, ?_⟩
    intro removeLinebreaks
    rw [base64Decode_eq, filter_newlines (newline_notMem_encoding url s), ite_self]
    exact decodeLoop_of_decodes (decodes_encoding url s)
  · have pem := insertLinebreaks_wraps 64 (encoding false s)
    have mime := insertLinebreaks_wraps 76 (encoding false s)
    refine ⟨_, _, _, encoded false, ⟨?_, pem, pem.decoded⟩, ⟨?_, mime, mime.decoded⟩⟩
    · rw [base64EncodePem, encoded]
      rfl
    · rw [base64EncodeMime, encoded]
      rfl

theorem base64_round_trip_bytes : ∃ text, base64Encode [77, 97, 255, 0] true = some text ∧
    base64Decode text false = .ok [77, 97, 255, 0] := by
  obtain ⟨plain, _⟩ := base64_round_trip (s := [77, 97, 255, 0]) (by decide)
  obtain ⟨text, encoded, _, decoded⟩ := plain true
  exact ⟨text, encoded, decoded false⟩

end LuaXENetwork.Base64
