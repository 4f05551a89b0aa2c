import PathSpace.Proofs.Fault.Computation
import PathSpace.Text.Utf8
/-!
# Reading what was written in UTF-8

The bytes of a character lead `Utf8.scan` into the branch of their number, and there they give the
character back.  So the bytes of a text are read as that text.  The ranges of the bytes are such
that nothing else is read: what a branch accepts are the bytes of the character that it gives.

## Key results

- `scan_two`, `scan_three`, `scan_four`: what is read from well-formed bytes
- `scan_encodeChar`: the bytes of a character are read as that character
- `decode_encode`: the bytes of a text are read as that text
- `encodeChar_char2`, `encodeChar_char3`, `encodeChar_char4`: the bytes of what a branch gives
- `decode_eq_ok_iff`, `exists_fault_iff`: what is read and what is refused
-/

namespace PathSpace.Text.Utf8

/-! ## Bytes -/

/-- A byte lies in a range if its number does. -/
private theorem within_iff {lo hi b : UInt8} :
    within lo hi b = true ↔ lo.toNat ≤ b.toNat ∧ b.toNat ≤ hi.toNat := by
  rw [within, Bool.and_eq_true, decide_eq_true_iff, decide_eq_true_iff, UInt8.le_iff_toNat_le,
    UInt8.le_iff_toNat_le]

/-- A number below 256 is that of its byte. -/
private theorem toNat_byte {n : Nat} (h : n < 256) : (UInt8.ofNat n).toNat = n := by
  rw [UInt8.toNat_ofNat', Nat.mod_eq_of_lt h]

/-- The byte of a number lies in a range if the number does. -/
private theorem within_byte {lo hi : UInt8} {n : Nat} (hlo : lo.toNat ≤ n) (hhi : n ≤ hi.toNat) :
    within lo hi (UInt8.ofNat n) = true := by
  have hn : n < 256 := Nat.lt_of_le_of_lt hhi hi.toNat_lt
  rw [within_iff, toNat_byte hn]
  exact ⟨hlo, hhi⟩

/-! ## Well-formed bytes -/

variable {a b c d : UInt8} {rest : Bytes} {pos : Nat}

/-- A byte that leads several bytes is above all those that stand alone. -/
private theorem not_lt_of_within {lo hi : UInt8} (hlo : 0x80 ≤ lo.toNat)
    (ha : within lo hi a = true) : ¬ a < 0x80 := by
  rw [UInt8.lt_iff_toNat_lt]
  exact Nat.not_lt.2 (Nat.le_trans hlo (within_iff.1 ha).1)

/-- Two ranges that do not overlap have no byte in common. -/
private theorem not_within_of_within {lo hi lo' hi' : UInt8} (h : hi.toNat < lo'.toNat)
    (ha : within lo' hi' a = true) : ¬ within lo hi a = true := fun ha' =>
  absurd (Nat.le_trans (within_iff.1 ha).1 (within_iff.1 ha').2) (Nat.not_le.2 h)

/-- A byte below 0x80 is read as a character of its own. -/
private theorem scan_one (ha : a < 0x80) :
    scan pos (a :: rest) = (Char.ofNat a.toNat :: ·) <$> scan (pos + 1) rest := by
  rw [scan.eq_def]
  dsimp only
  rw [if_pos ha]

/-- A lead byte of two with a byte that continues it is read as one character. -/
theorem scan_two (ha : within 0xC2 0xDF a = true) (hb : continues b = true) :
    scan pos (a :: b :: rest) = (char2 a b :: ·) <$> scan (pos + 2) rest := by
  rw [scan.eq_def]
  dsimp only
  rw [if_neg (not_lt_of_within (by decide) ha), if_pos ha, if_pos hb]

/-- A lead byte of three with two bytes that continue it is read as one character. -/
theorem scan_three (ha : within 0xE0 0xEF a = true) (hb : secondOfThree a b = true)
    (hc : continues c = true) :
    scan pos (a :: b :: c :: rest) = (char3 a b c :: ·) <$> scan (pos + 3) rest := by
  rw [scan.eq_def]
  dsimp only
  rw [if_neg (not_lt_of_within (by decide) ha), if_neg (not_within_of_within (by decide) ha),
    if_pos ha, hb, Bool.not_true, if_neg Bool.false_ne_true, if_pos hc]

/-- A lead byte of four with three bytes that continue it is read as one character. -/
theorem scan_four (ha : within 0xF0 0xF4 a = true) (hb : secondOfFour a b = true)
    (hc : continues c = true) (hd : continues d = true) :
    scan pos (a :: b :: c :: d :: rest) = (char4 a b c d :: ·) <$> scan (pos + 4) rest := by
  rw [scan.eq_def]
  dsimp only
  rw [if_neg (not_lt_of_within (by decide) ha), if_neg (not_within_of_within (by decide) ha),
    if_neg (not_within_of_within (by decide) ha), if_pos ha, hb, hc, Bool.not_true,
    if_neg Bool.false_ne_true, if_neg Bool.false_ne_true, if_pos hd]

/-! ## The bytes of a character -/

/-- Six bits below the marker 0x80 make a byte that continues. -/
private theorem continues_byte (n : Nat) : continues (UInt8.ofNat (n % 64 + 128)) = true :=
  within_byte (Nat.le_add_left _ _) (by show n % 64 + 128 ≤ 191; omega)

/-- The six bits are read off again. -/
private theorem low6_byte (n : Nat) : low6 (UInt8.ofNat (n % 64 + 128)) = n % 64 := by
  rw [low6, toNat_byte (by omega)]
  omega

/-- After the leading byte of three, the second one says that the number needs three bytes and is
no surrogate. -/
private theorem secondOfThree_byte {v : Nat} (hlow : 0x7FF < v) (hhigh : v ≤ 0xFFFF)
    (hvalid : v.isValidChar) :
    secondOfThree (UInt8.ofNat (v / 4096 % 16 + 224)) (UInt8.ofNat (v / 64 % 64 + 128)) = true := by
  have hlead : (UInt8.ofNat (v / 4096 % 16 + 224)).toNat = v / 4096 % 16 + 224 :=
    toNat_byte (by omega)
  rw [secondOfThree]
  split
  · next h =>
    rw [h] at hlead
    change 224 = v / 4096 % 16 + 224 at hlead
    -- two bytes would not do, so the number has one of its upper bits
    exact within_byte (by show 160 ≤ _; omega) (by show _ ≤ 191; omega)
  · split
    · next h =>
      rw [h] at hlead
      change 237 = v / 4096 % 16 + 224 at hlead
      -- the surrogates are the upper half of what begins like this
      have hnosurrogate : v < 55296 := by
        rcases hvalid with h | h <;> omega
      exact within_byte (by show 128 ≤ _; omega) (by show _ ≤ 159; omega)
    · exact continues_byte _

/-- After the leading byte of four, the second one says that the number needs four bytes and is
not too large. -/
private theorem secondOfFour_byte {v : Nat} (hlow : 0xFFFF < v) (hvalid : v.isValidChar) :
    secondOfFour (UInt8.ofNat (v / 262144 % 8 + 240)) (UInt8.ofNat (v / 4096 % 64 + 128)) =
      true := by
  have hmax : v < 1114112 := by rcases hvalid with h | h <;> omega
  have hlead : (UInt8.ofNat (v / 262144 % 8 + 240)).toNat = v / 262144 % 8 + 240 :=
    toNat_byte (by omega)
  rw [secondOfFour]
  split
  -- the lead bytes 0xF0 and 0xF4 restrict the second byte, the others do not
  · next h =>
    rw [h] at hlead
    change 240 = v / 262144 % 8 + 240 at hlead
    exact within_byte (by show 144 ≤ _; omega) (by show _ ≤ 191; omega)
  · split
    · next h =>
      rw [h] at hlead
      change 244 = v / 262144 % 8 + 240 at hlead
      exact within_byte (by show 128 ≤ _; omega) (by show _ ≤ 143; omega)
    · exact continues_byte _

/-- The byte of a character below 0x80 is read as the character. -/
private theorem scan_one_byte {v : Nat} (h : v ≤ 127) :
    scan pos (UInt8.ofNat v :: rest) = (Char.ofNat v :: ·) <$> scan (pos + 1) rest := by
  have hbyte : (UInt8.ofNat v).toNat = v := toNat_byte (by omega)
  have hlt : UInt8.ofNat v < 0x80 := by
    rw [UInt8.lt_iff_toNat_lt, hbyte]
    exact Nat.lt_succ_of_le h
  rw [scan_one hlt, hbyte]

/-- The two bytes of a character are read as the character. -/
private theorem scan_two_bytes {v : Nat} (hlow : 127 < v) (hhigh : v ≤ 0x7FF) :
    scan pos (UInt8.ofNat (v / 64 % 32 + 192) :: UInt8.ofNat (v % 64 + 128) :: rest) =
      (Char.ofNat v :: ·) <$> scan (pos + 2) rest := by
  have hlead : within 0xC2 0xDF (UInt8.ofNat (v / 64 % 32 + 192)) = true :=
    within_byte (by show 194 ≤ _; omega) (by show _ ≤ 223; omega)
  have hnumber : (v / 64 % 32 + 192) % 32 * 64 + v % 64 = v := by omega
  rw [scan_two hlead (continues_byte v), char2, low6_byte, toNat_byte (by omega), hnumber]

/-- The three bytes of a character are read as the character. -/
private theorem scan_three_bytes {v : Nat} (hlow : 0x7FF < v) (hhigh : v ≤ 0xFFFF)
    (hvalid : v.isValidChar) :
    scan pos (UInt8.ofNat (v / 4096 % 16 + 224) :: UInt8.ofNat (v / 64 % 64 + 128) ::
        UInt8.ofNat (v % 64 + 128) :: rest) =
      (Char.ofNat v :: ·) <$> scan (pos + 3) rest := by
  have hlead : within 0xE0 0xEF (UInt8.ofNat (v / 4096 % 16 + 224)) = true :=
    within_byte (by show 224 ≤ _; omega) (by show _ ≤ 239; omega)
  have hnumber : (v / 4096 % 16 + 224) % 16 * 4096 + v / 64 % 64 * 64 + v % 64 = v := by omega
  rw [scan_three hlead (secondOfThree_byte hlow hhigh hvalid) (continues_byte v), char3, low6_byte,
    low6_byte, toNat_byte (by omega), hnumber]

/-- The four bytes of a character are read as the character. -/
private theorem scan_four_bytes {v : Nat} (hlow : 0xFFFF < v) (hvalid : v.isValidChar) :
    scan pos (UInt8.ofNat (v / 262144 % 8 + 240) :: UInt8.ofNat (v / 4096 % 64 + 128) ::
        UInt8.ofNat (v / 64 % 64 + 128) :: UInt8.ofNat (v % 64 + 128) :: rest) =
      (Char.ofNat v :: ·) <$> scan (pos + 4) rest := by
  have hmax : v < 1114112 := by rcases hvalid with h | h <;> omega
  have hlead : within 0xF0 0xF4 (UInt8.ofNat (v / 262144 % 8 + 240)) = true :=
    within_byte (by show 240 ≤ _; omega) (by show _ ≤ 244; omega)
  have hnumber : (v / 262144 % 8 + 240) % 8 * 262144 + v / 4096 % 64 * 4096 + v / 64 % 64 * 64 +
      v % 64 = v := by omega
  rw [scan_four hlead (secondOfFour_byte hlow hvalid) (continues_byte _) (continues_byte v), char4,
    low6_byte, low6_byte, low6_byte, toNat_byte (by omega), hnumber]

/-- The bytes of a character are read as that character. -/
theorem scan_encodeChar (c : Char) (pos : Nat) (rest : Bytes) :
    ∃ pos', scan pos (String.utf8EncodeChar c ++ rest) = (c :: ·) <$> scan pos' rest := by
  have hvalid : c.toNat.isValidChar := c.valid
  have hc : Char.ofNat c.toNat = c := Char.ofNat_toNat c
  -- nothing but the number of the character counts
  rw [String.utf8EncodeChar, show c.val.toNat = c.toNat from rfl]
  generalize c.toNat = v at hvalid hc
  subst hc
  split
  · next h1 => exact ⟨pos + 1, scan_one_byte h1⟩
  · split
    · next h1 h2 => exact ⟨pos + 2, scan_two_bytes (by omega) h2⟩
    · split
      · next h2 h3 => exact ⟨pos + 3, scan_three_bytes (by omega) h3 hvalid⟩
      · next h3 => exact ⟨pos + 4, scan_four_bytes (by omega) hvalid⟩

/-! ## The bytes of a text -/

/-- The bytes of a text are read as the text. -/
private theorem scan_encode (text : List Char) (pos : Nat) :
    scan pos (text.flatMap String.utf8EncodeChar) = .ok text := by
  induction text generalizing pos with
  | nil => rw [List.flatMap_nil, scan]
  | cons c text ih =>
    obtain ⟨pos', hscan⟩ := scan_encodeChar c pos (text.flatMap String.utf8EncodeChar)
    rw [List.flatMap_cons, hscan, ih]
    rfl

/-- The bytes of a text are read as that text. -/
theorem decode_encode (s : String) : decode (encode s) = .ok s := by
  rw [decode, encode, scan_encode]
  exact congrArg Except.ok String.ofList_toList

/-! ## What a branch accepts -/

/-- The character of a number that is one has this number. -/
private theorem toNat_val_ofNat {v : Nat} (h : v.isValidChar) : (Char.ofNat v).val.toNat = v := by
  rw [Char.ofNat, dif_pos h]
  rfl

/-- The byte of the number of a byte is the byte. -/
private theorem byte_eq {n : Nat} (h : n = b.toNat) : UInt8.ofNat n = b := by
  rw [h, UInt8.ofNat_toNat]

/-- The numbers of a byte that continues. -/
private theorem bounds_of_continues (h : continues b = true) : 128 ≤ b.toNat ∧ b.toNat ≤ 191 :=
  within_iff.1 h

/-- After a leading byte of three the second one says that the number needs three bytes and is no
surrogate. -/
private theorem bounds_of_secondOfThree (h : secondOfThree a b = true) :
    128 ≤ b.toNat ∧ b.toNat ≤ 191 ∧ (a.toNat = 224 → 160 ≤ b.toNat) ∧
      (a.toNat = 237 → b.toNat ≤ 159) := by
  -- the lead bytes 0xE0 and 0xED restrict the second byte
  rw [secondOfThree] at h
  split at h
  · next ha =>
    have hb : 160 ≤ b.toNat ∧ b.toNat ≤ 191 := within_iff.1 h
    have ha : a.toNat = 224 := congrArg UInt8.toNat ha
    omega
  · next hE0 =>
    have hE0 : a.toNat ≠ 224 := fun ha => hE0 (UInt8.toNat_inj.1 ha)
    split at h
    · have hb : 128 ≤ b.toNat ∧ b.toNat ≤ 159 := within_iff.1 h
      omega
    · next hED =>
      have hED : a.toNat ≠ 237 := fun ha => hED (UInt8.toNat_inj.1 ha)
      have hb := bounds_of_continues h
      omega

/-- After a leading byte of four the second one says that the number needs four bytes and is not
too large. -/
private theorem bounds_of_secondOfFour (h : secondOfFour a b = true) :
    128 ≤ b.toNat ∧ b.toNat ≤ 191 ∧ (a.toNat = 240 → 144 ≤ b.toNat) ∧
      (a.toNat = 244 → b.toNat ≤ 143) := by
  -- the lead bytes 0xF0 and 0xF4 restrict the second byte
  rw [secondOfFour] at h
  split at h
  · next ha =>
    have hb : 144 ≤ b.toNat ∧ b.toNat ≤ 191 := within_iff.1 h
    have ha : a.toNat = 240 := congrArg UInt8.toNat ha
    omega
  · next hF0 =>
    have hF0 : a.toNat ≠ 240 := fun ha => hF0 (UInt8.toNat_inj.1 ha)
    split at h
    · have hb : 128 ≤ b.toNat ∧ b.toNat ≤ 143 := within_iff.1 h
      omega
    · next hF4 =>
      have hF4 : a.toNat ≠ 244 := fun ha => hF4 (UInt8.toNat_inj.1 ha)
      have hb := bounds_of_continues h
      omega

/-- A character that was read from one byte is written as this byte. -/
private theorem encodeChar_ofNat (ha : a < 0x80) :
    String.utf8EncodeChar (Char.ofNat a.toNat) = [a] := by
  have ha : a.toNat < 128 := UInt8.lt_iff_toNat_lt.1 ha
  have hvalid : a.toNat.isValidChar := .inl (by omega)
  rw [String.utf8EncodeChar, toNat_val_ofNat hvalid]
  rw [if_pos (by omega), byte_eq rfl]

/-- A character that was read from two bytes is written as these. -/
theorem encodeChar_char2 (ha : within 0xC2 0xDF a = true) (hb : continues b = true) :
    String.utf8EncodeChar (char2 a b) = [a, b] := by
  have ha : 194 ≤ a.toNat ∧ a.toNat ≤ 223 := within_iff.1 ha
  have hb := bounds_of_continues hb
  have hvalid : (a.toNat % 32 * 64 + b.toNat % 64).isValidChar := .inl (by omega)
  rw [char2, low6, String.utf8EncodeChar, toNat_val_ofNat hvalid]
  rw [if_neg (by omega), if_pos (by omega), byte_eq (b := a) (by omega),
    byte_eq (b := b) (by omega)]

/-- A character that was read from three bytes is written as these. -/
theorem encodeChar_char3 (ha : within 0xE0 0xEF a = true) (hb : secondOfThree a b = true)
    (hc : continues c = true) : String.utf8EncodeChar (char3 a b c) = [a, b, c] := by
  have ha : 224 ≤ a.toNat ∧ a.toNat ≤ 239 := within_iff.1 ha
  have hb := bounds_of_secondOfThree hb
  have hc := bounds_of_continues hc
  -- the surrogates are what the restriction behind 0xED keeps out
  have hvalid : (a.toNat % 16 * 4096 + b.toNat % 64 * 64 + c.toNat % 64).isValidChar := by
    rcases Nat.lt_or_ge a.toNat 238 with h | h
    · exact .inl (by omega)
    · exact .inr (by omega)
  rw [char3, low6, low6, String.utf8EncodeChar, toNat_val_ofNat hvalid]
  rw [if_neg (by omega), if_neg (by omega), if_pos (by omega), byte_eq (b := a) (by omega),
    byte_eq (b := b) (by omega), byte_eq (b := c) (by omega)]

/-- A character that was read from four bytes is written as these. -/
theorem encodeChar_char4 (ha : within 0xF0 0xF4 a = true) (hb : secondOfFour a b = true)
    (hc : continues c = true) (hd : continues d = true) :
    String.utf8EncodeChar (char4 a b c d) = [a, b, c, d] := by
  have ha : 240 ≤ a.toNat ∧ a.toNat ≤ 244 := within_iff.1 ha
  have hb := bounds_of_secondOfFour hb
  have hc := bounds_of_continues hc
  have hd := bounds_of_continues hd
  have hvalid : (a.toNat % 8 * 262144 + b.toNat % 64 * 4096 + c.toNat % 64 * 64 +
      d.toNat % 64).isValidChar := .inr (by omega)
  rw [char4, low6, low6, low6, String.utf8EncodeChar, toNat_val_ofNat hvalid]
  rw [if_neg (by omega), if_neg (by omega), if_neg (by omega), byte_eq (b := a) (by omega),
    byte_eq (b := b) (by omega), byte_eq (b := c) (by omega), byte_eq (b := d) (by omega)]

/-! ## What is read and what is refused -/

variable {bytes : Bytes} {text : List Char}

/-- Behind a lead byte of two nothing is accepted but a byte that continues it. -/
private theorem exists_of_scan_two (ha : within 0xC2 0xDF a = true)
    (h : scan pos (a :: bytes) = .ok text) :
    ∃ b rest, bytes = b :: rest ∧ continues b = true ∧
      (char2 a b :: ·) <$> scan (pos + 2) rest = .ok text := by
  rw [scan.eq_def] at h
  dsimp only at h
  rw [if_neg (not_lt_of_within (by decide) ha), if_pos ha] at h
  split at h
  · cases h
  split at h
  · next hb => exact ⟨_, _, rfl, hb, h⟩
  · cases h

/-- Behind a lead byte of three nothing is accepted but two bytes that continue it. -/
private theorem exists_of_scan_three (ha : within 0xE0 0xEF a = true)
    (h : scan pos (a :: bytes) = .ok text) :
    ∃ b c rest, bytes = b :: c :: rest ∧ secondOfThree a b = true ∧ continues c = true ∧
      (char3 a b c :: ·) <$> scan (pos + 3) rest = .ok text := by
  rw [scan.eq_def] at h
  dsimp only at h
  -- the lead byte decides the branch; each check that fails ends in a fault
  rw [if_neg (not_lt_of_within (by decide) ha), if_neg (not_within_of_within (by decide) ha),
    if_pos ha] at h
  split at h
  · cases h
  split at h
  · cases h
  next hb =>
  split at h
  · cases h
  split at h
  · next hc => exact ⟨_, _, _, rfl, by simpa using hb, hc, h⟩
  · cases h

/-- Behind a lead byte of four nothing is accepted but three bytes that continue it. -/
private theorem exists_of_scan_four (ha : within 0xF0 0xF4 a = true)
    (h : scan pos (a :: bytes) = .ok text) :
    ∃ b c d rest, bytes = b :: c :: d :: rest ∧ secondOfFour a b = true ∧ continues c = true ∧
      continues d = true ∧ (char4 a b c d :: ·) <$> scan (pos + 4) rest = .ok text := by
  rw [scan.eq_def] at h
  dsimp only at h
  rw [if_neg (not_lt_of_within (by decide) ha), if_neg (not_within_of_within (by decide) ha),
    if_neg (not_within_of_within (by decide) ha), if_pos ha] at h
  split at h
  · cases h
  split at h
  · cases h
  next hb =>
  split at h
  · cases h
  split at h
  · cases h
  next hc =>
  split at h
  · cases h
  split at h
  · next hd => exact ⟨_, _, _, _, rfl, by simpa using hb, by simpa using hc, hd, h⟩
  · cases h

/-- What is read begins with the bytes of a character, and the rest is read after it. -/
private theorem exists_of_scan_cons (h : scan pos (a :: bytes) = .ok text) :
    ∃ ch rest text' pos', a :: bytes = String.utf8EncodeChar ch ++ rest ∧ text = ch :: text' ∧
      scan pos' rest = .ok text' := by
  -- whichever the lead byte, the character and the rest are given the same way
  have hgive : ∀ {ch : Char} {rest : Bytes} {pos' : Nat},
      a :: bytes = String.utf8EncodeChar ch ++ rest → (ch :: ·) <$> scan pos' rest = .ok text →
      ∃ ch rest text' pos', a :: bytes = String.utf8EncodeChar ch ++ rest ∧ text = ch :: text' ∧
        scan pos' rest = .ok text' := by
    intro ch rest pos' hbytes hscan
    obtain ⟨text', htext', rfl⟩ := Computation.exists_of_map_eq_ok hscan
    exact ⟨ch, rest, text', pos', hbytes, rfl, htext'⟩
  by_cases h1 : a < 0x80
  · rw [scan_one h1] at h
    exact hgive (by rw [encodeChar_ofNat h1]; rfl) h
  by_cases h2 : within 0xC2 0xDF a = true
  · obtain ⟨b, rest, rfl, hb, h⟩ := exists_of_scan_two h2 h
    exact hgive (by rw [encodeChar_char2 h2 hb]; rfl) h
  by_cases h3 : within 0xE0 0xEF a = true
  · obtain ⟨b, c, rest, rfl, hb, hc, h⟩ := exists_of_scan_three h3 h
    exact hgive (by rw [encodeChar_char3 h3 hb hc]; rfl) h
  by_cases h4 : within 0xF0 0xF4 a = true
  · obtain ⟨b, c, d, rest, rfl, hb, hc, hd, h⟩ := exists_of_scan_four h4 h
    exact hgive (by rw [encodeChar_char4 h4 hb hc hd]; rfl) h
  · -- no character begins with any other byte
    rw [scan.eq_def] at h
    dsimp only at h
    rw [if_neg h1, if_neg h2, if_neg h3, if_neg h4] at h
    cases h

/-- What is read are the bytes of the text that it is read as. -/
private theorem encode_of_scan (h : scan pos bytes = .ok text) :
    text.flatMap String.utf8EncodeChar = bytes := by
  induction text generalizing pos bytes with
  | nil =>
    cases bytes with
    | nil => rfl
    | cons a bytes =>
      obtain ⟨ch, rest, text', pos', -, htext, -⟩ := exists_of_scan_cons h
      cases htext
  | cons ch text ih =>
    cases bytes with
    | nil =>
      rw [scan] at h
      cases h
    | cons a bytes =>
      -- the first character takes its bytes, the rest of them spell the rest
      obtain ⟨ch', rest, text', pos', hbytes, htext, hscan⟩ := exists_of_scan_cons h
      obtain ⟨rfl, rfl⟩ := List.cons.inj htext
      rw [List.flatMap_cons, ih hscan, hbytes]

/-- Bytes are read as a text exactly if they are the bytes of that text. -/
theorem decode_eq_ok_iff {s : String} : decode bytes = .ok s ↔ encode s = bytes := by
  refine ⟨fun h => ?_, fun h => h ▸ decode_encode s⟩
  obtain ⟨text, hscan, rfl⟩ := Computation.exists_of_map_eq_ok h
  rw [encode, String.toList_ofList, encode_of_scan hscan]

/-- Different texts have different bytes. -/
theorem encode_injective {s s' : String} (h : encode s = encode s') : s = s' :=
  Except.ok.inj ((decode_encode s).symm.trans (h ▸ decode_encode s'))

/-- Well-formed bytes are those of a text. -/
def WellFormed (bytes : Bytes) : Prop := ∃ s, encode s = bytes

/-- All other bytes are refused. -/
theorem exists_fault_iff :
    (∃ fault, decode bytes = .error fault) ↔ ¬ WellFormed bytes := by
  cases h : decode bytes with
  | ok s => simpa using ⟨s, decode_eq_ok_iff.1 h⟩
  | error fault =>
    simp only [Except.error.injEq, exists_eq', true_iff]
    rintro ⟨s, hs⟩
    rw [decode_eq_ok_iff.2 hs] at h
    cases h

end PathSpace.Text.Utf8
