import Mathlib.Data.List.TakeWhile
import DriverSurvey.Text.Utf8
/-!
# Encoding — what comes back of a text in UTF-8

The octets of a character are read back as that character whatever comes behind them (`front_utf8EncodeChar`).  So both
readings give a text back from its octets, and a text without a zero character does not end early.  And what is read as
a character are its octets (`utf8EncodeChar_of_front`), so nothing but a text's octets is read as that text.
-/
namespace DriverSurvey

/-! ## Octets as numbers -/

theorem toNat_octet {n : Nat} (h : n < 256) : (UInt8.ofNat n).toNat = n :=
  UInt8.toNat_ofNat_of_lt' h

/-- What the first octet tells, by its number. -/
theorem front_ofNat {lead : Nat} (h : lead < 256) (rest : List UInt8) : front (UInt8.ofNat lead) rest =
    if lead < 0x80 then .char (Char.ofNat lead) 0
    else if lead < 0xC2 then .broken 0
    else if lead < 0xE0 then gather 0x80 0xBF (lead - 0xC0) 0 1 rest
    else if lead = 0xE0 then gather 0xA0 0xBF 0 0 2 rest
    else if lead = 0xED then gather 0x80 0x9F 0xD 0 2 rest
    else if lead < 0xF0 then gather 0x80 0xBF (lead - 0xE0) 0 2 rest
    else if lead = 0xF0 then gather 0x90 0xBF 0 0 3 rest
    else if lead < 0xF4 then gather 0x80 0xBF (lead - 0xF0) 0 3 rest
    else if lead = 0xF4 then gather 0x80 0x8F 4 0 3 rest
    else .broken 0 := by
  simp only [front, UInt8.lt_iff_toNat_lt, beq_iff_eq, ← UInt8.toNat_inj, toNat_octet h]
  rfl

/-- **An octet after the first adds six bits**, if it lies in the range asked for. -/
theorem gather_octet {low high : UInt8} {digit : Nat} (bits taken remaining : Nat) (rest : List UInt8)
    (h : digit < 64) (hlow : low.toNat ≤ digit + 128) (hhigh : digit + 128 ≤ high.toNat) :
    gather low high bits taken (remaining + 1) (UInt8.ofNat (digit + 128) :: rest) =
      gather 0x80 0xBF (bits * 64 + digit) (taken + 1) remaining rest := by
  have hoctet : (UInt8.ofNat (digit + 128)).toNat = digit + 128 := toNat_octet (by omega)
  have hrange : (decide (low ≤ UInt8.ofNat (digit + 128)) && decide (UInt8.ofNat (digit + 128) ≤ high)) = true := by
    rw [Bool.and_eq_true, decide_eq_true_eq, decide_eq_true_eq, UInt8.le_iff_toNat_le, UInt8.le_iff_toNat_le, hoctet]
    exact ⟨hlow, hhigh⟩
  rw [gather, if_pos hrange, hoctet, Nat.add_sub_cancel]

theorem low_le_octet (digit : Nat) : (0x80 : UInt8).toNat ≤ digit + 128 :=
  Nat.le_add_left 128 digit

theorem octet_le_high {digit : Nat} (h : digit < 64) : digit + 128 ≤ (0xBF : UInt8).toNat :=
  Nat.add_le_add_right (Nat.le_of_lt_succ h) 128

theorem gather_last {digit : Nat} (h : digit < 64) (bits taken : Nat) (rest : List UInt8) :
    gather 0x80 0xBF bits taken 1 (UInt8.ofNat (digit + 128) :: rest) =
      .char (Char.ofNat (bits * 64 + digit)) (taken + 1) :=
  gather_octet bits taken 0 rest h (low_le_octet digit) (octet_le_high h)

theorem gather_last_two {digit last : Nat} (h : digit < 64) (hlast : last < 64) (bits taken : Nat)
    (rest : List UInt8) :
    gather 0x80 0xBF bits taken 2 (UInt8.ofNat (digit + 128) :: UInt8.ofNat (last + 128) :: rest) =
      .char (Char.ofNat ((bits * 64 + digit) * 64 + last)) (taken + 2) :=
  (gather_octet bits taken 1 _ h (low_le_octet digit) (octet_le_high h)).trans (gather_last hlast _ _ rest)

/-! ## One character -/

section
variable {lead second third last : Nat} (rest : List UInt8)

theorem front_one (h : lead < 128) : front (UInt8.ofNat lead) rest = .char (Char.ofNat lead) 0 := by
  rw [front_ofNat (by omega), if_pos h]

theorem front_two (h : 2 ≤ lead) (hlead : lead < 32) (hlast : last < 64) :
    front (UInt8.ofNat (lead + 192)) (UInt8.ofNat (last + 128) :: rest) =
      .char (Char.ofNat (lead * 64 + last)) 1 := by
  rw [front_ofNat (by omega), if_neg (by omega), if_neg (by omega), if_pos (by omega), Nat.add_sub_cancel,
    gather_last hlast]

/-- The second octet of three keeps out what two are enough for, and surrogates. -/
theorem front_three (hlead : lead < 16) (hsecond : second < 64) (hlast : last < 64)
    (hlong : lead = 0 → 32 ≤ second) (hsurrogate : lead = 13 → second < 32) :
    front (UInt8.ofNat (lead + 224)) (UInt8.ofNat (second + 128) :: UInt8.ofNat (last + 128) :: rest) =
      .char (Char.ofNat ((lead * 64 + second) * 64 + last)) 2 := by
  rw [front_ofNat (by omega), if_neg (by omega), if_neg (by omega), if_neg (by omega)]
  by_cases hzero : lead = 0
  · subst hzero
    have hlow : (0xA0 : UInt8).toNat ≤ second + 128 := Nat.add_le_add_right (hlong rfl) 128
    rw [if_pos rfl, gather_octet 0 0 1 _ hsecond hlow (octet_le_high hsecond), gather_last hlast]
  · rw [if_neg (by omega)]
    by_cases hthirteen : lead = 13
    · subst hthirteen
      have hhigh : second + 128 ≤ (0x9F : UInt8).toNat :=
        Nat.add_le_add_right (Nat.le_of_lt_succ (hsurrogate rfl)) 128
      rw [if_pos rfl, gather_octet 0xD 0 1 _ hsecond (low_le_octet second) hhigh, gather_last hlast]
    · rw [if_neg (by omega), if_pos (by omega), Nat.add_sub_cancel, gather_last_two hsecond hlast]

/-- The second octet of four keeps out what three are enough for, and what lies beyond the last code point. -/
theorem front_four (hlead : lead < 5) (hsecond : second < 64) (hthird : third < 64) (hlast : last < 64)
    (hlong : lead = 0 → 16 ≤ second) (hbeyond : lead = 4 → second < 16) :
    front (UInt8.ofNat (lead + 240))
        (UInt8.ofNat (second + 128) :: UInt8.ofNat (third + 128) :: UInt8.ofNat (last + 128) :: rest) =
      .char (Char.ofNat (((lead * 64 + second) * 64 + third) * 64 + last)) 3 := by
  rw [front_ofNat (by omega), if_neg (by omega), if_neg (by omega), if_neg (by omega), if_neg (by omega),
    if_neg (by omega), if_neg (by omega)]
  by_cases hzero : lead = 0
  · subst hzero
    have hlow : (0x90 : UInt8).toNat ≤ second + 128 := Nat.add_le_add_right (hlong rfl) 128
    rw [if_pos rfl, gather_octet 0 0 2 _ hsecond hlow (octet_le_high hsecond), gather_last_two hthird hlast]
  · rw [if_neg (by omega)]
    by_cases hfour : lead = 4
    · subst hfour
      have hhigh : second + 128 ≤ (0x8F : UInt8).toNat :=
        Nat.add_le_add_right (Nat.le_of_lt_succ (hbeyond rfl)) 128
      rw [if_neg (by omega), if_pos rfl, gather_octet 4 0 2 _ hsecond (low_le_octet second) hhigh,
        gather_last_two hthird hlast]
    · rw [if_pos (by omega), Nat.add_sub_cancel, gather_octet lead 0 2 _ hsecond (low_le_octet second)
        (octet_le_high hsecond), gather_last_two hthird hlast]

end

/-- **A character is read back from its octets**, whatever comes behind them. -/
theorem front_utf8EncodeChar (c : Char) : ∃ b more, String.utf8EncodeChar c = b :: more ∧
    ∀ rest : List UInt8, front b (more ++ rest) = .char c more.length := by
  have hchar : Char.ofNat c.val.toNat = c := Char.ofNat_toNat c
  have hvalid : c.val.toNat < 0xD800 ∨ 0xDFFF < c.val.toNat ∧ c.val.toNat < 0x110000 := c.valid
  unfold String.utf8EncodeChar
  generalize c.val.toNat = n at hchar hvalid
  -- in each case the digits make up the value again, and its range keeps them where they may lie
  by_cases hone : n ≤ 127
  · simp only [if_pos hone]
    refine ⟨_, _, rfl, fun rest => (front_one rest (by omega)).trans ?_⟩
    rw [hchar]
    rfl
  simp only [if_neg hone]
  by_cases htwo : n ≤ 2047
  · have hbits : n / 64 % 32 * 64 + n % 64 = n := by omega
    simp only [if_pos htwo]
    refine ⟨_, _, rfl, fun rest => (front_two rest (by omega) (by omega) (by omega)).trans ?_⟩
    rw [hbits, hchar]
    rfl
  simp only [if_neg htwo]
  by_cases hthree : n ≤ 65535
  · have hbits : (n / 4096 % 16 * 64 + n / 64 % 64) * 64 + n % 64 = n := by omega
    simp only [if_pos hthree]
    refine ⟨_, _, rfl, fun rest => (front_three rest (by omega) (by omega) (by omega) (by omega) (by omega)).trans ?_⟩
    rw [hbits, hchar]
    rfl
  · have hbits : ((n / 262144 % 8 * 64 + n / 4096 % 64) * 64 + n / 64 % 64) * 64 + n % 64 = n := by omega
    simp only [if_neg hthree]
    refine ⟨_, _, rfl, fun rest =>
      (front_four rest (by omega) (by omega) (by omega) (by omega) (by omega) (by omega)).trans ?_⟩
    rw [hbits, hchar]
    rfl

theorem ofNat_ne_zero {n : Nat} (h : 0 < n) (hn : n < 256) : UInt8.ofNat n ≠ 0 := by
  intro hzero
  rw [← UInt8.toNat_inj, toNat_octet hn, UInt8.toNat_zero] at hzero
  exact Nat.ne_of_gt h hzero

/-- **A character other than zero has no zero octet.** -/
theorem ne_zero_of_mem_utf8EncodeChar {c : Char} (h : c ≠ '\x00') : ∀ b ∈ String.utf8EncodeChar c, b ≠ 0 := by
  have hpositive : 0 < c.val.toNat := by
    refine Nat.pos_of_ne_zero fun hzero => h ?_
    exact Char.ext (UInt32.toNat_inj.1 hzero)
  unfold String.utf8EncodeChar
  generalize c.val.toNat = n at hpositive
  have hfurther (digit : Nat) : UInt8.ofNat (digit % 64 + 128) ≠ 0 := ofNat_ne_zero (by omega) (by omega)
  simp only []
  split
  · exact List.forall_mem_singleton.2 (ofNat_ne_zero hpositive (by omega))
  · split
    · exact List.forall_mem_cons.2 ⟨ofNat_ne_zero (by omega) (by omega), List.forall_mem_singleton.2 (hfurther n)⟩
    · split
      · simp only [List.forall_mem_cons]
        exact ⟨ofNat_ne_zero (by omega) (by omega), hfurther _, hfurther n, nofun⟩
      · simp only [List.forall_mem_cons]
        exact ⟨ofNat_ne_zero (by omega) (by omega), hfurther _, hfurther _, hfurther n, nofun⟩

/-! ## Texts -/

theorem toList_loop (octets : ByteArray) (i : Nat) (front : List UInt8) :
    ByteArray.toList.loop octets i front = front.reverse ++ octets.data.toList.drop i := by
  fun_induction ByteArray.toList.loop octets i front with
  | case1 i front h ih =>
    have hi : i < octets.data.toList.length := h
    have hget : octets.get! i = octets.data.toList[i] := by simp [ByteArray.get!, h]
    rw [ih, List.drop_eq_getElem_cons hi, List.reverse_cons, List.append_assoc, List.singleton_append, hget]
  | case2 i front h =>
    rw [List.drop_eq_nil_of_le (Nat.le_of_not_lt h), List.append_nil]

theorem toList_toUTF8 (text : String) : text.toUTF8.toList = text.toList.flatMap String.utf8EncodeChar := by
  have hlist : text.toUTF8.toList = text.toUTF8.data.toList := toList_loop _ 0 []
  have hencoded : text.toUTF8 = text.toList.utf8Encode := by simp
  rw [hlist, hencoded, List.utf8Encode, List.toList_data_toByteArray]

/-- **A text is read back from its octets.** -/
theorem decodeLossy_toUTF8 (text : String) : decodeLossy text.toUTF8.toList = text.toList := by
  rw [toList_toUTF8]
  induction text.toList with
  | nil => rw [List.flatMap_nil, decodeLossy]
  | cons c rest ih =>
    obtain ⟨b, more, hoctets, hfront⟩ := front_utf8EncodeChar c
    rw [List.flatMap_cons, hoctets, List.cons_append, decodeLossy, hfront]
    simp only [List.drop_left, ih]

theorem decodeUtf8?_toUTF8 (text : String) : decodeUtf8? text.toUTF8.toList = some text.toList := by
  rw [toList_toUTF8]
  induction text.toList with
  | nil => rw [List.flatMap_nil, decodeUtf8?]
  | cons c rest ih =>
    obtain ⟨b, more, hoctets, hfront⟩ := front_utf8EncodeChar c
    rw [List.flatMap_cons, hoctets, List.cons_append, decodeUtf8?, hfront]
    simp only [List.drop_left, ih, Option.map_some]

/-- **A text without a zero character does not end early.** -/
theorem terminatedText_toUTF8 {text : String} (h : '\x00' ∉ text.toList) :
    terminatedText text.toUTF8.toList = text := by
  have hoctets : ∀ b ∈ text.toUTF8.toList, (b != 0) = true := by
    intro b hb
    rw [toList_toUTF8, List.mem_flatMap] at hb
    obtain ⟨c, hc, hb⟩ := hb
    exact bne_iff_ne.2 (ne_zero_of_mem_utf8EncodeChar (fun hzero => h (hzero ▸ hc)) b hb)
  rw [terminatedText, List.takeWhile_eq_self_iff.2 hoctets, decodeLossy_toUTF8, String.ofList_toList]

/-! ## Back to octets -/

theorem toNat_charOfNat {n : Nat} (h : n.isValidChar) : (Char.ofNat n).val.toNat = n := by
  rw [Char.ofNat, dif_pos h]
  rfl

section
variable {lead second third last : Nat}

theorem encode_one (h : lead < 128) : String.utf8EncodeChar (Char.ofNat lead) = [UInt8.ofNat lead] := by
  have hvalue : (Char.ofNat lead).val.toNat = lead := toNat_charOfNat (.inl (by omega))
  simp only [String.utf8EncodeChar, hvalue]
  rw [if_pos (by omega)]

theorem encode_two (h : 2 ≤ lead) (hlead : lead < 32) (hlast : last < 64) :
    String.utf8EncodeChar (Char.ofNat (lead * 64 + last)) = [UInt8.ofNat (lead + 192), UInt8.ofNat (last + 128)] := by
  have hvalue : (Char.ofNat (lead * 64 + last)).val.toNat = lead * 64 + last := toNat_charOfNat (.inl (by omega))
  have hfirst : (lead * 64 + last) / 64 % 32 = lead := by omega
  have hsecond : (lead * 64 + last) % 64 = last := by omega
  simp only [String.utf8EncodeChar, hvalue, hfirst, hsecond]
  rw [if_neg (by omega), if_pos (by omega)]

theorem encode_three (hlead : lead < 16) (hsecond : second < 64) (hlast : last < 64)
    (hlong : lead = 0 → 32 ≤ second) (hsurrogate : lead = 13 → second < 32) :
    String.utf8EncodeChar (Char.ofNat ((lead * 64 + second) * 64 + last)) =
      [UInt8.ofNat (lead + 224), UInt8.ofNat (second + 128), UInt8.ofNat (last + 128)] := by
  have hvalue : (Char.ofNat ((lead * 64 + second) * 64 + last)).val.toNat = (lead * 64 + second) * 64 + last := by
    refine toNat_charOfNat ?_
    unfold Nat.isValidChar
    omega
  generalize hn : (lead * 64 + second) * 64 + last = n at hvalue
  have hbits : n / 4096 % 16 = lead ∧ n / 64 % 64 = second ∧ n % 64 = last := by omega
  simp only [String.utf8EncodeChar, hvalue, hbits]
  rw [if_neg (by omega), if_neg (by omega), if_pos (by omega)]

theorem encode_four (hlead : lead < 5) (hsecond : second < 64) (hthird : third < 64) (hlast : last < 64)
    (hlong : lead = 0 → 16 ≤ second) (hbeyond : lead = 4 → second < 16) :
    String.utf8EncodeChar (Char.ofNat (((lead * 64 + second) * 64 + third) * 64 + last)) =
      [UInt8.ofNat (lead + 240), UInt8.ofNat (second + 128), UInt8.ofNat (third + 128), UInt8.ofNat (last + 128)] := by
  generalize hn : ((lead * 64 + second) * 64 + third) * 64 + last = n
  have hvalue : (Char.ofNat n).val.toNat = n := by
    refine toNat_charOfNat ?_
    unfold Nat.isValidChar
    omega
  have hbits : n / 262144 % 8 = lead ∧ n / 4096 % 64 = second ∧ n / 64 % 64 = third ∧ n % 64 = last := by omega
  simp only [String.utf8EncodeChar, hvalue, hbits]
  rw [if_neg (by omega), if_neg (by omega), if_neg (by omega)]

end

/-- **A further octet that was taken lies in the range asked for**, and holds six bits. -/
theorem gather_char {low high : UInt8} {bits taken remaining more : Nat} {rest : List UInt8} {c : Char}
    (hlow : 128 ≤ low.toNat) (hhigh : high.toNat < 192)
    (h : gather low high bits taken (remaining + 1) rest = .char c more) :
    ∃ digit after, digit < 64 ∧ low.toNat ≤ digit + 128 ∧ digit + 128 ≤ high.toNat ∧
      rest = UInt8.ofNat (digit + 128) :: after ∧
      gather 0x80 0xBF (bits * 64 + digit) (taken + 1) remaining after = .char c more := by
  cases rest with
  | nil => cases h
  | cons b after =>
    rw [gather] at h
    split at h
    · next hrange =>
      rw [Bool.and_eq_true, decide_eq_true_eq, decide_eq_true_eq, UInt8.le_iff_toNat_le, UInt8.le_iff_toNat_le] at hrange
      obtain ⟨digit, hdigit⟩ : ∃ digit, b.toNat = digit + 128 := ⟨b.toNat - 128, by omega⟩
      have hoctet : b = UInt8.ofNat (digit + 128) := by rw [← hdigit, UInt8.ofNat_toNat]
      have hbits : b.toNat - (0x80 : UInt8).toNat = digit := by rw [hdigit]; exact Nat.add_sub_cancel ..
      refine ⟨digit, after, by omega, by omega, by omega, by rw [hoctet], ?_⟩
      rw [← h, ← hbits]
      rfl
    · cases h

theorem gather_char_last {bits taken more : Nat} {rest : List UInt8} {c : Char}
    (h : gather 0x80 0xBF bits taken 1 rest = .char c more) :
    ∃ digit after, digit < 64 ∧ rest = UInt8.ofNat (digit + 128) :: after ∧ c = Char.ofNat (bits * 64 + digit) ∧
      more = taken + 1 := by
  obtain ⟨digit, after, hdigit, -, -, rfl, hmore⟩ := gather_char (by decide) (by decide) h
  cases hmore
  exact ⟨digit, after, hdigit, rfl, rfl, rfl⟩

theorem gather_char_last_two {bits taken more : Nat} {rest : List UInt8} {c : Char}
    (h : gather 0x80 0xBF bits taken 2 rest = .char c more) :
    ∃ digit last after, digit < 64 ∧ last < 64 ∧ rest = UInt8.ofNat (digit + 128) :: UInt8.ofNat (last + 128) :: after ∧
      c = Char.ofNat ((bits * 64 + digit) * 64 + last) ∧ more = taken + 2 := by
  obtain ⟨digit, after, hdigit, -, -, rfl, hmore⟩ := gather_char (by decide) (by decide) h
  obtain ⟨last, after, hlast, rfl, rfl, rfl⟩ := gather_char_last hmore
  exact ⟨digit, last, after, hdigit, hlast, rfl, rfl, rfl⟩

/-- **The octets that were read as a character are its octets.** -/
theorem utf8EncodeChar_of_front {b : UInt8} {rest : List UInt8} {c : Char} {more : Nat}
    (h : front b rest = .char c more) : String.utf8EncodeChar c = b :: rest.take more := by
  have hlead : b = UInt8.ofNat b.toNat := UInt8.ofNat_toNat.symm
  have hoctet : b.toNat < 256 := b.toNat_lt
  generalize b.toNat = lead at hlead hoctet
  subst hlead
  rw [front_ofNat hoctet] at h
  split at h
  · cases h
    rw [encode_one ‹_›]
    rfl
  split at h
  · cases h
  split at h
  · obtain ⟨last, after, hlast, rfl, rfl, rfl⟩ := gather_char_last h
    obtain ⟨lead, rfl⟩ : ∃ n, lead = n + 192 := ⟨lead - 192, by omega⟩
    rw [Nat.add_sub_cancel, encode_two (by omega) (by omega) hlast]
    rfl
  split at h
  · subst lead
    obtain ⟨second, after, hsecond, hlow, -, rfl, hmore⟩ := gather_char (by decide) (by decide) h
    obtain ⟨last, after, hlast, rfl, rfl, rfl⟩ := gather_char_last hmore
    have hlow : 160 ≤ second + 128 := hlow
    rw [encode_three (by decide) hsecond hlast (by omega) (by omega)]
    rfl
  split at h
  · subst lead
    obtain ⟨second, after, hsecond, -, hhigh, rfl, hmore⟩ := gather_char (by decide) (by decide) h
    obtain ⟨last, after, hlast, rfl, rfl, rfl⟩ := gather_char_last hmore
    have hhigh : second + 128 ≤ 159 := hhigh
    rw [encode_three (by decide) hsecond hlast (by omega) (by omega)]
    rfl
  split at h
  · obtain ⟨second, last, after, hsecond, hlast, rfl, rfl, rfl⟩ := gather_char_last_two h
    obtain ⟨lead, rfl⟩ : ∃ n, lead = n + 224 := ⟨lead - 224, by omega⟩
    rw [Nat.add_sub_cancel, encode_three (by omega) hsecond hlast (by omega) (by omega)]
    rfl
  split at h
  · subst lead
    obtain ⟨second, after, hsecond, hlow, -, rfl, hmore⟩ := gather_char (by decide) (by decide) h
    obtain ⟨third, last, after, hthird, hlast, rfl, rfl, rfl⟩ := gather_char_last_two hmore
    have hlow : 144 ≤ second + 128 := hlow
    rw [encode_four (by decide) hsecond hthird hlast (by omega) (by omega)]
    rfl
  split at h
  · obtain ⟨second, after, hsecond, -, -, rfl, hmore⟩ := gather_char (by decide) (by decide) h
    obtain ⟨third, last, after, hthird, hlast, rfl, rfl, rfl⟩ := gather_char_last_two hmore
    obtain ⟨lead, rfl⟩ : ∃ n, lead = n + 240 := ⟨lead - 240, by omega⟩
    rw [Nat.add_sub_cancel, encode_four (by omega) hsecond hthird hlast (by omega) (by omega)]
    rfl
  split at h
  · subst lead
    obtain ⟨second, after, hsecond, -, hhigh, rfl, hmore⟩ := gather_char (by decide) (by decide) h
    obtain ⟨third, last, after, hthird, hlast, rfl, rfl, rfl⟩ := gather_char_last_two hmore
    have hhigh : second + 128 ≤ 143 := hhigh
    rw [encode_four (by decide) hsecond hthird hlast (by omega) (by omega)]
    rfl
  · cases h

theorem flatMap_of_decodeUtf8? {octets : List UInt8} {chars : List Char} (h : decodeUtf8? octets = some chars) :
    octets = chars.flatMap String.utf8EncodeChar := by
  fun_induction decodeUtf8? octets generalizing chars with
  | case1 =>
    cases h
    rfl
  | case2 b rest c more hfront ih =>
    obtain ⟨more', hrest, rfl⟩ := Option.map_eq_some_iff.1 h
    rw [List.flatMap_cons, utf8EncodeChar_of_front hfront, ← ih hrest, List.cons_append, List.take_append_drop]
  | case3 => cases h

/-- **Octets denote a text exactly if they are its encoding.** -/
theorem decodeUtf8?_eq_some_iff {octets : List UInt8} {chars : List Char} :
    decodeUtf8? octets = some chars ↔ octets = (String.ofList chars).toUTF8.toList := by
  constructor
  · intro h
    rw [toList_toUTF8, String.toList_ofList]
    exact flatMap_of_decodeUtf8? h
  · rintro rfl
    rw [decodeUtf8?_toUTF8, String.toList_ofList]

end DriverSurvey
