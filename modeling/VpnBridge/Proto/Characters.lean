import VpnBridge.Proto.Text
import Mathlib.Tactic.IntervalCases

/-!
# Cutting text at a byte

A limit on bytes may fall inside a character.  What is left of a text then is
its longest run of whole characters within the limit and the start of the next
one, which strict decoding refuses and lossy decoding turns into one U+FFFD.
-/

namespace VpnBridge.Proto

/-- The UTF-8 form of a run of characters. -/
def encodeChars (characters : List Char) : List UInt8 :=
  characters.flatMap String.utf8EncodeChar

@[simp]
theorem encodeChars_nil : encodeChars [] = [] := rfl

@[simp]
theorem encodeChars_cons (character : Char) (characters : List Char) :
    encodeChars (character :: characters) =
      String.utf8EncodeChar character ++ encodeChars characters := rfl

@[simp]
theorem encodeChars_append (left right : List Char) :
    encodeChars (left ++ right) = encodeChars left ++ encodeChars right :=
  List.flatMap_append

theorem toByteArray_encodeChars (characters : List Char) :
    (encodeChars characters).toByteArray = characters.utf8Encode := rfl

@[simp]
theorem asBytes_ofList (characters : List Char) :
    asBytes (String.ofList characters) = encodeChars characters := by
  rw [asBytes, String.toByteArray_ofList, ← toByteArray_encodeChars,
    List.toList_data_toByteArray]

theorem asBytes_eq_encodeChars (text : String) :
    asBytes text = encodeChars text.toList := by
  rw [← asBytes_ofList, String.ofList_toList]

theorem length_encodeChars_replicate (count : ℕ) (character : Char) :
    (encodeChars (List.replicate count character)).length = count * character.utf8Size := by
  induction count with
  | zero => rw [Nat.zero_mul]; rfl
  | succ count ih =>
      rw [List.replicate_succ, encodeChars_cons, List.length_append, ih,
        String.length_utf8EncodeChar, Nat.succ_mul, Nat.add_comm]

/-- An encoding that starts with another one starts with its characters. -/
theorem isPrefix_of_encodeChars {left right : List Char} (tail : List UInt8)
    (hbytes : encodeChars left ++ tail = encodeChars right) : left <+: right := by
  apply List.isPrefix_of_utf8Encode_append_eq_utf8Encode tail.toByteArray
  rw [← toByteArray_encodeChars, ← toByteArray_encodeChars, ← hbytes,
    List.toByteArray_append]

theorem encodeChars_isPrefix {left right : List Char} (hleft : left <+: right) :
    encodeChars left <+: encodeChars right := by
  obtain ⟨tail, rfl⟩ := hleft
  exact ⟨encodeChars tail, (encodeChars_append left tail).symm⟩

/-! ## Whole characters within a limit -/

/-- The longest run of whole characters from the start that fits. -/
def wholeChars : ℕ → List Char → List Char
  | _, [] => []
  | limit, character :: characters =>
      if character.utf8Size ≤ limit then
        character :: wholeChars (limit - character.utf8Size) characters
      else []

theorem wholeChars_isPrefix (limit : ℕ) (characters : List Char) :
    wholeChars limit characters <+: characters := by
  induction characters generalizing limit with
  | nil => exact List.prefix_rfl
  | cons character characters ih =>
      by_cases hfits : character.utf8Size ≤ limit
      · rw [wholeChars, if_pos hfits, List.prefix_cons_inj]
        exact ih _
      · rw [wholeChars, if_neg hfits]
        exact List.nil_prefix

theorem length_wholeChars_le (limit : ℕ) (characters : List Char) :
    (encodeChars (wholeChars limit characters)).length ≤ limit := by
  induction characters generalizing limit with
  | nil => exact Nat.zero_le _
  | cons character characters ih =>
      by_cases hfits : character.utf8Size ≤ limit
      · have htail := ih (limit - character.utf8Size)
        rw [wholeChars, if_pos hfits, encodeChars_cons, List.length_append,
          String.length_utf8EncodeChar]
        omega
      · rw [wholeChars, if_neg hfits]
        exact Nat.zero_le _

/-- No longer run of whole characters fits. -/
theorem isPrefix_wholeChars {limit : ℕ} {kept characters : List Char}
    (hkept : kept <+: characters) (hfits : (encodeChars kept).length ≤ limit) :
    kept <+: wholeChars limit characters := by
  induction characters generalizing limit kept with
  | nil => exact hkept
  | cons character characters ih =>
      cases kept with
      | nil => exact List.nil_prefix
      | cons head tail =>
          obtain ⟨rfl, htail⟩ := List.cons_prefix_cons.mp hkept
          rw [encodeChars_cons, List.length_append,
            String.length_utf8EncodeChar] at hfits
          rw [wholeChars, if_pos (by omega), List.prefix_cons_inj]
          exact ih htail (by omega)

/-- What a cut leaves besides whole characters is the proper start of one. -/
theorem take_encodeChars (limit : ℕ) (characters : List Char) :
    ∃ piece, (encodeChars characters).take limit =
        encodeChars (wholeChars limit characters) ++ piece ∧
      (piece = [] ∨ ∃ character, piece <+: String.utf8EncodeChar character ∧
        0 < piece.length ∧ piece.length < character.utf8Size) := by
  induction characters generalizing limit with
  | nil => exact ⟨[], by simp [wholeChars], .inl rfl⟩
  | cons character characters ih =>
      by_cases hfits : character.utf8Size ≤ limit
      · obtain ⟨piece, htake, hpiece⟩ := ih (limit - character.utf8Size)
        refine ⟨piece, ?_, hpiece⟩
        rw [wholeChars, if_pos hfits, encodeChars_cons, List.take_append,
          List.take_of_length_le (by simpa using hfits),
          String.length_utf8EncodeChar, htake, encodeChars_cons,
          List.append_assoc]
      · have hshort : limit ≤ (String.utf8EncodeChar character).length := by
          rw [String.length_utf8EncodeChar]
          omega
        refine ⟨(String.utf8EncodeChar character).take limit, ?_, ?_⟩
        · rw [wholeChars, if_neg hfits, encodeChars_cons,
            List.take_append_of_le_length hshort]
          rfl
        · rcases Nat.eq_zero_or_pos limit with rfl | hpos
          · exact .inl List.take_zero
          · have hlength : ((String.utf8EncodeChar character).take limit).length = limit := by
              rw [List.length_take]
              omega
            exact .inr ⟨character, List.take_prefix _ _, by omega, by omega⟩

/-- `str::is_char_boundary`. -/
def IsCharBoundary (text : String) (index : ℕ) : Prop :=
  ∃ kept, kept <+: text.toList ∧ (encodeChars kept).length = index

/-- Cutting at a character boundary leaves nothing but whole characters. -/
theorem take_asBytes_of_isCharBoundary {text : String} {limit : ℕ}
    (hboundary : IsCharBoundary text limit) :
    (asBytes text).take limit = encodeChars (wholeChars limit text.toList) := by
  obtain ⟨kept, hkept, rfl⟩ := hboundary
  have hstart := encodeChars_isPrefix (isPrefix_wholeChars hkept le_rfl)
  have hwhole : encodeChars kept =
      encodeChars (wholeChars (encodeChars kept).length text.toList) :=
    hstart.eq_of_length_le (length_wholeChars_le _ _)
  rw [← hwhole, asBytes_eq_encodeChars]
  exact (List.prefix_iff_eq_take.mp (encodeChars_isPrefix hkept)).symm

/-- A cut of a longer text is UTF-8 only at a character boundary. -/
theorem isCharBoundary_of_take {text name : String} {limit : ℕ}
    (hlong : limit ≤ (asBytes text).length)
    (htake : (asBytes text).take limit = asBytes name) :
    IsCharBoundary text limit := by
  refine ⟨name.toList, ?_, ?_⟩
  · apply isPrefix_of_encodeChars ((asBytes text).drop limit)
    rw [← asBytes_eq_encodeChars, ← asBytes_eq_encodeChars, ← htake,
      List.take_append_drop]
  · rw [← asBytes_eq_encodeChars, ← htake, List.length_take]
    omega

/-! ## Lossy decoding of a cut text -/

theorem length_le_encodeChars (characters : List Char) :
    characters.length ≤ (encodeChars characters).length := by
  induction characters with
  | nil => exact le_rfl
  | cons character characters ih =>
      have hpos := character.utf8Size_pos
      rw [encodeChars_cons, List.length_append, String.length_utf8EncodeChar,
        List.length_cons]
      omega

/-- Whole characters decode to themselves, whatever follows them. -/
theorem lossyChars_encodeChars (characters : List Char) (tail : List UInt8) (fuel : ℕ) :
    lossyChars (characters.length + fuel) (encodeChars characters ++ tail) =
      characters ++ lossyChars fuel tail := by
  induction characters with
  | nil => rw [List.length_nil, Nat.zero_add, encodeChars_nil, List.nil_append,
      List.nil_append]
  | cons character characters ih =>
      have hdecode : (String.utf8EncodeChar character ++
          (encodeChars characters ++ tail)).toByteArray.utf8DecodeChar? 0 =
            some character := by
        rw [List.toByteArray_append]
        exact ByteArray.utf8DecodeChar?_utf8EncodeChar_append
      have hdrop : (String.utf8EncodeChar character ++
          (encodeChars characters ++ tail)).drop character.utf8Size =
            encodeChars characters ++ tail := by
        rw [← String.length_utf8EncodeChar, List.drop_left]
      rw [List.length_cons, Nat.add_right_comm, encodeChars_cons, List.append_assoc,
        lossyChars, hdecode]
      · simp only [hdrop, ih, List.cons_append]
      · intro hempty
        exact String.utf8EncodeChar_ne_nil (List.append_eq_nil_iff.mp hempty).1

/-- No character starts with the proper start of another one. -/
theorem utf8DecodeChar?_eq_none {piece : List UInt8} {character : Char}
    (hpiece : piece <+: String.utf8EncodeChar character)
    (hshort : piece.length < character.utf8Size) :
    piece.toByteArray.utf8DecodeChar? 0 = none := by
  cases hdecode : piece.toByteArray.utf8DecodeChar? 0 with
  | none => rfl
  | some other =>
      obtain ⟨tail, htail⟩ := hpiece
      have hsplit := ByteArray.eq_of_utf8DecodeChar?_eq_some hdecode
      have hsize : other.utf8Size ≤ piece.length := by
        have hbytes := congrArg ByteArray.size hsplit
        rw [ByteArray.size_append, List.size_toByteArray, List.size_toByteArray,
          String.length_utf8EncodeChar] at hbytes
        omega
      have hsame : [other] <+: [character] := by
        apply List.isPrefix_of_utf8Encode_append_eq_utf8Encode
          (piece.toByteArray.extract other.utf8Size piece.toByteArray.size ++
            tail.toByteArray)
        rw [List.utf8Encode_singleton, List.utf8Encode_singleton,
          ← ByteArray.append_assoc, ← hsplit, ← List.toByteArray_append, htail]
      obtain ⟨rfl, _⟩ := List.cons_prefix_cons.mp hsame
      omega

theorem isContinuation_ofNat (value : ℕ) :
    isContinuation (UInt8.ofNat (value % 64 + 0x80)) = true := by
  have hvalue := Nat.mod_lt value (by decide : 0 < 64)
  generalize value % 64 = low at hvalue
  interval_cases low <;> decide

/-- The first two bytes of a three-byte character announce it. -/
theorem announces_three {value : ℕ} (hlow : 0x7ff < value) (hhigh : value ≤ 0xffff)
    (hvalid : ¬ (0xd7ff < value ∧ value < 0xe000)) :
    utf8CharWidth (UInt8.ofNat (value / 4096 % 16 + 0xe0)) = 3 ∧
    admitsSecond (UInt8.ofNat (value / 4096 % 16 + 0xe0))
      (UInt8.ofNat (value / 64 % 64 + 0x80)) = true := by
  have hfirst : (UInt8.ofNat (value / 4096 % 16 + 0xe0)).toNat = value / 4096 + 0xe0 := by
    rw [UInt8.toNat_ofNat']
    omega
  have hsecond : (UInt8.ofNat (value / 64 % 64 + 0x80)).toNat = value / 64 % 64 + 0x80 := by
    rw [UInt8.toNat_ofNat']
    omega
  simp only [utf8CharWidth, admitsSecond, UInt8.lt_iff_toNat_lt, UInt8.le_iff_toNat_le,
    ← UInt8.toNat_inj, hfirst, hsecond, UInt8.reduceToNat]
  constructor
  · split_ifs <;> omega
  · split_ifs <;> simp <;> omega

/-- The first two bytes of a four-byte character announce it. -/
theorem announces_four {value : ℕ} (hlow : 0xffff < value) (hhigh : value ≤ 0x10ffff) :
    utf8CharWidth (UInt8.ofNat (value / 262144 % 8 + 0xf0)) = 4 ∧
    admitsSecond (UInt8.ofNat (value / 262144 % 8 + 0xf0))
      (UInt8.ofNat (value / 4096 % 64 + 0x80)) = true := by
  have hfirst : (UInt8.ofNat (value / 262144 % 8 + 0xf0)).toNat = value / 262144 + 0xf0 := by
    rw [UInt8.toNat_ofNat']
    omega
  have hsecond : (UInt8.ofNat (value / 4096 % 64 + 0x80)).toNat =
      value / 4096 % 64 + 0x80 := by
    rw [UInt8.toNat_ofNat']
    omega
  simp only [utf8CharWidth, admitsSecond, UInt8.lt_iff_toNat_lt, UInt8.le_iff_toNat_le,
    ← UInt8.toNat_inj, hfirst, hsecond, UInt8.reduceToNat]
  constructor
  · split_ifs <;> omega
  · split_ifs <;> simp <;> omega

/-- A three-byte character announces itself in its first two bytes. -/
theorem utf8EncodeChar_of_three {character : Char} (hsize : character.utf8Size = 3) :
    ∃ first second third, String.utf8EncodeChar character = [first, second, third] ∧
      utf8CharWidth first = 3 ∧ admitsSecond first second = true := by
  have hvalue := Char.utf8Size_eq_three_iff.mp hsize
  rw [UInt32.lt_iff_toNat_lt, UInt32.le_iff_toNat_le] at hvalue
  have hlow : 0x7ff < character.val.toNat := hvalue.1
  have hhigh : character.val.toNat ≤ 0xffff := hvalue.2
  have hvalid := character.valid
  simp only [UInt32.isValidChar, Nat.isValidChar] at hvalid
  obtain ⟨hwidth, hsecond⟩ := announces_three hlow hhigh (by omega)
  refine ⟨_, _, UInt8.ofNat (character.val.toNat % 64 + 0x80), ?_, hwidth, hsecond⟩
  rw [String.utf8EncodeChar, if_neg (by omega), if_neg (by omega), if_pos hhigh]

/-- So does a four-byte character, and its third byte continues it. -/
theorem utf8EncodeChar_of_four {character : Char} (hsize : character.utf8Size = 4) :
    ∃ first second third fourth,
      String.utf8EncodeChar character = [first, second, third, fourth] ∧
      utf8CharWidth first = 4 ∧ admitsSecond first second = true ∧
      isContinuation third = true := by
  have hvalue := Char.utf8Size_eq_four_iff.mp hsize
  rw [UInt32.lt_iff_toNat_lt] at hvalue
  have hlow : 0xffff < character.val.toNat := hvalue
  have hvalid := character.valid
  simp only [UInt32.isValidChar, Nat.isValidChar] at hvalid
  obtain ⟨hwidth, hsecond⟩ := announces_four hlow (by omega)
  refine ⟨_, _, _, UInt8.ofNat (character.val.toNat % 64 + 0x80), ?_, hwidth, hsecond,
    isContinuation_ofNat (character.val.toNat / 64)⟩
  rw [String.utf8EncodeChar, if_neg (by omega), if_neg (by omega), if_neg (by omega)]

/-- A zero byte, or none at all, continues nothing. -/
theorem admitsSecond_zero (first : UInt8) : admitsSecond first 0 = false := by
  unfold admitsSecond
  split_ifs <;> decide

/-- The decoder skips the start of a character in one piece. -/
theorem invalidLength_eq_length {piece : List UInt8} {character : Char}
    (hpiece : piece <+: String.utf8EncodeChar character) (hpos : 0 < piece.length)
    (hshort : piece.length < character.utf8Size) :
    invalidLength piece = piece.length := by
  have htake := List.prefix_iff_eq_take.mp hpiece
  have hsize := character.utf8Size_le_four
  by_cases hone : piece.length = 1
  · obtain ⟨first, rfl⟩ := List.length_eq_one_iff.mp hone
    exact if_pos (.inr (admitsSecond_zero first))
  by_cases hthree : character.utf8Size = 3
  · obtain ⟨first, second, third, hbytes, hwidth, hsecond⟩ := utf8EncodeChar_of_three hthree
    have htwo : piece.length = 2 := by omega
    rw [htwo, hbytes] at htake
    subst htake
    simp [invalidLength, hwidth, hsecond]
  · have hfour : character.utf8Size = 4 := by omega
    obtain ⟨first, second, third, fourth, hbytes, hwidth, hsecond, hthird⟩ :=
      utf8EncodeChar_of_four hfour
    by_cases htwo : piece.length = 2
    · have hmissing : isContinuation 0 = false := by decide
      rw [htwo, hbytes] at htake
      subst htake
      simp [invalidLength, hwidth, hsecond, hmissing]
    · have hlength : piece.length = 3 := by omega
      rw [hlength, hbytes] at htake
      subst htake
      simp [invalidLength, hwidth, hsecond, hthird]

theorem lossyChars_piece {piece : List UInt8} {character : Char}
    (hpiece : piece <+: String.utf8EncodeChar character) (hpos : 0 < piece.length)
    (hshort : piece.length < character.utf8Size) (fuel : ℕ) :
    lossyChars (fuel + 1) piece = [Char.ofNat 0xfffd] := by
  rw [lossyChars, utf8DecodeChar?_eq_none hpiece hshort]
  · simp only [invalidLength_eq_length hpiece hpos hshort, List.drop_length]
    cases fuel <;> rfl
  · rintro rfl
    exact Nat.lt_irrefl 0 hpos

/-- A text cut to `limit` bytes decodes to the whole characters that fit, and
to one more mark when the cut falls inside a character. -/
theorem toList_fromUtf8Lossy_take {text : String} {limit : ℕ}
    (hlong : limit ≤ (asBytes text).length) :
    ∃ mark, (fromUtf8Lossy ((asBytes text).take limit)).toList =
        wholeChars limit text.toList ++ mark ∧
      (IsCharBoundary text limit → mark = []) ∧
      (¬ IsCharBoundary text limit → mark = [Char.ofNat 0xfffd]) := by
  rw [asBytes_eq_encodeChars] at hlong
  obtain ⟨piece, htake, hpiece⟩ := take_encodeChars limit text.toList
  have hlength := congrArg List.length htake
  rw [List.length_take, Nat.min_eq_left hlong, List.length_append] at hlength
  have hfits := length_le_encodeChars (wholeChars limit text.toList)
  have hdecode : (fromUtf8Lossy ((asBytes text).take limit)).toList =
      wholeChars limit text.toList ++
        lossyChars (limit - (wholeChars limit text.toList).length) piece := by
    rw [fromUtf8Lossy, String.toList_ofList, asBytes_eq_encodeChars, List.length_take,
      Nat.min_eq_left hlong, htake, ← lossyChars_encodeChars]
    congr 1
    omega
  refine ⟨_, hdecode, fun hboundary => ?_, fun hinside => ?_⟩
  · have hwhole := take_asBytes_of_isCharBoundary hboundary
    rw [asBytes_eq_encodeChars, htake, List.append_right_eq_self] at hwhole
    subst hwhole
    cases limit - (wholeChars limit text.toList).length <;> rfl
  · rcases hpiece with rfl | ⟨character, hstart, hpos, hshort⟩
    · exact absurd ⟨_, wholeChars_isPrefix limit text.toList, hlength.symm⟩ hinside
    · obtain ⟨fuel, hfuel⟩ : ∃ fuel,
          limit - (wholeChars limit text.toList).length = fuel + 1 :=
        ⟨limit - (wholeChars limit text.toList).length - 1, by omega⟩
      rw [hfuel]
      exact lossyChars_piece hstart hpos hshort fuel

/-- A text that is not cut decodes to itself. -/
theorem fromUtf8Lossy_asBytes (text : String) : fromUtf8Lossy (asBytes text) = text := by
  have hfits := length_le_encodeChars text.toList
  obtain ⟨fuel, hfuel⟩ := Nat.exists_eq_add_of_le hfits
  have hdecode := lossyChars_encodeChars text.toList [] fuel
  have hnil : lossyChars fuel [] = [] := by cases fuel <;> rfl
  rw [List.append_nil, ← hfuel, hnil, List.append_nil] at hdecode
  rw [fromUtf8Lossy, asBytes_eq_encodeChars, hdecode, String.ofList_toList]

end VpnBridge.Proto
