import Mathlib.Data.List.Infix
import Mathlib.Data.Nat.Notation
import Mathlib.Logic.Function.Basic

/-!
# UTF-8 text

Tokens, domain names and messages are `String`s in the program and byte strings
on the wire.  A Lean `String` is a byte array with a proof that it is UTF-8,
exactly the invariant of the Rust type, so `String::from_utf8` is the partial
inverse of `as_bytes`.
-/

namespace VpnBridge.Proto

/-- `str::as_bytes`. -/
def asBytes (text : String) : List UInt8 :=
  text.toByteArray.data.toList

/-- `String::from_utf8`, with `none` for its error. -/
def fromUtf8 (bytes : List UInt8) : Option String :=
  String.fromUTF8? bytes.toByteArray

@[simp]
theorem toByteArray_asBytes (text : String) :
    (asBytes text).toByteArray = text.toByteArray := by
  apply ByteArray.ext
  rw [List.data_toByteArray, asBytes]

theorem asBytes_injective : Function.Injective asBytes := by
  intro left right heq
  have hbytes := congrArg List.toByteArray heq
  rw [toByteArray_asBytes, toByteArray_asBytes] at hbytes
  exact String.toByteArray_inj.mp hbytes

/-- Decoding is the partial inverse of `as_bytes`. -/
theorem fromUtf8_eq_some_iff {bytes : List UInt8} {text : String} :
    fromUtf8 bytes = some text ↔ bytes = asBytes text := by
  constructor
  · intro hdecode
    unfold fromUtf8 String.fromUTF8? at hdecode
    split at hdecode
    case isTrue hvalid =>
      rw [Option.some.injEq] at hdecode
      subst hdecode
      exact List.toList_data_toByteArray.symm
    case isFalse hinvalid => cases hdecode
  · rintro rfl
    have hvalid : (asBytes text).toByteArray.IsValidUTF8 := by
      rw [toByteArray_asBytes]
      exact text.isValidUTF8
    rw [fromUtf8, String.fromUTF8?, dif_pos hvalid, Option.some.injEq]
    exact String.toByteArray_inj.mp (toByteArray_asBytes text)

theorem isSome_fromUtf8_iff {bytes : List UInt8} :
    (fromUtf8 bytes).isSome ↔ ∃ text, bytes = asBytes text := by
  simp only [Option.isSome_iff_exists, fromUtf8_eq_some_iff]

/-- `char::is_whitespace`: the Unicode property White_Space. -/
def isWhitespace (character : Char) : Bool :=
  let code := character.toNat
  (9 ≤ code && code ≤ 13) || code == 0x20 || code == 0x85 || code == 0xa0 ||
    code == 0x1680 || (0x2000 ≤ code && code ≤ 0x200a) || code == 0x2028 ||
    code == 0x2029 || code == 0x202f || code == 0x205f || code == 0x3000

/-! ## Lossy decoding -/

/-- `core::str::utf8_char_width`: the length announced by a first byte. -/
def utf8CharWidth (first : UInt8) : ℕ :=
  if first < 0x80 then 1
  else if first < 0xc2 then 0
  else if first < 0xe0 then 2
  else if first < 0xf0 then 3
  else if first < 0xf5 then 4
  else 0

def isContinuation (byte : UInt8) : Bool :=
  byte &&& 0xc0 == 0x80

/-- The second bytes that a three- or four-byte sequence admits. -/
def admitsSecond (first second : UInt8) : Bool :=
  if first = 0xe0 then 0xa0 ≤ second && second ≤ 0xbf
  else if first = 0xed then 0x80 ≤ second && second ≤ 0x9f
  else if first = 0xf0 then 0x90 ≤ second && second ≤ 0xbf
  else if first = 0xf4 then 0x80 ≤ second && second ≤ 0x8f
  else 0x80 ≤ second && second ≤ 0xbf

/-- How many bytes `Utf8Chunks` skips when no character starts here: the
longest start of a well-formed sequence, and at least one byte. -/
def invalidLength (bytes : List UInt8) : ℕ :=
  let first := bytes.getD 0 0
  if utf8CharWidth first < 3 ∨ admitsSecond first (bytes.getD 1 0) = false then 1
  else if utf8CharWidth first = 3 ∨ isContinuation (bytes.getD 2 0) = false then 2
  else 3

/-- The characters `String::from_utf8_lossy` yields; `fuel` bounds the bytes. -/
def lossyChars : ℕ → List UInt8 → List Char
  | 0, _ => []
  | _ + 1, [] => []
  | fuel + 1, bytes =>
      match bytes.toByteArray.utf8DecodeChar? 0 with
      | some character => character :: lossyChars fuel (bytes.drop character.utf8Size)
      | none => Char.ofNat 0xfffd :: lossyChars fuel (bytes.drop (invalidLength bytes))

/-- `String::from_utf8_lossy`: every maximal ill-formed piece becomes U+FFFD. -/
def fromUtf8Lossy (bytes : List UInt8) : String :=
  String.ofList (lossyChars bytes.length bytes)

example : fromUtf8Lossy [0x61, 0xe2, 0x82, 0x62, 0xff] = "a\uFFFDb\uFFFD" := by decide

end VpnBridge.Proto
