import VpnBridge.Proto.RequestCodec
import VpnBridge.Proto.Characters

/-!
# The response codec

What a client reads back: a response decodes to its status, whatever follows it,
because the message is cut before it is framed and never validated.
-/

namespace VpnBridge.Proto

open VpnBridge.ByteReader

theorem statusFromU8_toU8 (status : Status) :
    Status.fromU8 status.toU8 = some status := by
  cases status <;> rfl

/-- The bytes of the message that fit behind its length byte. -/
def Response.messageBytes (response : Response) : List UInt8 :=
  (asBytes response.message).take (min (asBytes response.message).length 255)

theorem Response.length_messageBytes (response : Response) :
    response.messageBytes.length = min (asBytes response.message).length 255 := by
  rw [messageBytes, List.length_take]
  omega

theorem framed_response : Framed Response.readFrom :=
  framed_bind (framed_readBytes 4) fun _ =>
    framed_bind (framed_ensure _ _) fun _ =>
      framed_bind framed_readU8 fun _ =>
        framed_bind (framed_ensure _ _) fun _ =>
          framed_bind framed_readU8 fun _ =>
            framed_bind (framed_fromOption _ _) fun _ =>
              framed_bind framed_readU8 fun _ =>
                framed_bind (framed_readBytes _) fun _ => framed_pure _

/-- Decoding consumes the response and nothing else, and keeps its status. -/
theorem reads_response (response : Response) :
    Reads Response.readFrom response.buf
      ⟨response.status, fromUtf8Lossy response.messageBytes⟩ := by
  have hlength : (UInt8.ofNat (min (asBytes response.message).length 255)).toNat =
      response.messageBytes.length := by
    rw [response.length_messageBytes, UInt8.toNat_ofNat', Nat.mod_eq_of_lt (by omega)]
  simp only [Response.readFrom, reads_bind_iff (framed_readBytes _),
    reads_bind_iff (framed_ensure _ _), reads_bind_iff framed_readU8,
    reads_bind_iff (framed_fromOption _ _), reads_readBytes_iff, reads_ensure_iff,
    reads_readU8_iff, reads_fromOption_iff, reads_pure_iff]
  refine ⟨⟨magic, rfl⟩, magic, _, by simp [Response.buf, Response.messageBytes], rfl,
    (), [], _, rfl, ⟨rfl, rfl⟩, version, [version], _, rfl, rfl, (), [], _, rfl,
    ⟨rfl, rfl⟩, response.status.toU8, [_], _, rfl, rfl, response.status, [], _, rfl,
    ⟨rfl, statusFromU8_toU8 _⟩, _, [_], _, rfl, rfl,
    ⟨response.messageBytes, hlength.symm⟩, _, [], (List.append_nil _).symm, rfl, rfl, rfl⟩

/-- `write_to` on a `Vec<u8>` appends the whole buffer. -/
theorem writeToVec_response (response : Response) (written : List UInt8) :
    writeToVec response.writeTo written = (.ok (), written ++ response.buf) := rfl

/-- A message that fits arrives as it was sent. -/
theorem Response.fromUtf8Lossy_messageBytes_of_fits {response : Response}
    (hfits : (asBytes response.message).length ≤ 255) :
    fromUtf8Lossy response.messageBytes = response.message := by
  rw [messageBytes, Nat.min_eq_left hfits, List.take_length, fromUtf8Lossy_asBytes]

/-- Decoding undoes encoding whatever follows on the stream.  A message that does
not fit arrives as the longest run of its characters that does, with one U+FFFD
behind it when the cut falls inside the next character. -/
theorem response_readFrom_writeTo (response : Response) (written rest : List UInt8) :
    ∃ bytes message, writeToVec response.writeTo written = (.ok (), written ++ bytes) ∧
      Response.readFrom.run (bytes ++ rest) = .ok (⟨response.status, message⟩, rest) ∧
      ((asBytes response.message).length ≤ 255 → message = response.message) ∧
      (255 < (asBytes response.message).length →
        ∃ kept mark, message.toList = kept ++ mark ∧
          kept <+: response.message.toList ∧ (encodeChars kept).length ≤ 255 ∧
          (∀ other, other <+: response.message.toList →
            (encodeChars other).length ≤ 255 → other <+: kept) ∧
          (IsCharBoundary response.message 255 → mark = []) ∧
          (¬ IsCharBoundary response.message 255 → mark = [Char.ofNat 0xfffd])) := by
  refine ⟨response.buf, fromUtf8Lossy response.messageBytes,
    writeToVec_response response written, reads_response response rest,
    Response.fromUtf8Lossy_messageBytes_of_fits, fun hlong => ?_⟩
  obtain ⟨mark, hdecode, hboundary, hinside⟩ := toList_fromUtf8Lossy_take hlong.le
  rw [Response.messageBytes, Nat.min_eq_right hlong.le]
  exact ⟨wholeChars 255 response.message.toList, mark, hdecode, wholeChars_isPrefix _ _,
    length_wholeChars_le _ _, fun other hother hfits => isPrefix_wholeChars hother hfits,
    hboundary, hinside⟩

end VpnBridge.Proto
