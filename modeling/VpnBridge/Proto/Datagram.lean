import VpnBridge.Proto.RequestCodec

/-!
# Datagram framing

After a `BindUdp` handshake both sides exchange length-prefixed datagrams,
`LEN(2, big endian) PAYLOAD(LEN)`.  The reader fills a buffer that its caller
keeps from one call to the next, so what it returns has to be shown independent
of what the buffer held.
-/

namespace VpnBridge.Proto

open VpnBridge.ByteReader

/-- Largest datagram that can be carried by a `BindUdp` session. -/
def maxDatagram : ℕ := 65535

/-- The buffer `write_datagram` assembles before writing anything. -/
def datagramBuf (payload : List UInt8) : List UInt8 :=
  toBeBytes (UInt16.ofNat payload.length) ++ payload

def writeDatagram {M : Type → Type} [Monad M] [AsyncWrite M] (payload : List UInt8) :
    ExceptT IoError M Unit :=
  if payload.length > maxDatagram then
    throw ⟨.invalidInput, "datagram too large"⟩
  else
    AsyncWrite.writeAll (datagramBuf payload)

/-- `Vec::resize`: cut the buffer, or pad it with `value`. -/
def resize (buf : List UInt8) (length : ℕ) (value : UInt8) : List UInt8 :=
  buf.take length ++ List.replicate (length - buf.length) value

/-- The length of the datagram, and the buffer it was read into. -/
def readDatagram (buf : List UInt8) : Decoder (ℕ × List UInt8) := do
  let announced ← readU16
  let length := announced.toNat
  let resized := resize buf length 0
  let bytes ← readBytes length
  return (length, bytes.toList ++ resized.drop length)

/-- One `write_datagram` after the other. -/
def writeDatagrams {M : Type → Type} [Monad M] [AsyncWrite M]
    (payloads : List (List UInt8)) : ExceptT IoError M Unit :=
  payloads.forM fun payload => writeDatagram payload

/-- `count` calls of `read_datagram`, each with the buffer that the one before
left: what they returned, and the buffer after the last. -/
def readDatagrams : ℕ → List UInt8 → Decoder (List (ℕ × List UInt8) × List UInt8)
  | 0, buf => pure ([], buf)
  | count + 1, buf => do
      let received ← readDatagram buf
      let later ← readDatagrams count received.2
      return (received :: later.1, later.2)

/-! ## One datagram -/

theorem drop_resize (buf : List UInt8) (length : ℕ) (value : UInt8) :
    (resize buf length value).drop length = [] := by
  rw [List.drop_eq_nil_iff, resize, List.length_append, List.length_take,
    List.length_replicate]
  omega

theorem toNat_length {payload : List UInt8} (hlength : payload.length ≤ maxDatagram) :
    (UInt16.ofNat payload.length).toNat = payload.length := by
  rw [UInt16.toNat_ofNat']
  exact Nat.mod_eq_of_lt (Nat.lt_succ_of_le hlength)

theorem framed_readDatagram (buf : List UInt8) : Framed (readDatagram buf) :=
  framed_bind framed_readU16 fun _ =>
    framed_bind (framed_readBytes _) fun _ => framed_pure _

/-- The reader accepts the encodings of datagrams and nothing else, and returns
the payload whatever the buffer held. -/
theorem reads_readDatagram_iff {buf consumed : List UInt8} {result : ℕ × List UInt8} :
    Reads (readDatagram buf) consumed result ↔
      ∃ payload : List UInt8, payload.length ≤ maxDatagram ∧
        consumed = datagramBuf payload ∧ result = (payload.length, payload) := by
  simp only [readDatagram, reads_bind_iff framed_readU16,
    reads_bind_iff (framed_readBytes _), reads_readU16_iff, reads_readBytes_iff,
    reads_pure_iff, drop_resize, List.append_nil]
  constructor
  · rintro ⟨announced, _, _, rfl, rfl, bytes, _, _, rfl, rfl, rfl, rfl⟩
    have hlength : bytes.toList.length = announced.toNat := bytes.toList_length
    refine ⟨bytes.toList, ?_, ?_, ?_⟩
    · rw [hlength]
      exact Nat.le_of_lt_succ announced.toNat_lt
    · rw [datagramBuf, hlength, UInt16.ofNat_toNat, List.append_nil]
    · rw [hlength]
  · rintro ⟨payload, hlength, rfl, rfl⟩
    have hannounced := toNat_length hlength
    refine ⟨UInt16.ofNat payload.length, _, _, rfl, rfl, ⟨payload, hannounced.symm⟩, _, [],
      (List.append_nil _).symm, rfl, rfl, ?_⟩
    exact Prod.ext hannounced.symm rfl

/-- What `read_datagram` takes off a stream. -/
theorem datagram_of_read {buffer buffer' stream rest : List UInt8} {length : ℕ}
    (hread : (readDatagram buffer).run stream = .ok ((length, buffer'), rest)) :
    (buffer'.take length).length ≤ maxDatagram ∧
      stream = datagramBuf (buffer'.take length) ++ rest := by
  obtain ⟨consumed, rfl, hreads⟩ := framed_readDatagram buffer _ _ _ hread
  obtain ⟨payload, hpayload, rfl, hresult⟩ := reads_readDatagram_iff.mp hreads
  cases hresult
  rw [List.take_length]
  exact ⟨hpayload, rfl⟩

theorem reads_datagramBuf {payload : List UInt8} (hlength : payload.length ≤ maxDatagram)
    (buf : List UInt8) : Reads (readDatagram buf) (datagramBuf payload)
      (payload.length, payload) :=
  reads_readDatagram_iff.mpr ⟨payload, hlength, rfl, rfl⟩

/-- The error of a stream that ends in the length of a datagram, or in its
payload. -/
def datagramEof (tail : List UInt8) : IoError :=
  if tail.length < 2 then .unexpectedEof else .earlyEof

theorem readU16_cons (high low : UInt8) (rest : List UInt8) :
    readU16.run (high :: low :: rest) =
      .ok (UInt16.ofNat (high.toNat * 256 + low.toNat), rest) := rfl

/-- The reader can only run out of bytes. -/
theorem readDatagram_eq_error {buf stream : List UInt8} {failure : IoError}
    (herror : (readDatagram buf).run stream = .error failure) :
    failure = datagramEof stream := by
  rw [readDatagram, run_bind_eq_error_iff] at herror
  rcases stream with _ | ⟨high, _ | ⟨low, stream⟩⟩
  · rcases herror with hlength | ⟨announced, rest, hlength, -⟩
    · cases hlength
      rfl
    · cases hlength
  · rcases herror with hlength | ⟨announced, rest, hlength, -⟩
    · cases hlength
      rfl
    · cases hlength
  · rw [datagramEof, if_neg (by simp)]
    rcases herror with hlength | ⟨announced, rest, -, herror⟩
    · rw [readU16_cons] at hlength
      cases hlength
    · rw [run_bind_eq_error_iff] at herror
      rcases herror with hbytes | ⟨bytes, rest, -, hpure⟩
      · exact readExact_eq_error hbytes
      · cases hpure

theorem readDatagram_of_isPrefix {next tail buf : List UInt8}
    (hnext : next.length ≤ maxDatagram) (htail : tail <+: datagramBuf next)
    (hproper : tail ≠ datagramBuf next) :
    (readDatagram buf).run tail = .error (datagramEof tail) := by
  obtain ⟨failure, herror⟩ := (reads_datagramBuf hnext buf).error_of_isPrefix
    (framed_readDatagram buf) htail hproper
  rw [herror, readDatagram_eq_error herror]

@[simp]
theorem writeToVec_writeDatagram {payload : List UInt8}
    (hlength : payload.length ≤ maxDatagram) (written : List UInt8) :
    writeToVec (writeDatagram payload) written =
      (.ok (), written ++ datagramBuf payload) := by
  rw [writeDatagram, if_neg (Nat.not_lt.mpr hlength)]
  rfl

/-- An oversized payload is refused before anything is written. -/
theorem writeDatagram_oversized {M : Type → Type} [Monad M] [AsyncWrite M]
    {payload : List UInt8} (hlength : maxDatagram < payload.length) :
    (writeDatagram payload : ExceptT IoError M Unit) =
      throw ⟨.invalidInput, "datagram too large"⟩ :=
  if_pos hlength

/-! ## Streams of datagrams -/

theorem writeToVec_writeDatagrams {payloads : List (List UInt8)}
    (hpayloads : ∀ payload ∈ payloads, payload.length ≤ maxDatagram)
    (written : List UInt8) :
    writeToVec (writeDatagrams payloads) written =
      (.ok (), written ++ payloads.flatMap datagramBuf) := by
  induction payloads generalizing written with
  | nil =>
      rw [List.flatMap_nil, List.append_nil]
      rfl
  | cons payload payloads ih =>
      rw [List.forall_mem_cons] at hpayloads
      have hfirst := writeToVec_writeDatagram hpayloads.1 written
      have hrest := ih hpayloads.2 (written ++ datagramBuf payload)
      rw [List.flatMap_cons, ← List.append_assoc, ← hrest]
      change writeToVec (writeDatagram payload >>= fun _ => writeDatagrams payloads) written = _
      simp only [writeToVec, ExceptT.run_bind, StateT.run_bind] at hfirst ⊢
      rw [hfirst]
      rfl

/-- Reading with one buffer recovers the payloads, whatever the buffer held. -/
theorem exists_reads_readDatagrams {payloads : List (List UInt8)}
    (hpayloads : ∀ payload ∈ payloads, payload.length ≤ maxDatagram)
    (buf : List UInt8) :
    ∃ last, Reads (readDatagrams payloads.length buf) (payloads.flatMap datagramBuf)
      (payloads.map fun payload => (payload.length, payload), last) := by
  induction payloads generalizing buf with
  | nil => exact ⟨buf, reads_pure_iff.mpr ⟨rfl, rfl⟩⟩
  | cons payload payloads ih =>
      rw [List.forall_mem_cons] at hpayloads
      obtain ⟨last, hlater⟩ := ih hpayloads.2 payload
      refine ⟨last, fun rest => ?_⟩
      rw [List.length_cons, readDatagrams, run_bind_eq_ok_iff]
      refine ⟨(payload.length, payload), payloads.flatMap datagramBuf ++ rest, ?_, ?_⟩
      · rw [List.flatMap_cons, List.append_assoc]
        exact reads_datagramBuf hpayloads.1 buf _
      · rw [run_bind_eq_ok_iff]
        exact ⟨_, rest, hlater rest, rfl⟩

/-- Any sequence of datagrams survives the trip over a stream that ends in the
middle of one more, and an oversized one does not set out. -/
theorem datagrams_roundtrip {payloads : List (List UInt8)} {next tail : List UInt8}
    (hpayloads : ∀ payload ∈ payloads, payload.length ≤ maxDatagram)
    (hnext : next.length ≤ maxDatagram) (htail : tail <+: datagramBuf next)
    (hproper : tail ≠ datagramBuf next) (buf : List UInt8) :
    (∃ wire last, writeToVec (writeDatagrams payloads) [] = (.ok (), wire) ∧
      (readDatagrams payloads.length buf).run (wire ++ tail) =
        .ok ((payloads.map fun payload => (payload.length, payload), last), tail) ∧
      (readDatagram last).run tail = .error (datagramEof tail)) ∧
    ∀ payload written : List UInt8, maxDatagram < payload.length →
      writeToVec (writeDatagram payload) written =
        (.error ⟨.invalidInput, "datagram too large"⟩, written) := by
  obtain ⟨last, hreads⟩ := exists_reads_readDatagrams hpayloads buf
  constructor
  · refine ⟨payloads.flatMap datagramBuf, last, ?_, hreads tail, ?_⟩
    · rw [writeToVec_writeDatagrams hpayloads, List.nil_append]
    · exact readDatagram_of_isPrefix hnext htail hproper
  · intro payload written hlength
    rw [writeDatagram_oversized hlength]
    rfl

/-- Two datagrams, the second empty, into a buffer that holds more than either,
and the first length byte of a third. -/
theorem datagrams_roundtrip_sample :
    (∃ wire last, writeToVec (writeDatagrams [[104, 105], []]) [] = (.ok (), wire) ∧
      (readDatagrams 2 [1, 2, 3]).run (wire ++ [0]) =
        .ok (([[104, 105], []].map fun payload : List UInt8 => (payload.length, payload),
          last), [0]) ∧
      (readDatagram last).run [0] = .error .unexpectedEof) ∧
    ∀ payload written : List UInt8, maxDatagram < payload.length →
      writeToVec (writeDatagram payload) written =
        (.error ⟨.invalidInput, "datagram too large"⟩, written) :=
  datagrams_roundtrip (by decide) (by decide : ([7] : List UInt8).length ≤ maxDatagram)
    (by decide) (by decide) [1, 2, 3]

end VpnBridge.Proto
