import VpnBridge.Proto.Wire
import Mathlib.Data.List.Basic
import Mathlib.Tactic.IntervalCases

/-!
# The request codec

The decoder of a request accepts exactly the wire grammar, and the encoder is
its inverse: what `read_from` consumes is the buffer that `write_to` assembles
for the decoded request.  Round trips, canonicity and the rejection of
truncated requests are read off this one equivalence.
-/

namespace VpnBridge.Proto

open VpnBridge.ByteReader VpnBridge.Net

/-! ## Scalars -/

theorem framed_readU8 : Framed readU8 := framed_readOne _

theorem framed_readBytes (count : ℕ) : Framed (readBytes count) :=
  framed_readExact _ count

@[simp]
theorem reads_readU8_iff {consumed : List UInt8} {byte : UInt8} :
    Reads readU8 consumed byte ↔ consumed = [byte] :=
  reads_readOne_iff

@[simp]
theorem reads_readBytes_iff {count : ℕ} {consumed : List UInt8}
    {bytes : List.Vector UInt8 count} :
    Reads (readBytes count) consumed bytes ↔ consumed = bytes.toList :=
  reads_readExact_iff

theorem framed_readU16 : Framed readU16 :=
  framed_bind framed_readU8 fun _ => framed_bind framed_readU8 fun _ =>
    framed_pure _

@[simp]
theorem length_toBeBytes (value : UInt16) : (toBeBytes value).length = 2 := rfl

/-- Two bytes are the big-endian form of the number they denote. -/
theorem toBeBytes_ofNat (high low : UInt8) :
    toBeBytes (UInt16.ofNat (high.toNat * 256 + low.toNat)) = [high, low] := by
  have hhigh := high.toNat_lt
  have hlow := low.toNat_lt
  have hvalue : (UInt16.ofNat (high.toNat * 256 + low.toNat)).toNat =
      high.toNat * 256 + low.toNat := by
    rw [UInt16.toNat_ofNat', Nat.mod_eq_of_lt (by omega)]
  have hdiv : (high.toNat * 256 + low.toNat) / 256 = high.toNat := by omega
  have hmod : (high.toNat * 256 + low.toNat) % 256 = low.toNat := by omega
  rw [toBeBytes, hvalue, hdiv, hmod, UInt8.ofNat_toNat, UInt8.ofNat_toNat]

theorem ofNat_toBeBytes (value : UInt16) :
    UInt16.ofNat ((UInt8.ofNat (value.toNat / 256)).toNat * 256 +
      (UInt8.ofNat (value.toNat % 256)).toNat) = value := by
  have hvalue := value.toNat_lt
  rw [UInt8.toNat_ofNat', UInt8.toNat_ofNat', Nat.mod_eq_of_lt (by omega),
    Nat.mod_eq_of_lt (by omega), Nat.div_add_mod', UInt16.ofNat_toNat]

@[simp]
theorem reads_readU16_iff {consumed : List UInt8} {value : UInt16} :
    Reads readU16 consumed value ↔ consumed = toBeBytes value := by
  simp only [readU16, reads_bind_iff framed_readU8, reads_readU8_iff,
    reads_pure_iff]
  constructor
  · rintro ⟨high, _, _, rfl, rfl, low, _, _, rfl, rfl, rfl, rfl⟩
    exact (toBeBytes_ofNat high low).symm
  · rintro rfl
    exact ⟨_, [_], [_], rfl, rfl, _, [_], [], rfl, rfl, rfl,
      (ofNat_toBeBytes value).symm⟩

/-! ## Addresses -/

/-- The addresses that the wire format can carry: an IPv6 endpoint without
flow-info and scope, a name of at most 255 bytes. -/
def Address.Encodable : Address → Prop
  | .ip (.v4 _) => True
  | .ip (.v6 addr) => addr.flowinfo = 0 ∧ addr.scopeId = 0
  | .domain host _ => (asBytes host).length ≤ 255

/-- The length byte in front of a string of at most 255 bytes is exact. -/
theorem toNat_ofNat_length {bytes : List UInt8} (hlength : bytes.length ≤ 255) :
    (UInt8.ofNat bytes.length).toNat = bytes.length := by
  rw [UInt8.toNat_ofNat', Nat.mod_eq_of_lt (by omega)]

theorem Address.encode_domain {host : String} {port : UInt16}
    (hlength : (asBytes host).length ≤ 255) :
    (Address.domain host port).encode =
      [atypDomain, UInt8.ofNat (asBytes host).length] ++ asBytes host ++
        toBeBytes port := by
  simp only [Address.encode, Nat.min_eq_left hlength, List.take_length]

theorem framed_address : Framed Address.readFrom := by
  refine framed_bind framed_readU8 fun atyp => ?_
  by_cases hipv4 : atyp = atypIpv4
  · rw [if_pos hipv4]
    exact framed_bind (framed_readBytes 4) fun _ =>
      framed_bind framed_readU16 fun _ => framed_pure _
  rw [if_neg hipv4]
  by_cases hipv6 : atyp = atypIpv6
  · rw [if_pos hipv6]
    exact framed_bind (framed_readBytes 16) fun _ =>
      framed_bind framed_readU16 fun _ => framed_pure _
  rw [if_neg hipv6]
  by_cases hdomain : atyp = atypDomain
  · rw [if_pos hdomain]
    exact framed_bind framed_readU8 fun _ =>
      framed_bind (framed_readBytes _) fun _ =>
        framed_bind framed_readU16 fun _ =>
          framed_bind (framed_fromOption _ _) fun _ => framed_pure _
  · rw [if_neg hdomain]
    exact framed_throw _

/-- What the address decoder consumed is an encoding of what it returned. -/
theorem eq_encode_of_reads {consumed : List UInt8} {address : Address}
    (hreads : Reads Address.readFrom consumed address) :
    address.Encodable ∧ consumed = address.encode := by
  rw [Address.readFrom, reads_bind_iff framed_readU8] at hreads
  obtain ⟨atyp, _, body, rfl, hatyp, hbody⟩ := hreads
  rw [reads_readU8_iff] at hatyp
  subst hatyp
  by_cases hipv4 : atyp = atypIpv4
  · simp only [if_pos hipv4, reads_bind_iff (framed_readBytes 4),
      reads_bind_iff framed_readU16, reads_readBytes_iff, reads_readU16_iff,
      reads_pure_iff] at hbody
    obtain ⟨octets, _, _, rfl, rfl, port, _, _, rfl, rfl, rfl, rfl⟩ := hbody
    subst hipv4
    simp [Address.Encodable, Address.encode, SocketAddr.new]
  rw [if_neg hipv4] at hbody
  by_cases hipv6 : atyp = atypIpv6
  · simp only [if_pos hipv6, reads_bind_iff (framed_readBytes 16),
      reads_bind_iff framed_readU16, reads_readBytes_iff, reads_readU16_iff,
      reads_pure_iff] at hbody
    obtain ⟨octets, _, _, rfl, rfl, port, _, _, rfl, rfl, rfl, rfl⟩ := hbody
    subst hipv6
    simp [Address.Encodable, Address.encode, SocketAddr.new]
  rw [if_neg hipv6] at hbody
  by_cases hdomain : atyp = atypDomain
  · simp only [if_pos hdomain, reads_bind_iff framed_readU8,
      reads_bind_iff (framed_readBytes _), reads_bind_iff framed_readU16,
      reads_bind_iff (framed_fromOption _ _), reads_readU8_iff,
      reads_readBytes_iff, reads_readU16_iff, reads_fromOption_iff,
      reads_pure_iff, fromUtf8_eq_some_iff] at hbody
    obtain ⟨length, _, _, rfl, rfl, name, _, _, rfl, rfl, port, _, _, rfl, rfl,
      host, _, _, rfl, ⟨rfl, hhost⟩, rfl, rfl⟩ := hbody
    subst hdomain
    -- The name is as long as its length byte says, so it is encoded uncut.
    have hlength : (asBytes host).length = length.toNat := by
      rw [← hhost, name.toList_length]
    have hbound : (asBytes host).length ≤ 255 := by
      have := length.toNat_lt
      omega
    refine ⟨hbound, ?_⟩
    rw [Address.encode_domain hbound, hlength, UInt8.ofNat_toNat, hhost]
    simp
  · rw [if_neg hdomain] at hbody
    exact absurd hbody not_reads_throw

/-- The address decoder inverts the encoder, whatever follows the address. -/
theorem reads_encode {address : Address} (hencodable : address.Encodable) :
    Reads Address.readFrom address.encode address := by
  rw [Address.readFrom, reads_bind_iff framed_readU8]
  cases address with
  | ip addr =>
      cases addr with
      | v4 addr =>
          refine ⟨atypIpv4, [atypIpv4], _, rfl, reads_readU8_iff.mpr rfl, ?_⟩
          rw [if_pos rfl]
          simp only [reads_bind_iff (framed_readBytes 4),
            reads_bind_iff framed_readU16, reads_readBytes_iff,
            reads_readU16_iff, reads_pure_iff]
          exact ⟨_, _, _, rfl, rfl, _, _, [], (List.append_nil _).symm, rfl,
            rfl, rfl⟩
      | v6 addr =>
          obtain ⟨ip, port, flowinfo, scopeId⟩ := addr
          obtain ⟨rfl, rfl⟩ := hencodable
          refine ⟨atypIpv6, [atypIpv6], _, rfl, reads_readU8_iff.mpr rfl, ?_⟩
          rw [if_neg (by decide), if_pos rfl]
          simp only [reads_bind_iff (framed_readBytes 16),
            reads_bind_iff framed_readU16, reads_readBytes_iff,
            reads_readU16_iff, reads_pure_iff]
          exact ⟨_, _, _, rfl, rfl, _, _, [], (List.append_nil _).symm, rfl,
            rfl, rfl⟩
  | domain host port =>
      rw [Address.encode_domain hencodable]
      refine ⟨atypDomain, [atypDomain], _, rfl, reads_readU8_iff.mpr rfl, ?_⟩
      rw [if_neg (by decide), if_neg (by decide), if_pos rfl]
      simp only [reads_bind_iff framed_readU8,
        reads_bind_iff (framed_readBytes _), reads_bind_iff framed_readU16,
        reads_bind_iff (framed_fromOption _ _), reads_readU8_iff,
        reads_readBytes_iff, reads_readU16_iff, reads_fromOption_iff,
        reads_pure_iff, fromUtf8_eq_some_iff]
      have hlength := toNat_ofNat_length hencodable
      exact ⟨_, [_], asBytes host ++ toBeBytes port, by simp, rfl,
        ⟨asBytes host, hlength.symm⟩, _, _, rfl, rfl, port, _, [], by simp,
        rfl, host, [], [], rfl, ⟨rfl, rfl⟩, rfl, rfl⟩

theorem reads_address_iff {consumed : List UInt8} {address : Address} :
    Reads Address.readFrom consumed address ↔
      address.Encodable ∧ consumed = address.encode := by
  constructor
  · exact eq_encode_of_reads
  · rintro ⟨hencodable, rfl⟩
    exact reads_encode hencodable

/-! ## Requests -/

theorem fromU8_eq_some_iff {value : UInt8} {cmd : Cmd} :
    Cmd.fromU8 value = some cmd ↔ value = cmd.toU8 := by
  constructor
  · intro hcmd
    unfold Cmd.fromU8 at hcmd
    split at hcmd
    · cases hcmd
      assumption
    · split at hcmd
      · cases hcmd
        assumption
      · cases hcmd
  · rintro rfl
    cases cmd <;> rfl

/-- The requests whose every field fits its place on the wire. -/
def Request.Encodable (request : Request) : Prop :=
  (asBytes request.token).length ≤ 255 ∧ request.target.Encodable

theorem framed_request : Framed Request.readFrom :=
  framed_bind (framed_readBytes 4) fun _ =>
    framed_bind (framed_ensure _ _) fun _ =>
      framed_bind framed_readU8 fun _ =>
        framed_bind (framed_ensure _ _) fun _ =>
          framed_bind framed_readU8 fun _ =>
            framed_bind (framed_fromOption _ _) fun _ =>
              framed_bind framed_readU8 fun _ =>
                framed_bind (framed_readBytes _) fun _ =>
                  framed_bind (framed_fromOption _ _) fun _ =>
                    framed_bind framed_address fun _ => framed_pure _

/-- The request decoder reads exactly the encodings of encodable requests. -/
theorem reads_request_iff {consumed : List UInt8} {request : Request} :
    Reads Request.readFrom consumed request ↔
      request.Encodable ∧ consumed = request.buf := by
  simp only [Request.readFrom, reads_bind_iff (framed_readBytes _),
    reads_bind_iff (framed_ensure _ _), reads_bind_iff framed_readU8,
    reads_bind_iff (framed_fromOption _ _), reads_bind_iff framed_address,
    reads_readBytes_iff, reads_ensure_iff, reads_readU8_iff,
    reads_fromOption_iff, reads_address_iff, reads_pure_iff,
    fromUtf8_eq_some_iff, fromU8_eq_some_iff]
  constructor
  · rintro ⟨prelude, _, _, rfl, rfl, _, _, _, rfl, ⟨rfl, hmagic⟩, _, _, _, rfl,
      rfl, _, _, _, rfl, ⟨rfl, rfl⟩, _, _, _, rfl, rfl, cmd, _, _, rfl,
      ⟨rfl, rfl⟩, tokenLen, _, _, rfl, rfl, tokenBytes, _, _, rfl, rfl, token,
      _, _, rfl, ⟨rfl, htoken⟩, target, _, _, rfl, ⟨htarget, rfl⟩, rfl, rfl⟩
    have hlength : (asBytes token).length = tokenLen.toNat := by
      rw [← htoken, tokenBytes.toList_length]
    have hbound : (asBytes token).length ≤ 255 := by
      have := tokenLen.toNat_lt
      omega
    refine ⟨⟨hbound, htarget⟩, ?_⟩
    simp only [Request.buf, hlength, UInt8.ofNat_toNat, hmagic, htoken]
    simp
  · rintro ⟨⟨hbound, htarget⟩, rfl⟩
    have hlength := toNat_ofNat_length hbound
    refine ⟨⟨magic, rfl⟩, magic, _, by simp [Request.buf], rfl, (), [], _, rfl,
      ⟨rfl, rfl⟩, version, [version], _, rfl, rfl, (), [], _, rfl, ⟨rfl, rfl⟩,
      request.cmd.toU8, [_], _, rfl, rfl, request.cmd, [], _, rfl, ⟨rfl, rfl⟩,
      _, [_], _, rfl, rfl, ⟨asBytes request.token, hlength.symm⟩, _,
      request.target.encode, rfl, rfl, request.token, [], _, rfl, ⟨rfl, rfl⟩,
      request.target, _, [], (List.append_nil _).symm, ⟨htarget, rfl⟩, rfl, rfl⟩

/-- The decoder on an encoded request and whatever follows it. -/
theorem readFrom_buf {request : Request} (hencodable : request.Encodable)
    (rest : List UInt8) :
    Request.readFrom.run (request.buf ++ rest) = .ok (request, rest) :=
  reads_request_iff.mpr ⟨hencodable, rfl⟩ rest

/-- What is decoded was encodable. -/
theorem encodable_of_readFrom {stream rest : List UInt8} {request : Request}
    (hread : Request.readFrom.run stream = .ok (request, rest)) :
    request.Encodable := by
  obtain ⟨consumed, _, hreads⟩ := framed_request _ _ _ hread
  exact (reads_request_iff.mp hreads).1

/-- `write_to` on a `Vec<u8>`: nothing, or the whole buffer. -/
theorem writeToVec_request (request : Request) (written : List UInt8) :
    writeToVec request.writeTo written =
      if (asBytes request.token).length > 255 then
        (.error ⟨.invalidInput, "token longer than 255 bytes"⟩, written)
      else
        (.ok (), written ++ request.buf) := by
  by_cases hlong : (asBytes request.token).length > 255
  · simp only [writeToVec, Request.writeTo, if_pos hlong]
    rfl
  · simp only [writeToVec, Request.writeTo, if_neg hlong]
    rfl

/-- Decoding undoes encoding whatever follows on the stream, and a token that
does not fit is refused before the first byte is written. -/
theorem request_readFrom_writeTo (request : Request)
    (htarget : request.target.Encodable) (written rest : List UInt8) :
    ((asBytes request.token).length ≤ 255 →
      ∃ bytes, writeToVec request.writeTo written = (.ok (), written ++ bytes) ∧
        Request.readFrom.run (bytes ++ rest) = .ok (request, rest)) ∧
    (255 < (asBytes request.token).length →
      ∃ failure, writeToVec request.writeTo written = (.error failure, written)) := by
  rw [writeToVec_request]
  constructor
  · intro hfits
    refine ⟨request.buf, if_neg (by omega), ?_⟩
    exact readFrom_buf ⟨hfits, htarget⟩ rest
  · intro hlong
    exact ⟨_, if_pos hlong⟩

/-- A token of NUL bytes, a name target and flow data right behind them. -/
theorem request_readFrom_writeTo_domain :
    ∃ bytes, writeToVec (Request.writeTo ⟨.bindUdp, "a\x00b", .domain "é.test" 53⟩) [7] =
        (.ok (), [7] ++ bytes) ∧
      Request.readFrom.run (bytes ++ [1, 2, 3]) =
        .ok (⟨.bindUdp, "a\x00b", .domain "é.test" 53⟩, [1, 2, 3]) :=
  (request_readFrom_writeTo ⟨.bindUdp, "a\x00b", .domain "é.test" 53⟩ (by
    simp only [Address.Encodable]
    decide) [7] [1, 2, 3]).1 (by decide)

/-! ## The grammar -/

/-- Well-formed UTF-8. -/
def IsUtf8 (bytes : List UInt8) : Prop :=
  bytes.toByteArray.IsValidUTF8

/-- `ADDR` of the wire grammar. -/
def AddressGrammar (bytes : List UInt8) : Prop :=
  (∃ body, body.length = 4 + 2 ∧ bytes = 1 :: body) ∨
  (∃ body, body.length = 16 + 2 ∧ bytes = 4 :: body) ∨
  (∃ name port, IsUtf8 name ∧ name.length ≤ 255 ∧ port.length = 2 ∧
    bytes = 3 :: UInt8.ofNat name.length :: (name ++ port))

/-- The request of the wire grammar. -/
def RequestGrammar (bytes : List UInt8) : Prop :=
  ∃ (command : UInt8) (token address : List UInt8),
    (command = 1 ∨ command = 2) ∧ IsUtf8 token ∧ token.length ≤ 255 ∧
    AddressGrammar address ∧
    bytes = [0x56, 0x42, 0x52, 0x47] ++
      [1, command, UInt8.ofNat token.length] ++ token ++ address

theorem isUtf8_iff {bytes : List UInt8} :
    IsUtf8 bytes ↔ ∃ text, bytes = asBytes text := by
  rw [← isSome_fromUtf8_iff, fromUtf8, String.fromUTF8?]
  by_cases hvalid : bytes.toByteArray.IsValidUTF8
  · simp [IsUtf8, hvalid]
  · simp [IsUtf8, hvalid]

theorem exists_toBeBytes {bytes : List UInt8} (hlength : bytes.length = 2) :
    ∃ port, bytes = toBeBytes port := by
  obtain ⟨high, low, rfl⟩ := List.length_eq_two.mp hlength
  exact ⟨_, (toBeBytes_ofNat high low).symm⟩

theorem addressGrammar_iff {bytes : List UInt8} :
    AddressGrammar bytes ↔ ∃ address : Address,
      address.Encodable ∧ bytes = address.encode := by
  constructor
  · rintro (⟨body, hlength, rfl⟩ | ⟨body, hlength, rfl⟩ |
      ⟨name, port, hname, hbound, hport, rfl⟩)
    · have hdrop : (body.drop 4).length = 2 := by simp [hlength]
      obtain ⟨port, hport⟩ := exists_toBeBytes hdrop
      let ip : Ipv4Addr := ⟨⟨body.take 4, by simp [hlength]⟩⟩
      refine ⟨.ip (.v4 ⟨ip, port⟩), trivial, ?_⟩
      have hbody : body.take 4 ++ toBeBytes port = body := by
        rw [← hport, List.take_append_drop]
      exact congrArg (List.cons 1) hbody.symm
    · have hdrop : (body.drop 16).length = 2 := by simp [hlength]
      obtain ⟨port, hport⟩ := exists_toBeBytes hdrop
      let ip : Ipv6Addr := ⟨⟨body.take 16, by simp [hlength]⟩⟩
      refine ⟨.ip (.v6 ⟨ip, port, 0, 0⟩), ⟨rfl, rfl⟩, ?_⟩
      have hbody : body.take 16 ++ toBeBytes port = body := by
        rw [← hport, List.take_append_drop]
      exact congrArg (List.cons 4) hbody.symm
    · obtain ⟨host, rfl⟩ := isUtf8_iff.mp hname
      obtain ⟨port, rfl⟩ := exists_toBeBytes hport
      refine ⟨.domain host port, hbound, ?_⟩
      rw [Address.encode_domain hbound]
      rfl
  · rintro ⟨address, hencodable, rfl⟩
    cases address with
    | ip addr =>
        cases addr with
        | v4 addr =>
            exact .inl ⟨addr.ip.octets.toList ++ toBeBytes addr.port, by simp, rfl⟩
        | v6 addr =>
            exact .inr (.inl
              ⟨addr.ip.octets.toList ++ toBeBytes addr.port, by simp, rfl⟩)
    | domain host port =>
        refine .inr (.inr ⟨asBytes host, toBeBytes port, isUtf8_iff.mpr ⟨host, rfl⟩,
          hencodable, rfl, ?_⟩)
        rw [Address.encode_domain hencodable]
        rfl

theorem command_iff {command : UInt8} :
    (command = 1 ∨ command = 2) ↔ ∃ cmd : Cmd, command = cmd.toU8 := by
  constructor
  · rintro (rfl | rfl)
    · exact ⟨.connectTcp, rfl⟩
    · exact ⟨.bindUdp, rfl⟩
  · rintro ⟨cmd, rfl⟩
    cases cmd
    · exact .inl rfl
    · exact .inr rfl

theorem requestGrammar_iff {bytes : List UInt8} :
    RequestGrammar bytes ↔ ∃ request, Reads Request.readFrom bytes request := by
  simp only [reads_request_iff]
  constructor
  · rintro ⟨command, token, address, hcommand, htoken, hbound, haddress, rfl⟩
    obtain ⟨cmd, rfl⟩ := command_iff.mp hcommand
    obtain ⟨text, rfl⟩ := isUtf8_iff.mp htoken
    obtain ⟨target, htarget, rfl⟩ := addressGrammar_iff.mp haddress
    exact ⟨⟨cmd, text, target⟩, ⟨hbound, htarget⟩, rfl⟩
  · rintro ⟨request, ⟨hbound, htarget⟩, rfl⟩
    exact ⟨request.cmd.toU8, asBytes request.token, request.target.encode,
      command_iff.mpr ⟨request.cmd, rfl⟩, isUtf8_iff.mpr ⟨request.token, rfl⟩,
      hbound, addressGrammar_iff.mpr ⟨request.target, htarget, rfl⟩, rfl⟩

/-- The decoder accepts exactly the streams that start with a request of the
grammar, consumes what the encoder emits for the decoded request, never gives
two encodings one meaning, and fails on every truncated request. -/
theorem request_grammar_canonical :
    (∀ stream, (∃ request rest, Request.readFrom.run stream = .ok (request, rest)) ↔
      ∃ encoding, encoding <+: stream ∧ RequestGrammar encoding) ∧
    (∀ stream request rest, Request.readFrom.run stream = .ok (request, rest) →
      ∃ encoding, stream = encoding ++ rest ∧ RequestGrammar encoding ∧
        writeToVec request.writeTo [] = (.ok (), encoding)) ∧
    (∀ left right request leftRest rightRest,
      Request.readFrom.run left = .ok (request, leftRest) →
      Request.readFrom.run right = .ok (request, rightRest) →
      ∃ encoding, left = encoding ++ leftRest ∧ right = encoding ++ rightRest) ∧
    (∀ encoding truncated, RequestGrammar encoding → truncated <+: encoding →
      truncated ≠ encoding → ∃ failure, Request.readFrom.run truncated = .error failure) := by
  refine ⟨fun stream => ?_, fun stream request rest hrun => ?_,
    fun left right request leftRest rightRest hleft hright => ?_,
    fun encoding truncated hencoding hstart hproper => ?_⟩
  · constructor
    · rintro ⟨request, rest, hrun⟩
      obtain ⟨encoding, rfl, hreads⟩ := framed_request _ _ _ hrun
      exact ⟨encoding, List.prefix_append _ _, requestGrammar_iff.mpr ⟨request, hreads⟩⟩
    · rintro ⟨encoding, ⟨rest, rfl⟩, hencoding⟩
      obtain ⟨request, hreads⟩ := requestGrammar_iff.mp hencoding
      exact ⟨request, rest, hreads rest⟩
  · obtain ⟨encoding, rfl, hreads⟩ := framed_request _ _ _ hrun
    refine ⟨encoding, rfl, requestGrammar_iff.mpr ⟨request, hreads⟩, ?_⟩
    obtain ⟨⟨hbound, _⟩, rfl⟩ := reads_request_iff.mp hreads
    rw [writeToVec_request, if_neg (by omega)]
    rfl
  · obtain ⟨leftUsed, hleftSplit, hleftReads⟩ := framed_request _ _ _ hleft
    obtain ⟨rightUsed, hrightSplit, hrightReads⟩ := framed_request _ _ _ hright
    -- Both encodings are the buffer of the one request they denote.
    rw [(reads_request_iff.mp hleftReads).2] at hleftSplit
    rw [(reads_request_iff.mp hrightReads).2] at hrightSplit
    exact ⟨request.buf, hleftSplit, hrightSplit⟩
  · obtain ⟨request, hreads⟩ := requestGrammar_iff.mp hencoding
    exact hreads.error_of_isPrefix framed_request hstart hproper

end VpnBridge.Proto
