import VpnBridge.Proto.RequestCodec
import VpnBridge.Proto.Characters

/-!
# Truncated names

`encode` cuts a name to 255 bytes wherever that falls.  What the other side
decodes is the cut name when the cut leaves whole characters, and nothing at all
when it does not.
-/

namespace VpnBridge.Proto

open VpnBridge.ByteReader

/-- The name that goes on the wire, cut to 255 bytes, is still UTF-8. -/
def Address.CutsCleanly : Address → Prop
  | .ip _ => True
  | .domain host _ => IsUtf8 ((asBytes host).take 255)

/-- What the other side decodes; flow labels and scopes do not travel. -/
def Address.received : Address → Option Address
  | .ip (.v4 addr) => some (.ip (.v4 addr))
  | .ip (.v6 addr) => some (.ip (.v6 ⟨addr.ip, addr.port, 0, 0⟩))
  | .domain host port =>
      (fromUtf8 ((asBytes host).take 255)).map fun name => .domain name port

theorem exists_received_of_cutsCleanly {address : Address}
    (hcut : address.CutsCleanly) : ∃ target, address.received = some target := by
  cases address with
  | ip addr => cases addr <;> exact ⟨_, rfl⟩
  | domain host port =>
      obtain ⟨name, hname⟩ := isUtf8_iff.mp hcut
      exact ⟨_, by rw [Address.received, fromUtf8_eq_some_iff.mpr hname]; rfl⟩

/-- What is received goes on the wire as the address that was sent. -/
theorem encode_of_received {address target : Address}
    (hreceived : address.received = some target) :
    target.Encodable ∧ target.encode = address.encode := by
  cases address with
  | ip addr =>
      cases addr with
      | v4 addr =>
          cases hreceived
          exact ⟨trivial, rfl⟩
      | v6 addr =>
          cases hreceived
          exact ⟨⟨rfl, rfl⟩, rfl⟩
  | domain host port =>
      simp only [Address.received, Option.map_eq_some_iff, fromUtf8_eq_some_iff]
        at hreceived
      obtain ⟨name, hname, rfl⟩ := hreceived
      have hlength : (asBytes name).length = min (asBytes host).length 255 := by
        rw [← hname, List.length_take, Nat.min_comm]
      have hfits : (asBytes name).length ≤ 255 := by omega
      refine ⟨hfits, ?_⟩
      rw [Address.encode_domain hfits, Address.encode, hlength, Nat.min_comm,
        ← List.take_eq_take_min, hname]

/-- A decodable target under the sender's own encoding was cut cleanly. -/
theorem cutsCleanly_of_encode {address target : Address} {rest rest' : List UInt8}
    (hencodable : target.Encodable)
    (hsame : address.encode ++ rest = target.encode ++ rest') :
    address.CutsCleanly := by
  cases address with
  | ip addr => trivial
  | domain host port =>
      rw [Address.encode, Nat.min_comm, ← List.take_eq_take_min] at hsame
      cases target with
      | ip addr =>
          -- The address types differ in the first byte.
          cases addr <;> cases (List.cons.inj hsame).1
      | domain name port' =>
          rw [Address.encode_domain hencodable] at hsame
          simp only [List.append_assoc, List.cons_append, List.nil_append,
            List.cons.injEq, true_and] at hsame
          obtain ⟨hlengths, hnames⟩ := hsame
          replace hlengths := congrArg UInt8.toNat hlengths
          rw [toNat_ofNat_length hencodable, UInt8.toNat_ofNat',
            Nat.mod_eq_of_lt (by omega)] at hlengths
          have hname : (asBytes host).take 255 = asBytes name :=
            (List.append_inj hnames (by rw [List.length_take, hlengths])).1
          exact isUtf8_iff.mpr ⟨name, hname⟩

/-- The request as it arrives, when its target does. -/
theorem readFrom_received {request : Request} {target : Address}
    (hlength : (asBytes request.token).length ≤ 255)
    (hreceived : request.target.received = some target) (rest : List UInt8) :
    Request.readFrom.run (request.buf ++ rest) =
      .ok (⟨request.cmd, request.token, target⟩, rest) := by
  obtain ⟨hencodable, hencode⟩ := encode_of_received hreceived
  have hbuf : request.buf = Request.buf ⟨request.cmd, request.token, target⟩ := by
    rw [Request.buf, Request.buf, hencode]
  have hfits : Request.Encodable ⟨request.cmd, request.token, target⟩ :=
    ⟨hlength, hencodable⟩
  rw [hbuf]
  exact readFrom_buf hfits rest

/-- A name cut inside a character makes the whole request unreadable. -/
theorem readFrom_eq_error {request : Request}
    (hlength : (asBytes request.token).length ≤ 255)
    (hcut : ¬ request.target.CutsCleanly) (rest : List UInt8) :
    ∃ failure, Request.readFrom.run (request.buf ++ rest) = .error failure := by
  cases hread : Request.readFrom.run (request.buf ++ rest) with
  | error failure => exact ⟨failure, rfl⟩
  | ok decoded =>
      obtain ⟨consumed, hsplit, hreads⟩ := framed_request _ _ _ hread
      obtain ⟨⟨htoken, htarget⟩, rfl⟩ := reads_request_iff.mp hreads
      have hbody : ∃ rest', request.target.encode ++ rest =
          decoded.1.target.encode ++ rest' := by
        simp only [Request.buf, List.append_assoc, List.append_cancel_left_eq,
          List.cons_append, List.nil_append, List.cons.injEq, true_and] at hsplit
        obtain ⟨_, hlengths, htokens⟩ := hsplit
        have htoNat := congrArg UInt8.toNat hlengths
        rw [toNat_ofNat_length hlength, toNat_ofNat_length htoken] at htoNat
        exact ⟨_, (List.append_inj htokens htoNat).2⟩
      obtain ⟨rest', hbody⟩ := hbody
      exact absurd (cutsCleanly_of_encode htarget hbody) hcut

/-! ## Names longer than the wire allows -/

/-- A long name arrives as what is left of it when the cut leaves characters. -/
theorem readFrom_encode_of_take {host name : String} (port : UInt16)
    (htake : (asBytes host).take 255 = asBytes name) (rest : List UInt8) :
    Address.readFrom.run ((Address.domain host port).encode ++ rest) =
      .ok (.domain name port, rest) := by
  have hreceived : (Address.domain host port).received = some (.domain name port) := by
    rw [Address.received, fromUtf8_eq_some_iff.mpr htake]
    rfl
  obtain ⟨hencodable, hencode⟩ := encode_of_received hreceived
  rw [← hencode]
  exact reads_encode hencodable rest

theorem cutsCleanly_of_readFrom {address target : Address} {rest rest' : List UInt8}
    (hread : Address.readFrom.run (address.encode ++ rest) = .ok (target, rest')) :
    address.CutsCleanly := by
  obtain ⟨consumed, hsplit, hreads⟩ := framed_address _ _ _ hread
  obtain ⟨hencodable, rfl⟩ := reads_address_iff.mp hreads
  exact cutsCleanly_of_encode hencodable hsplit

theorem cutsCleanly_iff_isCharBoundary {host : String} {port : UInt16}
    (hlong : 255 ≤ (asBytes host).length) :
    (Address.domain host port).CutsCleanly ↔ IsCharBoundary host 255 := by
  constructor
  · intro hcut
    obtain ⟨name, htake⟩ := isUtf8_iff.mp hcut
    exact isCharBoundary_of_take hlong htake
  · intro hboundary
    apply isUtf8_iff.mpr
    exact ⟨String.ofList (wholeChars 255 host.toList), by
      rw [take_asBytes_of_isCharBoundary hboundary, asBytes_ofList]⟩

/-- A name longer than 255 bytes still arrives, cut but readable and with what
follows it in place, exactly when byte 255 starts a character. -/
theorem address_readFrom_encode_long (host : String) (port : UInt16) (rest : List UInt8)
    (hlong : 255 < (asBytes host).length) :
    (∃ name, Address.readFrom.run ((Address.domain host port).encode ++ rest) =
        .ok (.domain name port, rest) ∧
      name.toList <+: host.toList ∧ (asBytes name).length ≤ 255) ↔
    IsCharBoundary host 255 := by
  constructor
  · rintro ⟨name, hread, _⟩
    exact (cutsCleanly_iff_isCharBoundary hlong.le).mp (cutsCleanly_of_readFrom hread)
  · intro hboundary
    have htake := take_asBytes_of_isCharBoundary hboundary
    refine ⟨String.ofList (wholeChars 255 host.toList), ?_, ?_, ?_⟩
    · exact readFrom_encode_of_take port (by rw [htake, asBytes_ofList]) rest
    · rw [String.toList_ofList]
      exact wholeChars_isPrefix 255 host.toList
    · rw [asBytes_ofList]
      exact length_wholeChars_le 255 host.toList

/-- A name that repeats one character. -/
def repeatedName (count : ℕ) (character : Char) : String :=
  String.ofList (List.replicate count character)

theorem length_repeatedName {count size : ℕ} {character : Char}
    (hsize : character.utf8Size = size) :
    (asBytes (repeatedName count character)).length = count * size := by
  rw [repeatedName, asBytes_ofList, length_encodeChars_replicate, hsize]

/-- A boundary of a repeated character is a multiple of its size. -/
theorem isCharBoundary_repeatedName_iff {count size index : ℕ} {character : Char}
    (hsize : character.utf8Size = size) :
    IsCharBoundary (repeatedName count character) index ↔
      ∃ kept, kept ≤ count ∧ kept * size = index := by
  simp only [IsCharBoundary, repeatedName, String.toList_ofList, List.prefix_replicate_iff]
  constructor
  · rintro ⟨kept, ⟨hcount, hkept⟩, hlength⟩
    rw [hkept, length_encodeChars_replicate, hsize] at hlength
    exact ⟨kept.length, hcount, hlength⟩
  · rintro ⟨kept, hcount, hlength⟩
    refine ⟨List.replicate kept character, ?_, ?_⟩
    · rw [List.length_replicate]
      exact ⟨hcount, rfl⟩
    · rw [length_encodeChars_replicate, hsize, hlength]

/-- A long name of one-byte characters, and flow data right behind it. -/
theorem address_readFrom_encode_long_ascii :
    ∃ name, Address.readFrom.run
        ((Address.domain (repeatedName 300 'a') 53).encode ++ [1, 2]) =
          .ok (.domain name 53, [1, 2]) ∧
      name.toList <+: (repeatedName 300 'a').toList ∧ (asBytes name).length ≤ 255 := by
  have hsize : 'a'.utf8Size = 1 := by decide
  have hlong : 255 < (asBytes (repeatedName 300 'a')).length := by
    rw [length_repeatedName hsize]
    omega
  have hboundary : IsCharBoundary (repeatedName 300 'a') 255 :=
    (isCharBoundary_repeatedName_iff hsize).mpr ⟨255, by omega, by omega⟩
  exact (address_readFrom_encode_long (repeatedName 300 'a') 53 [1, 2] hlong).mpr hboundary

/-- A name of two-byte characters is cut inside one, and its address is unreadable. -/
theorem address_readFrom_encode_long_accented :
    ¬ ∀ (host : String) (port : UInt16) (rest : List UInt8),
      255 < (asBytes host).length →
      ∃ name, Address.readFrom.run ((Address.domain host port).encode ++ rest) =
          .ok (.domain name port, rest) ∧
        name.toList <+: host.toList ∧ (asBytes name).length ≤ 255 := by
  intro hall
  have hsize : 'é'.utf8Size = 2 := by decide
  have hlong : 255 < (asBytes (repeatedName 128 'é')).length := by
    rw [length_repeatedName hsize]
    omega
  obtain ⟨name, hread, _⟩ := hall (repeatedName 128 'é') 53 [] hlong
  have hboundary := (cutsCleanly_iff_isCharBoundary hlong.le).mp
    (cutsCleanly_of_readFrom hread)
  obtain ⟨kept, _, hkept⟩ := (isCharBoundary_repeatedName_iff hsize).mp hboundary
  omega

end VpnBridge.Proto
