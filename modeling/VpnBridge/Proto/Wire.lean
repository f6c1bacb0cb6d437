import VpnBridge.Core.ByteReader
import VpnBridge.Net.Address
import VpnBridge.Proto.Text

/-!
# The wire protocol

The handshake messages and their codecs:

* request: `MAGIC(4) VER(1) CMD(1) TOKEN_LEN(1) TOKEN(n) ADDR`;
* response: `MAGIC(4) VER(1) STATUS(1) MSG_LEN(1) MSG(n)`;
* `ADDR`: `ATYP(1) ADDR(4|1+n|16) PORT(2, big endian)`.

The decoders are generic in the byte source in the program; here they read a
list, the whole of what the source will ever deliver.  The encoders stay
generic in the byte sink, since they write both to memory and to a tunnel.
-/

namespace VpnBridge.Proto

open VpnBridge.ByteReader VpnBridge.Net

/-- The `std::io::ErrorKind`s the program names. -/
inductive ErrorKind where
  | unexpectedEof
  | invalidData
  | invalidInput
  | timedOut
  | brokenPipe
  | connectionReset
  | connectionAborted
  | notConnected
  | other
  deriving DecidableEq

/-- `std::io::Error`: a kind and the text it displays as. -/
structure IoError where
  kind : ErrorKind
  message : String
  deriving DecidableEq

/-- What `read_exact` returns on a stream that ends early. -/
def IoError.earlyEof : IoError := ⟨.unexpectedEof, "early eof"⟩

/-- What `read_u8` and `read_u16` return there. -/
def IoError.unexpectedEof : IoError := ⟨.unexpectedEof, "unexpected end of file"⟩

def IoError.invalidData (message : String) : IoError := ⟨.invalidData, message⟩

/-- `anyhow::Error`: its chain of messages, the outermost context first. -/
abbrev AnyhowError := List String

/-- A decoder `R: AsyncRead -> io::Result<A>`. -/
abbrev Decoder := Reader UInt8 IoError

/-- What the encoders use of `W: AsyncWrite`. -/
class AsyncWrite (M : Type → Type) where
  writeAll : List UInt8 → ExceptT IoError M Unit
  flush : ExceptT IoError M Unit

/-- `Vec<u8>` as a byte sink: it grows, and never fails. -/
abbrev VecWriter := StateM (List UInt8)

instance : AsyncWrite VecWriter where
  writeAll bytes := ExceptT.mk fun written => (.ok (), written ++ bytes)
  flush := pure ()

/-- Run an encoder on a `Vec<u8>` that already holds `written`. -/
def writeToVec (encoder : ExceptT IoError VecWriter Unit)
    (written : List UInt8) : Except IoError Unit × List UInt8 :=
  encoder.run.run written

/-! ## Scalars -/

def magic : List UInt8 := [0x56, 0x42, 0x52, 0x47]

def version : UInt8 := 1

def atypIpv4 : UInt8 := 1

def atypDomain : UInt8 := 3

def atypIpv6 : UInt8 := 4

/-- `u16::to_be_bytes`. -/
def toBeBytes (value : UInt16) : List UInt8 :=
  [UInt8.ofNat (value.toNat / 256), UInt8.ofNat (value.toNat % 256)]

def readU8 : Decoder UInt8 := readOne .unexpectedEof

def readU16 : Decoder UInt16 := do
  let high ← readU8
  let low ← readU8
  return UInt16.ofNat (high.toNat * 256 + low.toNat)

/-- `read_exact` into a buffer of `count` bytes. -/
def readBytes (count : ℕ) : Decoder (List.Vector UInt8 count) :=
  readExact .earlyEof count

/-! ## Commands and statuses -/

inductive Cmd where
  /-- Open a TCP connection to the target and splice both directions. -/
  | connectTcp
  /-- Open a UDP socket connected to the target and relay datagrams. -/
  | bindUdp
  deriving DecidableEq

def Cmd.toU8 : Cmd → UInt8
  | .connectTcp => 1
  | .bindUdp => 2

def Cmd.fromU8 (value : UInt8) : Option Cmd :=
  if value = 1 then some .connectTcp
  else if value = 2 then some .bindUdp
  else none

inductive Status where
  | ok
  | authFailed
  | forbidden
  | unreachable
  | badRequest
  | unsupported
  | serverError
  deriving DecidableEq

def Status.toU8 : Status → UInt8
  | .ok => 0
  | .authFailed => 1
  | .forbidden => 2
  | .unreachable => 3
  | .badRequest => 4
  | .unsupported => 5
  | .serverError => 6

def Status.fromU8 (value : UInt8) : Option Status :=
  if value = 0 then some .ok
  else if value = 1 then some .authFailed
  else if value = 2 then some .forbidden
  else if value = 3 then some .unreachable
  else if value = 4 then some .badRequest
  else if value = 5 then some .unsupported
  else if value = 6 then some .serverError
  else none

/-- `impl Display for Status`. -/
def Status.display : Status → String
  | .ok => "ok"
  | .authFailed => "authentication failed"
  | .forbidden => "target not allowed by server policy"
  | .unreachable => "target unreachable from the VM"
  | .badRequest => "malformed request"
  | .unsupported => "unsupported command"
  | .serverError => "server error"

/-! ## Addresses -/

/-- Target endpoint of a proxied flow. -/
inductive Address where
  | ip (addr : SocketAddr)
  | domain (host : String) (port : UInt16)
  deriving DecidableEq

namespace Address

/-- The bytes `encode` appends to its output buffer.  A name is cut to its
first 255 bytes so that the length prefix cannot overflow. -/
def encode : Address → List UInt8
  | .ip (.v4 addr) => [atypIpv4] ++ addr.ip.octets.toList ++ toBeBytes addr.port
  | .ip (.v6 addr) => [atypIpv6] ++ addr.ip.octets.toList ++ toBeBytes addr.port
  | .domain host port =>
      let bytes := asBytes host
      let length := min bytes.length 255
      [atypDomain, UInt8.ofNat length] ++ bytes.take length ++ toBeBytes port

def readFrom : Decoder Address := do
  let atyp ← readU8
  if atyp = atypIpv4 then
    let octets ← readBytes 4
    let port ← readU16
    return .ip (.new (.v4 ⟨octets⟩) port)
  else if atyp = atypIpv6 then
    let octets ← readBytes 16
    let port ← readU16
    return .ip (.new (.v6 ⟨octets⟩) port)
  else if atyp = atypDomain then
    let length ← readU8
    let buf ← readBytes length.toNat
    let port ← readU16
    let host ← fromOption (.invalidData "domain is not valid utf-8")
      (fromUtf8 buf.toList)
    return .domain host port
  else
    throw (.invalidData s!"unknown address type {atyp}")

/-- `impl Display for Address`. -/
def display : Address → String
  | .ip addr => addr.display
  | .domain host port => s!"{host}:{port}"

end Address

/-! ## Requests -/

structure Request where
  cmd : Cmd
  token : String
  target : Address
  deriving DecidableEq

namespace Request

/-- The buffer `write_to` assembles before writing anything. -/
def buf (request : Request) : List UInt8 :=
  magic ++ [version, request.cmd.toU8, UInt8.ofNat (asBytes request.token).length] ++
    asBytes request.token ++ request.target.encode

def writeTo {M : Type → Type} [Monad M] [AsyncWrite M] (request : Request) :
    ExceptT IoError M Unit :=
  if (asBytes request.token).length > 255 then
    throw ⟨.invalidInput, "token longer than 255 bytes"⟩
  else do
    AsyncWrite.writeAll request.buf
    AsyncWrite.flush

def readFrom : Decoder Request := do
  let prelude ← readBytes 4
  ensure (prelude.toList = magic) (.invalidData "bad magic")
  let announced ← readU8
  ensure (announced = version)
    (.invalidData s!"unsupported protocol version {announced}")
  let command ← readU8
  let cmd ← fromOption (.invalidData "unknown command") (Cmd.fromU8 command)
  let tokenLen ← readU8
  let tokenBytes ← readBytes tokenLen.toNat
  let token ← fromOption (.invalidData "token is not valid utf-8")
    (fromUtf8 tokenBytes.toList)
  let target ← Address.readFrom
  return ⟨cmd, token, target⟩

end Request

/-! ## Responses -/

structure Response where
  status : Status
  message : String
  deriving DecidableEq

namespace Response

def ok : Response := ⟨.ok, ""⟩

def err (status : Status) (message : String) : Response := ⟨status, message⟩

/-- The text in which the clients report a refusal. -/
def detail (response : Response) : String :=
  if response.message = "" then
    response.status.display
  else
    s!"{response.status.display}: {response.message}"

/-- The buffer `write_to` assembles: the message is cut to 255 bytes. -/
def buf (response : Response) : List UInt8 :=
  let message := asBytes response.message
  let length := min message.length 255
  magic ++ [version, response.status.toU8, UInt8.ofNat length] ++ message.take length

def writeTo {M : Type → Type} [Monad M] [AsyncWrite M] (response : Response) :
    ExceptT IoError M Unit := do
  AsyncWrite.writeAll response.buf
  AsyncWrite.flush

def readFrom : Decoder Response := do
  let prelude ← readBytes 4
  ensure (prelude.toList = magic) (.invalidData "bad magic in response")
  let announced ← readU8
  ensure (announced = version)
    (.invalidData s!"unsupported protocol version {announced} in response")
  let code ← readU8
  let status ← fromOption (.invalidData "unknown status code") (Status.fromU8 code)
  let length ← readU8
  let message ← readBytes length.toNat
  return ⟨status, fromUtf8Lossy message.toList⟩

end Response

end VpnBridge.Proto
