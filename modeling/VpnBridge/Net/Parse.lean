import VpnBridge.Net.Address
import Mathlib.Data.Nat.Notation

/-!
# Reading addresses

`str::parse` for `std::net::IpAddr`.  Its readers take what they can use off the
front of a text; a reader that fails leaves the text as it was.
-/

namespace VpnBridge.Net

/-- A reader of `core::net::parser`, which keeps what it leaves unread. -/
abbrev Reader (A : Type) := StateT (List Char) Option A

/-- `char::to_digit`. -/
def toDigit (radix : ℕ) (character : Char) : Option ℕ :=
  let code := character.toNat
  let digit :=
    if 48 ≤ code ∧ code ≤ 57 then some (code - 48)
    else if 97 ≤ code ∧ code ≤ 122 then some (code - 87)
    else if 65 ≤ code ∧ code ≤ 90 then some (code - 55)
    else none
  digit.filter (· < radix)

def readGivenChar (given : Char) : Reader Unit
  | [] => none
  | character :: text => if character = given then some ((), text) else none

/-- The digits at the front of a text. -/
def readDigits (radix : ℕ) : List Char → List ℕ × List Char
  | [] => ([], [])
  | character :: text =>
      match toDigit radix character with
      | some digit =>
          let (digits, rest) := readDigits radix text
          (digit :: digits, rest)
      | none => ([], character :: text)

/-- A number of at most `maxDigits` digits that is at most `maxValue`. -/
def readNumber (radix maxDigits : ℕ) (allowZeroPrefix : Bool) (maxValue : ℕ) :
    Reader ℕ := fun text =>
  let (digits, rest) := readDigits radix text
  let value := digits.foldl (fun value digit => value * radix + digit) 0
  if maxDigits < digits.length ∨ digits = [] then none
  else if allowZeroPrefix = false ∧ digits.head? = some 0 ∧ 1 < digits.length then none
  else if maxValue < value then none
  else some (value, rest)

/-- What comes before all but the first of a sequence. -/
def readSeparator {A : Type} (separator : Char) (isFirst : Bool) (inner : Reader A) :
    Reader A := do
  if isFirst = false then readGivenChar separator
  inner

def readIpv4Addr : Reader Ipv4Addr := do
  let octet := readNumber 10 3 false 255
  let first ← readSeparator '.' true octet
  let second ← readSeparator '.' false octet
  let third ← readSeparator '.' false octet
  let fourth ← readSeparator '.' false octet
  return ⟨⟨[UInt8.ofNat first, UInt8.ofNat second, UInt8.ofNat third, UInt8.ofNat fourth],
    rfl⟩⟩

/-- The two groups of an embedded IPv4 address. -/
def Ipv4Addr.groups (addr : Ipv4Addr) : List ℕ :=
  let octet index := (addr.octets.toList.getD index 0).toNat
  [octet 0 * 256 + octet 1, octet 2 * 256 + octet 3]

/-- Up to `remaining` groups of an IPv6 address, with an IPv4 address at the end where
two are left, and whether there was one. -/
def readGroups : ℕ → Bool → List Char → (List ℕ × Bool) × List Char
  | 0, _, text => (([], false), text)
  | remaining + 1, isFirst, text =>
      let embedded :=
        if 0 < remaining then readSeparator ':' isFirst readIpv4Addr text else none
      match embedded with
      | some (addr, rest) => ((addr.groups, true), rest)
      | none =>
          match readSeparator ':' isFirst (readNumber 16 4 true 0xffff) text with
          | some (group, rest) =>
              let ((groups, ipv4), rest) := readGroups remaining false rest
              ((group :: groups, ipv4), rest)
          | none => (([], false), text)

/-- The address with these groups. -/
def Ipv6Addr.ofGroups (groups : List ℕ) : Ipv6Addr :=
  let octets := groups.flatMap fun group => [UInt8.ofNat (group / 256), UInt8.ofNat group]
  ⟨.ofFn fun index => octets.getD index 0⟩

def readIpv6Addr : Reader Ipv6Addr := do
  let (head, headIpv4) ← fun text => some (readGroups 8 true text)
  if head.length = 8 then
    return .ofGroups head
  else if headIpv4 then
    failure
  else
    readGivenChar ':'
    readGivenChar ':'
    let (tail, _) ← fun text => some (readGroups (8 - (head.length + 1)) true text)
    return .ofGroups (head ++ List.replicate (8 - head.length - tail.length) 0 ++ tail)

def readIpAddr : Reader IpAddr :=
  (IpAddr.v4 <$> readIpv4Addr) <|> (IpAddr.v6 <$> readIpv6Addr)

/-- `str::parse::<IpAddr>().ok()`: the address is the whole text. -/
def IpAddr.parse (text : String) : Option IpAddr :=
  match readIpAddr text.toList with
  | some (addr, []) => some addr
  | _ => none

example : IpAddr.parse "192.0.2.1" = some (.v4 ⟨⟨[192, 0, 2, 1], rfl⟩⟩) := by decide

example : (IpAddr.parse "fe80::1:2", IpAddr.parse "::ffff:10.0.0.1") =
    (some (.v6 ⟨⟨[0xfe, 0x80, 0, 0, 0, 0, 0, 0, 0, 0, 0, 0, 0, 1, 0, 2], rfl⟩⟩),
      some (.v6 (Ipv4Addr.toIpv6Mapped ⟨⟨[10, 0, 0, 1], rfl⟩⟩))) := by decide

example : ["inet6", "10.0.0.01", "10.0.0.256", "fe80::1%eth0", "1:2:3:4:5:6:7"].map
    IpAddr.parse = [none, none, none, none, none] := by decide

end VpnBridge.Net
