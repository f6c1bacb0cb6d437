import VpnBridge.Host.Route
import VpnBridge.Net.Parse

/-!
# Reading `ip route get`

`lookup` scans the first line of the output of `ip route get` for the words
`via`, `dev` and `src`, and takes the token behind each as its value.  A gateway
of the other address family stands behind one more word, and is missed.
-/

namespace VpnBridge.Host

open VpnBridge.Net VpnBridge.Proto

/-! ## Text -/

/-- `str::lines().next()`. -/
def firstLine (out : List Char) : Option (List Char) :=
  let line := out.takeWhile (· ≠ '\n')
  if out = [] then none
  -- A carriage return belongs to the line ending only in front of a newline.
  else if line.length < out.length ∧ line.getLast? = some '\r' then some line.dropLast
  else some line

/-- `str::split_whitespace`; `word` is the token being read. -/
def splitWhitespaceFrom (word : List Char) : List Char → List String
  | [] => if word = [] then [] else [String.ofList word]
  | character :: text =>
      if isWhitespace character = true then
        if word = [] then splitWhitespaceFrom [] text
        else String.ofList word :: splitWhitespaceFrom [] text
      else splitWhitespaceFrom (word ++ [character]) text

def splitWhitespace (line : List Char) : List String :=
  splitWhitespaceFrom [] line

/-! ## The scan -/

/-- The loop of `lookup` over the tokens. -/
def scan (hop : NextHop) : List String → NextHop
  | [] => hop
  | [token] =>
      if token = "via" then { hop with gateway := none }
      else if token = "dev" then { hop with dev := "" }
      else if token = "src" then { hop with src := none }
      else hop
  | token :: value :: rest =>
      if token = "via" then scan { hop with gateway := IpAddr.parse value } rest
      else if token = "dev" then scan { hop with dev := value } rest
      else if token = "src" then scan { hop with src := IpAddr.parse value } rest
      else scan hop (value :: rest)

/-- What `lookup` makes of the output of `ip route get`. -/
def parseHop (target out : String) : Except AnyhowError NextHop :=
  match firstLine out.toList with
  | none => .error [s!"empty output from `ip route get {target}`"]
  | some first =>
      let hop := scan ⟨"", none, none⟩ (splitWhitespace first)
      if hop.dev = "" then
        .error [s!"could not determine outgoing device for {target}: {String.ofList first}"]
      else .ok hop

/-! ## The lines of `ip route get` -/

/-- An attribute behind the destination. -/
inductive Attribute where
  /-- `via GW`, or `via inet6 GW`. -/
  | via (family : Bool) (gateway : String)
  | dev (name : String)
  | src (addr : String)
  | other (token : String)
  deriving DecidableEq

namespace Attribute

def tokens : Attribute → List String
  | .via family gateway => "via" :: ((if family then ["inet6"] else []) ++ [gateway])
  | .dev name => ["dev", name]
  | .src addr => ["src", addr]
  | .other token => [token]

/-- The values have the right form, and nothing else is spelled like a keyword. -/
def WellFormed : Attribute → Prop
  | .via _ gateway => (IpAddr.parse gateway).isSome = true
  | .dev name => name ≠ ""
  | .src addr => (IpAddr.parse addr).isSome = true
  | .other token => token ≠ "via" ∧ token ≠ "dev" ∧ token ≠ "src"

instance : DecidablePred WellFormed
  | .via _ _ => inferInstanceAs (Decidable (_ = true))
  | .dev _ => inferInstanceAs (Decidable (_ ≠ _))
  | .src _ => inferInstanceAs (Decidable (_ = true))
  | .other _ => inferInstanceAs (Decidable (_ ∧ _ ∧ _))

def gateway? : Attribute → Option (Bool × String)
  | .via family gateway => some (family, gateway)
  | _ => none

def name? : Attribute → Option String
  | .dev name => some name
  | _ => none

def addr? : Attribute → Option String
  | .src addr => some addr
  | _ => none

/-- What the scan makes of an attribute. -/
def apply (hop : NextHop) : Attribute → NextHop
  | .via family gateway =>
      { hop with gateway := if family then none else IpAddr.parse gateway }
  | .dev name => { hop with dev := name }
  | .src addr => { hop with src := IpAddr.parse addr }
  | .other _ => hop

end Attribute

/-- A line: a route type, the destination and the attributes. -/
structure RouteLine where
  kind : Option String
  destination : String
  attributes : List Attribute

namespace RouteLine

/-- The words before the attributes. -/
def head (line : RouteLine) : List Attribute :=
  (line.kind.toList ++ [line.destination]).map .other

def tokens (line : RouteLine) : List String :=
  (line.head ++ line.attributes).flatMap Attribute.tokens

/-- One device, and at most one gateway and one source address. -/
structure WellFormed (line : RouteLine) (name : String) (via : Option (Bool × String))
    (source : Option String) : Prop where
  wellFormed : ∀ attr ∈ line.head ++ line.attributes, attr.WellFormed
  name_eq : line.attributes.filterMap Attribute.name? = [name]
  via_eq : line.attributes.filterMap Attribute.gateway? = via.toList
  source_eq : line.attributes.filterMap Attribute.addr? = source.toList

end RouteLine

/-! ## The scan of a line -/

section Scan

variable {hop : NextHop} {attributes : List Attribute} {rest : List String}

theorem parse_inet6 : IpAddr.parse "inet6" = none := by decide

theorem scan_cons_of_other {token : String}
    (htoken : token ≠ "via" ∧ token ≠ "dev" ∧ token ≠ "src") :
    scan hop (token :: rest) = scan hop rest := by
  obtain ⟨hvia, hdev, hsrc⟩ := htoken
  cases rest with
  | nil => simp only [scan, if_neg hvia, if_neg hdev, if_neg hsrc]
  | cons value rest => rw [scan, if_neg hvia, if_neg hdev, if_neg hsrc]

/-- An address is not spelled like a keyword. -/
theorem ne_keyword_of_parse {token : String} (hparse : (IpAddr.parse token).isSome = true) :
    token ≠ "via" ∧ token ≠ "dev" ∧ token ≠ "src" := by
  have hvia : IpAddr.parse "via" = none := by decide
  have hdev : IpAddr.parse "dev" = none := by decide
  have hsrc : IpAddr.parse "src" = none := by decide
  refine ⟨?_, ?_, ?_⟩
  · rintro rfl
    rw [hvia] at hparse
    cases hparse
  · rintro rfl
    rw [hdev] at hparse
    cases hparse
  · rintro rfl
    rw [hsrc] at hparse
    cases hparse

/-- The scan goes through a line attribute by attribute. -/
theorem scan_tokens_append {attr : Attribute} (hwell : attr.WellFormed) :
    scan hop (attr.tokens ++ rest) = scan (attr.apply hop) rest := by
  cases attr with
  | via family gateway =>
      cases family with
      | true =>
          -- The word is taken for the gateway, and the gateway for another token.
          change scan hop ("via" :: "inet6" :: gateway :: rest) = _
          rw [scan, if_pos rfl, parse_inet6, scan_cons_of_other (ne_keyword_of_parse hwell)]
          rfl
      | false =>
          change scan hop ("via" :: gateway :: rest) = _
          rw [scan, if_pos rfl]
          rfl
  | dev name =>
      change scan hop ("dev" :: name :: rest) = _
      rw [scan, if_neg (by decide), if_pos rfl]
      rfl
  | src addr =>
      change scan hop ("src" :: addr :: rest) = _
      rw [scan, if_neg (by decide), if_neg (by decide), if_pos rfl]
      rfl
  | other token => exact scan_cons_of_other hwell

theorem scan_flatMap_tokens (hop : NextHop)
    (hwell : ∀ attr ∈ attributes, attr.WellFormed) :
    scan hop (attributes.flatMap Attribute.tokens) = attributes.foldl Attribute.apply hop := by
  induction attributes generalizing hop with
  | nil => rw [List.flatMap_nil, scan, List.foldl_nil]
  | cons attr attributes ih =>
      rw [List.forall_mem_cons] at hwell
      rw [List.flatMap_cons, scan_tokens_append hwell.1, ih _ hwell.2, List.foldl_cons]

/-- Each field is that of the last attribute of its kind. -/
theorem dev_foldl (hop : NextHop) (attributes : List Attribute) :
    (attributes.foldl Attribute.apply hop).dev =
      (attributes.filterMap Attribute.name?).foldl (fun _ name => name) hop.dev := by
  induction attributes generalizing hop with
  | nil => rfl
  | cons attr attributes ih =>
      rw [List.foldl_cons, ih]
      cases attr <;> rfl

theorem gateway_foldl (hop : NextHop) (attributes : List Attribute) :
    (attributes.foldl Attribute.apply hop).gateway =
      (attributes.filterMap Attribute.gateway?).foldl
        (fun _ via => if via.1 then none else IpAddr.parse via.2) hop.gateway := by
  induction attributes generalizing hop with
  | nil => rfl
  | cons attr attributes ih =>
      rw [List.foldl_cons, ih]
      cases attr <;> rfl

theorem src_foldl (hop : NextHop) (attributes : List Attribute) :
    (attributes.foldl Attribute.apply hop).src =
      (attributes.filterMap Attribute.addr?).foldl (fun _ addr => IpAddr.parse addr)
        hop.src := by
  induction attributes generalizing hop with
  | nil => rfl
  | cons attr attributes ih =>
      rw [List.foldl_cons, ih]
      cases attr <;> rfl

end Scan

/-- What a line says. -/
def saysHop (name : String) (via : Option (Bool × String)) (source : Option String) :
    NextHop where
  dev := name
  gateway := via.bind fun via => IpAddr.parse via.2
  src := source.bind IpAddr.parse

namespace RouteLine

variable {line : RouteLine} {name : String} {via : Option (Bool × String)}
variable {source : Option String}

theorem filterMap_head {A : Type} {kind : Attribute → Option A}
    (hother : ∀ token, kind (.other token) = none) : line.head.filterMap kind = [] := by
  rw [head, List.filterMap_map, List.filterMap_eq_nil_iff]
  exact fun token _ => hother token

/-- The scan of a line: all that it says, but for a gateway of the other family. -/
theorem scan_tokens (hwell : line.WellFormed name via source) :
    scan ⟨"", none, none⟩ line.tokens =
      { saysHop name via source with
        gateway := via.bind fun via => if via.1 then none else IpAddr.parse via.2 } := by
  have hscan := scan_flatMap_tokens ⟨"", none, none⟩ hwell.wellFormed
  have hdev := dev_foldl ⟨"", none, none⟩ (line.head ++ line.attributes)
  have hgateway := gateway_foldl ⟨"", none, none⟩ (line.head ++ line.attributes)
  have hsrc := src_foldl ⟨"", none, none⟩ (line.head ++ line.attributes)
  rw [List.filterMap_append, filterMap_head fun _ => rfl, List.nil_append] at hdev hgateway hsrc
  rw [hwell.name_eq] at hdev
  rw [hwell.via_eq] at hgateway
  rw [hwell.source_eq] at hsrc
  rw [tokens, hscan]
  generalize (line.head ++ line.attributes).foldl Attribute.apply ⟨"", none, none⟩ = found
    at hdev hgateway hsrc ⊢
  obtain ⟨dev, gateway, src⟩ := found
  rw [NextHop.mk.injEq]
  refine ⟨hdev, hgateway.trans ?_, hsrc.trans ?_⟩
  · cases via <;> rfl
  · cases source <;> rfl

theorem name_ne_empty (hwell : line.WellFormed name via source) : name ≠ "" := by
  have hname : name ∈ line.attributes.filterMap Attribute.name? := by
    rw [hwell.name_eq]
    exact List.mem_singleton_self name
  obtain ⟨attr, hmem, hattr⟩ := List.mem_filterMap.mp hname
  have hattr' := hwell.wellFormed attr (List.mem_append_right _ hmem)
  cases attr with
  | dev other =>
      cases hattr
      exact hattr'
  | _ => cases hattr

theorem gateway_isSome (hwell : line.WellFormed name via source) {gateway : Bool × String}
    (hvia : via = some gateway) : (IpAddr.parse gateway.2).isSome = true := by
  have hgateway : gateway ∈ line.attributes.filterMap Attribute.gateway? := by
    rw [hwell.via_eq, hvia]
    exact List.mem_singleton_self gateway
  obtain ⟨attr, hmem, hattr⟩ := List.mem_filterMap.mp hgateway
  have hattr' := hwell.wellFormed attr (List.mem_append_right _ hmem)
  cases attr with
  | via family other =>
      cases hattr
      exact hattr'
  | _ => cases hattr

end RouteLine

/-- `lookup` returns all that the line says exactly if its gateway, where it has one, is
given without a word for the family. -/
theorem parseHop_says_iff {target out : String} {first : List Char} {line : RouteLine}
    {name : String} {via : Option (Bool × String)} {source : Option String}
    (hfirst : firstLine out.toList = some first)
    (htokens : splitWhitespace first = line.tokens)
    (hwell : line.WellFormed name via source) :
    parseHop target out = .ok (saysHop name via source) ↔
      ∀ gateway, via ≠ some (true, gateway) := by
  have hparse : parseHop target out = .ok { saysHop name via source with
      gateway := via.bind fun via => if via.1 then none else IpAddr.parse via.2 } := by
    simp only [parseHop, hfirst, htokens, RouteLine.scan_tokens hwell]
    exact if_neg (RouteLine.name_ne_empty hwell)
  rw [hparse, Except.ok.injEq, NextHop.mk.injEq]
  constructor
  · rintro ⟨-, hgateway, -⟩ gateway rfl
    have hsome := RouteLine.gateway_isSome hwell rfl
    rw [← show none = IpAddr.parse gateway from hgateway] at hsome
    cases hsome
  · intro hfamily
    refine ⟨rfl, ?_, rfl⟩
    cases via with
    | none => rfl
    | some gateway =>
        obtain ⟨family, gateway⟩ := gateway
        cases family with
        | true => exact absurd rfl (hfamily gateway)
        | false => rfl

/-- A device that is called `via`, behind a gateway. -/
theorem parseHop_says_sample :
    parseHop "192.0.2.1"
        "192.0.2.1 via 198.51.100.7 dev via src 198.51.100.9 uid 0\n    cache\n" =
      .ok (saysHop "via" (some (false, "198.51.100.7")) (some "198.51.100.9")) := by
  let line : RouteLine :=
    ⟨none, "192.0.2.1", [.via false "198.51.100.7", .dev "via", .src "198.51.100.9",
      .other "uid", .other "0"]⟩
  have hwell : line.WellFormed "via" (some (false, "198.51.100.7")) (some "198.51.100.9") :=
    ⟨by decide, rfl, rfl, rfl⟩
  have hfirst : firstLine
      "192.0.2.1 via 198.51.100.7 dev via src 198.51.100.9 uid 0\n    cache\n".toList =
      some "192.0.2.1 via 198.51.100.7 dev via src 198.51.100.9 uid 0".toList := by
    decide
  have htokens : splitWhitespace
      "192.0.2.1 via 198.51.100.7 dev via src 198.51.100.9 uid 0".toList = line.tokens := by
    decide
  exact (parseHop_says_iff hfirst htokens hwell).mpr (by simp)

/-- An IPv4 destination behind an IPv6 gateway: the gateway is lost. -/
theorem parseHop_loses_gateway :
    ¬ ∀ (target out : String) (first : List Char) (line : RouteLine) (name : String)
        (via : Option (Bool × String)) (source : Option String),
      firstLine out.toList = some first → splitWhitespace first = line.tokens →
      line.WellFormed name via source →
      parseHop target out = .ok (saysHop name via source) := by
  intro hall
  let line : RouteLine :=
    ⟨none, "192.0.2.1", [.via true "fe80::1", .dev "eth0"]⟩
  have hwell : line.WellFormed "eth0" (some (true, "fe80::1")) none :=
    ⟨by decide, rfl, rfl, rfl⟩
  have hfirst : firstLine "192.0.2.1 via inet6 fe80::1 dev eth0".toList =
      some "192.0.2.1 via inet6 fe80::1 dev eth0".toList := by
    decide
  have htokens : splitWhitespace "192.0.2.1 via inet6 fe80::1 dev eth0".toList =
      line.tokens := by
    decide
  have hfound : parseHop "192.0.2.1" "192.0.2.1 via inet6 fe80::1 dev eth0" =
      .ok ⟨"eth0", none, none⟩ := by
    decide
  have hsays := hall "192.0.2.1" "192.0.2.1 via inet6 fe80::1 dev eth0" _ line _ _ _
    hfirst htokens hwell
  rw [hfound] at hsays
  have hgateway : none = IpAddr.parse "fe80::1" :=
    congrArg NextHop.gateway (Except.ok.inj hsays)
  have hsome : (IpAddr.parse "fe80::1").isSome = true := by decide
  rw [← hgateway] at hsome
  cases hsome

end VpnBridge.Host
