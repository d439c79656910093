import RouteFlow.Url.Domain.Basic
import RouteFlow.Url.Escape

/-!
# Hosts

The host of an address is a name or a number. Names of the web take the form in which they are
sent; a name whose last label is a number is an IPv4 address, and one in brackets an IPv6 address.
In other schemes a name stays as it is but for escapes.

* `Host.parse`: the host of an address of the web.
* `Host.parseOpaque`: the host of any other address.
-/

namespace RouteFlow

namespace Url

/-- Why a text is not an address. -/
inductive Fault where
  | emptyHost
  | badDomain
  | badPort
  | badIpv4
  | badIpv6
  | badHostCharacter
  | relative
  deriving DecidableEq, Repr

/-- The wording of a fault. -/
def Fault.message : Fault → String
  | .emptyHost => "empty host"
  | .badDomain => "invalid international domain name"
  | .badPort => "invalid port number"
  | .badIpv4 => "invalid IPv4 address"
  | .badIpv6 => "invalid IPv6 address"
  | .badHostCharacter => "invalid domain character"
  | .relative => "relative URL without a base"

/-- A host: a name, the number of an IPv4 address, or the eight parts of an IPv6 address. -/
inductive Host where
  | name (text : String)
  | ipv4 (number : Nat)
  | ipv6 (parts : List Nat)
  deriving DecidableEq

namespace Host

/-! ### Writing -/

/-- The text of an IPv4 address. -/
def ipv4Text (n : Nat) : String :=
  String.intercalate "." ([n >>> 24, (n >>> 16) % 256, (n >>> 8) % 256, n % 256].map toString)

/-- The length of the run of zeros at the start. -/
def zeros (parts : List Nat) : Nat := (parts.takeWhile (· == 0)).length

/-- Where the first longest run of zeros begins and how long it is, counted from position `i`; the
best so far is `best`. -/
def longestZeros (best : Nat × Nat) (i : Nat) : List Nat → Nat × Nat
  | [] => best
  | p :: rest =>
    let n := zeros (p :: rest)
    longestZeros (if best.2 < n then (i, n) else best) (i + 1) rest

/-- Parts in hexadecimal, joined by colons. -/
def partsText (parts : List Nat) : List Char :=
  (parts.map fun p => Nat.toDigits 16 p).intersperse [':'] |>.flatten

/-- The text of an IPv6 address: the first longest run of two or more zeros is left out. -/
def ipv6Text (parts : List Nat) : List Char :=
  let (i, n) := longestZeros (0, 0) 0 parts
  if n < 2 then partsText parts
  else partsText (parts.take i) ++ [':', ':'] ++ partsText (parts.drop (i + n))

/-- The text of a host. -/
def text : Host → List Char
  | .name s => s.toList
  | .ipv4 n => (ipv4Text n).toList
  | .ipv6 parts => '[' :: ipv6Text parts ++ [']']

/-! ### Numbers -/

/-- The value of a digit in any base up to 16. -/
def digitValue? (c : Char) : Option Nat :=
  if '0' ≤ c ∧ c ≤ '9' then some (c.toNat - 48)
  else if 'a' ≤ c ∧ c ≤ 'f' then some (c.toNat - 87)
  else if 'A' ≤ c ∧ c ≤ 'F' then some (c.toNat - 55)
  else none

/-- The number that digits in a base denote, zero for none. -/
def numberIn? (base : Nat) (cs : List Char) : Option Nat :=
  cs.foldlM (fun n c => ((digitValue? c).filter (· < base)).map (n * base + ·)) 0

/-- The number of a label: hexadecimal after `0x`, octal after `0`, else decimal. -/
def labelNumber? : List Char → Option Nat
  | [] => none
  | '0' :: 'x' :: cs | '0' :: 'X' :: cs => numberIn? 16 cs
  | '0' :: c :: cs => numberIn? 8 (c :: cs)
  | cs => numberIn? 10 cs

/-- The labels of a name, an empty last one left out. -/
def labels (domain : List Char) : List (List Char) :=
  let ls := domain.splitOn '.'
  if 1 < ls.length ∧ ls.getLast? = some [] then ls.dropLast else ls

/-- Whether the last label of a name is a number. -/
def endsInNumber (domain : List Char) : Bool :=
  match (labels domain).getLast? with
  | none | some [] => false
  | some l => l.all Text.isDecimal || (labelNumber? l).isSome

/-- The IPv4 address that a name denotes: the last number fills the octets that are left. -/
def ipv4? (domain : List Char) : Option Nat :=
  match (labels domain).mapM labelNumber? with
  | none => none
  | some numbers =>
    let heads := numbers.dropLast
    let last := numbers.getLastD 0
    if 4 < numbers.length ∨ heads.any (255 < ·) ∨ 1 <<< (8 * (4 - heads.length)) ≤ last then none
    else some (heads.zipIdx.foldl (fun total (n, i) => total + n <<< (8 * (3 - i))) last)

/-! ### IPv6 -/

/-- The number of an octet in decimal, without idle zeros. -/
def octet? (cs : List Char) : Option Nat :=
  match cs with
  | ['0'] => some 0
  | '0' :: _ => none
  | _ => (Text.digits? cs).filter (· < 256)

/-- The two parts that an IPv4 address at the end stands for. -/
def embedded? (cs : List Char) : Option (List Nat) :=
  match (cs.splitOn '.').mapM octet? with
  | some [a, b, c, d] => some [a * 256 + b, c * 256 + d]
  | _ => none

/-- A part: one to four hexadecimal digits. -/
def part? (cs : List Char) : Option Nat :=
  if cs.isEmpty || 4 < cs.length then none else numberIn? 16 cs

/-- The parts of a text without `::`; the last may be an IPv4 address. -/
def parts? (cs : List Char) : Option (List Nat) :=
  if cs.isEmpty then some []
  else
    let groups := cs.splitOn ':'
    let last := groups.getLastD []
    match groups.dropLast.mapM part? with
    | none => none
    | some heads =>
      if last.contains '.' then (embedded? last).map (heads ++ ·)
      else (part? last).map fun p => heads ++ [p]

/-- The address between the brackets. -/
def ipv6? (cs : List Char) : Option (List Nat) :=
  match Text.cut? [':', ':'] cs with
  | none => (parts? cs).filter (·.length == 8)
  | some (before, after) =>
    match parts? before, parts? after with
    | some a, some b =>
      if 8 ≤ a.length + b.length ∨ before.contains '.' then none
      else some (a ++ List.replicate (8 - a.length - b.length) 0 ++ b)
    | _, _ => none

/-- A host in brackets, the opening one passed. -/
def bracketed (cs : List Char) : Except Fault Host :=
  if cs.getLast? = some ']' then
    match ipv6? cs.dropLast with
    | some parts => .ok (.ipv6 parts)
    | none => .error .badIpv6
  else .error .badIpv6

/-! ### Names -/

/-- Reads the host of an address of the web. -/
def parse (cs : List Char) : Except Fault Host :=
  match cs with
  | '[' :: rest => bracketed rest
  | _ =>
    let text? := Text.Utf8.decode? (unescape (Text.octets (String.ofList cs)))
    match text?.bind fun s => Domain.asciiName? s.toList with
    | none => .error .badDomain
    | some [] => .error .emptyHost
    | some domain =>
      if endsInNumber domain then
        match ipv4? domain with
        | some n => .ok (.ipv4 n)
        | none => .error .badIpv4
      else .ok (.name (String.ofList domain))

/-- Reads the host of an address outside the web. -/
def parseOpaque (cs : List Char) : Except Fault Host :=
  match cs with
  | '[' :: rest => bracketed rest
  | _ =>
    if cs.any fun c =>
        c.toNat == 0 || c == '\t' || c == '\n' || c == '\r' || " #/:<>?@[\\]^|".toList.contains c
    then .error .badHostCharacter
    else .ok (.name (String.ofList (escape isControl cs)))

end Host
end Url
end RouteFlow
