import CallerClosure.Domain.Basic
import CallerClosure.Uri.Percent

/-!
# Hosts

The host of a special scheme is a domain in ASCII, an IPv4 address in any of its numeric
spellings, or an IPv6 address in brackets. The host of any other scheme is kept as it is, but
for encoding.
-/

namespace CallerClosure

/-- Why a text is not a URI. -/
inductive UriError
  | emptyHost
  | invalidDomain
  | invalidPort
  | invalidIpv4
  | invalidIpv6
  | invalidDomainCharacter
  | relativeWithoutBase
  deriving DecidableEq

/-- The wording of a URI error. -/
def UriError.message : UriError → String
  | emptyHost => "empty host"
  | invalidDomain => "invalid international domain name"
  | invalidPort => "invalid port number"
  | invalidIpv4 => "invalid IPv4 address"
  | invalidIpv6 => "invalid IPv6 address"
  | invalidDomainCharacter => "invalid domain character"
  | relativeWithoutBase => "relative URL without a base"

namespace Host

/-- The number that digits of a base spell. -/
def digits? (base : Nat) (t : Text) : Option Nat :=
  t.foldl (fun n c =>
    match n, Percent.hexValue? c with
    | some n, some d => if d < base then some (n * base + d) else none
    | _, _ => none) (some 0)

/-- The number that a part of an IPv4 address spells: decimal, octal after `0` or hexadecimal
after `0x`. -/
def ipv4Number? : Text → Option Nat
  | [] => none
  | '0' :: 'x' :: rest => digits? 16 rest
  | '0' :: 'X' :: rest => digits? 16 rest
  | '0' :: rest => digits? 8 rest
  | t => digits? 10 t

/-- The dotted parts of a domain, without the empty one after a final dot. -/
def dottedParts (domain : Text) : List Text :=
  let parts := Text.splitOn '.' domain
  if parts.getLast? = some [] ∧ 1 < parts.length then parts.dropLast else parts

/-- Whether the last part of a domain is a number, so that the domain has to be an IPv4
address. -/
def endsInNumber (domain : Text) : Bool :=
  match (dottedParts domain).getLast? with
  | none => false
  | some last => (!last.isEmpty && last.all Char.isDigit) || (ipv4Number? last).isSome

/-- The weight of the byte number `k` of an address, counted from its end. -/
def byteWeight : Nat → Nat
  | 0 => 1
  | k + 1 => 256 * byteWeight k

/-- The IPv4 address of a domain that ends in a number. -/
def ipv4? (domain : Text) : Except UriError Text :=
  let parts := dottedParts domain
  if 4 < parts.length then .error .invalidIpv4
  else
    match parts.mapM ipv4Number? with
    | none => .error .invalidIpv4
    | some numbers =>
      let front := numbers.dropLast
      let last := numbers.getLastD 0
      if front.any (255 < ·) || byteWeight (5 - numbers.length) ≤ last then .error .invalidIpv4
      else
        let address := (front.foldl (fun n x => n * 256 + x) 0) *
          byteWeight (4 - front.length) + last
        let part (k : Nat) : String := toString (address / byteWeight k % 256)
        .ok (part 3 ++ "." ++ part 2 ++ "." ++ part 1 ++ "." ++ part 0).toList

/-- The two groups of an IPv6 address that a dotted IPv4 address at its end spells. -/
def embeddedIpv4? (t : Text) : Option (List Nat) := do
  let parts := Text.splitOn '.' t
  if parts.length ≠ 4 then none
  else
    let numbers ← parts.mapM fun p =>
      if p.isEmpty || (p.length ≠ 1 && p.head? == some '0') then none
      else (digits? 10 p).filter (· ≤ 255)
    match numbers with
    | [a, b, c, d] => some [a * 256 + b, c * 256 + d]
    | _ => none

/-- The groups that a text without `::` spells. Only the last one may be dotted. -/
def ipv6Groups? : List Text → Option (List Nat)
  | [] => some []
  | [last] =>
    if last.contains '.' then embeddedIpv4? last
    else if last.isEmpty || 4 < last.length then none
    else (digits? 16 last).map ([·])
  | g :: rest => do
    if g.isEmpty || 4 < g.length then none
    else
      let n ← digits? 16 g
      let ns ← ipv6Groups? rest
      pure (n :: ns)

/-- The two halves of a text around its first `::`. -/
def aroundDouble : Text → Option (Text × Text)
  | [] => none
  | ':' :: ':' :: rest => some ([], rest)
  | c :: rest => (aroundDouble rest).map fun h => (c :: h.1, h.2)

/-- The groups of one half of an address; nothing stands for no groups. -/
def ipv6Half? (t : Text) : Option (List Nat) :=
  if t.isEmpty then some [] else ipv6Groups? (Text.splitOn ':' t)

/-- The eight groups of an IPv6 address. -/
def ipv6? (t : Text) : Option (List Nat) :=
  match aroundDouble t with
  | none => (ipv6Half? t).filter (·.length == 8)
  | some (front, back) => do
    if front.contains '.' then none
    else
      let a ← ipv6Half? front
      let b ← ipv6Half? back
      if a.length + b.length ≤ 7 then
        some (a ++ List.replicate (8 - a.length - b.length) 0 ++ b)
      else none

/-- The longest run of zero groups, at least two, as its start and its length. -/
def zeroRun (groups : List Nat) : Option (Nat × Nat) :=
  let runs := (List.range 8).map fun i => (i, ((groups.drop i).takeWhile (· == 0)).length)
  runs.foldl (fun best run =>
    if run.2 < 2 then best
    else
      match best with
      | none => some run
      | some b => if b.2 < run.2 then some run else best) none

/-- The text of an IPv6 address, with its longest run of zeros left out. -/
def ipv6Text (groups : List Nat) : Text :=
  let spelled (gs : List Nat) : Text := [':'].intercalate (gs.map (Nat.toDigits 16 ·))
  match zeroRun groups with
  | none => spelled groups
  | some (start, length) =>
    spelled (groups.take start) ++ [':', ':'] ++ spelled (groups.drop (start + length))

/-- The IPv6 address in brackets. -/
def bracketed (t : Text) : Except UriError Text :=
  if t.getLast? = some ']' ∧ 1 < t.length then
    match ipv6? (t.drop 1).dropLast with
    | some groups => .ok ('[' :: (ipv6Text groups ++ [']']))
    | none => .error .invalidIpv6
  else .error .invalidIpv6

/-- The host of a special scheme. -/
def parse (t : Text) : Except UriError Text :=
  if t.head? = some '[' then bracketed t
  else
    match Utf8.decode? (Percent.decode t) with
    | none => .error .invalidDomain
    | some decoded =>
      match Domain.toAscii? decoded with
      | none => .error .invalidDomain
      | some domain =>
        if domain.isEmpty then .error .emptyHost
        else if endsInNumber domain then ipv4? domain
        else .ok domain

/-- The characters that no host of another scheme holds. -/
def isForbidden (c : Char) : Bool :=
  ['\x00', '\t', '\n', '\r', ' ', '#', '/', ':', '<', '>', '?', '@', '[', '\\', ']', '^',
    '|'].contains c

/-- The host of a scheme that is not special. -/
def parseOpaque (t : Text) : Except UriError Text :=
  if t.head? = some '[' then bracketed t
  else if t.any isForbidden then .error .invalidDomainCharacter
  else .ok (Percent.encode Percent.isControl t)

end Host

end CallerClosure
