import EnergyAudit.Url.PercentCode

/-!
# Hosts

The part of a URL that names a machine: a domain, or an address of four or sixteen bytes.  Domains
are compared without regard to case, so they are kept in small letters.  Of the other mappings of
international domain names only those of wide letters and of full stops are made.

## Main definitions

* `UrlError` — what is wrong with a URL, with `UrlError.message`.
* `Host`, `Host.parse` — hosts.
-/

namespace EnergyAudit.Url

open EnergyAudit.Text

/-- What is wrong with a URL. -/
inductive UrlError where
  | emptyHost
  | invalidDomain
  | invalidPort
  | invalidFourByteAddress
  | invalidSixteenByteAddress
  | invalidDomainCharacter
  | noScheme
deriving BEq, DecidableEq, Repr

/-- The error in words. -/
def UrlError.message : UrlError → String
  | emptyHost => "empty host"
  | invalidDomain => "invalid international domain name"
  | invalidPort => "invalid port number"
  | invalidFourByteAddress => "invalid IPv4 address"
  | invalidSixteenByteAddress => "invalid IPv6 address"
  | invalidDomainCharacter => "invalid domain character"
  | noScheme => "relative URL without a base"

/-- A machine. -/
inductive Host where
  | domain (name : String)
  | fourBytes (address : Nat)
  | sixteenBytes (pieces : List Nat)
deriving BEq, DecidableEq, Repr

/-- The parts of a text between dots. -/
def dotParts (text : List Char) : List (List Char) :=
  match text with
  | [] => [[]]
  | '.' :: rest => [] :: dotParts rest
  | c :: rest => match dotParts rest with
    | part :: parts => (c :: part) :: parts
    | [] => [[c]]

/-! ### Addresses of four bytes -/

/-- A part of an address: hexadecimal after `0x`, octal after `0`, else decimal. -/
def addressNumber? : List Char → Option Nat
  | [] => none
  | '0' :: 'x' :: digits | '0' :: 'X' :: digits => numberIn? 16 digits
  | ['0'] => some 0
  | '0' :: digits => numberIn? 8 digits
  | digits => numberIn? 10 digits

/-- Whether the last part of a domain is a number, so that it has to be an address. -/
def endsInNumber (domain : List Char) : Bool :=
  let parts := (dotParts domain).reverse
  let last? := match parts with
    | [] :: rest => rest.head?
    | last :: _ => some last
    | [] => none
  match last? with
  | none => false
  | some last => (!last.isEmpty && last.all Char.isDigit) || (addressNumber? last).isSome

/-- An address of four bytes.  The last part fills all bytes that the others leave. -/
def fourByteAddress (domain : List Char) : Except UrlError Nat :=
  let parts := dotParts domain
  let parts := if parts.getLast? == some [] then parts.dropLast else parts
  match parts.mapM addressNumber? with
  | none => .error .invalidFourByteAddress
  | some numbers =>
    let leading := numbers.dropLast
    let last := numbers.getLast?.getD 0
    if 4 < parts.length || Nat.pow 256 (4 - leading.length) ≤ last || leading.any (255 < ·) then
      .error .invalidFourByteAddress
    else .ok (leading.zipIdx.foldl (fun sum (n, i) => sum + n * Nat.pow 256 (3 - i)) last)

/-! ### Addresses of sixteen bytes -/

/-- At most four hexadecimal digits at the start of a text as a number, with what follows. -/
def hexPiece (text : List Char) : Nat × Nat × List Char :=
  let digits := (text.take 4).takeWhile fun c => (hexValue? c).isSome
  ((numberIn? 16 digits).getD 0, digits.length, text.drop digits.length)

/-- The four numbers at the end of an address, each a byte without needless zeros. -/
def byteNumbers? : Nat → List Char → Option (List Nat)
  | 0, _ => none
  | fuel + 1, text =>
    let digits := text.takeWhile Char.isDigit
    let tooLong := match digits with
      | '0' :: _ :: _ => true
      | _ => false
    match numberIn? 10 digits, text.drop digits.length with
    | some n, rest =>
      if digits.isEmpty || tooLong || 255 < n then none
      else match rest with
        | [] => some [n]
        | '.' :: rest => (byteNumbers? fuel rest).map (n :: ·)
        | _ => none
    | none, _ => none

/-- The pieces of an address behind those that have been read, with the number of those before the
gap, if there has been one. -/
def addressPieces : Nat → List Nat → Option Nat → List Char → Option (List Nat × Option Nat)
  | 0, _, _, _ => none
  | fuel + 1, pieces, gap, text =>
    match text with
    | [] => some (pieces, gap)
    | _ =>
      if pieces.length == 8 then none
      else match text with
        | ':' :: rest =>
          if gap.isSome then none
          else addressPieces fuel (pieces ++ [0]) (some (pieces.length + 1)) rest
        | _ =>
          let (value, length, rest) := hexPiece text
          match rest with
          | '.' :: _ =>
            if length == 0 || 6 < pieces.length then none
            else match byteNumbers? 4 text with
              | some [a, b, c, d] => some (pieces ++ [a * 256 + b, c * 256 + d], gap)
              | _ => none
          | ':' :: [] => none
          | ':' :: rest => addressPieces fuel (pieces ++ [value]) gap rest
          | [] => some (pieces ++ [value], gap)
          | _ => none

/-- An address of sixteen bytes in eight pieces; a gap stands for as many zeros as are lacking. -/
def sixteenByteAddress (text : List Char) : Except UrlError (List Nat) :=
  let read := match text with
    | ':' :: ':' :: rest => addressPieces 10 [0] (some 1) rest
    | ':' :: _ => none
    | _ => addressPieces 10 [] none text
  match read with
  | some (pieces, some gap) =>
    .ok (pieces.take gap ++ List.replicate (8 - pieces.length) 0 ++ pieces.drop gap)
  | some (pieces, none) =>
    if pieces.length == 8 then .ok pieces else .error .invalidSixteenByteAddress
  | none => .error .invalidSixteenByteAddress

/-- What stands between brackets as an address of sixteen bytes. -/
def bracketedAddress (text : List Char) : Except UrlError Host :=
  if text.getLast? == some ']' then
    (sixteenByteAddress (text.drop 1).dropLast).map Host.sixteenBytes
  else .error .invalidSixteenByteAddress

/-! ### Domains -/

/-- ASCII characters that cannot stand in a domain. -/
def isForbiddenInDomain (c : Char) : Bool :=
  c.val ≤ 0x20 || c.val == 0x7f ||
    ['%', '#', '/', ':', '<', '>', '?', '@', '[', '\\', ']', '^', '|'].contains c

/-- Characters outside ASCII that no domain has: controls, blanks, what stands for a forbidden
character, and what is no character at all. -/
def isForbiddenBeyondAscii (c : Char) : Bool :=
  let n := c.toNat
  (0x80 ≤ n && n ≤ 0xa0) || (0x2000 ≤ n && n ≤ 0x200a) || (0x200e ≤ n && n ≤ 0x200f) ||
    (0x2028 ≤ n && n ≤ 0x202f) || n == 0x205f || n == 0x3000 ||
    (0xe000 ≤ n && n ≤ 0xf8ff) || (0xfdd0 ≤ n && n ≤ 0xfdef) || (0xfff9 ≤ n && n ≤ 0xffff) ||
    (0xf0000 ≤ n) || n % 0x10000 == 0xfffe || n % 0x10000 == 0xffff ||
    (0xff01 ≤ n && n ≤ 0xff5e && isForbiddenInDomain (Char.ofNat (n - 0xfee0)))

/-- A character of a domain in the form in which domains are kept.  Wide letters become narrow ones
and all full stops are one. -/
def domainChar (c : Char) : Char :=
  if c == '\u3002' || c == '\uff61' || c == '\uff0e' then '.'
  else if 0xff01 ≤ c.toNat && c.toNat ≤ 0xff5e then (Char.ofNat (c.toNat - 0xfee0)).toLower
  else c.toLower

/-- A domain, in which a part may be empty, but not all of it. -/
def parseDomain (text : List Char) : Except UrlError String :=
  match String.fromUTF8? ⟨(percentDecode text).toArray⟩ with
  | none => .error .invalidDomain
  | some decoded =>
    if decoded.toList.any fun c => isForbiddenInDomain c || isForbiddenBeyondAscii c then
      .error .invalidDomain
    else
      let domain := decoded.toList.map domainChar
      if domain.isEmpty then .error .emptyHost else .ok (.ofList domain)

namespace Host

/-- The host of a URL whose scheme has domains. -/
def parse (text : List Char) : Except UrlError Host := do
  if text.head? == some '[' then bracketedAddress text
  else
    let domain ← parseDomain text
    if endsInNumber domain.toList then
      return .fourBytes (← fourByteAddress domain.toList)
    else return .domain domain

/-- Characters that cannot stand in a host of which nothing is known. -/
def isForbidden (c : Char) : Bool :=
  ['\x00', '\t', '\n', '\r', ' ', '#', '/', ':', '<', '>', '?', '@', '[', '\\', ']', '^',
    '|'].contains c

/-- The host of a URL whose scheme says nothing of hosts. -/
def parseOpaque (text : List Char) : Except UrlError Host :=
  if text.head? == some '[' then bracketedAddress text
  else if text.any isForbidden then .error .invalidDomainCharacter
  else .ok (.domain (percentEncode isControl text))

/-! ### Hosts as texts -/

/-- The length of the run of zeros at the start. -/
def zeroRun (pieces : List Nat) : Nat := (pieces.takeWhile (· == 0)).length

/-- The first of the longest runs of at least two zeros: its start and its length. -/
def longestZeroRun (pieces : List Nat) : Option (Nat × Nat) :=
  (List.range pieces.length).foldl (fun best i =>
    let length := zeroRun (pieces.drop i)
    if length < 2 then best
    else match best with
      | some (_, longest) => if longest < length then some (i, length) else best
      | none => some (i, length)) none

/-- Pieces of an address with colons between them. -/
def pieceText (pieces : List Nat) : String :=
  ":".intercalate (pieces.map fun n => String.ofList (Nat.toDigits 16 n))

/-- A host as it is written. -/
def text : Host → String
  | domain name => name
  | fourBytes address =>
    ".".intercalate ([24, 16, 8, 0].map fun shift => toString (address >>> shift % 256))
  | sixteenBytes pieces =>
    "[" ++ (match longestZeroRun pieces with
      | some (start, length) =>
        pieceText (pieces.take start) ++ "::" ++ pieceText (pieces.drop (start + length))
      | none => pieceText pieces) ++ "]"

end Host

end EnergyAudit.Url
