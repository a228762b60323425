import BatchFrontier.Chain.HostName
import BatchFrontier.Chain.IpAddress
import BatchFrontier.Text.Search

/-!
# Places that offer data

A contract names places where data can be had, each by a URL in which the address of the contract
and its question are filled in. Every place is looked at in turn. A place that is written wrong ends
the search; one that is written well gives no data, and the next one is looked at. The name of the
host matters only in a place that is reached over a secured connection.
-/

namespace BatchFrontier.Chain.Place

/-- A URL with the address of a contract and its question filled in. -/
def filled (url sender question : Text) : Text :=
  (url.replaceAll "\x7bsender\x7d" sender).replaceAll "\x7bdata\x7d" question

/-- Whether a code is that of a character that is no part of a URL: a tabulator or the end of a
line. -/
def isBreak (c : Code) : Bool := c.satisfies fun c => c == '\t' || c == '\r' || c == '\n'

/-- What counts of a URL: the blanks in front of it do not, nor do breaks anywhere. -/
def essence (url : Text) : List Code :=
  (url.codes.dropWhile fun c => decide (c.toNat ≤ 0x20)).filter fun c => !isBreak c

/-- Whether a character may stand in a scheme. -/
def isSchemeChar (c : Char) : Bool := c.isAlphanum || c == '+' || c == '-' || c == '.'

/-- Whether codes are a scheme. -/
def isScheme (cs : List Code) : Bool :=
  (cs.head?.elim false fun c => c.satisfies Char.isAlpha) &&
    cs.all fun c => c.satisfies isSchemeChar

/-- The scheme in lower case, empty if there is none, and what follows it. -/
def scheme (cs : List Code) : List Char × List Code :=
  let (front, rest) := Pieces.cut (.char ':') cs
  if decide (front.length < cs.length) && isScheme front then
    (front.map fun c => c.toChar.toLower, rest)
  else ([], cs)

/-- The authority at the front of what follows the scheme: it stands behind two slashes. -/
def authority (cs : List Code) : List Code :=
  match cs with
  | .char '/' :: .char '/' :: rest =>
    rest.takeWhile fun c => !(c.satisfies fun c => c == '/' || c == '?' || c == '#')
  | _ => []

/-- Whether some characters write an address of a version to come: the number of the version behind
a mark, a point, and something. -/
def isFuture (cs : List Char) : Bool :=
  let version := (cs.drop 1).takeWhile Text.isHexDigit
  match cs.drop (1 + version.length) with
  | '.' :: _ :: _ => !version.isEmpty
  | _ => false

/-- Checks what stands in brackets: it has to be an address of version six or of a version to
come. -/
def checkBracketed (host : Text) : Except PlaceFault Unit :=
  if host.beginsWith "v" then
    if isFuture host.chars then .ok () else .error .futureAddress
  else
    match IpVersion.ofChars? host.chars with
    | some .six => .ok ()
    | some .four => .error .bracketedAddress
    | none => .error (.notAddress host)

/-- Checks the brackets of an authority. -/
def checkBrackets (cs : List Code) : Except PlaceFault Unit :=
  match cs.contains (.char '['), cs.contains (.char ']') with
  | false, false => .ok ()
  | true, true =>
    checkBracketed ⟨(Pieces.cut (.char ']') (Pieces.cut (.char '[') cs).2).1⟩
  | _, _ => .error .brackets

/-- The characters that have a character of a URL's own grammar in them when they are taken
apart. -/
def disguises : List Nat :=
  [0x2047, 0x2048, 0x2049, 0x2100, 0x2101, 0x2105, 0x2106, 0x2A74, 0xFE13, 0xFE16, 0xFE55, 0xFE56,
   0xFE5F, 0xFE6B, 0xFF03, 0xFF0F, 0xFF1A, 0xFF1F, 0xFF20]

/-- Checks that no character of an authority stands for a part of the grammar. -/
def checkPlain (cs : List Code) : Except PlaceFault Unit :=
  if cs.any fun c => disguises.contains c.toNat then .error (.disguised ⟨cs⟩) else .ok ()

/-- The host of an authority, without what stands for a user and without a port. -/
def host (cs : List Code) : List Code :=
  let address := (Pieces.split (.char '@') cs).getLastD []
  if address.contains (.char '[') then
    (Pieces.cut (.char ']') (Pieces.cut (.char '[') address).2).1
  else (Pieces.cut (.char ':') address).1

/-- Checks a place. -/
def check (url : Text) : Except PlaceFault Unit := do
  let (scheme, rest) := scheme (essence url)
  let authority := authority rest
  checkBrackets authority
  checkPlain authority
  if scheme = "https".toList then (HostName.check (host authority)).mapError .host

/-- The fault of a search through some places. -/
def search (sender question : Text) : List Text → Fault
  | [] => .lookupFailed
  | url :: rest =>
    match check (filled url sender question) with
    | .error f => .place f
    | .ok () => search sender question rest

end BatchFrontier.Chain.Place
