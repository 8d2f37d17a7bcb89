import InstructionStore.Web.Domain
import InstructionStore.Web.IpAddress

/-!
# Addresses of web pages

`isWebAddress` decides whether a text is the address of a web page: it has the
scheme `http` or `https` and names a host that there can be.

Blanks and control characters around the text do not count, and neither do tabs
and line ends inside it. After the scheme and its colon any number of slashes of
either kind may stand. What follows up to the next slash, question mark or number
sign is the **authority**: what stands before its last `@` names a user, and
after a colon outside of brackets there can be a port, a number of at most 65535.
The rest is the host: eight pieces in brackets, or a domain name in which any
character may be written as `%` and two hexadecimal digits.
-/

namespace InstructionStore.Web

/-- A text without the blanks and control characters around it and without tabs
and line ends. -/
def cleaned (text : List Char) : List Char :=
  let outer (c : Char) : Bool := c ≤ ' '
  let trimmed := ((text.dropWhile outer).reverse.dropWhile outer).reverse
  trimmed.filter fun c => c != '\t' && c != '\n' && c != '\r'

/-- What follows the scheme of a web page and its colon. -/
def afterScheme? (text : List Char) : Option (List Char) :=
  let scheme := text.takeWhile (· != ':')
  if [("http".toList), "https".toList].contains (scheme.map Char.toLower) then
    match text.dropWhile (· != ':') with
    | ':' :: rest => some rest
    | _ => none
  else none

/-- Whether a character ends the authority. -/
def endsAuthority (c : Char) : Bool := c = '/' || c = '\\' || c = '?' || c = '#'

/-- The authority of an address: what stands after the slashes. -/
def authority (rest : List Char) : List Char :=
  (rest.dropWhile fun c => c = '/' || c = '\\').takeWhile fun c => !endsAuthority c

/-- What stands after the last `@`. -/
def afterUser (authority : List Char) : List Char :=
  (authority.reverse.takeWhile (· != '@')).reverse

/-- Cuts a host from the first colon outside of brackets and what follows it. -/
def cutAtPort (inBrackets : Bool) : List Char → List Char × List Char
  | [] => ([], [])
  | c :: rest =>
    if c = ':' && !inBrackets then ([], c :: rest)
    else
      let inBrackets := if c = '[' then true else if c = ']' then false else inBrackets
      let (host, port) := cutAtPort inBrackets rest
      (c :: host, port)

/-- Whether what follows a host is nothing or a port, which may be left out after
its colon. -/
def isPort : List Char → Bool
  | [] => true
  | _ :: digits => (Text.digits? 10 digits).any (· ≤ 65535)

/-- The bytes of a text in which bytes can be written as `%` and two digits. -/
def unescaped : List Char → List UInt8
  | [] => []
  | '%' :: a :: b :: rest =>
    match Text.digit? 16 a, Text.digit? 16 b with
    | some x, some y => (16 * x + y).toUInt8 :: unescaped rest
    | _, _ => '%'.toNat.toUInt8 :: unescaped (a :: b :: rest)
  | c :: rest => (String.singleton c).toUTF8.toList ++ unescaped rest

/-- Whether a domain name names a host: it is not empty, and if it ends in a
number it is four bytes. -/
def namesHost (d : Domain) : Bool :=
  let parts := d.labels.map Label.written
  !d.isEmpty && (!IpAddress.endsInNumber parts || IpAddress.isNumeric parts)

/-- **Whether there can be a host of a name.** -/
def isHost (host : List Char) : Bool :=
  match host with
  | '[' :: rest => rest.getLast? = some ']' && IpAddress.isPieces rest.dropLast
  | _ =>
    match String.fromUTF8? ⟨(unescaped host).toArray⟩ with
    | none => false
    | some name => (Domain.ofText? name.toList).any namesHost

/-- **Whether a text is the address of a web page.** -/
def isWebAddress (text : String) : Bool :=
  match afterScheme? (cleaned text.toList) with
  | none => false
  | some rest =>
    let (host, port) := cutAtPort false (afterUser (authority rest))
    isHost host && isPort port

end InstructionStore.Web
