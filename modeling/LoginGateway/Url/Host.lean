import LoginGateway.Url.Address
import LoginGateway.Url.Domain
import LoginGateway.Url.Percent

namespace LoginGateway

inductive UrlFault where
  | noScheme
  | emptyHost
  | invalidPort
  | invalidIpv4
  | invalidIpv6
  | invalidName
  | invalidHostChar
  deriving DecidableEq

def UrlFault.message : UrlFault → String
  | noScheme => "relative URL without a base"
  | emptyHost => "empty host"
  | invalidPort => "invalid port number"
  | invalidIpv4 => "invalid IPv4 address"
  | invalidIpv6 => "invalid IPv6 address"
  | invalidName => "invalid international domain name"
  | invalidHostChar => "invalid domain character"

namespace Url

inductive Host where
  | name (text : String)
  | ipv4 (address : Ipv4)
  | ipv6 (address : Ipv6)
  deriving DecidableEq

namespace Host

def text : Host → String
  | name text => text
  | ipv4 address => String.ofList (Ipv4.text address)
  | ipv6 address => String.ofList ('[' :: Ipv6.text address ++ [']'])

def bracketed? (cs : List Char) : Except UrlFault Host :=
  match cs.getLast? with
  | some ']' => ((Ipv6.parse? cs.dropLast).map ipv6).elim (.error .invalidIpv6) .ok
  | _ => .error .invalidIpv6

/-- The host of a URL with a special scheme: a name is decoded, folded, and read as an IPv4 address
if its last label looks like a number. -/
def parse : List Char → Except UrlFault Host
  | '[' :: cs => bracketed? cs
  | cs =>
    let octets := Percent.decode (cs.flatMap String.utf8EncodeChar)
    match (Text.Utf8.decode? octets).bind fun s => Domain.toAscii? s.toList with
    | none => .error .invalidName
    | some [] => .error .emptyHost
    | some ascii =>
      if Ipv4.looksNumeric ascii then
        ((Ipv4.parse? ascii).map ipv4).elim (.error .invalidIpv4) .ok
      else .ok (name (String.ofList ascii))

def isForbiddenRaw (c : Char) : Bool :=
  ['\x00', ' ', '#', '/', ':', '<', '>', '?', '@', '[', '\\', ']', '^', '|'].contains c

/-- The host of any other URL, which is kept as it is written; `none` if there is none. -/
def parseRaw : List Char → Except UrlFault (Option Host)
  | [] => .ok none
  | '[' :: cs => (bracketed? cs).map some
  | cs =>
    if cs.any isForbiddenRaw then .error .invalidHostChar
    else .ok (some (name (String.ofList (Percent.encode .controls cs))))

end Host

end Url

end LoginGateway
