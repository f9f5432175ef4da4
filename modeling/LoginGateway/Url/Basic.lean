import LoginGateway.Text.Base64
import LoginGateway.Url.Host
import LoginGateway.Url.Path

namespace LoginGateway

namespace Url

/-- The schemes whose URLs have a host of a fixed form. -/
inductive SchemeKind where
  | special (defaultPort : UInt16)
  | file
  | other
  deriving DecidableEq

namespace SchemeKind

def ofScheme (scheme : String) : SchemeKind :=
  if scheme = "http" || scheme = "ws" then special 80
  else if scheme = "https" || scheme = "wss" then special 443
  else if scheme = "ftp" then special 21
  else if scheme = "file" then file
  else other

def isSpecial : SchemeKind → Bool
  | other => false
  | _ => true

end SchemeKind

structure Authority where
  username : String := ""
  password : Option String := none
  host : Option Host
  /-- `none` for the default port of the scheme. -/
  port : Option UInt16 := none
  deriving DecidableEq

namespace Authority

def userinfo (a : Authority) : String :=
  match a.password with
  | some password => a.username ++ ":" ++ password ++ "@"
  | none => if a.username = "" then "" else a.username ++ "@"

def hostText (a : Authority) : String := (a.host.map Host.text).getD ""

def portText (a : Authority) : String :=
  (a.port.map fun p => ":" ++ Text.Numeral.text p.toNat).getD ""

def text (a : Authority) : String := a.userinfo ++ a.hostText ++ a.portText

end Authority

end Url

structure Url where
  scheme : String
  authority : Option Url.Authority
  path : Url.Path
  query : Option String := none
  fragment : Option String := none
  deriving DecidableEq

namespace Url

def kind (url : Url) : SchemeKind := .ofScheme url.scheme

def host? (url : Url) : Option Host := url.authority.bind Authority.host

def effectivePort? (url : Url) : Option UInt16 :=
  match url.authority.bind Authority.port, url.kind with
  | some port, _ => some port
  | none, .special port => some port
  | none, _ => none

/-- A path that begins with an empty segment would read as an authority where there is none. -/
def pathGuard (url : Url) : String :=
  match url.authority, url.path with
  | none, .rooted ("" :: _ :: _) => "/."
  | _, _ => ""

def target (url : Url) : String :=
  url.path.text ++ (url.query.map ("?" ++ ·)).getD ""

def render (url : Url) : String :=
  url.scheme ++ ":" ++ (url.authority.map fun a => "//" ++ a.text).getD "" ++ url.pathGuard ++
    url.target ++ (url.fragment.map ("#" ++ ·)).getD ""

def credentials? (url : Url) : Option (String × Option String) := do
  let a ← url.authority
  let username ← Percent.decodeText? a.username
  let password := a.password.bind Percent.decodeText?
  if username = "" && password.isNone then none else some (username, password)

def withoutCredentials (url : Url) : Url :=
  { url with authority := url.authority.map fun a => { a with username := "", password := none } }

def withoutFragment (url : Url) : Url := { url with fragment := none }

end Url

end LoginGateway
