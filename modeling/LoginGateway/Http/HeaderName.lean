namespace LoginGateway.Http

def isTokenChar (c : Char) : Bool :=
  c.isAlphanum ||
    ['!', '#', '$', '%', '&', '\x27', '*', '+', '-', '.', '^', '_', '\x60', '|', '~'].contains c

def isToken (cs : List Char) : Bool := !cs.isEmpty && cs.all isTokenChar

/-- A token in lower case of at most 65535 characters. -/
def isFieldName (cs : List Char) : Bool :=
  isToken cs && cs.all (fun c => !c.isUpper) && cs.length ≤ 65535

structure HeaderName where
  text : String
  legal : isFieldName text.toList

namespace HeaderName

instance : DecidableEq HeaderName := fun a b =>
  if h : a.text = b.text then isTrue (by cases a; cases b; simp_all)
  else isFalse fun hab => h (hab ▸ rfl)

def parse? (s : String) : Option HeaderName :=
  let lower := String.ofList (s.toList.map Char.toLower)
  if h : isFieldName lower.toList then some ⟨lower, h⟩ else none

def invalidMessage : String := "invalid HTTP header name"

def accept : HeaderName := ⟨"accept", by decide +kernel⟩
def allow : HeaderName := ⟨"allow", by decide +kernel⟩
def accessControlAllowHeaders : HeaderName := ⟨"access-control-allow-headers", by decide +kernel⟩
def accessControlAllowMethods : HeaderName := ⟨"access-control-allow-methods", by decide +kernel⟩
def accessControlAllowOrigin : HeaderName := ⟨"access-control-allow-origin", by decide +kernel⟩
def authorization : HeaderName := ⟨"authorization", by decide +kernel⟩
def contentEncoding : HeaderName := ⟨"content-encoding", by decide +kernel⟩
def contentLength : HeaderName := ⟨"content-length", by decide +kernel⟩
def contentType : HeaderName := ⟨"content-type", by decide +kernel⟩
def cookie : HeaderName := ⟨"cookie", by decide +kernel⟩
def cookie2 : HeaderName := ⟨"cookie2", by decide +kernel⟩
def forwardedFor : HeaderName := ⟨"x-forwarded-for", by decide +kernel⟩
def location : HeaderName := ⟨"location", by decide +kernel⟩
def proxyAuthorization : HeaderName := ⟨"proxy-authorization", by decide +kernel⟩
def realIp : HeaderName := ⟨"x-real-ip", by decide +kernel⟩
def referer : HeaderName := ⟨"referer", by decide +kernel⟩
def requestId : HeaderName := ⟨"x-request-id", by decide +kernel⟩
def retryAfter : HeaderName := ⟨"retry-after", by decide +kernel⟩
def setCookie : HeaderName := ⟨"set-cookie", by decide +kernel⟩
def transferEncoding : HeaderName := ⟨"transfer-encoding", by decide +kernel⟩
def userAgent : HeaderName := ⟨"user-agent", by decide +kernel⟩
def vary : HeaderName := ⟨"vary", by decide +kernel⟩
def wwwAuthenticate : HeaderName := ⟨"www-authenticate", by decide +kernel⟩
def xApp : HeaderName := ⟨"x-app", by decide +kernel⟩

end HeaderName

end LoginGateway.Http
