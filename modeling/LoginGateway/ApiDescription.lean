import LoginGateway.Build
import LoginGateway.Json

namespace LoginGateway.ApiDescription

open Json

def text : Json := object [("type", string "string")]

def boolean : Json := object [("type", string "boolean")]

def optionalText : Json := object [("type", list [string "string", string "null"])]

def record (properties : List (String × Json)) (required : List String) : Json :=
  object [("type", string "object"), ("required", list (required.map string)),
    ("properties", object properties)]

def schemas : Json := object
  [("ErrorResponse", record [("detail", optionalText), ("error", text)] ["error"]),
    ("Health",
      record [("commit", text), ("name", text), ("version", text)] ["commit", "name", "version"]),
    ("LoginRequest", record [("password", text)] ["password"]),
    ("SessionStatus", record [("authenticated", boolean)] ["authenticated"]),
    ("SuccessResponse", record [("success", boolean)] ["success"])]

def content (name : String) : Json :=
  object [("application/json",
    object [("schema", object [("$ref", string ("#/components/schemas/" ++ name))])])]

def response (status description schema : String) : String × Json :=
  (status, object [("description", string description), ("content", content schema)])

def operation (tag id : String) (responses : List (String × Json)) (more : List (String × Json)) :
    Json :=
  object ([("tags", list [string tag]), ("operationId", string id)] ++ more ++
    [("responses", object responses)])

def auth : Json := object
  [("get", operation "auth" "session"
      [response "200" "Session is valid" "SessionStatus",
        response "401" "No valid session" "SessionStatus"] []),
    ("post", operation "auth" "login"
      [response "200" "Password accepted, session cookie set" "SuccessResponse",
        response "400" "Malformed body" "ErrorResponse",
        response "401" "Wrong password" "ErrorResponse",
        response "429" "Too many attempts from this source" "ErrorResponse"]
      [("requestBody", object [("content", content "LoginRequest"), ("required", bool true)])]),
    ("delete", operation "auth" "logout"
      [response "200" "Session cookie cleared" "SuccessResponse"] [])]

def health : Json := object
  [("get", operation "health" "health" [response "200" "Gateway is up" "Health"] [])]

def proxy : Json := object
  [("get", operation "proxy" "forward"
      [("200", object [("description", string "Backend response relayed verbatim")]),
        response "400" "Path contains a dot segment" "ErrorResponse",
        response "401" "Missing or invalid session" "ErrorResponse",
        response "502" "Backend could not be reached" "ErrorResponse"]
      [("parameters", list [object
        [("name", string "rest"), ("in", string "path"),
          ("description", string "Path relayed to the backend"), ("required", bool true),
          ("schema", text)]])])]

def info : Json := object
  [("title", string Build.name), ("description", string Build.about),
    ("contact", object [("name", string "Team Rampart"), ("email", string "team@rampart.dev")]),
    ("license", object [("name", string "BSD-3-Clause"), ("identifier", string "BSD-3-Clause")]),
    ("version", string Build.version)]

def document : Json := object
  [("openapi", string "3.1.0"), ("info", info),
    ("paths", object [("/auth", auth), ("/health", health), ("/proxy/\x7brest\x7d", proxy)]),
    ("components", object [("schemas", schemas)]),
    ("tags", list [object [("name", string Build.name), ("description", string Build.about)]])]

end LoginGateway.ApiDescription
