import ControlPlane.Header
import ControlPlane.Url

/-!
# Requests and answers

A request can be sent again only if its body is known in advance: a streamed body cannot be copied.
-/

namespace ControlPlane

/-- A request method: any token. -/
structure Method where
  text : String
  deriving DecidableEq, Repr

namespace Method

def get : Method := ⟨"GET"⟩

def post : Method := ⟨"POST"⟩

def put : Method := ⟨"PUT"⟩

def patch : Method := ⟨"PATCH"⟩

def delete : Method := ⟨"DELETE"⟩

/-- The method that a text names, with regard to case. -/
def ofText? (text : String) : Option Method :=
  if !text.isEmpty && text.toList.all HeaderName.isTokenChar then some ⟨text⟩ else none

/-- Whether parameters of a request go into its query. -/
def takesQuery (method : Method) : Bool :=
  method = get || method = delete

end Method

inductive RequestBody where
  | absent
  | octets (value : Bytes)
  | streamed
  deriving DecidableEq, Repr

structure Request where
  method : Method
  url : Url
  headers : HeaderMap := {}
  body : RequestBody := .absent
  deriving DecidableEq, Repr

namespace Request

/-- A request to send again, if the body is known. -/
def copy? (request : Request) : Option Request :=
  match request.body with
  | .streamed => none
  | _ => some request

theorem copy?_eq {request other : Request} (h : request.copy? = some other) : other = request := by
  unfold copy? at h
  split at h
  · simp at h
  · simpa using h.symm

/-- The octets of a body that is known. -/
def bodyOctets (request : Request) : Bytes :=
  match request.body with
  | .octets value => value
  | _ => []

end Request

structure Response where
  status : Nat
  headers : HeaderMap := {}
  body : Bytes := []
  deriving DecidableEq, Repr

namespace Response

/-- Whether a status says that the request was granted. -/
def isSuccess (response : Response) : Bool :=
  200 ≤ response.status && response.status < 300

def phrases : List (Nat × String) :=
  [(100, "Continue"), (101, "Switching Protocols"), (102, "Processing"), (103, "Early Hints"),
   (200, "OK"), (201, "Created"), (202, "Accepted"), (203, "Non Authoritative Information"),
   (204, "No Content"), (205, "Reset Content"), (206, "Partial Content"), (207, "Multi-Status"),
   (208, "Already Reported"), (226, "IM Used"), (300, "Multiple Choices"),
   (301, "Moved Permanently"), (302, "Found"), (303, "See Other"), (304, "Not Modified"),
   (305, "Use Proxy"), (307, "Temporary Redirect"), (308, "Permanent Redirect"),
   (400, "Bad Request"), (401, "Unauthorized"), (402, "Payment Required"), (403, "Forbidden"),
   (404, "Not Found"), (405, "Method Not Allowed"), (406, "Not Acceptable"),
   (407, "Proxy Authentication Required"), (408, "Request Timeout"), (409, "Conflict"),
   (410, "Gone"), (411, "Length Required"), (412, "Precondition Failed"),
   (413, "Payload Too Large"), (414, "URI Too Long"), (415, "Unsupported Media Type"),
   (416, "Range Not Satisfiable"), (417, "Expectation Failed"), (418, "I\x27m a teapot"),
   (421, "Misdirected Request"), (422, "Unprocessable Entity"), (423, "Locked"),
   (424, "Failed Dependency"), (425, "Too Early"), (426, "Upgrade Required"),
   (428, "Precondition Required"), (429, "Too Many Requests"),
   (431, "Request Header Fields Too Large"), (451, "Unavailable For Legal Reasons"),
   (500, "Internal Server Error"), (501, "Not Implemented"), (502, "Bad Gateway"),
   (503, "Service Unavailable"), (504, "Gateway Timeout"), (505, "HTTP Version Not Supported"),
   (506, "Variant Also Negotiates"), (507, "Insufficient Storage"), (508, "Loop Detected"),
   (510, "Not Extended"), (511, "Network Authentication Required")]

/-- The status with its phrase. -/
def statusText (response : Response) : String :=
  toString response.status ++ " " ++
    (phrases.lookup response.status).getD "<unknown status code>"

def text (response : Response) : String :=
  Bytes.lossy response.body

end Response

end ControlPlane
