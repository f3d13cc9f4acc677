import Mdkd.Framework.Text

/-!
# Access to the API

`daemon::api::auth` and the routes of `daemon::api::router`: Basic
authentication, the two middlewares, and the layers they form around the
handlers. A service takes a request to its response; a handler's own response
is of any type `ρ`. The base64 engine is a parameter.
-/

namespace Mdkd.Auth

open Framework

variable {ρ : Type}

inductive AccessLevel where
  | full
  | readOnly
  deriving DecidableEq

structure HttpAuth where
  fullPassword : String
  readOnlyPassword : String
  deriving DecidableEq

/-- `base64::engine::general_purpose::STANDARD`, on the bytes of texts. -/
structure Base64Engine where
  encode : List UInt8 → List UInt8
  decode : List UInt8 → Option (List UInt8)

/-! ## Requests and responses -/

/-- The headers this daemon reads. -/
inductive HeaderName where
  | authorization
  | secWebSocketProtocol
  deriving DecidableEq

/-- `HeaderMap`: names and values, in the order received. -/
abbrev HeaderMap : Type := List (HeaderName × List UInt8)

/-- `HeaderMap::get`: the first value of a name. -/
def HeaderMap.get (headers : HeaderMap) (name : HeaderName) : Option (List UInt8) :=
  headers.lookup name

/-- `HeaderMap::get_all`: the values of a name. -/
def HeaderMap.getAll (headers : HeaderMap) (name : HeaderName) : List (List UInt8) :=
  headers.filterMap fun h => if h.1 = name then some h.2 else none

/-- What `HeaderValue::to_str` takes for a visible character. -/
def isVisible (b : UInt8) : Bool := (32 ≤ b && b < 127) || b = 9

/-- `HeaderValue::to_str`. -/
def toStr (value : List UInt8) : Option String :=
  if value.all isVisible then fromUtf8 value else none

inductive Route where
  | getInfo
  | getBalance
  | listChannels
  | listIncomingPayments
  | getIncomingPayment
  | listOutgoingPayments
  | getOutgoingPayment
  | decodeInvoice
  | decodeOffer
  | createInvoice
  | closeChannel
  | sendToAddress
  | payInvoice
  | pay
  deriving DecidableEq

/-- A request, matched to its route; `accessLevel` is the extension of that type. -/
structure Request where
  route : Route
  headers : HeaderMap
  accessLevel : Option AccessLevel
  deriving DecidableEq

structure ApiError where
  error : String
  code : String
  deriving DecidableEq

/-- A response made by the layers around the handlers. -/
structure Refusal where
  status : Nat
  wwwAuthenticate : Option String
  body : Option ApiError
  deriving DecidableEq

inductive Response (ρ : Type) where
  | handled (r : ρ)
  | refused (r : Refusal)

abbrev Service (ρ : Type) : Type := Request → Response ρ

/-! ## Middlewares -/

def extractBasicPassword (base64 : Base64Engine) (req : Request) : Option String := do
  let value ← req.headers.get .authorization
  let header ← toStr value
  let encoded ← stripPrefix "Basic " header
  let decoded ← base64.decode (utf8 encoded)
  let credentials ← fromUtf8 decoded
  let (_, password) ← splitOnce ':' credentials
  return password

def unauthorized : Refusal where
  status := 401
  wwwAuthenticate := some "Basic realm=\"mdk\""
  body := some ⟨"Invalid credentials", "unauthorized"⟩

def forbidden : Refusal where
  status := 403
  wwwAuthenticate := none
  body := some ⟨"Full access required", "forbidden"⟩

def authMiddleware (base64 : Base64Engine) (httpAuth : HttpAuth) (next : Service ρ) : Service ρ :=
  fun req =>
    match extractBasicPassword base64 req with
    | some pw =>
      if pw = httpAuth.fullPassword then next { req with accessLevel := some .full }
      else if pw = httpAuth.readOnlyPassword then next { req with accessLevel := some .readOnly }
      else .refused unauthorized
    | none => .refused unauthorized

def requireFullAccess (next : Service ρ) : Service ρ := fun req =>
  match req.accessLevel with
  | some .full => next req
  | _ => .refused forbidden

/-! ## Routes -/

/-- Routes, each with its service. -/
abbrev Router (ρ : Type) : Type := List (Route × Service ρ)

/-- `routes!` of each of the routes. -/
def routes (handlers : Route → Request → ρ) (rs : List Route) : Router ρ :=
  rs.map fun r => (r, fun req => .handled (handlers r req))

/-- `Router::layer`: a middleware around every route there is. -/
def Router.layer (router : Router ρ) (middleware : Service ρ → Service ρ) : Router ρ :=
  router.map fun e => (e.1, middleware e.2)

/-- The answer to a route there is not. -/
def notFound : Refusal := ⟨404, none, none⟩

/-- The response of a router. -/
def Router.serve (router : Router ρ) : Service ρ := fun req =>
  match router.lookup req.route with
  | some service => service req
  | none => .refused notFound

def readOnlyRoutes : List Route :=
  [.getInfo, .getBalance, .listChannels, .listIncomingPayments, .getIncomingPayment,
    .listOutgoingPayments, .getOutgoingPayment, .decodeInvoice, .decodeOffer]

def fullRoutes : List Route := [.createInvoice, .closeChannel, .sendToAddress, .payInvoice, .pay]

/-- `router`, without its websocket and documentation. -/
def router (base64 : Base64Engine) (httpAuth : HttpAuth) (handlers : Route → Request → ρ) :
    Router ρ :=
  let readOnly := routes handlers readOnlyRoutes
  let full := (routes handlers fullRoutes).layer requireFullAccess
  Router.layer (readOnly ++ full) (authMiddleware base64 httpAuth)

end Mdkd.Auth
