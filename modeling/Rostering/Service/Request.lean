import Rostering.Json.Reader
import Rostering.Named
import Rostering.Text.Ranges
import Rostering.Text.Utf8

/-!
# Service.Request — requests, where they go, and who may make them

A request is for a `Resource` if its path names one (`Resource.ofPath?`). Before a resource is
looked at, a request has to get past two guards: `Access.blocks` asks for the key of the service
where there is one, and `Access.isTooLarge` bounds the size of bodies. Each of them fails on some
headers (`Access.failsOnKey`, `Access.failsOnLength`), by a fault that nothing in the service gets
hold of.
-/

namespace Rostering

/-! ## Requests -/

/-- A request, with its method in capitals. -/
structure ServiceRequest where
  method : String
  path : String
  headers : List (String × String)
  body : String

namespace ServiceRequest

/-- The first header of a name, in whatever case. -/
def header? (r : ServiceRequest) (name : String) : Option String :=
  (r.headers.find? fun h => h.1.map Char.toLower == name).map Prod.snd

/-- A type of content that is read: an application's, in the notation of values. -/
def isReadable (type : String) : Bool :=
  let name := Text.stripped ((type.splitOn ";").headD "")
  match (name.map Char.toLower).splitOn "/" with
  | ["application", kind] => kind == "json" || kind.endsWith "+json"
  | _ => false

/-- The type of content that the request names, if any, is one that is read. -/
def isRead (r : ServiceRequest) : Bool :=
  match r.header? "content-type" with
  | some type => type.isEmpty || isReadable type
  | none => true

/-- The text of the body, without a mark of its encoding in front. -/
def text (r : ServiceRequest) : String :=
  match r.body.toList with
  | c :: rest => if c = Char.ofNat 0xFEFF then String.ofList rest else r.body
  | [] => ""

/-- The value that the body writes; an empty body writes none, and so does one that is not read. -/
def content? (r : ServiceRequest) : Option Value :=
  if r.body.isEmpty || !r.isRead then none else Json.parse? r.text

/-- The body is refused without a look at its form, since a number in it is too long. -/
def isOverlong (r : ServiceRequest) : Bool :=
  r.isRead && (Json.parse? r.text).isNone && Json.hasLongInteger false false 0 r.text.toList

end ServiceRequest

/-! ## Targets -/

/-- The bytes of a text in which a percent sign with two hexadecimal digits stands for a byte. -/
def unescapedBytes : List Char → List UInt8
  | '%' :: a :: b :: rest =>
    match Json.hexValue? a, Json.hexValue? b with
    | some m, some n => UInt8.ofNat (16 * m + n) :: unescapedBytes rest
    | _, _ => '%'.toUInt8 :: unescapedBytes (a :: b :: rest)
  | c :: rest => (String.singleton c).toUTF8.toList ++ unescapedBytes rest
  | [] => []

/-- Steps of a path without those that stay in place and those that go back. -/
def settledSteps (steps : List String) : List String :=
  (steps.foldl (fun kept step =>
    if step == "." then kept
    else if step == ".." then (if kept == [""] then kept else kept.tail)
    else step :: kept) []).reverse

/-- The path of a target: what stands before the query and behind the host, if one is named, with
escapes resolved. -/
def pathOfTarget (target : String) : String :=
  let path := target.toList.takeWhile fun c => c != '?' && c != '#'
  let path := match path with
    | '/' :: '/' :: rest => rest.dropWhile (· != '/')
    | path => path
  let path := String.ofList ('/' :: path.dropWhile (· == '/'))
  let path := String.intercalate "/" (settledSteps (path.splitOn "/"))
  Text.decodeUtf8 (unescapedBytes path.toList)

/-! ## Resources -/

/-- What a path stands for. -/
inductive Resource where
  | health
  | description
  | models
  | model (id : String)
  | config (id : String)
  | solving (id : String)
  | solution (id : String)
  | presentation (id : String)
  deriving DecidableEq

namespace Resource

def ofSteps? : List String → Option Resource
  | ["", "openapi.json"] => some .description
  | ["", "api", "health", "check"] => some .health
  | ["", "api", "models"] => some .models
  | ["", "api", "models", id] => if id.isEmpty then none else some (.model id)
  | ["", "api", "models", id, part] =>
    if id.isEmpty then none
    else
      match part with
      | "config" => some (.config id)
      | "solve" => some (.solving id)
      | "solution" => some (.solution id)
      | "ui-spec" => some (.presentation id)
      | _ => none
  | _ => none

/-- The steps without empty ones at the end. -/
def withoutTrailing (steps : List String) : List String :=
  (steps.reverse.dropWhile String.isEmpty).reverse

/-- What stands between the slashes of a path. -/
def stepsOf (path : String) : List String := (path.toList.splitOn '/').map String.ofList

/-- The resource of a path; slashes at the end make no difference. -/
def ofPath? (path : String) : Option Resource :=
  let steps := stepsOf path
  (ofSteps? steps).or (ofSteps? (withoutTrailing steps))

def pattern : Resource → String
  | .health => "/api/health/check"
  | .description => "/openapi.json"
  | .models => "/api/models"
  | .model _ => "/api/models/\x7bmodel_id\x7d"
  | .config _ => "/api/models/\x7bmodel_id\x7d/config"
  | .solving _ => "/api/models/\x7bmodel_id\x7d/solve"
  | .solution _ => "/api/models/\x7bmodel_id\x7d/solution"
  | .presentation _ => "/api/models/\x7bmodel_id\x7d/ui-spec"

def methods : Resource → List String
  | .description => ["GET", "HEAD"]
  | .health | .solution _ => ["GET"]
  | .models => ["GET", "POST"]
  | .model _ => ["GET", "DELETE"]
  | .config _ => ["PATCH"]
  | .solving _ | .presentation _ => ["POST"]

def described : List Resource :=
  [.health, .models, .model "", .config "", .solving "", .solution "", .presentation ""]

end Resource

/-! ## Access -/

/-- What keeps requests out: a key, unless it is empty, and a bound on bodies, unless it is zero. -/
structure Access where
  key : String
  bodyLimit : Nat

namespace Access

def openPaths : List String := ["/openapi.json", "/redoc", "/docs", "/api/health/check"]

/-- Paths that start with one of these are open as well. -/
def openRoots : List String := ["/docs/", "/api/health/check"]

def isOpen (path : String) : Bool :=
  openPaths.contains path || openRoots.any fun root => path.startsWith root

/-- The request needs the key. -/
def asksForKey (a : Access) (r : ServiceRequest) : Bool :=
  r.method != "OPTIONS" && !isOpen r.path && !a.key.isEmpty

/-- The request lacks the key that it needs. -/
def blocks (a : Access) (r : ServiceRequest) : Bool :=
  a.asksForKey r && r.header? "x-api-key" != some a.key

def isAscii (s : String) : Bool := s.toList.all fun c => c.toNat < 0x80

/-- The request offers a key that cannot be compared with the one that it needs: that takes two keys
in ASCII. -/
def failsOnKey (a : Access) (r : ServiceRequest) : Bool :=
  a.asksForKey r && match r.header? "x-api-key" with
    | some offered => !offered.isEmpty && !(isAscii offered && isAscii a.key)
    | none => false

/-- The length that a request declares, or else the one that its body has. -/
def declaredLength (r : ServiceRequest) : Nat :=
  match r.header? "content-length" with
  | some s => if !s.isEmpty && s.all Char.isDigit then digitsValue s.toList else 0
  | none => r.body.utf8ByteSize

/-- The body is larger than allowed. -/
def isTooLarge (a : Access) (r : ServiceRequest) : Bool :=
  0 < a.bodyLimit && a.bodyLimit < declaredLength r

/-- A digit, or a raised one. -/
def isDigitSign (c : Char) : Bool := c.isDigit || c == '¹' || c == '²' || c == '³'

/-- The declared length looks like a number, but it has raised digits or too many of them. -/
def failsOnLength (a : Access) (r : ServiceRequest) : Bool :=
  0 < a.bodyLimit && match r.header? "content-length" with
    | some s => !s.isEmpty && s.all isDigitSign && !(s.all Char.isDigit && s.length ≤ maxIntegerDigits)
    | none => false

end Access

end Rostering
