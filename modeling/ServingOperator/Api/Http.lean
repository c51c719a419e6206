import ServingOperator.Ingress
import ServingOperator.Json.Basic
import ServingOperator.Route
import ServingOperator.Serving
import ServingOperator.Text
import ServingOperator.Wire.RouteFormat

namespace ServingOperator

namespace Query

def isPlain (c : Char) : Bool := c.isAlphanum || ['*', '-', '.', '_'].contains c

def hexDigit (n : Nat) : Char := Nat.digitChar n |>.toUpper

def escape (b : UInt8) : List Char := ['%', hexDigit (b.toNat / 16), hexDigit (b.toNat % 16)]

def encodeChar (c : Char) : List Char :=
  if isPlain c then [c]
  else if c = ' ' then ['+']
  else (String.utf8EncodeChar c).flatMap escape

def encode (text : String) : String := String.ofList (text.toList.flatMap encodeChar)

/-- The bytes that a written text stands for. A percent sign without two digits is one itself. -/
def bytes : List Char → List UInt8
  | [] => []
  | '+' :: cs => 0x20 :: bytes cs
  | '%' :: a :: b :: cs =>
    match Text.hexDigit? a, Text.hexDigit? b with
    | some high, some low => UInt8.ofNat (16 * high + low) :: bytes cs
    | _, _ => 0x25 :: bytes (a :: b :: cs)
  | c :: cs => String.utf8EncodeChar c ++ bytes cs

def decode (written : List Char) : String := String.ofList (Text.ofUtf8 (bytes written))

def pair (written : List Char) : String × String :=
  (decode (written.takeWhile (· ≠ '=')), decode ((written.dropWhile (· ≠ '=')).drop 1))

def pairBefore (a b : String × String) : Bool := a.1 < b.1 || (a.1 = b.1 && a.2 ≤ b.2)

/-- The pairs of a written query, in order, since the one that they are written in means nothing. -/
def read (written : List Char) : List (String × String) :=
  (((Text.splitAt '&' written).filter (· ≠ [])).map pair).mergeSort pairBefore

def write (pairs : List (String × String)) : String :=
  String.join (pairs.map fun (name, value) => "&" ++ encode name ++ "=" ++ encode value)

end Query

structure Address where
  path : String
  query : List (String × String) := []
deriving DecidableEq, Repr

namespace Address

def greatestSize : Nat := UInt16.size - 2

def fitsPath (c : Char) : Bool := ' ' < c && !(['<', '>', '\x60', '\x7f'].contains c)

def fitsQuery (c : Char) : Bool := ' ' < c && !(['\x22', '<', '>', '\x7f'].contains c)

def read? (written : String) : Option Address :=
  let kept := written.toList.takeWhile (· ≠ '#')
  let path := kept.takeWhile (· ≠ '?')
  let query := (kept.dropWhile (· ≠ '?')).drop 1
  if written.utf8ByteSize ≤ greatestSize ∧ path.all fitsPath ∧ query.all fitsQuery then
    some ⟨String.ofList path, Query.read query⟩
  else none

def write (path : String) (parameters : List (String × String)) : String :=
  path ++ "?" ++ Query.write parameters

/-- The address that a path has together with parameters; none if it cannot be sent. -/
def of? (path : String) (parameters : List (String × String)) : Option Address :=
  read? (write path parameters)

end Address

inductive ApiFailure where
  | status (code : Nat)
  | unreadable
  | unaddressed
deriving DecidableEq, Repr

def ApiFailure.notFound : ApiFailure := .status 404

inductive Target where
  | serving (inNamespace name : String)
  | servingStatus (inNamespace name : String)
  | ingress (inNamespace name : String)
  | installNamespace (name : String)
deriving DecidableEq, Repr

def Target.name : Target → String
  | serving _ name => name
  | servingStatus _ name => name
  | ingress _ name => name
  | installNamespace name => name

inductive Change where
  | merge (target : Target) (patch : Json)
  | applyRoute (inNamespace name : String) (route : Route)
  | deleteRoute (inNamespace name : String)

def Change.name : Change → String
  | merge target _ => target.name
  | applyRoute _ name _ => name
  | deleteRoute _ name => name

structure HttpRequest where
  method : String
  address : Address
  contentType : Option String := none
  body : Option Json := none

def ResourceKind.path (k : ResourceKind) (inNamespace : Option String) : String :=
  let space := match inNamespace with
    | some n => "namespaces/" ++ n ++ "/"
    | none => ""
  "/apis/" ++ k.apiVersion ++ "/" ++ space ++ k.plural

def Target.path : Target → String
  | serving inNamespace name => KnativeServing.kind.path (some inNamespace) ++ "/" ++ name
  | servingStatus inNamespace name =>
    KnativeServing.kind.path (some inNamespace) ++ "/" ++ name ++ "/status"
  | ingress inNamespace name => Ingress.kind.path (some inNamespace) ++ "/" ++ name
  | installNamespace name => "/api/v1/namespaces/" ++ name

def fieldManager : String := "serverless-operator"

def Change.path : Change → String
  | merge target _ => target.path
  | applyRoute inNamespace name _ => Route.kind.path (some inNamespace) ++ "/" ++ name
  | deleteRoute inNamespace name => Route.kind.path (some inNamespace) ++ "/" ++ name

def Change.parameters : Change → List (String × String)
  | merge _ _ => []
  | applyRoute _ _ _ => [("force", "true"), ("fieldManager", fieldManager)]
  | deleteRoute _ _ => []

def Change.requestAt (address : Address) : Change → HttpRequest
  | merge _ patch =>
    { method := "PATCH", address, contentType := some "application/merge-patch+json"
      body := some patch }
  | applyRoute _ _ route =>
    { method := "PATCH", address, contentType := some "application/apply-patch+yaml"
      body := some (Route.format.encode route) }
  | deleteRoute _ _ =>
    { method := "DELETE", address, contentType := some "application/json", body := some (.obj []) }

def Change.request? (c : Change) : Option HttpRequest :=
  if c.name = "" then none
  else (Address.of? c.path c.parameters).map fun address => c.requestAt address

def Route.Owner.listRequest? (o : Route.Owner) : Option HttpRequest :=
  (Address.of? (Route.kind.path none) [("labelSelector", o.selector)]).map fun address =>
    { method := "GET", address }

end ServingOperator
