import ApiClient.Action
import ApiClient.Code

/-!
The document of endpoints: for each entry an interface and a class, in a namespace per controller.

A class keeps the path and query values of a request, writes its address, and names its verb.
-/

set_option autoImplicit false

namespace ApiClient.Document

open Code

/-- The interface of all endpoints. -/
def endpointInterface : String := "IEndpoint"

/-- The parameters that are sent with a call. -/
def callParameters (e : Entry) : String :=
  String.intercalate ", " (e.callParts.map Part.requiredText)

/-- The interface of an entry. -/
def entryInterface (e : Entry) : Code :=
  plain ("export interface I" ++ e.name ++ " extends " ++ endpointInterface)
    (e.constructorParts.map (fun p => .statement (p.parameterText ++ ";"))
      ++ [.statement ("call(" ++ callParameters e ++ "): ng.IHttpPromise<any>;")])

/-- The creation of a value that was left out, where its forced type asks for it. -/
def createWhenAbsent (p : Part) : List Code :=
  match p.resolved.mapping.filter TypeMapping.createdWhenAbsent with
  | none => []
  | some m =>
    [plain ("if (this." ++ p.name ++ " == null)")
      [.statement ("this." ++ p.name ++ " = new " ++ m.targetName ++ "();")]]

/-- The constructor of an entry with path or query values. -/
def constructorBlock (e : Entry) : List Code :=
  match e.constructorParts with
  | [] => []
  | parts =>
    let parameters := String.intercalate ", " (parts.map fun p => "public " ++ p.parameterText)
    [plain ("constructor(" ++ parameters ++ ")") (parts.flatMap createWhenAbsent)]

/-- How a value is written into the query. -/
inductive QueryForm
  | joined
  | single
  | ownKeys
  | queryParams
deriving DecidableEq, Repr

/-- The form of a part: scalars are written, objects give their keys or write themselves. -/
def queryFormOf (s : Settings) (p : Part) : QueryForm :=
  if p.resolved.isScalar then
    if p.resolved.isCollection then .joined else .single
  else if p.resolved.mapping.isNone
      && Text.startsWith (s.interfaces.namespaceName ++ ".") p.resolved.typeName then .ownKeys
  else .queryParams

/-- Writing each key of the object `nameParams` that has a value. -/
def eachKey (name : String) : Code :=
  call ("Object.keys(" ++ name ++ "Params).forEach((key) =>") ";"
    [plain ("if (" ++ name ++ "Params[key] != null)")
      [.statement ("parameters.push(`$\x7bkey\x7d=$\x7bencodeURIComponent(" ++ name
        ++ "Params[key].toString())\x7d`);")]]

/-- Writing the value of a part in its form. -/
def queryBody (form : QueryForm) (name : String) : List Code :=
  match form with
  | .joined =>
    [.statement ("parameters.push(`" ++ name ++ "=$\x7bthis." ++ name ++ ".join(',')\x7d`);")]
  | .single =>
    [.statement ("parameters.push(`" ++ name ++ "=$\x7bencodeURIComponent(this." ++ name
      ++ ".toString())\x7d`);")]
  | .ownKeys => [.statement ("var " ++ name ++ "Params = this." ++ name ++ ";"), eachKey name]
  | .queryParams =>
    [.statement ("var " ++ name ++ "Params = this." ++ name ++ ".getQueryParams();"),
      eachKey name]

/-- Writing a part into the query, when it has a value. -/
def queryGuard (s : Settings) (p : Part) : Code :=
  plain ("if (this." ++ p.name ++ " != null)") (queryBody (queryFormOf s p) p.name)

/-- The member that writes the query of an entry with query values. -/
def queryStringBlock (s : Settings) (e : Entry) : List Code :=
  match e.queryParts with
  | [] => []
  | parts =>
    [plain "private getQueryString = (): string =>"
      (.statement "var parameters: string[] = [];" :: (parts.map (queryGuard s)
        ++ [plain "if (parameters.length > 0)" [.statement "return '?' + parameters.join('&');"],
          .statement "return '';"]))]

/-- The member that writes the address of an entry. -/
def toStringBlock (e : Entry) : Code :=
  let query := if e.queryParts.isEmpty then "" else " + this.getQueryString()"
  plain "toString = (): string =>" [.statement ("return `" ++ e.address ++ "`" ++ query ++ ";")]

/-- The class of an entry. -/
def entryClass (s : Settings) (e : Entry) : Code :=
  plain ("export class " ++ e.name ++ " implements " ++ endpointInterface)
    (.statement ("verb = '" ++ e.verb.method ++ "';")
      :: (constructorBlock e ++ queryStringBlock s e ++ [toStringBlock e]))

/-- The namespace of a controller. -/
def controllerNamespace (s : Settings) (c : Controller) : Code :=
  plain ("export " ++ s.namespaceKeyword ++ " " ++ c.name)
    (c.entries.flatMap fun e => [entryInterface e, entryClass s e])

/-- The interfaces that all endpoints share. -/
def sharedInterfaces : List Code :=
  [plain ("export interface " ++ endpointInterface)
      [.statement "verb: string;", .statement "toString(): string;"],
    plain ("export interface " ++ haveQueryParams) [.statement "getQueryParams(): Object;"]]

/-- The document of endpoints, whatever its entries leave unbound. -/
def endpointsCode (s : Settings) (controllers : List Controller) : Code :=
  plain (s.namespaceKeyword ++ " " ++ s.endpoints.namespaceName)
    (sharedInterfaces ++ controllers.map (controllerNamespace s))

/-- The refusal of the first entry with an unbound placeholder. -/
def firstUnbound? (controllers : List Controller) : Option Refusal :=
  (controllers.flatMap Controller.entries).findSome? Entry.unboundRefusal?

/-- The document of endpoints, unless an entry has an unbound placeholder. -/
def endpoints (s : Settings) (controllers : List Controller) : Except Refusal Code :=
  match firstUnbound? controllers with
  | some r => .error r
  | none => .ok (endpointsCode s controllers)

end ApiClient.Document
