import ApiClient.Document.Endpoints

/-!
The document of the service: for each entry a member that makes an endpoint and calls it.
-/

set_option autoImplicit false

namespace ApiClient.Document

open Code

/-- The class of the service. -/
def serviceClass : String := "AngularEndpointsService"

/-- The name of a controller's namespace among the endpoints. -/
def qualifiedName (s : Settings) (c : Controller) : String :=
  s.endpoints.namespaceName ++ "." ++ c.name

/-- The member that forwards the payload of an entry. -/
def callHook (e : Entry) : Code :=
  ended "var callHook =" ";"
    [plain ("call(" ++ callParameters e ++ ")")
      [.statement ("return " ++ serviceClass ++ ".call(this, " ++ e.callValues ++ ");")]]

/-- The member of an entry, with what follows its closing brace. -/
def entryMember (s : Settings) (c : Controller) (termination : String) (e : Entry) : Code :=
  let parameters := String.intercalate ", " (e.constructorParts.map Part.parameterText)
  let names := String.intercalate ", " (e.constructorParts.map Part.name)
  ended (e.name ++ ": (" ++ parameters ++ "): " ++ qualifiedName s c ++ ".I" ++ e.name ++ " =>")
    termination
    [.statement ("var endpoint = new " ++ qualifiedName s c ++ "." ++ e.name ++ "(" ++ names
        ++ ");"),
      callHook e,
      .statement "return _.extend(endpoint, callHook);"]

/-- The members of entries, with a comma after each but the last. -/
def entryMembers (s : Settings) (c : Controller) : List Entry → List Code
  | [] => []
  | [e] => [entryMember s c "" e]
  | e :: rest => entryMember s c "," e :: entryMembers s c rest

/-- The object of a controller. -/
def controllerObject (s : Settings) (c : Controller) : Code :=
  ended ("public " ++ c.name ++ " =") ";" (entryMembers s c c.entries)

/-- What the service holds for all controllers. -/
def serviceBase (s : Settings) : List Code :=
  [.statement "static $inject = ['$http'];",
    .statement "static $http: ng.IHttpService;",
    plain "constructor($http: ng.IHttpService)"
      [.statement (serviceClass ++ ".$http = $http;")],
    plain ("static call(endpoint: " ++ s.endpoints.namespaceName ++ "." ++ endpointInterface
        ++ ", data)")
      [call ("return " ++ serviceClass ++ ".$http(") ";"
        [.statement "method: endpoint.verb,", .statement "url: endpoint.toString(),",
          .statement "data: data"]]]

/-- The document of the service. -/
def service (s : Settings) (controllers : List Controller) : Code :=
  plain (s.namespaceKeyword ++ " " ++ s.service.namespaceName)
    [plain ("export class " ++ serviceClass)
      (serviceBase s ++ controllers.map (controllerObject s))]

end ApiClient.Document
