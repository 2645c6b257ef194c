import ApiClient.Text.Blank
import ApiClient.Text.Cut

/-!
Absolute addresses, joined from a base and a route.

An address starts with one slash. The parts lose the slashes at their ends and are joined by one
slash each; a part that is empty or made of slashes does not count. A route that starts with `~/`
stands alone.
-/

set_option autoImplicit false

namespace ApiClient.Route

open Text

/-- Drop slashes from both ends. -/
def dropSlashes (cs : List Char) : List Char := trimWhile (· == '/') cs

/-- Whether a route replaces the base. -/
def isRooted (route : String) : Bool := startsWith "~/" route

/-- The parts joined by single slashes. -/
def joinParts : List (List Char) → List Char
  | [] => []
  | [part] => part
  | part :: rest => part ++ '/' :: joinParts rest

/-- The address of a route under a base. -/
def join (base route : String) : String :=
  let parts :=
    if isRooted route then [dropSlashes (route.toList.drop 2)]
    else [dropSlashes base.toList, dropSlashes route.toList].filter (!·.isEmpty)
  String.ofList ('/' :: joinParts parts)

end ApiClient.Route
