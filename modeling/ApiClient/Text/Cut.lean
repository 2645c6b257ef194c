/-!
Cutting a name at its last separator and dropping a fixed ending.

A dotted name splits into `beforeLast '.'` and `afterLast '.'`; without a separator the first
part is empty and the second is the whole name.
-/

set_option autoImplicit false

namespace ApiClient.Text

/-- What stands after the last separator, or everything when there is none. -/
def afterLast (separator : Char) (cs : List Char) : List Char :=
  (cs.reverse.takeWhile (· != separator)).reverse

/-- What stands before the last separator, or nothing when there is none. -/
def beforeLast (separator : Char) (cs : List Char) : List Char :=
  ((cs.reverse.dropWhile (· != separator)).drop 1).reverse

/-- Drop an ending where the text has it. -/
def dropEnding (ending cs : List Char) : List Char :=
  if ending.isSuffixOf cs then cs.take (cs.length - ending.length) else cs

/-- `dropEnding` on strings. -/
def withoutEnding (ending text : String) : String :=
  String.ofList (dropEnding ending.toList text.toList)

/-- Whether a text starts with another one. -/
def startsWith (start text : String) : Bool := start.toList.isPrefixOf text.toList

/-- Whether a text ends with another one. -/
def endsWith (ending text : String) : Bool := ending.toList.isSuffixOf text.toList

end ApiClient.Text
