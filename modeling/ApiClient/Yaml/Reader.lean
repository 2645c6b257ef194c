import ApiClient.Yaml.Document

/-!
Reading YAML: a text is cut into tokens, they make a document, and it stands for a tree.
-/

set_option autoImplicit false

namespace ApiClient.Yaml

/-- A character that a YAML text may hold. -/
def isAllowed (c : Char) : Bool :=
  let n := c.toNat
  n == 0x09 || n == 0x0A || n == 0x0D || (0x20 ≤ n && n ≤ 0x7E) || n == 0x85
    || (0xA0 ≤ n && n ≤ 0xD7FF) || (0xE000 ≤ n && n ≤ 0xFFFD) || 0x10000 ≤ n

/-- Read a YAML text. -/
def read (text : String) : Except ReadFault Data :=
  let cs := text.toList
  if cs.all isAllowed then (documentOf cs).bind Node.decode else .error .malformed

end ApiClient.Yaml
