import ApiClient.Code

/-!
Looking into code trees.
-/

set_option autoImplicit false

namespace ApiClient.Code

/-- What stands directly in a block. -/
def children : Code → List Code
  | .statement _ => []
  | .block _ body => body

mutual

/-- The headers of the blocks in a piece of code, in order. -/
def headers : Code → List String
  | .statement _ => []
  | .block frame body => frame.header :: bodyHeaders body

def bodyHeaders : List Code → List String
  | [] => []
  | c :: rest => headers c ++ bodyHeaders rest

end

@[simp] theorem headers_statement (line : String) : headers (.statement line) = [] := by
  rw [headers]

@[simp] theorem headers_plain (header : String) (body : List Code) :
    headers (plain header body) = header :: bodyHeaders body := by
  rw [plain, headers]

@[simp] theorem headers_ended (header termination : String) (body : List Code) :
    headers (ended header termination body) = header :: bodyHeaders body := by
  rw [ended, headers]

@[simp] theorem headers_call (header termination : String) (body : List Code) :
    headers (call header termination body) = header :: bodyHeaders body := by
  rw [call, headers]

@[simp] theorem bodyHeaders_nil : bodyHeaders [] = [] := by rw [bodyHeaders]

@[simp] theorem bodyHeaders_cons (c : Code) (rest : List Code) :
    bodyHeaders (c :: rest) = headers c ++ bodyHeaders rest := by
  rw [bodyHeaders]

@[simp] theorem bodyHeaders_append (body rest : List Code) :
    bodyHeaders (body ++ rest) = bodyHeaders body ++ bodyHeaders rest := by
  induction body with
  | nil => simp
  | cons c body ih => simp [ih]

theorem bodyHeaders_map {α : Type} (code : α → Code) (items : List α) :
    bodyHeaders (items.map code) = items.flatMap fun a => headers (code a) := by
  induction items with
  | nil => simp
  | cons a items ih => simp [ih]

end ApiClient.Code
