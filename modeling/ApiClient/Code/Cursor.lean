import ApiClient.Code

/-!
Writing code from the top down.

A cursor stands in an open block and remembers the blocks around it, innermost first. What was
written into them stays as it is until the cursor comes back.
-/

set_option autoImplicit false

namespace ApiClient.Code

/-- A block being written. -/
structure Open where
  frame : Frame
  body : List Code
deriving Repr, Inhabited

/-- A place in a tree: an open block and the open blocks around it. -/
structure Cursor where
  focus : Open
  around : List Open
deriving Repr, Inhabited

namespace Cursor

/-- A cursor in a new tree. -/
def start (frame : Frame) : Cursor := ⟨⟨frame, []⟩, []⟩

/-- Write a statement. -/
def write (line : String) (c : Cursor) : Cursor :=
  { c with focus := { c.focus with body := c.focus.body ++ [.statement line] } }

/-- Open a nested block and move into it. -/
def enter (frame : Frame) (c : Cursor) : Cursor := ⟨⟨frame, []⟩, c.focus :: c.around⟩

/-- Close the block, unless it is the outermost one, and move to the block around it. -/
def leave? (c : Cursor) : Option Cursor :=
  match c.around with
  | [] => none
  | outer :: rest =>
    let closed := Code.block c.focus.frame c.focus.body
    some ⟨{ outer with body := outer.body ++ [closed] }, rest⟩

/-- Close a block and all around it but the outermost one. -/
def toRootFrom (focus : Open) : List Open → Open
  | [] => focus
  | outer :: rest =>
    toRootFrom { outer with body := outer.body ++ [.block focus.frame focus.body] } rest

/-- Move to the outermost block. -/
def toRoot (c : Cursor) : Cursor := ⟨toRootFrom c.focus c.around, []⟩

/-- The text of the block under the cursor. -/
def render (indent : String) (c : Cursor) : String :=
  renderBlock indent c.focus.frame c.focus.body

/-- What is said when the outermost block is to be closed. -/
def noParentMessage (c : Cursor) : String :=
  "Block '" ++ c.focus.frame.header ++ "' has no parent to return to"

end Cursor

end ApiClient.Code
