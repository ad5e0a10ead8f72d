import ApiGateway.Text.Blank

/-
The methods of requests. They are read in any case and with blanks around them.
-/

namespace ApiGateway

inductive Method where
  | get
  | post
  | put
  | delete
  | options
  | head
  | patch
  | trace
deriving DecidableEq, Repr

/-- A text that names no method, trimmed and in small letters. -/
structure InvalidMethod where
  text : String
deriving DecidableEq

namespace InvalidMethod

def message (e : InvalidMethod) : String := "invalid method '" ++ e.text ++ "'"

end InvalidMethod

namespace Method

/-- The name as it is written. -/
def name : Method → String
  | .get => "GET"
  | .post => "POST"
  | .put => "PUT"
  | .delete => "DELETE"
  | .options => "OPTIONS"
  | .head => "HEAD"
  | .patch => "PATCH"
  | .trace => "TRACE"

def all : List Method := [.get, .post, .put, .delete, .options, .head, .patch, .trace]

/-- The method that a text names. -/
def parse (s : String) : Except InvalidMethod Method :=
  let word := Text.lowerAscii (Text.trimmed s)
  match all.find? fun m => Text.lowerAscii m.name == word with
  | some m => .ok m
  | none => .error ⟨word⟩

end Method

end ApiGateway
