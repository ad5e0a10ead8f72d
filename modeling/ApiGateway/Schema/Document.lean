import ApiGateway.Schema.Endpoint
import ApiGateway.Reading.Format

/-
Documents: the types and endpoints of an API.

* `joinUrl` - a base url and a path with one slash between them.
* `Document` - a version, a base url, types and endpoints.
* `Document.parse` - the document of a text.
-/

namespace ApiGateway

/-- Joins a base url and a path with exactly one slash between them. A base that is no full url
gets a slash in front, and two empty parts make the root. -/
def joinUrl (base path : String) : String :=
  let base := (base.toList.reverse.dropWhile (· == '/')).reverse
  let path := path.toList.dropWhile (· == '/')
  String.ofList <|
    if path.isEmpty then (if base.isEmpty then ['/'] else base)
    else if base.isEmpty then '/' :: path
    else
      let absolute := base.head? == some '/' || Text.isInfix [':', '/', '/'] base
      (if absolute then base else '/' :: base) ++ '/' :: path

structure Document where
  version : String := ""
  baseUrl : String := ""
  description : Option String := none
  types : List DataType := []
  endpoints : List Endpoint := []
deriving Inhabited

namespace Document

open Reading

def toJson (d : Document) : Json :=
  .object ([("version", .string d.version), ("baseUrl", .string d.baseUrl)] ++
    Json.optionalEntry "description" (d.description.map .string) ++
    [("types", .array (d.types.map DataType.toJson)),
      ("apis", .array (d.endpoints.map Endpoint.toJson))])

variable {ν : Type} {m : Type → Type} [Attempt m] [Readable ν m]

def read? (v : ν) : m Document := do
  let ms ← members? [["version"], ["baseUrl"], ["description"], ["types"], ["apis"]] v
  return {
    version := ← memberD ms 0 text? ""
    baseUrl := ← memberD ms 1 text? ""
    description := ← optionalMember ms 2 text?
    types := ← memberD ms 3 (listOf? DataType.read?) []
    endpoints := ← memberD ms 4 (listOf? Endpoint.read?) [] }

/-- The document of a text, and the format it is written in. -/
def parse (wanted : Wanted) (text : String) : Except ParseError (Document × Format) :=
  parseDocument read? wanted text

end Document

end ApiGateway
