import ApiGateway.Text.Utf8

/-
Tags: what a YAML text says of the type of a node.

* `Tag` - a string of bytes, as the escapes of a tag can tell any of them.
* `Tag.ofParts` - the tag of the text that a handle stands for and a suffix.
* `Tag.standard` - the tags of the standard types.
* `Tag.own?` - the name in a tag of the text's own.
-/

namespace ApiGateway.Yaml

/-- A tag; its bytes need not be those of a text. -/
abbrev Tag := Bytes

namespace Tag

/-- A part of a tag ends before a zero byte. -/
def part (bs : Bytes) : Bytes := bs.takeWhile (· != 0)

/-- The tag of the text that a handle stands for and a suffix. -/
def ofParts (uri suffix : Bytes) : Tag := part uri ++ part suffix

/-- The tag of a standard type. -/
def standard (name : String) : Tag := Text.encode ("tag:yaml.org,2002:" ++ name)

/-- A tag that opens with an exclamation mark. -/
def isOwn (t : Tag) : Bool := t.head? == some 0x21

/-- The name in a tag of the text's own, if it is a text. The bare exclamation mark is a name. -/
def own? (t : Tag) : Option String :=
  if !t.isOwn then none else Text.decode? (if t.length = 1 then t else t.drop 1)

end Tag

end ApiGateway.Yaml
