import Reindex.Json.Basic

/-!
# Generations of the REST interface

Up to version 6 every document has a mapping type, which stands in its path, in the actions of a
bulk call and around the mappings of an index; from version 7 on there is none.
-/

namespace Reindex

inductive ApiGeneration where
  | typeless
  | typed (mappingType : String)
deriving DecidableEq, Repr

namespace ApiGeneration

def name : ApiGeneration → String
  | .typeless => "typeless (7.x/8.x)"
  | .typed _ => "typed (6.x)"

/-- The segment between index and id in the path of a document. -/
def typeWord : ApiGeneration → String
  | .typeless => "_doc"
  | .typed mappingType => mappingType

/-- The path segments of a document. -/
def documentPath (g : ApiGeneration) (index id : String) : List String := [index, g.typeWord, id]

/-- What a bulk action says about its document. -/
def actionMetadata (g : ApiGeneration) (index id : String) : Json :=
  match g with
  | .typeless => .ofMembers [("_index", .string index), ("_id", .string id)]
  | .typed mappingType =>
    .ofMembers [("_index", .string index), ("_type", .string mappingType), ("_id", .string id)]

/-- The mappings as they stand in the creation of an index. With types they are wrapped in theirs,
unless they are so already or there is nothing to wrap. -/
def mappingsBody (g : ApiGeneration) (mappings : Json) : Json :=
  match g with
  | .typeless => mappings
  | .typed mappingType =>
    if (mappings.get? mappingType).isSome || (mappings.asObject?.getD []).isEmpty then mappings
    else .object [(mappingType, mappings)]

end ApiGeneration

end Reindex
