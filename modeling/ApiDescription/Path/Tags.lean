import ApiDescription.Path.Template
import ApiDescription.Text.Split

namespace ApiDescription.Path

-- A way to group operations: from the path as it was declared to the names of the groups.
abbrev Tagging := String → List String

-- The last segment that is more than placeholders.
def defaultTags : Tagging := fun path =>
  let named := (Text.split '/' (erasedChars (routeChars path.toList))).filter (· ≠ [])
  (named.getLast?.map String.ofList).toList

end ApiDescription.Path
