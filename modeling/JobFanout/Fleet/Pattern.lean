import JobFanout.Json.Basic
/-!
Live objects by pattern. An attribute matches when pattern and object share an element, an array
standing for its elements and any other value for itself.
-/
namespace JobFanout.Fleet

def attributeMatches : Json → Json → Bool
  | .array wanted, .array present => wanted.any fun element => present.any element.same
  | .array wanted, actual => wanted.any fun element => element.same actual
  | expected, .array present => present.any expected.same
  | expected, actual => expected.same actual

/-- A missing attribute counts as null; attributes that the pattern does not name are ignored. -/
def matchesPattern (pattern : Record) (object : Json) : Bool :=
  pattern.all fun (key, expected) => attributeMatches expected ((object.field? key).getD .null)

def select (pattern : Record) (objects : List Json) : List Json :=
  objects.filter (matchesPattern pattern)

end JobFanout.Fleet
