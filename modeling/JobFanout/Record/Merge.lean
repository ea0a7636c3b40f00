import JobFanout.Json.Basic
/-!
Records joined into one, and records with fields chosen and renamed.
-/
namespace JobFanout.Record

def fieldsOf : Json → Record
  | .object fields => fields
  | _ => []

def merge (records : List Json) : Record :=
  records.foldl (fun merged record => Entries.putAll (fieldsOf record) merged) []

/-- `pattern` gives each output its source. Sources that `value` lacks are left out. -/
def project (pattern : Entries String) (value : Record) : Record :=
  pattern.filterMap fun (output, source) =>
    (Entries.valueAt? source value).map fun found => (output, found)

end JobFanout.Record
