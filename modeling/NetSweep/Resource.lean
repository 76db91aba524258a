import NetSweep.Tag
import NetSweep.Json.Parser

/-!
# Backend objects

Only the fields that cleanup looks at have a place of their own; every other field of an object
is kept, as it came, in `extra`.  An object is read from a JSON object: its own five fields at
most once each, the rest in whatever number, the last binding of a key winning.
-/

namespace NetSweep

/-- An object as the backend reports it. -/
structure Resource where
  id : String
  resourceType : Option String
  displayName : Option String
  path : Option String
  tags : List Tag
  /-- all other fields, in ascending key order -/
  extra : List (String × Json)
deriving DecidableEq, Repr

namespace Resource

/-- The keys of the fields that have a place of their own. -/
def ownKeys : List String := ["id", "resource_type", "display_name", "path", "tags"]

def bare (id : String) : Resource :=
  { id, resourceType := none, displayName := none, path := none, tags := [], extra := [] }

def withTag (r : Resource) (t : Tag) : Resource := { r with tags := r.tags ++ [t] }

def withType (r : Resource) (name : String) : Resource := { r with resourceType := some name }

def withField (r : Resource) (key : String) (value : Json) : Resource :=
  { r with extra := Assoc.insert key value r.extra }

/-- An object tagged as created by the orchestrator. -/
def owned (id : String) : Resource := (bare id).withTag { scope := createdScope, tag := "2024.1" }

def foreign (id : String) : Resource :=
  (bare id).withTag { scope := "created-by", tag := "someone-else" }

/-! ## Tags and fields -/

def hasTag (r : Resource) (p : TagPredicate) : Bool := r.tags.any p.holds

def hasAllTags (r : Resource) (ps : List TagPredicate) : Bool := ps.all r.hasTag

/-- The value of the first tag of a scope. -/
def tagValue (r : Resource) (scope : String) : Option String :=
  (r.tags.find? (·.scope == scope)).map Tag.tag

def field (r : Resource) (key : String) : Option Json := Assoc.find? key r.extra

def attachmentField (r : Resource) (key : String) : Option String :=
  ((r.field "attachment").bind (Json.get? key)).bind Json.string?

def attachmentType (r : Resource) : Option String := r.attachmentField "attachment_type"

def attachmentId (r : Resource) : Option String := r.attachmentField "id"

/-- Whether some string in the other fields, at any depth, is the target. -/
def mentions (r : Resource) (target : String) : Bool := Json.mentionsMember target r.extra

/-! ## JSON -/

/-- The own fields that are written: id and tags always, the rest if present. -/
def ownMembers (r : Resource) : List (String × Json) :=
  ("id", .string r.id)
    :: (r.resourceType.toList.map fun s => ("resource_type", .string s))
    ++ (r.displayName.toList.map fun s => ("display_name", .string s))
    ++ (r.path.toList.map fun s => ("path", .string s))
    ++ [("tags", .array (r.tags.map Tag.toJson))]

/-- The object as JSON; one of its other fields named like an own one takes that one's place. -/
def toJson (r : Resource) : Json := .object (Assoc.ofList (r.ownMembers ++ r.extra))

/-- Reads tags; null and absence are no tags. -/
def tagsOf? : Option Json → Option (List Tag)
  | none | some .null => some []
  | some v => v.array?.bind (·.mapM Tag.ofJson?)

def ofMembers? (members : List (String × Json)) : Option Resource :=
  match (Json.object members).fields? ownKeys with
  | some [some (.string id), type, display, path, tags] =>
    (Json.optString? type).bind fun resourceType =>
      (Json.optString? display).bind fun displayName =>
        (Json.optString? path).bind fun path =>
          (tagsOf? tags).map fun tags =>
            { id, resourceType, displayName, path, tags
              extra := Assoc.ofList
                (Json.normalizeMembers (members.filter (fun m => m.1 ∉ ownKeys))) }
  | _ => none

def ofJson? (v : Json) : Option Resource := v.object?.bind ofMembers?

def listOfJson? (v : Json) : Option (List Resource) := v.array?.bind (·.mapM ofJson?)

/-- What is read from an object's text: everything, but of a tag only its own two fields. -/
def shape : Json.Shape :=
  .record [("tags", .items (.record [("scope", .whole), ("tag", .whole)] false))] true

def parse? (text : String) : Option Resource := (Json.parseAs? shape text).bind ofJson?

end Resource

end NetSweep
