import EdgeCatalog.Error
import EdgeCatalog.Text.Segments

/-! Ids. A record is named `<namespace>/<name>`, a resource `<namespace>/<name>/<resource>` after
the device that owns it. -/
namespace EdgeCatalog.Id

/-- Does the id consist of `count` parts between slashes, none of them empty? -/
def hasSegments (count : Nat) (id : String) : Bool :=
  let parts := Text.segments '/' id
  parts.all (· ≠ "") && parts.length == count

/-- Does the id go on with a slash after the id of the owner? -/
def isUnder (owner id : String) : Bool :=
  (owner.toList ++ ['/']).isPrefixOf id.toList

def checkRecord (id : String) : Except Error Unit :=
  if hasSegments 2 id then .ok () else .error (.invalid (.recordId id))

def checkResource (id owner : String) : Except Error Unit :=
  if hasSegments 3 id && isUnder owner id then .ok ()
  else .error (.invalid (.resourceId id owner))

end EdgeCatalog.Id
