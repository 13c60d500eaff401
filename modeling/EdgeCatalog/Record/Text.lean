import EdgeCatalog.Json.Reader
import EdgeCatalog.Record.Device
import EdgeCatalog.Record.Service

/-! Records from JSON text. Of fields that a record does not know, only the form is checked. -/
namespace EdgeCatalog

def Protocol.ofText? (text : String) : Option Protocol :=
  Json.readAs? outline text >>= ofJson?

def Resource.ofText? (text : String) : Option Resource :=
  Json.readAs? outline text >>= ofJson?

def Device.ofText? (text : String) : Option Device :=
  Json.readAs? outline text >>= ofJson?

def Service.ofText? (text : String) : Option Service :=
  Json.readAs? outline text >>= ofJson?

end EdgeCatalog
