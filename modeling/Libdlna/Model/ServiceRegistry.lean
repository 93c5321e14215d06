import Libdlna.Model.Http
import Libdlna.Model.ServiceTables
import Libdlna.Shared.KeyedTable

set_option autoImplicit false

namespace Libdlna

open CString

/-- A `dlna_service_t` with its `typeid`, which an application is free to set. -/
structure DlnaDescriptor (C : Type) extends DlnaService C where
  typeid : Int32

structure DlnaServiceEntry (C : Type) where
  id : Int32
  service : DlnaService C

variable {C : Type}

def dlnaServiceRegister (services : List (DlnaServiceEntry C)) (service : DlnaDescriptor C) :
    List (DlnaServiceEntry C) :=
  services ++ [⟨service.typeid, service.toDlnaService⟩]

/-- The entry that `HASH_FIND_INT` finds is deleted, if there is one. -/
def dlnaServiceUnregister (services : List (DlnaServiceEntry C)) (service : DlnaDescriptor C) :
    List (DlnaServiceEntry C) :=
  KeyedTable.remove DlnaServiceEntry.id services service.typeid

def dlnaServiceConnectionManager : Int32 := 0

/-- No descriptor of the library has an initializer for the `typeid`. -/
def shippedService (id type scpdUrl : String) (actions : List (ServiceAction Handler))
    (description : Text) : DlnaDescriptor Handler where
  id := some id.toList
  type := type.toList
  scpdUrl := some scpdUrl.toList
  actions := actions
  description := description
  typeid := dlnaServiceConnectionManager

def cmsService : Text → DlnaDescriptor Handler :=
  shippedService "urn:upnp-org:serviceId:ConnectionManager"
    "urn:schemas-upnp-org:service:ConnectionManager:1" "cms.xml" cmsServiceActions

def cdsService (stack : VfsItem → Text → Text) (fuel : Nat) : Text → DlnaDescriptor Handler :=
  shippedService "urn:upnp-org:serviceId:ContentDirectory"
    "urn:schemas-upnp-org:service:ContentDirectory:1" "cds.xml" (cdsServiceActions stack fuel)

end Libdlna
