import Libdlna.Model.Vfs

set_option autoImplicit false

/-!
# Subscriptions

The subscriptions of `upnp/service_table.c`. A pointer to a service is its place in the table, a
pointer to a subscription is its identifier.
-/

namespace Libdlna.Gena

open CString

structure Subscription where
  sid : Text
  eventKey : Int := 0
  toSendEventKey : Int := 0
  -- 0 for a subscription without a limit
  expireTime : Int
  active : Bool := false
  deliveryURLs : List Text
  deriving DecidableEq

structure ServiceInfo where
  serviceId : Text
  udn : Text
  eventURL : Option Text
  active : Bool := true
  totalSubscriptions : Int := 0
  subscriptionList : List Subscription := []
  deriving DecidableEq

def Subscription.expired (sub : Subscription) (now : Int) : Bool :=
  sub.expireTime ≠ 0 && sub.expireTime < now

/-- The next key; one that overflows starts at 1 again. -/
def nextEventKey (key : Int) : Int := if key + 1 > intMax then 1 else key + 1

def Subscription.raises (sub : Subscription) : Subscription :=
  { sub with eventKey := nextEventKey sub.eventKey }

def Subscription.advanced (sub : Subscription) : Subscription :=
  { sub with toSendEventKey := nextEventKey sub.toSendEventKey }

/-- The initial event takes `keys` keys: 1, or 0 when there is no job for it. -/
def Subscription.activated (sub : Subscription) (keys : Int) : Subscription :=
  { sub with active := true, eventKey := sub.eventKey + keys }

def Subscription.renewed (sub : Subscription) (expireTime : Int) : Subscription :=
  { sub with expireTime := expireTime }

def findSid (subscriptions : List Subscription) (sid : Text) : Option Subscription :=
  subscriptions.find? fun sub => sub.sid = sid

def removeSid (subscriptions : List Subscription) (sid : Text) : List Subscription :=
  subscriptions.eraseP fun sub => sub.sid = sid

def updateSid (sid : Text) (write : Subscription → Subscription) :
    List Subscription → List Subscription
  | [] => []
  | sub :: rest => if sub.sid = sid then write sub :: rest else sub :: updateSid sid write rest

namespace ServiceInfo

def removeSubscriptionSID (service : ServiceInfo) (sid : Text) : ServiceInfo :=
  match findSid service.subscriptionList sid with
  | some _ =>
      { service with
        subscriptionList := removeSid service.subscriptionList sid
        totalSubscriptions := service.totalSubscriptions - 1 }
  | none => service

/-- A subscription that has expired is removed as it is found. -/
def getSubscriptionSID (service : ServiceInfo) (sid : Text) (now : Int) :
    ServiceInfo × Option Subscription :=
  match findSid service.subscriptionList sid with
  | some found =>
      if found.expired now then (service.removeSubscriptionSID sid, none) else (service, some found)
  | none => (service, none)

def update (service : ServiceInfo) (sid : Text) (write : Subscription → Subscription) :
    ServiceInfo :=
  { service with subscriptionList := updateSid sid write service.subscriptionList }

def add (service : ServiceInfo) (sub : Subscription) : ServiceInfo :=
  { service with
    subscriptionList := sub :: service.subscriptionList
    totalSubscriptions := service.totalSubscriptions + 1 }

end ServiceInfo

def findService (table : List ServiceInfo) (wanted : ServiceInfo → Bool) :
    Option (ServiceInfo × Nat) :=
  table.zipIdx.find? fun entry => wanted entry.1

def findServiceId (table : List ServiceInfo) (serviceId udn : Text) : Option (ServiceInfo × Nat) :=
  findService table fun service => service.serviceId = serviceId && service.udn = udn

/-- `pathquery` is what `parse_uri` finds in a URL. -/
def findServiceEventURLPath (pathquery : Text → Text) (table : List ServiceInfo)
    (eventURLPath : Text) : Option (ServiceInfo × Nat) :=
  findService table fun service =>
    service.eventURL.any fun eventURL => pathquery eventURL = pathquery eventURLPath

end Libdlna.Gena
