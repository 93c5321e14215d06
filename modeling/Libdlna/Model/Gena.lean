import Libdlna.Model.Media
import Libdlna.Model.Subscriptions
import Libdlna.Shared.Places

set_option autoImplicit false

/-!
# Events

The device side of `upnp/gena_device.c`, as a system: requests of control points, calls of the
application and the jobs of the pool that sends notifications, which hold the lock on the handles
except while their notifications are sent. What is done under the lock is one step. For the first
part of `genaNotifyThread` this is not what the lock gives: `HandleReadLock` is shared, so that two
jobs may remove one expired subscription or release one event at the same time, as the shutdown of
the pool may, which does not take the lock at all. `Libdlna.Model.NotifyRelease` has the accesses of
such a release one by one. There are also more runs here than the code has: a renewal without a
device returns with the lock, so that nothing else happens after it.
-/

namespace Libdlna.Gena

open CString

def genaSuccess : Int := 0
def genaEBadHandle : Int := -100
def dlnaEOutofMemory : Int := -104
def genaEBadService : Int := -111
def genaEBadSid : Int := -109
def genaENotifyUnaccepted : Int := -303
def genaENotifyUnacceptedRemoveSub : Int := -9

def httpOk : Int := 200
def httpBadRequest : Int := 400
def httpNotFound : Int := 404
def httpPreconditionFailed : Int := 412
def httpInternalServerError : Int := 500

def propertySetHeader : Text :=
  "<e:propertyset xmlns:e=\"urn:schemas-dlna-org:event-1-0\">\n".toList

def property (name value : Text) : Text :=
  "<e:property>\n<".toList ++ name ++ ">".toList ++ value ++ "</".toList ++ name ++
    ">\n</e:property>\n".toList

def generatePropertySet (vars : List (Text × Text)) : Text :=
  propertySetHeader ++ vars.flatMap (fun v => property v.1 v.2) ++ "</e:propertyset>\n\n".toList

/-- The terminator of the property set is sent too. -/
def notifyHeaders (propertySet : Text) : Text :=
  "CONTENT-TYPE: text/xml\r\nCONTENT-LENGTH: ".toList ++ decimal (propertySet.length + 1) ++
    "\r\nNT: dlna:event\r\nNTS: dlna:propchange\r\n".toList

structure Shared where
  referenceCount : Int
  freed : Bool
  deriving DecidableEq

/-- `notify_thread_struct`; `shared` is what its pointers lead to. -/
structure NotifyThread where
  headers : Text
  propertySet : Text
  servId : Text
  udn : Text
  sid : Text
  eventKey : Int
  shared : Nat
  deviceHandle : Int
  deriving DecidableEq

structure Device where
  handle : Int
  maxSubscriptions : Int := -1
  maxSubscriptionTimeOut : Int := -1
  serviceTable : List ServiceInfo
  deriving DecidableEq

/-- An infinite timeout is replaced by the longest one, if there is one. -/
def Device.limitTimeOut (device : Device) (timeOut : Int) : Int :=
  if device.maxSubscriptionTimeOut ≠ -1 ∧
      (timeOut = -1 ∨ timeOut > device.maxSubscriptionTimeOut) then
    device.maxSubscriptionTimeOut
  else timeOut

structure Jobs where
  -- in `gSendThreadPool`
  waiting : List NotifyThread := []
  -- with their copies of the subscription
  sending : List (NotifyThread × Subscription) := []
  -- allocated, but nobody knows them any more
  leaked : List NotifyThread := []
  raised : List NotifyThread := []
  sent : List NotifyThread := []
  -- those that the pool has refused, and those that end without a copy of their subscription
  lost : List NotifyThread := []
  -- those without a subscription any more
  dropped : List NotifyThread := []
  -- what the initial events share
  opening : List Nat := []
  deriving DecidableEq

structure GenaSystem where
  -- only one device can be registered
  device : Option Device := none
  -- each call for an event allocates one of these
  shared : List Shared := []
  jobs : Jobs := {}
  now : Int
  -- the identifiers that have been made
  issued : List Text := []
  deriving DecidableEq

namespace Jobs

variable (jobs : Jobs) (input : NotifyThread)

def takeWaiting (k : Nat) : Jobs := { jobs with waiting := Places.replace k [] jobs.waiting }

def takeSending (k : Nat) : Jobs := { jobs with sending := Places.replace k [] jobs.sending }

def drop : Jobs := { jobs with dropped := jobs.dropped ++ [input] }

def lose : Jobs := { jobs with lost := jobs.lost ++ [input] }

def requeue : Jobs := { jobs with waiting := jobs.waiting ++ [input] }

def leak : Jobs := { jobs with leaked := jobs.leaked ++ [input], lost := jobs.lost ++ [input] }

def send (sub : Subscription) : Jobs :=
  { jobs with sending := jobs.sending ++ [(input, sub)], sent := jobs.sent ++ [input] }

/-- The jobs of one event: the pool takes some and refuses others, which nobody frees. -/
def raise (added refused : List NotifyThread) : Jobs :=
  { jobs with
    waiting := jobs.waiting ++ added
    leaked := jobs.leaked ++ refused
    lost := jobs.lost ++ refused
    raised := jobs.raised ++ (added ++ refused) }

/-- An initial event whose job the pool refuses is freed at once. -/
def start (added : Bool) : Jobs :=
  { jobs with
    waiting := if added then jobs.waiting ++ [input] else jobs.waiting
    lost := if added then jobs.lost else jobs.lost ++ [input]
    raised := jobs.raised ++ [input]
    opening := jobs.opening ++ [input.shared] }

end Jobs

namespace GenaSystem

def handleInfo (s : GenaSystem) (handle : Int) : Option Device :=
  s.device.filter fun device => device.handle = handle

def setService (s : GenaSystem) (i : Nat) (write : ServiceInfo → ServiceInfo) : GenaSystem :=
  { s with device := s.device.map fun device =>
      { device with serviceTable := device.serviceTable.modify i write } }

def access (s : GenaSystem) (input : NotifyThread) : Except Fault Shared :=
  match s.shared[input.shared]? with
  | some shared => if shared.freed then .error .useAfterFree else .ok shared
  | none => .error .useAfterFree

def freeNotifyStruct (s : GenaSystem) (input : NotifyThread) : Except Fault GenaSystem := do
  let shared ← s.access input
  let count := shared.referenceCount - 1
  .ok { s with shared := s.shared.set input.shared ⟨count, count = 0⟩ }

def lose (s : GenaSystem) (input : NotifyThread) : Except Fault GenaSystem :=
  { s with jobs := s.jobs.lose input }.freeNotifyStruct input

def drop (s : GenaSystem) (input : NotifyThread) : Except Fault GenaSystem :=
  { s with jobs := s.jobs.drop input }.freeNotifyStruct input

structure NotifySupply where
  -- memory for the copy of the subscription
  copy : Bool
  -- room in the pool for a job that has to wait again
  room : Bool
  deriving DecidableEq

def deliver (s : GenaSystem) (input : NotifyThread) (sub : Subscription) (supply : NotifySupply) :
    Except Fault GenaSystem :=
  if supply.copy then
    if input.eventKey ≠ sub.toSendEventKey then
      .ok { s with jobs := if supply.room then s.jobs.requeue input else s.jobs.leak input }
    else .ok { s with jobs := s.jobs.send input sub }
  else s.lose input

/-- `genaNotifyThread` until it sends. -/
def beginNotify (s : GenaSystem) (input : NotifyThread) (supply : NotifySupply) :
    Except Fault GenaSystem :=
  match s.handleInfo input.deviceHandle with
  | none => s.drop input
  | some device => do
      let _ ← s.access input
      match findServiceId device.serviceTable input.servId input.udn with
      | none => s.drop input
      | some (service, i) =>
          if service.active then
            let (service, sub) := service.getSubscriptionSID input.sid s.now
            let s := s.setService i fun _ => service
            match sub with
            | none => s.drop input
            | some sub => s.deliver input sub supply
          else s.lose input

/-- `genaNotify`: one URL after the other, until the message goes through; `transmit` has the
status of the response, or the code of the failure. -/
def genaNotify (transmit : Text → Except Int Int) : List Text → (returnCode : Int) → Int
  | [], returnCode => returnCode
  | url :: rest, _ =>
      match transmit url with
      | .ok status =>
          if status = httpOk then genaSuccess
          else if status = httpPreconditionFailed then genaENotifyUnacceptedRemoveSub
          else genaENotifyUnaccepted
      | .error code => genaNotify transmit rest code

/-- The rest of `genaNotifyThread`. -/
def endNotify (s : GenaSystem) (input : NotifyThread) (subCopy : Subscription)
    (transmit : Text → Except Int Int) : Except Fault GenaSystem := do
  let returnCode := genaNotify transmit subCopy.deliveryURLs (-1)
  match s.handleInfo input.deviceHandle with
  | none => s.freeNotifyStruct input
  | some device => do
      let _ ← s.access input
      match findServiceId device.serviceTable input.servId input.udn with
      | none => s.freeNotifyStruct input
      | some (service, i) =>
          if service.active then
            match service.getSubscriptionSID input.sid s.now with
            | (service, none) => (s.setService i fun _ => service).freeNotifyStruct input
            | (service, some _) =>
                let service := service.update input.sid (·.advanced)
                let service :=
                  if returnCode = genaENotifyUnacceptedRemoveSub then
                    service.removeSubscriptionSID input.sid
                  else service
                (s.setService i fun _ => service).freeNotifyStruct input
          else s.freeNotifyStruct input

inductive Attempt where
  | added
  -- the pool does not take the job
  | refused
  -- no memory for the structure of the job
  | noMemory
  deriving DecidableEq

structure Event where
  propertySet : Text
  servId : Text
  udn : Text
  shared : Nat
  deviceHandle : Int
  deriving DecidableEq

def Event.job (event : Event) (sub : Subscription) : NotifyThread where
  headers := notifyHeaders event.propertySet
  propertySet := event.propertySet
  servId := event.servId
  udn := event.udn
  sid := sub.sid
  eventKey := sub.eventKey
  shared := event.shared
  deviceHandle := event.deviceHandle

structure Walk where
  subscriptions : List Subscription
  added : List NotifyThread
  refused : List NotifyThread
  removed : Nat
  returnCode : Int
  deriving DecidableEq

/-- `GetFirstSubscription` and `GetNextSubscription` go over the list: they remove the subscriptions
that have expired and pass over those that are not active. The loop ends at the first job that
cannot be added. -/
def notifyEach (event : Event) (now noMemoryCode : Int) :
    List Subscription → List Attempt → Walk
  | [], _ => ⟨[], [], [], 0, genaSuccess⟩
  | sub :: rest, attempts =>
      if sub.expired now then
        let walk := notifyEach event now noMemoryCode rest attempts
        { walk with removed := walk.removed + 1 }
      else if sub.active then
        let after := sub.raises
        match attempts.headD .added with
        | .added =>
            let walk := notifyEach event now noMemoryCode rest attempts.tail
            { walk with
              subscriptions := after :: walk.subscriptions
              added := event.job sub :: walk.added }
        | .refused => ⟨after :: rest, [], [event.job sub], 0, dlnaEOutofMemory⟩
        | .noMemory => ⟨sub :: rest, [], [], 0, noMemoryCode⟩
      else
        let walk := notifyEach event now noMemoryCode rest attempts
        { walk with subscriptions := sub :: walk.subscriptions }

def Walk.write (walk : Walk) (service : ServiceInfo) : ServiceInfo :=
  { service with
    subscriptionList := walk.subscriptions
    totalSubscriptions := service.totalSubscriptions - walk.removed }

/-- `genaNotifyAll` from the lock on. The structures of refused jobs are not freed. -/
def notifyAll (s : GenaSystem) (deviceHandle : Int) (udn servId propertySet : Text)
    (attempts : List Attempt) (noMemoryCode : Int) : GenaSystem × Int :=
  let event : Event := ⟨propertySet, servId, udn, s.shared.length, deviceHandle⟩
  let unused := { s with shared := s.shared ++ [⟨0, true⟩] }
  match s.handleInfo deviceHandle with
  | none => (unused, genaEBadHandle)
  | some device =>
      match findServiceId device.serviceTable servId udn with
      | none => (unused, genaEBadService)
      | some (service, i) =>
          let walk := notifyEach event s.now noMemoryCode service.subscriptionList attempts
          let count : Int := walk.added.length + walk.refused.length
          ({ s.setService i walk.write with
            shared := s.shared ++ [⟨count, count = 0⟩]
            jobs := s.jobs.raise walk.added walk.refused }, walk.returnCode)

def genaNotifyAll (s : GenaSystem) (deviceHandle : Int) (udn servId : Text)
    (vars : List (Text × Text)) (attempts : List Attempt) : GenaSystem × Int :=
  s.notifyAll deviceHandle udn servId (generatePropertySet vars) attempts dlnaEOutofMemory

/-- A missing structure does not change the code that is returned. -/
def genaNotifyAllExt (s : GenaSystem) (deviceHandle : Int) (udn servId propSet : Text)
    (attempts : List Attempt) : GenaSystem × Int :=
  s.notifyAll deviceHandle udn servId propSet attempts genaSuccess

inductive InitAttempt where
  | tries (attempt : Attempt)
  -- there is no property set, with this code
  | noPropertySet (returnCode : Int)
  deriving DecidableEq

/-- `genaInitNotify` from the subscription on: it is active, whatever follows. -/
def startNotify (s : GenaSystem) (i : Nat) (event : Event) (sub : Subscription) :
    InitAttempt → GenaSystem × Int
  | .noPropertySet returnCode =>
      ({ s.setService i (·.update sub.sid (·.activated 0)) with
        shared := s.shared ++ [⟨0, true⟩] }, returnCode)
  | .tries .noMemory =>
      ({ s.setService i (·.update sub.sid (·.activated 0)) with
        shared := s.shared ++ [⟨0, true⟩] }, dlnaEOutofMemory)
  | .tries .refused =>
      -- the key has been used; everything that was allocated is freed
      ({ s.setService i (·.update sub.sid (·.activated 1)) with
        shared := s.shared ++ [⟨1, true⟩]
        jobs := s.jobs.start (event.job sub) false }, dlnaEOutofMemory)
  | .tries .added =>
      ({ s.setService i (·.update sub.sid (·.activated 1)) with
        shared := s.shared ++ [⟨1, false⟩]
        jobs := s.jobs.start (event.job sub) true }, genaSuccess)

def genaInitNotify (s : GenaSystem) (deviceHandle : Int) (udn servId propertySet sid : Text)
    (attempt : InitAttempt) : GenaSystem × Int :=
  match s.handleInfo deviceHandle with
  | none => (s, genaEBadHandle)
  | some device =>
      match findServiceId device.serviceTable servId udn with
      | none => (s, genaEBadService)
      | some (service, i) =>
          match service.getSubscriptionSID sid s.now with
          | (service, none) => (s.setService i fun _ => service, genaEBadSid)
          | (_, some sub) =>
              if sub.active then (s, genaEBadSid)
              else
                s.startNotify i ⟨propertySet, servId, udn, s.shared.length, deviceHandle⟩ sub
                  attempt

inductive TimeoutHeader where
  | second (n : Int)
  | infinite
  | other
  deriving DecidableEq

structure Request where
  nt : Option Text
  sid : Option Text
  -- the URLs that `create_url_list` finds in `CALLBACK`
  callback : Option (List Text)
  timeout : Option TimeoutHeader
  pathquery : Text
  deriving DecidableEq

def defaultTimeout : Int := 1801

def Request.timeOut (request : Request) : Int :=
  match request.timeout with
  | none => 1801
  | some (.second n) => n
  | some .infinite => -1
  | some .other => defaultTimeout

structure Surroundings where
  -- what `parse_uri` finds in a URL
  pathquery : Text → Text
  -- what `uuid_create` makes
  sid : Text
  -- the response could be sent
  responded : Bool

def newSubscription (sid : Text) (now timeOut : Int) (urls : List Text) : Subscription where
  sid := sid
  expireTime := if timeOut ≥ 0 then now + timeOut else 0
  deliveryURLs := urls

def processSubscription (s : GenaSystem) (request : Request) (around : Surroundings) :
    GenaSystem × Int :=
  match request.nt with
  | none => (s, httpBadRequest)
  | some nt =>
      if !strcasecmp nt "dlna:event".toList then (s, httpPreconditionFailed)
      else if request.sid.isSome then (s, httpBadRequest)
      else
        match s.device with
        | none => (s, httpInternalServerError)
        | some device =>
            match findServiceEventURLPath around.pathquery device.serviceTable request.pathquery with
            | none => (s, httpNotFound)
            | some (service, i) =>
                if !service.active then (s, httpNotFound)
                else if device.maxSubscriptions ≠ -1 ∧
                    service.totalSubscriptions ≥ device.maxSubscriptions then
                  (s, httpInternalServerError)
                else
                  match request.callback with
                  | none | some [] => (s, httpPreconditionFailed)
                  | some (url :: urls) =>
                      let timeOut := device.limitTimeOut request.timeOut
                      let sub := newSubscription around.sid s.now timeOut (url :: urls)
                      let s := { s with issued := s.issued ++ [around.sid] }
                      if around.responded then (s.setService i (·.add sub), httpOk)
                      else (s, httpOk)

def sidSize : Nat := 41

def Request.checkSid (request : Request) : Except Int Text :=
  if request.callback.isSome ∨ request.nt.isSome then .error httpBadRequest
  else
    match request.sid with
    | none => .error httpPreconditionFailed
    | some sid => if sid.length > sidSize then .error httpPreconditionFailed else .ok sid

def processRenewal (s : GenaSystem) (request : Request) (around : Surroundings) :
    GenaSystem × Int :=
  match request.checkSid with
  | .error status => (s, status)
  | .ok sid =>
      match s.device with
      -- this return does not release the lock; the model goes on as if it had
      | none => (s, httpPreconditionFailed)
      | some device =>
          match findServiceEventURLPath around.pathquery device.serviceTable request.pathquery with
          | none => (s, httpPreconditionFailed)
          | some (service, i) =>
              if !service.active then (s, httpPreconditionFailed)
              else
                match service.getSubscriptionSID sid s.now with
                | (service, none) => (s.setService i fun _ => service, httpPreconditionFailed)
                | (service, some sub) =>
                    if device.maxSubscriptions ≠ -1 ∧
                        service.totalSubscriptions > device.maxSubscriptions then
                      (s.setService i (·.removeSubscriptionSID sub.sid),
                        httpInternalServerError)
                    else
                      let timeOut := device.limitTimeOut request.timeOut
                      let expireTime := if timeOut = -1 then 0 else s.now + timeOut
                      let s := s.setService i (·.update sub.sid (·.renewed expireTime))
                      if around.responded then (s, httpOk)
                      else (s.setService i (·.removeSubscriptionSID sub.sid), httpOk)

def processUnsubscribe (s : GenaSystem) (request : Request) (around : Surroundings) :
    GenaSystem × Int :=
  match request.checkSid with
  | .error status => (s, status)
  | .ok sid =>
      match s.device with
      | none => (s, httpPreconditionFailed)
      | some device =>
          match findServiceEventURLPath around.pathquery device.serviceTable request.pathquery with
          | none => (s, httpPreconditionFailed)
          | some (service, i) =>
              if !service.active then (s, httpPreconditionFailed)
              else
                match service.getSubscriptionSID sid s.now with
                | (service, none) => (s.setService i fun _ => service, httpPreconditionFailed)
                | (_, some _) => (s.setService i (·.removeSubscriptionSID sid), httpOk)

def processSubscribe (s : GenaSystem) (request : Request) (around : Surroundings) :
    GenaSystem × Int :=
  if request.nt.isNone then s.processRenewal request around
  else s.processSubscription request around

end GenaSystem

open GenaSystem in
inductive GenaAction where
  -- the table has been made from the description of the device
  | registerDevice (handle : Int) (serviceTable : List ServiceInfo)
  | unregisterDevice
  | freeHandle
  | setMaxSubscriptions (n : Int)
  | setMaxSubscriptionTimeOut (n : Int)
  | subscribe (request : Request) (around : Surroundings)
  | unsubscribe (request : Request) (around : Surroundings)
  | initNotify (deviceHandle : Int) (udn servId propertySet sid : Text) (attempt : InitAttempt)
  | notifyAll (deviceHandle : Int) (udn servId : Text) (vars : List (Text × Text))
      (attempts : List Attempt)
  | notifyAllExt (deviceHandle : Int) (udn servId propSet : Text) (attempts : List Attempt)
  -- a thread of the pool takes the `k`-th job
  | begin (k : Nat) (supply : NotifySupply)
  -- the `k`-th of the jobs that are sending goes on
  | finish (k : Nat) (transmit : Text → Except Int Int)
  -- the pool is shut down
  | discard (k : Nat)
  | tick (now : Int)

open GenaSystem in
/-- `none` when the action is not possible in the state. -/
def GenaAction.exec (s : GenaSystem) : GenaAction → Option (Except Fault GenaSystem)
  | .registerDevice handle serviceTable =>
      if s.device.isNone ∧ serviceTable.all (fun service =>
          service.active && service.subscriptionList.isEmpty && service.totalSubscriptions = 0) then
        some (.ok { s with device := some { handle := handle, serviceTable := serviceTable } })
      else none
  | .unregisterDevice =>
      some (.ok { s with device := s.device.map fun device => { device with serviceTable := [] } })
  | .freeHandle => some (.ok { s with device := none })
  | .setMaxSubscriptions n =>
      if n = -1 ∨ 0 ≤ n then
        some (.ok
          { s with device := s.device.map fun device => { device with maxSubscriptions := n } })
      else none
  | .setMaxSubscriptionTimeOut n =>
      if n = -1 ∨ 0 ≤ n then
        some (.ok
          { s with device := s.device.map fun device =>
              { device with maxSubscriptionTimeOut := n } })
      else none
  | .subscribe request around =>
      if s.issued.contains around.sid then none else some (.ok (s.processSubscribe request around).1)
  | .unsubscribe request around => some (.ok (s.processUnsubscribe request around).1)
  | .initNotify deviceHandle udn servId propertySet sid attempt =>
      some (.ok (s.genaInitNotify deviceHandle udn servId propertySet sid attempt).1)
  | .notifyAll deviceHandle udn servId vars attempts =>
      some (.ok (s.genaNotifyAll deviceHandle udn servId vars attempts).1)
  | .notifyAllExt deviceHandle udn servId propSet attempts =>
      some (.ok (s.genaNotifyAllExt deviceHandle udn servId propSet attempts).1)
  | .begin k supply =>
      s.jobs.waiting[k]?.map fun input =>
        { s with jobs := s.jobs.takeWaiting k }.beginNotify input supply
  | .finish k transmit =>
      s.jobs.sending[k]?.map fun job =>
        { s with jobs := s.jobs.takeSending k }.endNotify job.1 job.2 transmit
  | .discard k =>
      s.jobs.waiting[k]?.map fun input =>
        { s with jobs := s.jobs.takeWaiting k }.lose input
  | .tick now => if s.now ≤ now then some (.ok { s with now := now }) else none

def GenaStep (s : GenaSystem) (action : GenaAction) (t : GenaSystem) : Prop :=
  action.exec s = some (.ok t)

def GenaSystem.initial (now : Int) : GenaSystem := { now := now }

end Libdlna.Gena
