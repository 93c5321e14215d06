import Libdlna.Model.Didl
import Libdlna.Model.Services

set_option autoImplicit false

namespace Libdlna

open CString

structure FileStat where
  size : Int
  mtime : Int
  isDirectory : Bool
  deriving DecidableEq

inductive Access where
  | granted
  -- EACCES
  | denied
  | failed
  deriving DecidableEq

structure FileSystem where
  stat : Text → Option FileStat
  access : Text → Access
  opens : Text → Bool

structure FileInfo where
  fileLength : Int
  lastModified : Int
  isDirectory : Bool
  isReadable : Bool
  contentType : Text
  deriving DecidableEq

inductive HttpObject where
  | description (text : Text)
  | file (r : Ref) (filename : Text)
  deriving DecidableEq

inductive HttpFileHandler where
  | memory (fullpath content : Text)
  | local (fullpath : Text)
  deriving DecidableEq

def servicesVirtualDir : Text := "/services".toList
def servicesVirtualDirLen : Nat := 9
def serviceContentType : Text := "text/xml".toList

/-- `filename + SERVICES_VIRTUAL_DIR_LEN + 1`, unless that is beyond the end of the string. -/
def serviceUrl (filename : Text) : Option Text :=
  if filename.length < servicesVirtualDirLen + 1 then none
  else some (filename.drop (servicesVirtualDirLen + 1))

variable {C : Type}

def dlnaServiceFindUrl (services : List (DlnaService C)) (url : Option Text) :
    Except Fault (Option (DlnaService C)) :=
  match url with
  | some url => .ok (services.find? fun service => service.scpdUrl = some url)
  | none =>
      -- the first service that has a URL is compared with what follows the string
      if services.any fun service => service.scpdUrl.isSome then .error .outOfBounds else .ok none

def httpFindService (services : List (DlnaService C)) (filename : Text) :
    Except Fault (Option (DlnaService C)) :=
  if filename.take servicesVirtualDirLen = servicesVirtualDir then
    dlnaServiceFindUrl services (serviceUrl filename)
  else .ok none

/-- `strtoul (strrchr (filename, '/') + 1, NULL, 10)`, as a `uint32_t`. -/
def httpObjectId (filename : Text) : Except Fault UInt32 :=
  match strrchr '/' filename with
  | none => .error .nullDeref
  | some tail => .ok (toUInt32 (strtoul (tail.drop 1)))

def setServiceHttpInfo (length : Nat) (contentType : Text) : FileInfo where
  fileLength := length
  lastModified := 0
  isDirectory := false
  isReadable := true
  contentType := contentType

/-- `dlna_http_get_info` from the lookup of the id on. -/
def httpItemInfo (d : Dlna) (files : FileSystem) (id : UInt32) :
    Except Fault (Option (HttpObject × FileInfo)) :=
  match vfsGetItemById d id with
  | none => .ok none
  | some r => do
      let item ← d.readItem r
      match item.body with
      | .container _ => .ok none
      | .resource content _ =>
          match dlnaItemGet d item.id content with
          | none => .ok none
          | some dlnaItem =>
              match files.stat dlnaItem.filename with
              | none => .ok none
              | some st =>
                  if files.access dlnaItem.filename = .failed then .ok none
                  else
                    match dlnaItem.profile with
                    | none => .error .nullDeref
                    | some profile =>
                        .ok (some (.file r dlnaItem.filename,
                          { fileLength := st.size
                            lastModified := st.mtime
                            isDirectory := st.isDirectory
                            isReadable := files.access dlnaItem.filename = .granted
                            contentType := (profile.mime.map Subtype.val).getD [] }))

/-- `dlna_http_get_info` without application callbacks: `none` is `HTTP_ERROR`. -/
def dlnaHttpGetInfo (d : Dlna) (services : List (DlnaService C)) (files : FileSystem)
    (filename : Text) : Except Fault (Option (HttpObject × FileInfo)) := do
  match ← httpFindService services filename with
  | some service =>
      .ok (some (.description service.description,
        setServiceHttpInfo service.description.length serviceContentType))
  | none => do
      let id ← httpObjectId filename
      httpItemInfo d files id

inductive OpenFileMode where
  | read
  | write
  deriving DecidableEq

def httpGetFileFromMemory (fullpath description : Text) (length : Nat) : Option HttpFileHandler :=
  if length = 0 then none else some (.memory fullpath description)

def httpGetFileLocal (files : FileSystem) (dlnaItem : DlnaItem) : Option HttpFileHandler :=
  if files.opens dlnaItem.filename then some (.local dlnaItem.filename) else none

/-- `dlna_http_open` from the lookup of the id on: the kind of the item is not looked at. -/
def httpItemOpen (d : Dlna) (files : FileSystem) (id : UInt32) :
    Except Fault (Option (HttpObject × HttpFileHandler)) :=
  match vfsGetItemById d id with
  | none => .ok none
  | some r => do
      let item ← d.readItem r
      match item.body with
      | .container _ => .error .wrongUnionMember
      | .resource content _ =>
          match dlnaItemGet d item.id content with
          | none => .ok none
          | some dlnaItem =>
              .ok ((httpGetFileLocal files dlnaItem).map fun handler =>
                (.file r dlnaItem.filename, handler))

def dlnaHttpOpen (d : Dlna) (services : List (DlnaService C)) (files : FileSystem)
    (filename : Text) (mode : OpenFileMode) :
    Except Fault (Option (HttpObject × HttpFileHandler)) :=
  if mode ≠ .read then .ok none
  else do
    match ← httpFindService services filename with
    | some service =>
        .ok ((httpGetFileFromMemory filename service.description service.description.length).map
          fun handler => (.description service.description, handler))
    | none => do
        let id ← httpObjectId filename
        httpItemOpen d files id

end Libdlna
