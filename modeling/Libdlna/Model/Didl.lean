import Libdlna.Model.Buffer
import Libdlna.Model.Vfs

set_option autoImplicit false

namespace Libdlna

open CString

def strchr (s : Text) (c : Char) : Option Text :=
  match s.dropWhile fun candidate => candidate ≠ c with
  | [] => none
  | rest => some rest

/-- The tokens that `strtok_r` yields for the delimiter `','`: empty ones are skipped. -/
def strtok (s : Text) : List Text := (s.splitOn ',').filter fun token => token ≠ []

def filterHasVal (filter val : Text) : Bool :=
  if filter = "*".toList then true
  else
    (strtok filter).any fun token =>
      match if val.head? = some '@' then strchr token '@' else some token with
      | none => false
      | some token => val.isPrefixOf token

def didlNamespace : Text :=
  ("xmlns=\"urn:schemas-upnp-org:metadata-1-0/DIDL-Lite/\" " ++
    "xmlns:dc=\"http://purl.org/dc/elements/1.1/\" " ++
    "xmlns:upnp=\"urn:schemas-upnp-org:metadata-1-0/upnp/\"").toList

def didlAddHeader (out : Buffer) : Except Fault Buffer :=
  bufferAppendf out ("<DIDL-Lite ".toList ++ didlNamespace ++ ">".toList)

def didlAddFooter (out : Buffer) : Except Fault Buffer :=
  bufferAppendf out "</DIDL-Lite>".toList

def didlAddTag (out : Buffer) (tag : Text) (value : Option Text) : Except Fault (Int × Buffer) :=
  match value with
  | some (c :: rest) => do
      let out ← bufferAppendf out
        ("<".toList ++ tag ++ ">".toList ++ (c :: rest) ++ "</".toList ++ tag ++ ">".toList)
      .ok (0, out)
  | _ => .ok (-1, out)

def didlAddParam (out : Buffer) (param : Text) (value : Option Text) : Except Fault Buffer :=
  match value with
  | some value => bufferAppendf out (" ".toList ++ param ++ "=\"".toList ++ value ++ "\"".toList)
  | none => .ok out

def didlAddValue (out : Buffer) (param : Text) (value : Int) : Except Fault Buffer :=
  bufferAppendf out (" ".toList ++ param ++ "=\"".toList ++ decimalInt value ++ "\"".toList)

/-- `dlna_item_get`, which also remembers what it has read from the store. -/
def dlnaItemGet (d : Dlna) (id : UInt32) (item : Option DlnaItem) : Option DlnaItem :=
  match item with
  | some item => some item
  | none => d.db.bind fun db => dmsDbGet d.getMediaProfile db id

def parentId (d : Dlna) (item : VfsItem) : UInt32 :=
  match item.parent with
  | some parent => (d.idOf parent).getD 0
  | none => 0

def virtualDir : Text := "/web".toList

def didlAddMetadata (out : Buffer) (metadata : DlnaMetadata) : Except Fault Buffer := do
  let (_, out) ← didlAddTag out "dc:artist".toList metadata.author
  let (_, out) ← didlAddTag out "dc:description".toList metadata.comment
  let (_, out) ← didlAddTag out "upnp:album".toList metadata.album
  let out ← didlAddValue out "upnp:originalTrackNumber".toList metadata.track.toNat
  let (_, out) ← didlAddTag out "upnp:genre".toList metadata.genre
  .ok out

def didlAddProperties (out : Buffer) (properties : DlnaProperties) : Except Fault Buffer := do
  let out ← didlAddParam out "duration".toList (some properties.duration)
  let out ← didlAddValue out "bitrate".toList properties.bitrate.toNat
  let out ← didlAddValue out "bitsPerSample".toList properties.bps.toNat
  let out ← didlAddValue out "nrAudioChannels".toList properties.channels.toNat
  if 1 < properties.resolution.length then
    didlAddParam out "resolution".toList (some properties.resolution)
  else .ok out

def didlAddRes (d : Dlna) (out : Buffer) (id : UInt32) (cnv : Conversion) (item : DlnaItem)
    (filter : Text) : Except Fault Buffer :=
  match item.profile with
  | none => .error .nullDeref
  | some profile => do
      let protocolInfo ← dlnaWriteProtocolInfo d.mode dlnaOrgPlaySpeedNormal cnv
        dlnaOrgOperationRange d.flags profile
      let out ← bufferAppendf out "<res".toList
      let out ← didlAddParam out "protocolInfo".toList (some protocolInfo)
      let out ← (if item.filesize ≠ 0 ∧ filterHasVal filter "@size".toList then
          didlAddValue out "size".toList item.filesize
        else .ok out)
      let out ← (match item.properties with
        | some properties => didlAddProperties out properties
        | none => .ok out)
      let out := bufferAppend out ">".toList
      let out ← bufferAppendf out ("http://".toList ++ d.serverIpAddress ++ ":".toList ++
        decimal d.port.toNat ++ virtualDir ++ "/".toList ++ decimalInt (toInt32 id.toNat))
      bufferAppendf out "</res>".toList

def didlAddDlnaItem (d : Dlna) (out : Buffer) (id : UInt32) (title : Text) (cnv : Conversion)
    (item : DlnaItem) (filter : Text) : Except Fault Buffer := do
  let (addItemName, out) ← (match item.metadata with
    | some metadata => didlAddTag out "dc:title".toList metadata.title
    | none => .ok (1, out))
  let (_, out) ← (if addItemName ≠ 0 then didlAddTag out "dc:title".toList (some title)
    else .ok (0, out))
  let (_, out) ← didlAddTag out "upnp:class".toList (item.profile.bind dlnaProfileUpnpObjectItem)
  let out ← (match item.metadata with
    | some metadata => didlAddMetadata out metadata
    | none => .ok out)
  if filterHasVal filter "res".toList then didlAddRes d out id cnv item filter else .ok out

def didlAddItem (d : Dlna) (out : Buffer) (item : VfsItem) (restricted : Option Text)
    (filter : Text) : Except Fault Buffer :=
  match item.body with
  | .container _ => .error .wrongUnionMember
  | .resource content cnv => do
      let out ← bufferAppendf out "<item".toList
      let out ← didlAddValue out "id".toList item.id.toNat
      let out ← didlAddValue out "parentID".toList (parentId d item).toNat
      let out ← didlAddParam out "restricted".toList restricted
      let out := bufferAppend out ">".toList
      let out ← (match dlnaItemGet d item.id content with
        | some dlnaItem => didlAddDlnaItem d out item.id item.title cnv dlnaItem filter
        | none => .ok out)
      bufferAppendf out "</item>".toList

def didlAddContainer (d : Dlna) (out : Buffer) (item : VfsItem)
    (restricted searchable objectClass : Option Text) : Except Fault Buffer :=
  match item.body with
  | .resource _ _ => .error .wrongUnionMember
  | .container box => do
      let out ← bufferAppendf out "<container".toList
      let out ← didlAddValue out "id".toList item.id.toNat
      let out ← didlAddValue out "parentID".toList (parentId d item).toNat
      let out ← didlAddValue out "childCount".toList box.childrenCount.toNat
      let out ← didlAddParam out "restricted".toList restricted
      let out ← didlAddParam out "searchable".toList searchable
      let out := bufferAppend out ">".toList
      let (_, out) ← didlAddTag out "upnp:class".toList objectClass
      let (_, out) ← didlAddTag out "dc:title".toList (some item.title)
      bufferAppendf out "</container>".toList

end Libdlna
