import Libdlna.Model.Item

set_option autoImplicit false

namespace Libdlna

open CString

structure ItemRow where
  filename : Text
  filesize : UInt32
  profileid : Text

structure MetadataRow where
  title : Text
  album : Text
  author : Text
  comment : Text
  genre : Text
  track : Int

structure PropertiesRow where
  duration : Text
  bitrate : Int
  sampleFrequency : Int
  bps : Int
  channels : Int
  resolution : Text

structure Store where
  items : Int → Option ItemRow
  metadata : Int → Option MetadataRow
  properties : Int → Option PropertiesRow

/-- `INSERT`: the primary key makes it fail when the row exists. -/
def insertRow {R : Type} (table : Int → Option R) (uid : Int) (row : R) : Option (Int → Option R) :=
  match table uid with
  | some _ => none
  | none => some (Function.update table uid (some row))

def quote : Char := Char.ofNat 39

/-- What `%q` makes of the text has this length: it doubles every quote. -/
def escapedLength (s : Text) : Nat := s.length + s.count quote

/-- The value of `'%<width>q'`: the text is padded with blanks on the left once it is escaped. -/
def padField (width : Nat) (s : Text) : Text := List.replicate (width - escapedLength s) ' ' ++ s

def dlnaPropertiesDurationMaxSize : Nat := 64
def dlnaPropertiesResolutionMaxSize : Nat := 64

def metadataRow (metadata : DlnaMetadata) : MetadataRow where
  title := metadata.title.getD []
  album := metadata.album.getD []
  author := metadata.author.getD []
  comment := metadata.comment.getD []
  genre := metadata.genre.getD []
  track := toInt32 metadata.track.toNat

def propertiesRow (properties : DlnaProperties) : PropertiesRow where
  duration := padField dlnaPropertiesDurationMaxSize properties.duration
  bitrate := toInt32 properties.bitrate.toNat
  sampleFrequency := toInt32 properties.sampleFrequency.toNat
  bps := toInt32 properties.bps.toNat
  channels := toInt32 properties.channels.toNat
  resolution := padField dlnaPropertiesResolutionMaxSize properties.resolution

/-- `dms_db_add` on an open database: the tables afterwards and the status code. -/
def dmsDbAdd (db : Store) (id : UInt32) (item : Option DlnaItem) : Except Fault (Store × Int) :=
  match item with
  | none => .error .nullDeref
  | some item =>
    match item.profile with
    | none => .error .nullDeref
    | some profile =>
      let row : ItemRow :=
        { filename := item.filename
          filesize := toUInt32 item.filesize
          -- %q prints a NULL argument as (NULL)
          profileid := (profile.id.map Subtype.val).getD "(NULL)".toList }
      match insertRow db.items id.toNat row with
      | none => .ok (db, -1)
      | some items =>
        let db := { db with items := items }
        match item.metadata with
        | none => .ok (db, 0)
        | some metadata =>
          match insertRow db.metadata id.toNat (metadataRow metadata) with
          | none => .ok (db, -1)
          | some table =>
            let db := { db with metadata := table }
            -- the properties are written under the test for the metadata
            match item.properties with
            | none => .error .nullDeref
            | some properties =>
              match insertRow db.properties id.toNat (propertiesRow properties) with
              | none => .ok (db, -1)
              | some table => .ok ({ db with properties := table }, 0)

def readMetadata (row : MetadataRow) : DlnaMetadata where
  title := some row.title
  author := some row.author
  comment := some row.comment
  album := some row.album
  track := toUInt32 (toInt32 row.track)
  genre := some row.genre

def readProperties (row : PropertiesRow) : DlnaProperties where
  duration := row.duration.take (dlnaPropertiesDurationMaxSize - 1)
  bitrate := toUInt32 row.bitrate
  sampleFrequency := toUInt32 row.sampleFrequency
  bps := toUInt32 row.bps
  channels := toUInt32 row.channels
  resolution := row.resolution.take (dlnaPropertiesResolutionMaxSize - 1)

/-- The key of the `SELECT` statements: the id goes through `%d`. -/
def selectKey (id : UInt32) : Int := toInt32 id.toNat

def dmsDbGet (getMediaProfile : Text → Option DlnaProfile) (db : Store) (id : UInt32) :
    Option DlnaItem :=
  (db.items (selectKey id)).map fun row =>
    { filename := row.filename
      filesize := row.filesize.toNat
      properties := (db.properties (selectKey id)).map readProperties
      metadata := (db.metadata (selectKey id)).map readMetadata
      profile := getMediaProfile row.profileid
      profileCookie := false }

end Libdlna
