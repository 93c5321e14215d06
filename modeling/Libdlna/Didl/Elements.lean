import Libdlna.Didl.Trees

set_option autoImplicit false

/-!
# The elements of a DIDL document

What `didl_add_container` and `didl_add_item` print, as trees, and the strings for which they
print them.
-/

namespace Libdlna

open CString Xml

variable {d : Dlna} {filter : Text}

def containerParams (d : Dlna) (item : VfsItem) (box : Container)
    (restricted searchable : Option Text) : List (Text × Option Text) :=
  [("id".toList, some (decimalInt item.id.toNat)),
    ("parentID".toList, some (decimalInt (parentId d item).toNat)),
    ("childCount".toList, some (decimalInt box.childrenCount.toNat)),
    ("restricted".toList, restricted), ("searchable".toList, searchable)]

def containerElement (d : Dlna) (item : VfsItem) (box : Container)
    (restricted searchable objectClass : Option Text) : Element where
  name := "container".toList
  attributes := attributesOf (containerParams d item box restricted searchable)
  children := tagContent "upnp:class".toList objectClass
    (tagContent "dc:title".toList (some item.title) .nil)

structure PlainContainer (item : VfsItem) (restricted searchable objectClass : Option Text) :
    Prop where
  restricted : PlainParam "restricted".toList restricted
  searchable : PlainParam "searchable".toList searchable
  objectClass : PlainTag "upnp:class".toList objectClass
  title : PlainTag "dc:title".toList (some item.title)

theorem uint32_plain {param : Text} (short : param.length ≤ 64) (n : UInt32) :
    PlainParam param (some (decimalInt n.toNat)) := by
  have bounded := n.toNat_lt
  exact decimalInt_plain short (by omega)

section Containers

variable {item : VfsItem} {box : Container} {restricted searchable objectClass : Option Text}

theorem containerParams_plain (plain : PlainContainer item restricted searchable objectClass) :
    PlainParams (containerParams d item box restricted searchable) where
  names := by simp only [containerParams, List.forall_mem_cons]; decide
  distinct := by simp only [containerParams, List.map_cons, List.map_nil]; decide
  values := by
    simp only [containerParams, List.forall_mem_cons]
    exact ⟨uint32_plain (by decide) _, uint32_plain (by decide) _, uint32_plain (by decide) _,
      plain.restricted, plain.searchable, by simp⟩

theorem containerElement_plain (plain : PlainContainer item restricted searchable objectClass) :
    (containerElement d item box restricted searchable objectClass).Plain where
  name := show isName "container".toList by decide
  attributes := (containerParams_plain plain).attributes
  children := tagContent_plain (by decide) plain.objectClass
    (tagContent_plain (by decide) plain.title trivial)

theorem containerTexts_spells (plain : PlainContainer item restricted searchable objectClass) :
    Spells (some (containerTexts d item box restricted searchable objectClass))
      ((containerElement d item box restricted searchable objectClass).content .nil).print := by
  have title : Spells (joinTexts (some (tagTexts "dc:title".toList (some item.title))) (some []))
      (tagContent "dc:title".toList (some item.title) .nil).print :=
    tagContent_spells plain.title spells_nothing
  have inside := tagContent_spells plain.objectClass title
  have spelled := element_spells (containerElement d item box restricted searchable objectClass)
    (show "<container".toList = '<' :: "container".toList by decide)
    (show "</container>".toList = closingTag "container".toList by decide)
    (show "container".toList.length ≤ 64 by decide)
    (show _ = attributesOf (containerParams d item box restricted searchable) from rfl)
    (containerParams_plain plain).values inside
  simpa only [containerTexts, joinTexts, paramsTexts, containerParams, valueTexts,
    List.flatMap_cons, List.flatMap_nil, List.append_nil, List.append_assoc, List.cons_append,
    List.nil_append] using spelled

end Containers

def trackText (metadata : DlnaMetadata) : Text :=
  printAttribute ("upnp:originalTrackNumber".toList, decimalInt metadata.track.toNat)

def metadataContent (metadata : DlnaMetadata) (rest : Content) : Content :=
  tagContent "dc:artist".toList metadata.author
    (tagContent "dc:description".toList metadata.comment
      (tagContent "upnp:album".toList metadata.album
        (.text (trackText metadata) (tagContent "upnp:genre".toList metadata.genre rest))))

structure PlainMetadata (metadata : DlnaMetadata) : Prop where
  author : PlainTag "dc:artist".toList metadata.author
  comment : PlainTag "dc:description".toList metadata.comment
  album : PlainTag "upnp:album".toList metadata.album
  genre : PlainTag "upnp:genre".toList metadata.genre

section Metadata

variable {metadata : DlnaMetadata} {rest : Content}

theorem trackText_plain : PlainText (trackText metadata) := by
  have name := List.all_eq_true.mp
    (show "upnp:originalTrackNumber".toList.all isInert by decide)
  refine plainText_of_inert fun c member => ?_
  simp only [trackText, printAttribute, List.mem_cons, List.mem_append, List.not_mem_nil,
    or_false] at member
  rcases member with rfl | inName | rfl | rfl | inNumber | rfl
  · exact .inl (by decide)
  · exact .inl (name c inName)
  · exact .inl (by decide)
  · exact .inr rfl
  · exact .inl (decimalInt_inert _ c inNumber)
  · exact .inr rfl

theorem metadataContent_plain (plain : PlainMetadata metadata) (isRest : rest.Plain)
    (other : rest.startsWithText = false) : (metadataContent metadata rest).Plain :=
  tagContent_plain (by decide) plain.author (tagContent_plain (by decide) plain.comment
    (tagContent_plain (by decide) plain.album
      ⟨by simp [trackText, printAttribute], trackText_plain, tagContent_startsWithText other,
        tagContent_plain (by decide) plain.genre isRest⟩))

theorem metadataTexts_spells (plain : PlainMetadata metadata) {texts : Option (List Text)}
    (others : Spells texts rest.print) :
    Spells (joinTexts (some (metadataTexts metadata)) texts)
      (metadataContent metadata rest).print := by
  have track : Spells
      (some (valueTexts "upnp:originalTrackNumber".toList metadata.track.toNat))
      (trackText metadata) := by
    have short : "upnp:originalTrackNumber".toList.length ≤ 64 := by decide
    have spelled := paramTexts_spells (uint32_plain short metadata.track)
    rwa [Option.toList_some, List.map_singleton, List.flatMap_singleton] at spelled
  have genre := tagContent_spells plain.genre others
  have album : Spells _ (tagContent "upnp:album".toList metadata.album (.text (trackText metadata)
      (tagContent "upnp:genre".toList metadata.genre rest))).print :=
    tagContent_spells plain.album (track.join genre)
  have spelled := tagContent_spells plain.author (tagContent_spells plain.comment album)
  simpa only [metadataTexts, joinTexts_append, List.append_nil] using! spelled

theorem textOf_metadataContent (name : Text)
    (other : name ∉ ["dc:artist".toList, "dc:description".toList, "upnp:album".toList,
      "upnp:genre".toList]) :
    (metadataContent metadata rest).textOf name = rest.textOf name := by
  simp only [List.mem_cons, List.not_mem_nil, or_false, not_or] at other
  obtain ⟨artist, description, album, genre⟩ := other
  simp only [metadataContent, textOf_tagContent, Content.textOf, if_neg (Ne.symm artist),
    if_neg (Ne.symm description), if_neg (Ne.symm album), if_neg (Ne.symm genre), List.nil_append]

end Metadata

def propertiesParams (properties : DlnaProperties) : List (Text × Option Text) :=
  [("duration".toList, some properties.duration),
    ("bitrate".toList, some (decimalInt properties.bitrate.toNat)),
    ("bitsPerSample".toList, some (decimalInt properties.bps.toNat)),
    ("nrAudioChannels".toList, some (decimalInt properties.channels.toNat)),
    ("resolution".toList,
      if 1 < properties.resolution.length then some properties.resolution else none)]

def resParams (protocolInfo : Text) (item : DlnaItem) (filter : Text) :
    List (Text × Option Text) :=
  ("protocolInfo".toList, some protocolInfo) ::
    ("size".toList,
      if item.filesize ≠ 0 ∧ filterHasVal filter "@size".toList then
        some (decimalInt item.filesize)
      else none) ::
    match item.properties with
    | some properties => propertiesParams properties
    | none => []

def resElement (d : Dlna) (id : UInt32) (protocolInfo : Text) (item : DlnaItem) (filter : Text) :
    Element where
  name := "res".toList
  attributes := attributesOf (resParams protocolInfo item filter)
  children := .text (resourceUrl d id) .nil

structure PlainProperties (properties : DlnaProperties) : Prop where
  duration : PlainParam "duration".toList (some properties.duration)
  resolution : PlainParam "resolution".toList
    (if 1 < properties.resolution.length then some properties.resolution else none)

structure PlainRes (d : Dlna) (item : DlnaItem) : Prop where
  profile : ∃ profile, item.profile = some profile ∧ profile.mime.isSome
  address : ∀ c ∈ d.serverIpAddress, isInert c
  addressShort : d.serverIpAddress.length ≤ 1024
  size : item.filesize.natAbs < 10 ^ 20
  properties : ∀ properties, item.properties = some properties → PlainProperties properties

section Res

variable {item : DlnaItem} {cnv : Conversion} {id : UInt32} {protocolInfo : Text}

theorem resParams_plain (plain : PlainRes d item)
    (isPlain : PlainParam "protocolInfo".toList (some protocolInfo)) :
    PlainParams (resParams protocolInfo item filter) where
  names := by
    unfold resParams
    cases item.properties with
    | none => simp only [List.forall_mem_cons]; decide
    | some properties => simp only [propertiesParams, List.forall_mem_cons]; decide
  distinct := by
    unfold resParams
    cases item.properties with
    | none => simp only [List.map_cons, List.map_nil]; decide
    | some properties => simp only [propertiesParams, List.map_cons, List.map_nil]; decide
  values := by
    have size : PlainParam "size".toList
        (if item.filesize ≠ 0 ∧ filterHasVal filter "@size".toList then
          some (decimalInt item.filesize)
        else none) := by
      split
      · exact decimalInt_plain (by decide) plain.size
      · rintro s ⟨⟩
    unfold resParams
    cases found : item.properties with
    | none =>
        simp only [List.forall_mem_cons]
        exact ⟨isPlain, size, by simp⟩
    | some properties =>
        have isProperties := plain.properties properties found
        simp only [propertiesParams, List.forall_mem_cons]
        exact ⟨isPlain, size, isProperties.duration, uint32_plain (by decide) _,
          uint32_plain (by decide) _, uint32_plain (by decide) _, isProperties.resolution, by simp⟩

theorem resourceUrl_inert (address : ∀ c ∈ d.serverIpAddress, isInert c) :
    ∀ c ∈ resourceUrl d id, isInert c := by
  have literals : ∀ s ∈ ["http://".toList, ":".toList, virtualDir, "/".toList],
      s.all isInert := by decide
  have inert : ∀ s ∈ ["http://".toList, ":".toList, virtualDir, "/".toList], ∀ c ∈ s, isInert c :=
    fun s member => List.all_eq_true.mp (literals s member)
  have port : ∀ c ∈ decimal d.port.toNat, isInert c :=
    fun c member => isInert_of_isDigit (decimal_isDigit member)
  unfold resourceUrl
  simp only [List.forall_mem_append, and_assoc]
  exact ⟨inert _ (by simp), address, inert _ (by simp), port, inert _ (by simp),
    inert _ (by simp), decimalInt_inert _⟩

theorem resourceUrl_fits (short : d.serverIpAddress.length ≤ 1024) : Fits (resourceUrl d id) := by
  have port : (decimal d.port.toNat).length ≤ 5 :=
    decimal_length (by decide) (by have bounded := d.port.toNat_lt; omega)
  have number : (decimalInt (toInt32 id.toNat)).length ≤ 21 :=
    decimalInt_length (by unfold toInt32; omega)
  have scheme : "http://".toList.length = 7 := by decide
  have colon : ":".toList.length = 1 := by decide
  have directory : virtualDir.length = 4 := by decide
  have slash : "/".toList.length = 1 := by decide
  unfold Fits resourceUrl bufferDefaultCapacity
  simp only [List.length_append, scheme, colon, directory, slash]
  omega

theorem resourceUrl_nonempty : resourceUrl d id ≠ [] := by
  unfold resourceUrl
  exact List.append_ne_nil_of_left_ne_nil (List.append_ne_nil_of_right_ne_nil _ (by decide)) _

theorem protocolInfo_plain {profile : DlnaProfile} {flags : UInt32} {mode : CapabilityMode}
    (written : dlnaWriteProtocolInfo mode dlnaOrgPlaySpeedNormal cnv dlnaOrgOperationRange flags
      profile = .ok protocolInfo) : PlainParam "protocolInfo".toList (some protocolInfo) := by
  rintro s ⟨⟩
  have chars := dlnaWriteProtocolInfo_chars written
  have short := dlnaWriteProtocolInfo_length written
  have name : "protocolInfo".toList.length = 12 := by decide
  refine ⟨plainValue_of_inert fun c member => isInert_of_isInfoChar (chars c member), ?_⟩
  rw [name, bufferDefaultCapacity]
  omega

def resContent (d : Dlna) (id : UInt32) (cnv : Conversion) (item : DlnaItem) (filter : Text) :
    Content :=
  match item.profile with
  | none => .nil
  | some profile =>
      match dlnaWriteProtocolInfo d.mode dlnaOrgPlaySpeedNormal cnv dlnaOrgOperationRange d.flags
        profile with
      | .error _ => .nil
      | .ok protocolInfo => (resElement d id protocolInfo item filter).content .nil

theorem resParamTexts_paramsTexts (protocolInfo : Text) (item : DlnaItem) (filter : Text) :
    paramsTexts (resParams protocolInfo item filter) =
      paramTexts "protocolInfo".toList (some protocolInfo) ++ resParamTexts item filter := by
  -- an attribute that is left out and one without a value print the same
  have size : (if item.filesize ≠ 0 ∧ filterHasVal filter "@size".toList then
      valueTexts "size".toList item.filesize else []) =
      paramTexts "size".toList
        (if item.filesize ≠ 0 ∧ filterHasVal filter "@size".toList then
          some (decimalInt item.filesize) else none) := by
    split <;> rfl
  have resolution (properties : DlnaProperties) : (if 1 < properties.resolution.length then
      paramTexts "resolution".toList (some properties.resolution) else []) =
      paramTexts "resolution".toList
        (if 1 < properties.resolution.length then some properties.resolution else none) := by
    split <;> rfl
  unfold resParamTexts resParams
  rw [size]
  cases item.properties with
  | none => simp only [paramsTexts, List.flatMap_cons, List.flatMap_nil]
  | some properties =>
      dsimp only [propertiesTexts]
      rw [resolution]
      simp only [paramsTexts, propertiesParams, valueTexts, List.flatMap_cons, List.flatMap_nil,
        List.append_nil]

theorem resTexts_spells (plain : PlainRes d item) :
    Spells (resTexts d id cnv item filter) (resContent d id cnv item filter).print ∧
      (resContent d id cnv item filter).Plain := by
  obtain ⟨profile, isProfile, hasMime⟩ := plain.profile
  obtain ⟨protocolInfo, written⟩ : ∃ protocolInfo, dlnaWriteProtocolInfo d.mode
      dlnaOrgPlaySpeedNormal cnv dlnaOrgOperationRange d.flags profile = .ok protocolInfo := by
    obtain ⟨mime, isMime⟩ := Option.isSome_iff_exists.mp hasMime
    unfold dlnaWriteProtocolInfo
    rw [isMime]
    cases profile.id with
    | none => exact ⟨_, rfl⟩
    | some id => by_cases other : d.mode ≠ .dlna <;> simp [other]
  have params : PlainParams (resParams protocolInfo item filter) :=
    resParams_plain plain (protocolInfo_plain written)
  have address : PlainText (resourceUrl d id) :=
    plainText_of_inert fun c member => .inl (resourceUrl_inert plain.address c member)
  have fits : Fits (resourceUrl d id) := resourceUrl_fits plain.addressShort
  unfold resTexts resContent
  rw [isProfile]
  dsimp only
  rw [written]
  have spelled := element_spells (resElement d id protocolInfo item filter)
    (show "<res".toList = '<' :: "res".toList by decide)
    (show "</res>".toList = closingTag "res".toList by decide)
    (show "res".toList.length ≤ 64 by decide) rfl params.values
    (show Spells (some [resourceUrl d id]) (resourceUrl d id ++ []) by
      rw [List.append_nil]
      exact spells_piece fits)
  rw [resParamTexts_paramsTexts] at spelled
  have isPlain : (resElement d id protocolInfo item filter).Plain :=
    { name := show isName "res".toList by decide
      attributes := params.attributes
      children := ⟨resourceUrl_nonempty, address, rfl, trivial⟩ }
  refine ⟨?_, isPlain.content trivial⟩
  simpa only [joinTexts, List.append_assoc, List.cons_append, List.nil_append] using spelled

end Res

def shownRes (d : Dlna) (id : UInt32) (cnv : Conversion) (item : DlnaItem) (filter : Text) :
    Content :=
  if filterHasVal filter "res".toList then resContent d id cnv item filter else .nil

def dlnaItemContent (d : Dlna) (id : UInt32) (title : Text) (cnv : Conversion) (item : DlnaItem)
    (filter : Text) : Content :=
  tagContent "dc:title".toList (some (itemTitle item title))
    (tagContent "upnp:class".toList (item.profile.bind dlnaProfileUpnpObjectItem)
      (match item.metadata with
        | some metadata => metadataContent metadata (shownRes d id cnv item filter)
        | none => shownRes d id cnv item filter))

structure PlainItem (d : Dlna) (title : Text) (item : DlnaItem) (filter : Text) : Prop where
  title : PlainTag "dc:title".toList (some (itemTitle item title))
  metadata : ∀ metadata, item.metadata = some metadata → PlainMetadata metadata
  res : filterHasVal filter "res".toList → PlainRes d item

section Items

variable {title : Text} {item : DlnaItem} {cnv : Conversion} {id : UInt32}

theorem shownRes_startsWithText : (shownRes d id cnv item filter).startsWithText = false := by
  unfold shownRes resContent
  repeat' split
  all_goals rfl

theorem textOf_shownRes {name : Text} (other : "res".toList ≠ name) :
    (shownRes d id cnv item filter).textOf name = [] := by
  have none : ∀ protocolInfo, ((resElement d id protocolInfo item filter).content .nil).textOf name =
      [] := fun _ => by
    rw [Element.content, Content.textOf, resElement, if_neg other]
    rfl
  unfold shownRes resContent
  repeat' split
  all_goals first | exact none _ | rfl

theorem shownRes_spells (id : UInt32) (cnv : Conversion) (plain : PlainItem d title item filter) :
    Spells (if filterHasVal filter "res".toList then resTexts d id cnv item filter else some [])
        (shownRes d id cnv item filter).print ∧
      (shownRes d id cnv item filter).Plain := by
  unfold shownRes
  by_cases shown : filterHasVal filter "res".toList
  · simp only [if_pos shown]
    exact resTexts_spells (plain.res shown)
  · simp only [if_neg shown]
    exact ⟨spells_nothing, trivial⟩

theorem profileClass_plain (profile : Option DlnaProfile) :
    PlainTag "upnp:class".toList (profile.bind dlnaProfileUpnpObjectItem) := by
  have classes : ∀ s ∈ ["object.item.imageItem.photo", "object.item.audioItem.musicTrack",
      "object.item.videoItem.movie"], s.toList.all isInert ∧ s.toList.length ≤ 64 := by
    decide
  have isPlain : ∀ s ∈ ["object.item.imageItem.photo", "object.item.audioItem.musicTrack",
      "object.item.videoItem.movie"], PlainTag "upnp:class".toList (some s.toList) := by
    rintro s member - ⟨⟩
    obtain ⟨inert, short⟩ := classes s member
    have tag : "upnp:class".toList.length = 10 := by decide
    refine ⟨plainText_of_inert fun c inText => .inl (List.all_eq_true.mp inert c inText), ?_⟩
    rw [tag, bufferDefaultCapacity]
    omega
  have nothing : PlainTag "upnp:class".toList none := by rintro - ⟨⟩
  cases profile with
  | none => exact nothing
  | some profile =>
      rw [Option.bind_some, dlnaProfileUpnpObjectItem]
      cases profile.mediaClass with
      | image => exact isPlain _ (by simp)
      | audio => exact isPlain _ (by simp)
      | av => exact isPlain _ (by simp)
      | unknown => exact nothing
      | collection => exact nothing

theorem dlnaItemTexts_spells (plain : PlainItem d title item filter) :
    Spells (dlnaItemTexts d id title cnv item filter)
      (dlnaItemContent d id title cnv item filter).print := by
  obtain ⟨res, -⟩ := shownRes_spells id cnv plain
  refine tagContent_spells plain.title (tagContent_spells (profileClass_plain item.profile) ?_)
  cases held : item.metadata with
  | none => simpa [joinTexts] using (spells_nothing.join res)
  | some metadata => exact metadataTexts_spells (plain.metadata metadata held) res

theorem dlnaItemContent_plain (plain : PlainItem d title item filter) :
    (dlnaItemContent d id title cnv item filter).Plain := by
  obtain ⟨-, res⟩ := shownRes_spells id cnv plain
  refine tagContent_plain (by decide) plain.title
    (tagContent_plain (by decide) (profileClass_plain item.profile) ?_)
  cases held : item.metadata with
  | none => exact res
  | some metadata =>
      exact metadataContent_plain (plain.metadata metadata held) res shownRes_startsWithText

theorem textOf_dlnaItemContent :
    (dlnaItemContent d id title cnv item filter).textOf "dc:title".toList =
      itemTitle item title := by
  have others : "upnp:class".toList ≠ "dc:title".toList := by decide
  have res : (shownRes d id cnv item filter).textOf "dc:title".toList = [] :=
    textOf_shownRes (by decide)
  rw [dlnaItemContent, textOf_tagContent, textOf_tagContent, if_pos rfl, if_neg others,
    List.nil_append, Option.getD_some]
  cases item.metadata with
  | none => rw [res, List.append_nil]
  | some metadata =>
      dsimp only
      rw [textOf_metadataContent _ (by decide), res, List.append_nil]

end Items

end Libdlna
