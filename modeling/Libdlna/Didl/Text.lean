import Libdlna.Shared.Outcome
import Libdlna.Model.Cds

set_option autoImplicit false

/-!
# What the DIDL functions print

Every function appends texts that do not depend on the buffer. It succeeds exactly when there are
such texts and each of them fits the stack area of `buffer_appendf`.
-/

namespace Libdlna

open CString

def Fits (text : Text) : Prop := text.length < bufferDefaultCapacity

/-- The function appends the given texts one after the other, or always fails. -/
def Prints (print : Buffer → Except Fault Buffer) (texts : Option (List Text)) : Prop :=
  ∀ out after, print out = .ok after ↔
    ∃ pieces, texts = some pieces ∧ (∀ piece ∈ pieces, Fits piece) ∧
      after = pieces.foldl bufferAppend out

def printed (print : Buffer → Except Fault Buffer) : Text :=
  match print bufferNew with
  | .ok out => out.contents
  | .error _ => []

theorem foldl_bufferAppend_contents (pieces : List Text) (out : Buffer) :
    (pieces.foldl bufferAppend out).contents = out.contents ++ pieces.flatten := by
  induction pieces generalizing out with
  | nil => simp
  | cons piece rest ih => simp [ih]

theorem prints_appendf (text : Text) : Prints (bufferAppendf · text) (some [text]) := by
  intro out after
  by_cases fits : bufferDefaultCapacity ≤ text.length
  · simp [bufferAppendf, Fits, fits]
  · simp [bufferAppendf, Fits, fits, not_le.mp fits, eq_comm]

theorem prints_ok_iff {print : Buffer → Except Fault Buffer} {texts : Option (List Text)}
    (prints : Prints print texts) (out : Buffer) :
    (∃ after, print out = .ok after) ↔
      ∃ pieces, texts = some pieces ∧ ∀ piece ∈ pieces, Fits piece := by
  constructor
  · rintro ⟨after, ran⟩
    obtain ⟨pieces, same, fits, -⟩ := (prints out after).mp ran
    exact ⟨pieces, same, fits⟩
  · rintro ⟨pieces, same, fits⟩
    exact ⟨_, (prints out _).mpr ⟨pieces, same, fits, rfl⟩⟩

theorem bufferAppendf_ok_iff (out : Buffer) (text : Text) :
    (∃ after, bufferAppendf out text = .ok after) ↔ Fits text := by
  refine (prints_ok_iff (prints_appendf text) out).trans ?_
  simp

theorem bufferAppendf_buf {out after : Buffer} {text : Text}
    (appended : bufferAppendf out text = .ok after) : after.buf = some (out.contents ++ text) := by
  obtain ⟨pieces, same, -, rfl⟩ := (prints_appendf text out after).mp appended
  obtain rfl := Option.some.inj same
  exact bufferAppend_buf out text

theorem bufferAppendf_contents {out after : Buffer} {text : Text}
    (appended : bufferAppendf out text = .ok after) :
    after.contents = out.contents ++ text := by
  rw [Buffer.contents, bufferAppendf_buf appended, Option.getD_some]

theorem fits_closing : Fits ">".toList := by simp [Fits, bufferDefaultCapacity]

theorem prints_nothing : Prints .ok (some []) := by
  intro out after
  simp [eq_comm]

theorem prints_fault {fault : Fault} : Prints (fun _ => .error fault) none := by
  intro out after
  simp

def joinTexts : Option (List Text) → Option (List Text) → Option (List Text)
  | some s, some t => some (s ++ t)
  | _, _ => none

theorem joinTexts_assoc (s t u : Option (List Text)) :
    joinTexts s (joinTexts t u) = joinTexts (joinTexts s t) u := by
  cases s <;> cases t <;> cases u <;> simp [joinTexts]

theorem joinTexts_append (first second : List Text) (t : Option (List Text)) :
    joinTexts (some (first ++ second)) t = joinTexts (some first) (joinTexts (some second) t) :=
  (joinTexts_assoc (some first) (some second) t).symm

namespace Prints

variable {first second print : Buffer → Except Fault Buffer} {s t : Option (List Text)}

theorem bind (prints : Prints first s) (continues : Prints second t) :
    Prints (fun out => first out >>= second) (joinTexts s t) := by
  intro out after
  rw [Outcome.bind_ok]
  constructor
  · rintro ⟨between, one, two⟩
    obtain ⟨left, rfl, fitsLeft, rfl⟩ := (prints out between).mp one
    obtain ⟨right, rfl, fitsRight, rfl⟩ := (continues _ after).mp two
    exact ⟨left ++ right, rfl, List.forall_mem_append.mpr ⟨fitsLeft, fitsRight⟩,
      List.foldl_append.symm⟩
  · rintro ⟨pieces, joined, fits, rfl⟩
    cases s with
    | none => simp [joinTexts] at joined
    | some left =>
        cases t with
        | none => simp [joinTexts] at joined
        | some right =>
            obtain rfl := Option.some.inj joined
            obtain ⟨fitsLeft, fitsRight⟩ := List.forall_mem_append.mp fits
            exact ⟨_, (prints out _).mpr ⟨left, rfl, fitsLeft, rfl⟩,
              (continues _ _).mpr ⟨right, rfl, fitsRight, List.foldl_append⟩⟩

theorem append {text : Text} (fits : Fits text) (continues : Prints second t) :
    Prints (fun out => second (bufferAppend out text)) (joinTexts (some [text]) t) := by
  intro out after
  have same : bufferAppendf out text = .ok (bufferAppend out text) :=
    if_neg (not_le.mpr fits)
  have spelled := ((prints_appendf text).bind continues) out after
  dsimp only at spelled
  rw [same] at spelled
  exact spelled

theorem contents (prints : Prints print s) {out after : Buffer} (ran : print out = .ok after) :
    after.contents = out.contents ++ printed print := by
  obtain ⟨pieces, rfl, fits, rfl⟩ := (prints out after).mp ran
  have alone := (prints bufferNew _).mpr ⟨pieces, rfl, fits, rfl⟩
  have text : printed print = pieces.flatten := by
    rw [printed, alone]
    simp [foldl_bufferAppend_contents]
  rw [text, foldl_bufferAppend_contents]

end Prints

def didlHeader : Text := "<DIDL-Lite ".toList ++ didlNamespace ++ ">".toList

def didlFooter : Text := "</DIDL-Lite>".toList

theorem didlAddHeader_prints : Prints didlAddHeader (some [didlHeader]) := prints_appendf _

theorem didlAddFooter_prints : Prints didlAddFooter (some [didlFooter]) := prints_appendf _

def tagTexts (tag : Text) : Option Text → List Text
  | some (c :: rest) =>
      ["<".toList ++ tag ++ ">".toList ++ (c :: rest) ++ "</".toList ++ tag ++ ">".toList]
  | _ => []

def paramTexts (param : Text) : Option Text → List Text
  | some value => [" ".toList ++ param ++ "=\"".toList ++ value ++ "\"".toList]
  | none => []

def valueTexts (param : Text) (value : Int) : List Text := paramTexts param (some (decimalInt value))

theorem didlAddParam_prints (param : Text) (value : Option Text) :
    Prints (didlAddParam · param value) (some (paramTexts param value)) := by
  cases value with
  | none => exact prints_nothing
  | some value => exact prints_appendf _

theorem didlAddValue_prints (param : Text) (value : Int) :
    Prints (didlAddValue · param value) (some (valueTexts param value)) :=
  prints_appendf _

theorem didlAddTag_ok {out after : Buffer} {tag : Text} {value : Option Text} {status : Int} :
    didlAddTag out tag value = .ok (status, after) ↔
      status = (if tagTexts tag value = [] then -1 else 0) ∧
        (∀ piece ∈ tagTexts tag value, Fits piece) ∧
        after = (tagTexts tag value).foldl bufferAppend out := by
  match value with
  | none => simp [didlAddTag, tagTexts, eq_comm]
  | some [] => simp [didlAddTag, tagTexts, eq_comm]
  | some (c :: rest) =>
      have formatted := prints_appendf
        ("<".toList ++ tag ++ ">".toList ++ (c :: rest) ++ "</".toList ++ tag ++ ">".toList) out
      rw [didlAddTag, Outcome.bind_ok]
      simp only [formatted, Except.ok.injEq, Prod.mk.injEq]
      constructor
      · rintro ⟨between, ⟨pieces, same, fits, rfl⟩, rfl, rfl⟩
        obtain rfl := Option.some.inj same
        exact ⟨rfl, fits, rfl⟩
      · rintro ⟨rfl, fits, rfl⟩
        exact ⟨_, ⟨_, rfl, fits, rfl⟩, rfl, rfl⟩

theorem didlAddTag_nonempty {out after : Buffer} {tag rest : Text} {c : Char} {status : Int}
    (added : didlAddTag out tag (some (c :: rest)) = .ok (status, after)) : status = 0 := by
  simpa [tagTexts] using (didlAddTag_ok.mp added).1

theorem didlAddTag_prints (tag : Text) (value : Option Text)
    {second : Buffer → Except Fault Buffer} {t : Option (List Text)} (continues : Prints second t) :
    Prints (fun out => do let (_, out) ← didlAddTag out tag value; second out)
      (joinTexts (some (tagTexts tag value)) t) := by
  have alone : Prints (fun out => (didlAddTag out tag value).map Prod.snd)
      (some (tagTexts tag value)) := by
    intro out after
    rw [Outcome.map_ok]
    constructor
    · rintro ⟨⟨status, between⟩, added, rfl⟩
      obtain ⟨-, fits, same⟩ := didlAddTag_ok.mp added
      exact ⟨_, rfl, fits, same⟩
    · rintro ⟨pieces, same, fits, rfl⟩
      obtain rfl := Option.some.inj same
      exact ⟨(_, _), didlAddTag_ok.mpr ⟨rfl, fits, rfl⟩, rfl⟩
  intro out after
  rw [← (alone.bind continues) out after]
  cases added : didlAddTag out tag value <;> simp [added, Except.map, Bind.bind, Except.bind]

def metadataTexts (metadata : DlnaMetadata) : List Text :=
  tagTexts "dc:artist".toList metadata.author ++
    (tagTexts "dc:description".toList metadata.comment ++
      (tagTexts "upnp:album".toList metadata.album ++
        (valueTexts "upnp:originalTrackNumber".toList metadata.track.toNat ++
          (tagTexts "upnp:genre".toList metadata.genre ++ []))))

theorem didlAddMetadata_prints (metadata : DlnaMetadata) :
    Prints (didlAddMetadata · metadata) (some (metadataTexts metadata)) :=
  didlAddTag_prints _ _ (didlAddTag_prints _ _ (didlAddTag_prints _ _
    ((didlAddValue_prints _ _).bind (didlAddTag_prints _ _ prints_nothing))))

def propertiesTexts (properties : DlnaProperties) : List Text :=
  paramTexts "duration".toList (some properties.duration) ++
    (valueTexts "bitrate".toList properties.bitrate.toNat ++
      (valueTexts "bitsPerSample".toList properties.bps.toNat ++
        (valueTexts "nrAudioChannels".toList properties.channels.toNat ++
          if 1 < properties.resolution.length then
            paramTexts "resolution".toList (some properties.resolution)
          else [])))

theorem didlAddProperties_prints (properties : DlnaProperties) :
    Prints (didlAddProperties · properties) (some (propertiesTexts properties)) := by
  have last : Prints (fun out =>
      if 1 < properties.resolution.length then
        didlAddParam out "resolution".toList (some properties.resolution)
      else .ok out) (some (if 1 < properties.resolution.length then
        paramTexts "resolution".toList (some properties.resolution) else [])) := by
    by_cases long : 1 < properties.resolution.length
    · simpa only [long, if_true] using didlAddParam_prints _ _
    · simpa only [long, if_false] using prints_nothing
  exact (didlAddParam_prints _ _).bind ((didlAddValue_prints _ _).bind
    ((didlAddValue_prints _ _).bind ((didlAddValue_prints _ _).bind last)))

def resourceUrl (d : Dlna) (id : UInt32) : Text :=
  "http://".toList ++ d.serverIpAddress ++ ":".toList ++ decimal d.port.toNat ++ virtualDir ++
    "/".toList ++ decimalInt (toInt32 id.toNat)

def resParamTexts (item : DlnaItem) (filter : Text) : List Text :=
  (if item.filesize ≠ 0 ∧ filterHasVal filter "@size".toList then
      valueTexts "size".toList item.filesize
    else []) ++
    match item.properties with
    | some properties => propertiesTexts properties
    | none => []

theorem didlAddResParams_prints (item : DlnaItem) (filter : Text)
    {second : Buffer → Except Fault Buffer} {t : Option (List Text)} (continues : Prints second t) :
    Prints (fun out => do
      let out ← (if item.filesize ≠ 0 ∧ filterHasVal filter "@size".toList then
          didlAddValue out "size".toList item.filesize
        else .ok out)
      let out ← (match item.properties with
        | some properties => didlAddProperties out properties
        | none => .ok out)
      second out) (joinTexts (some (resParamTexts item filter)) t) := by
  have size : Prints (fun out => if item.filesize ≠ 0 ∧ filterHasVal filter "@size".toList then
      didlAddValue out "size".toList item.filesize else .ok out)
      (some (if item.filesize ≠ 0 ∧ filterHasVal filter "@size".toList then
        valueTexts "size".toList item.filesize else [])) := by
    by_cases shown : item.filesize ≠ 0 ∧ filterHasVal filter "@size".toList
    · simpa only [if_pos shown] using didlAddValue_prints _ _
    · simpa only [if_neg shown] using prints_nothing
  have properties : Prints (fun out => match item.properties with
      | some properties => didlAddProperties out properties
      | none => .ok out)
      (some (match item.properties with
        | some properties => propertiesTexts properties
        | none => [])) := by
    cases item.properties with
    | none => exact prints_nothing
    | some properties => exact didlAddProperties_prints properties
  have both := size.bind (properties.bind continues)
  rw [joinTexts_assoc] at both
  exact both

def resTexts (d : Dlna) (id : UInt32) (cnv : Conversion) (item : DlnaItem) (filter : Text) :
    Option (List Text) :=
  match item.profile with
  | none => none
  | some profile =>
      match dlnaWriteProtocolInfo d.mode dlnaOrgPlaySpeedNormal cnv dlnaOrgOperationRange d.flags
        profile with
      | .error _ => none
      | .ok protocolInfo => some
          ("<res".toList :: (paramTexts "protocolInfo".toList (some protocolInfo) ++
            (resParamTexts item filter ++ [">".toList, resourceUrl d id, "</res>".toList])))

theorem didlAddRes_prints (d : Dlna) (id : UInt32) (cnv : Conversion) (item : DlnaItem)
    (filter : Text) :
    Prints (didlAddRes d · id cnv item filter) (resTexts d id cnv item filter) := by
  unfold didlAddRes resTexts
  cases item.profile with
  | none => exact prints_fault
  | some profile =>
      dsimp only
      cases dlnaWriteProtocolInfo d.mode dlnaOrgPlaySpeedNormal cnv dlnaOrgOperationRange d.flags
        profile with
      | error fault => exact prints_fault
      | ok protocolInfo =>
          exact (prints_appendf "<res".toList).bind
            ((didlAddParam_prints "protocolInfo".toList (some protocolInfo)).bind
              (didlAddResParams_prints item filter (Prints.append fits_closing
                ((prints_appendf (resourceUrl d id)).bind (prints_appendf "</res>".toList)))))

/-- The metadata title when that is non-empty, the VFS title otherwise. -/
def itemTitle (item : DlnaItem) (title : Text) : Text :=
  match item.metadata.bind DlnaMetadata.title with
  | some (c :: rest) => c :: rest
  | _ => title

theorem didlAddTitle_prints (item : DlnaItem) (title : Text)
    {second : Buffer → Except Fault Buffer} {t : Option (List Text)} (continues : Prints second t) :
    Prints (fun out => do
      let (addItemName, out) ← (match item.metadata with
        | some metadata => didlAddTag out "dc:title".toList metadata.title
        | none => .ok (1, out))
      let (_, out) ← (if addItemName ≠ 0 then didlAddTag out "dc:title".toList (some title)
        else .ok (0, out))
      second out)
      (joinTexts (some (tagTexts "dc:title".toList (some (itemTitle item title)))) t) := by
  have own : Prints (fun out => do
      let (_, out) ← didlAddTag out "dc:title".toList (some title); second out)
      (joinTexts (some (tagTexts "dc:title".toList (some title))) t) :=
    didlAddTag_prints _ _ continues
  match found : item.metadata with
  | none =>
      simpa [itemTitle, found, Bind.bind, Except.bind] using own
  | some metadata =>
      match stored : metadata.title with
      | none => simpa [itemTitle, found, stored, didlAddTag, Bind.bind, Except.bind] using own
      | some [] => simpa [itemTitle, found, stored, didlAddTag, Bind.bind, Except.bind] using own
      | some (c :: rest) =>
          have tagged := didlAddTag_prints "dc:title".toList (some (c :: rest)) continues
          intro out after
          rw [show itemTitle item title = c :: rest by simp [itemTitle, found, stored],
            ← tagged out after]
          -- the status 0 skips the VFS title
          dsimp only
          rw [stored]
          cases added : didlAddTag out "dc:title".toList (some (c :: rest)) with
          | error fault => rfl
          | ok answer =>
              obtain ⟨status, between⟩ := answer
              obtain rfl := didlAddTag_nonempty added
              rfl

def dlnaItemTexts (d : Dlna) (id : UInt32) (title : Text) (cnv : Conversion) (item : DlnaItem)
    (filter : Text) : Option (List Text) :=
  joinTexts (some (tagTexts "dc:title".toList (some (itemTitle item title))))
    (joinTexts (some (tagTexts "upnp:class".toList (item.profile.bind dlnaProfileUpnpObjectItem)))
      (joinTexts (some (match item.metadata with
          | some metadata => metadataTexts metadata
          | none => []))
        (if filterHasVal filter "res".toList then resTexts d id cnv item filter else some [])))

theorem didlAddDlnaItem_prints (d : Dlna) (id : UInt32) (title : Text) (cnv : Conversion)
    (item : DlnaItem) (filter : Text) :
    Prints (didlAddDlnaItem d · id title cnv item filter)
      (dlnaItemTexts d id title cnv item filter) := by
  have metadata : Prints (fun out => match item.metadata with
      | some metadata => didlAddMetadata out metadata
      | none => .ok out)
      (some (match item.metadata with
        | some metadata => metadataTexts metadata
        | none => [])) := by
    cases item.metadata with
    | none => exact prints_nothing
    | some metadata => exact didlAddMetadata_prints metadata
  have res : Prints (fun out => if filterHasVal filter "res".toList then
      didlAddRes d out id cnv item filter else .ok out)
      (if filterHasVal filter "res".toList then resTexts d id cnv item filter else some []) := by
    by_cases shown : filterHasVal filter "res".toList
    · simpa only [if_pos shown] using didlAddRes_prints d id cnv item filter
    · simpa only [if_neg shown] using prints_nothing
  exact didlAddTitle_prints item title
    (didlAddTag_prints "upnp:class".toList (item.profile.bind dlnaProfileUpnpObjectItem)
      (metadata.bind res))

def itemTexts (d : Dlna) (item : VfsItem) (content : Option DlnaItem) (cnv : Conversion)
    (restricted : Option Text) (filter : Text) : Option (List Text) :=
  joinTexts (some ["<item".toList]) (joinTexts (some (valueTexts "id".toList item.id.toNat))
    (joinTexts (some (valueTexts "parentID".toList (parentId d item).toNat))
      (joinTexts (some (paramTexts "restricted".toList restricted)) (joinTexts (some [">".toList])
        (joinTexts (match dlnaItemGet d item.id content with
            | some dlnaItem => dlnaItemTexts d item.id item.title cnv dlnaItem filter
            | none => some [])
          (some ["</item>".toList]))))))

theorem didlAddItem_prints (d : Dlna) {item : VfsItem} {content : Option DlnaItem}
    {cnv : Conversion} (isResource : item.body = .resource content cnv) (restricted : Option Text)
    (filter : Text) :
    Prints (didlAddItem d · item restricted filter)
      (itemTexts d item content cnv restricted filter) := by
  have inner : Prints (fun out => match dlnaItemGet d item.id content with
      | some dlnaItem => didlAddDlnaItem d out item.id item.title cnv dlnaItem filter
      | none => .ok out)
      (match dlnaItemGet d item.id content with
      | some dlnaItem => dlnaItemTexts d item.id item.title cnv dlnaItem filter
      | none => some []) := by
    cases dlnaItemGet d item.id content with
    | none => exact prints_nothing
    | some dlnaItem => exact didlAddDlnaItem_prints d _ _ _ _ _
  unfold didlAddItem
  simp only [isResource]
  exact (prints_appendf "<item".toList).bind
    ((didlAddValue_prints "id".toList item.id.toNat).bind
      ((didlAddValue_prints "parentID".toList (parentId d item).toNat).bind
        ((didlAddParam_prints "restricted".toList restricted).bind
          (Prints.append fits_closing (inner.bind (prints_appendf "</item>".toList))))))

def containerTexts (d : Dlna) (item : VfsItem) (box : Container)
    (restricted searchable objectClass : Option Text) : List Text :=
  "<container".toList :: (valueTexts "id".toList item.id.toNat ++
    (valueTexts "parentID".toList (parentId d item).toNat ++
      (valueTexts "childCount".toList box.childrenCount.toNat ++
        (paramTexts "restricted".toList restricted ++
          (paramTexts "searchable".toList searchable ++
            (">".toList :: (tagTexts "upnp:class".toList objectClass ++
              (tagTexts "dc:title".toList (some item.title) ++ ["</container>".toList]))))))))

theorem didlAddContainer_prints (d : Dlna) {item : VfsItem} {box : Container}
    (isContainer : item.body = .container box) (restricted searchable objectClass : Option Text) :
    Prints (didlAddContainer d · item restricted searchable objectClass)
      (some (containerTexts d item box restricted searchable objectClass)) := by
  unfold didlAddContainer
  simp only [isContainer]
  exact (prints_appendf _).bind ((didlAddValue_prints _ _).bind ((didlAddValue_prints _ _).bind
    ((didlAddValue_prints _ _).bind ((didlAddParam_prints _ _).bind
      ((didlAddParam_prints _ _).bind (Prints.append fits_closing
        (didlAddTag_prints _ _ (didlAddTag_prints _ _ (prints_appendf _)))))))))

end Libdlna
