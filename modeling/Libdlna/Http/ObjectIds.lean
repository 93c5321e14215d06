import Libdlna.Cds.Requests
import Libdlna.Http.Handlers

set_option autoImplicit false

/-!
# Ids in texts

An id is printed as an unsigned number in DIDL attributes and as a signed number in URLs. Both are
read back through other types, and yet as the same id.
-/

namespace Libdlna

open CString

variable {d : Dlna} {id : UInt32}

def idAttribute (id : UInt32) : Text := decimalInt id.toNat

def resourcePath (id : UInt32) : Text := virtualDir ++ "/".toList ++ decimalInt (toInt32 id.toNat)

def OpensWithId (element : Text) (id : UInt32) (out after : Buffer) : Prop :=
  ∃ rest, after.contents =
    out.contents ++ element ++ " id=\"".toList ++ idAttribute id ++ "\"".toList ++ rest

def EndsWithUrl (d : Dlna) (id : UInt32) (out after : Buffer) : Prop :=
  ∃ res, after.contents = out.contents ++ res ++ "http://".toList ++ d.serverIpAddress ++
    ":".toList ++ decimal d.port.toNat ++ resourcePath id ++ "</res>".toList

/-- `after` ends with an item that ends with such an element. -/
def ItemEndsWithUrl (d : Dlna) (id : UInt32) (out after : Buffer) : Prop :=
  ∃ inner, EndsWithUrl d id out inner ∧ after.contents = inner.contents ++ "</item>".toList

theorem valueTexts_id : valueTexts "id".toList id.toNat =
    [" id=\"".toList ++ idAttribute id ++ "\"".toList] := by
  have opening : " ".toList ++ "id".toList ++ "=\"".toList = " id=\"".toList := by decide
  rw [valueTexts, paramTexts, opening, idAttribute]

theorem resTexts_url {cnv : Conversion} {item : DlnaItem} {filter : Text} {pieces : List Text}
    (texts : resTexts d id cnv item filter = some pieces) :
    ∃ front, pieces = front ++ [resourceUrl d id, "</res>".toList] := by
  unfold resTexts at texts
  split at texts
  · cases texts
  · split at texts
    · cases texts
    · rename_i profile known protocolInfo written
      refine ⟨"<res".toList :: (paramTexts "protocolInfo".toList (some protocolInfo) ++
        (resParamTexts item filter ++ [">".toList])), ?_⟩
      rw [← Option.some.inj texts]
      simp only [List.cons_append, List.append_assoc, List.nil_append]

theorem opensWithId_of_pieces {element : Text} {rest : List Text} (out : Buffer) :
    OpensWithId element id out
      ((element :: (valueTexts "id".toList id.toNat ++ rest)).foldl bufferAppend out) := by
  refine ⟨rest.flatten, ?_⟩
  rw [valueTexts_id, foldl_bufferAppend_contents]
  simp only [List.flatten_cons, List.cons_append, List.nil_append, List.append_assoc]

theorem didlAddItem_opensWithId {out after : Buffer} {item : VfsItem} {restricted : Option Text}
    {filter : Text} (added : didlAddItem d out item restricted filter = .ok after) :
    OpensWithId "<item".toList item.id out after := by
  cases body : item.body with
  | container box => simp [didlAddItem, body] at added
  | resource content cnv =>
      obtain ⟨pieces, texts, -, rfl⟩ := (didlAddItem_prints d body restricted filter out after).mp added
      unfold itemTexts at texts
      generalize joinTexts (some (valueTexts "parentID".toList (parentId d item).toNat)) _ = later
        at texts
      cases later with
      | none => simp [joinTexts] at texts
      | some rest =>
          obtain rfl := Option.some.inj texts
          exact opensWithId_of_pieces out

theorem didlAddContainer_opensWithId {out after : Buffer} {item : VfsItem}
    {restricted searchable objectClass : Option Text}
    (added : didlAddContainer d out item restricted searchable objectClass = .ok after) :
    OpensWithId "<container".toList item.id out after := by
  cases body : item.body with
  | resource content cnv => simp [didlAddContainer, body] at added
  | container box =>
      obtain ⟨pieces, texts, -, rfl⟩ :=
        (didlAddContainer_prints d body restricted searchable objectClass out after).mp added
      obtain rfl := Option.some.inj texts
      exact opensWithId_of_pieces out

theorem resourceUrl_path (d : Dlna) (id : UInt32) :
    resourceUrl d id = "http://".toList ++ d.serverIpAddress ++ ":".toList ++
      decimal d.port.toNat ++ resourcePath id := by
  unfold resourceUrl resourcePath
  generalize decimalInt (toInt32 id.toNat) = numeral
  generalize decimal d.port.toNat = port
  simp only [List.append_assoc]

theorem endsWithUrl_of_pieces {front : List Text} (out : Buffer) :
    EndsWithUrl d id out ((front ++ [resourceUrl d id, "</res>".toList]).foldl bufferAppend out) := by
  have flat (first second : Text) :
      (front ++ [first, second]).flatten = front.flatten ++ first ++ second := by simp
  refine ⟨front.flatten, ?_⟩
  rw [foldl_bufferAppend_contents, flat, resourceUrl_path]
  generalize resourcePath id = path
  simp only [List.append_assoc]

theorem didlAddRes_endsWithUrl {out after : Buffer} {cnv : Conversion} {item : DlnaItem}
    {filter : Text} (added : didlAddRes d out id cnv item filter = .ok after) :
    EndsWithUrl d id out after := by
  obtain ⟨pieces, texts, -, same⟩ := (didlAddRes_prints d id cnv item filter out after).mp added
  obtain ⟨front, isFront⟩ := resTexts_url texts
  rw [same, isFront]
  exact endsWithUrl_of_pieces out

theorem joinTexts_suffix {last pieces : List Text} {first rest : Option (List Text)}
    (ends : ∀ back, rest = some back → last <:+ back) (joined : joinTexts first rest = some pieces) :
    last <:+ pieces := by
  cases first with
  | none => simp [joinTexts] at joined
  | some front =>
      cases rest with
      | none => simp [joinTexts] at joined
      | some back =>
          obtain rfl := Option.some.inj joined
          exact (ends back rfl).trans (List.suffix_append front back)

theorem dlnaItemTexts_url {title filter : Text} {cnv : Conversion} {item : DlnaItem}
    {pieces : List Text} (shown : filterHasVal filter "res".toList = true)
    (texts : dlnaItemTexts d id title cnv item filter = some pieces) :
    [resourceUrl d id, "</res>".toList] <:+ pieces := by
  unfold dlnaItemTexts at texts
  rw [if_pos shown] at texts
  refine joinTexts_suffix (fun back texts => ?_) texts
  refine joinTexts_suffix (fun back texts => ?_) texts
  refine joinTexts_suffix (fun back texts => ?_) texts
  obtain ⟨front, isBack⟩ := resTexts_url texts
  exact ⟨front, isBack.symm⟩

theorem itemTexts_url {item : VfsItem} {content : Option DlnaItem} {dlnaItem : DlnaItem}
    {cnv : Conversion} {restricted : Option Text} {filter : Text} {pieces : List Text}
    (known : dlnaItemGet d item.id content = some dlnaItem)
    (shown : filterHasVal filter "res".toList = true)
    (texts : itemTexts d item content cnv restricted filter = some pieces) :
    [resourceUrl d item.id, "</res>".toList, "</item>".toList] <:+ pieces := by
  unfold itemTexts at texts
  rw [known] at texts
  refine joinTexts_suffix (fun back texts => ?_) texts
  refine joinTexts_suffix (fun back texts => ?_) texts
  refine joinTexts_suffix (fun back texts => ?_) texts
  refine joinTexts_suffix (fun back texts => ?_) texts
  refine joinTexts_suffix (fun back texts => ?_) texts
  dsimp only at texts
  cases inner : dlnaItemTexts d item.id item.title cnv dlnaItem filter with
  | none => simp [inner, joinTexts] at texts
  | some front =>
      rw [inner] at texts
      obtain rfl := Option.some.inj texts
      obtain ⟨opening, isFront⟩ := dlnaItemTexts_url shown inner
      exact ⟨opening, by rw [← isFront]; simp⟩

theorem didlAddItem_endsWithUrl {out after : Buffer} {item : VfsItem} {content : Option DlnaItem}
    {dlnaItem : DlnaItem} {cnv : Conversion} {restricted : Option Text} {filter : Text}
    (body : item.body = .resource content cnv)
    (known : dlnaItemGet d item.id content = some dlnaItem)
    (shown : filterHasVal filter "res".toList = true)
    (added : didlAddItem d out item restricted filter = .ok after) :
    ItemEndsWithUrl d item.id out after := by
  obtain ⟨pieces, texts, -, rfl⟩ := (didlAddItem_prints d body restricted filter out after).mp added
  obtain ⟨front, rfl⟩ := itemTexts_url known shown texts
  have inner : EndsWithUrl d item.id out
      ((front ++ [resourceUrl d item.id, "</res>".toList]).foldl bufferAppend out) :=
    endsWithUrl_of_pieces out
  refine ⟨_, inner, ?_⟩
  rw [foldl_bufferAppend_contents, foldl_bufferAppend_contents]
  simp

def ReadAsObjectId (id : UInt32) (text : Text) : Prop :=
  ∀ (ev : ActionEvent) (selectorKey : Text), ev.argText cdsArgObjectId = some text →
    (cdsGetArguments ev selectorKey).1.id = id

/-- `Browse` answers such a request with the object `id`. -/
def BrowsedAs (id : UInt32) (text : Text) : Prop :=
  ∀ (d : Dlna) (ev : ActionEvent) (result : Bool) (after : ActionEvent), ev.status = true →
    ev.argText cdsArgObjectId = some text → cdsBrowse d ev = .ok (result, after) →
      ∃ args log, args.id = id ∧ Reads ev cdsArgBrowseFlag args ∧
        Browsed d args { ev with log := log } result after

/-- Both HTTP handlers take the path for that of the object `id`. -/
def ReadAsPath (id : UInt32) (path : Text) : Prop :=
  ∀ (C : Type) (d : Dlna) (services : List (DlnaService C)) (files : FileSystem),
    dlnaHttpGetInfo d services files path = httpItemInfo d files id ∧
      dlnaHttpOpen d services files path .read = httpItemOpen d files id

theorem idAttribute_read : ReadAsObjectId id (idAttribute id) := by
  intro ev selectorKey sent
  obtain ⟨args, log, read, reads⟩ := cdsGetArguments_eq ev selectorKey
  have bounded := id.toNat_lt
  have value : ev.argUi4 cdsArgObjectId = atoi (decimal id.toNat) := by
    rw [idAttribute, decimalInt_natCast] at sent
    simp only [ActionEvent.argUi4, sent]
  rw [read, reads.id, value, atoi_decimal (by omega), toUInt32_toInt32, toUInt32_ofNat]

theorem idAttribute_browsed : BrowsedAs id (idAttribute id) := by
  intro d ev result after active sent ran
  obtain ⟨args, log, read, reads⟩ := cdsGetArguments_eq ev cdsArgBrowseFlag
  have isId := idAttribute_read ev cdsArgBrowseFlag sent
  rw [read] at isId
  exact ⟨args, log, isId, reads, cdsBrowse_cases active read ran⟩

theorem decimalInt_noSlash (z : Int) : '/' ∉ decimalInt z := by
  have digits (n : Nat) : '/' ∉ decimal n := fun member =>
    absurd (decimal_isDigit member) (by decide)
  unfold decimalInt
  split
  · simp only [List.mem_cons, not_or]
    exact ⟨by decide, digits _⟩
  · exact digits _

theorem httpObjectId_last {front back : Text} (absent : '/' ∉ back) :
    httpObjectId (front ++ '/' :: back) = .ok (toUInt32 (strtoul back)) := by
  rw [httpObjectId, strrchr_append absent]
  rfl

theorem httpObjectId_resourcePath : httpObjectId (resourcePath id) = .ok id := by
  have slash : "/".toList = ['/'] := by decide
  have shape : resourcePath id = virtualDir ++ '/' :: decimalInt (toInt32 id.toNat) := by
    rw [resourcePath, slash, List.append_assoc, List.singleton_append]
  have bounds : -(2 ^ 63) ≤ toInt32 id.toNat ∧ toInt32 id.toNat < 2 ^ 63 := by
    unfold toInt32
    omega
  -- the numeral of a negative number comes back modulo 2^64, and then modulo 2^32
  rw [shape, httpObjectId_last (decimalInt_noSlash _), strtoul_decimalInt bounds.1 bounds.2,
    toUInt32_emod, toUInt32_toInt32, toUInt32_ofNat]

theorem httpFindService_web {C : Type} (services : List (DlnaService C)) (tail : Text) :
    httpFindService services (virtualDir ++ tail) = .ok none := by
  have web : virtualDir = '/' :: 'w' :: ['e', 'b'] := by decide
  have srv : servicesVirtualDir = '/' :: 's' :: "ervices".toList := by decide
  have other : (virtualDir ++ tail).take servicesVirtualDirLen ≠ servicesVirtualDir := by
    rw [web, srv]
    intro same
    exact absurd (List.cons.inj (List.cons.inj same).2).1 (by decide)
  rw [httpFindService, if_neg other]

theorem handlers_of_objectId {C : Type} {services : List (DlnaService C)} {path : Text}
    (noService : httpFindService services path = .ok none)
    (number : httpObjectId path = .ok id) (files : FileSystem) :
    dlnaHttpGetInfo d services files path = httpItemInfo d files id ∧
      dlnaHttpOpen d services files path .read = httpItemOpen d files id := by
  simp [dlnaHttpGetInfo, dlnaHttpOpen, noService, number, Bind.bind, Except.bind]

theorem resourcePath_read : ReadAsPath id (resourcePath id) := by
  intro C d services files
  have noService : httpFindService services (resourcePath id) = .ok none := by
    rw [resourcePath, List.append_assoc]
    exact httpFindService_web services _
  exact handlers_of_objectId noService httpObjectId_resourcePath files

theorem ids_survive_text (d : Dlna) (item : VfsItem) :
    ((∀ out after restricted filter, didlAddItem d out item restricted filter = .ok after →
          OpensWithId "<item".toList item.id out after) ∧
        (∀ out after restricted searchable objectClass,
          didlAddContainer d out item restricted searchable objectClass = .ok after →
            OpensWithId "<container".toList item.id out after) ∧
        ReadAsObjectId item.id (idAttribute item.id) ∧ BrowsedAs item.id (idAttribute item.id)) ∧
      ((∀ out after cnv dlnaItem filter,
          didlAddRes d out item.id cnv dlnaItem filter = .ok after →
            EndsWithUrl d item.id out after) ∧
        (∀ out after restricted filter content cnv dlnaItem, item.body = .resource content cnv →
          dlnaItemGet d item.id content = some dlnaItem → filterHasVal filter "res".toList = true →
          didlAddItem d out item restricted filter = .ok after →
            ItemEndsWithUrl d item.id out after) ∧
        ReadAsPath item.id (resourcePath item.id)) :=
  ⟨⟨fun _ _ _ _ => didlAddItem_opensWithId, fun _ _ _ _ _ => didlAddContainer_opensWithId,
    idAttribute_read, idAttribute_browsed⟩, fun _ _ _ _ _ => didlAddRes_endsWithUrl,
    fun _ _ _ _ _ _ _ => didlAddItem_endsWithUrl, resourcePath_read⟩

def objectRequest (id : Text) : ActionEvent :=
  { status := true
    args :=
      [(cdsArgObjectId, some id), (cdsArgBrowseFlag, some "BrowseMetadata".toList),
        (cdsArgFilter, some "*".toList), (cdsArgStartIndex, some "0".toList)]
    errCode := 0
    response := []
    log := [] }

/-- The largest id is written as 4294967295 and as -1. -/
theorem largest_id_survives :
    ReadAsObjectId 0xFFFFFFFF "4294967295".toList ∧ ReadAsPath 0xFFFFFFFF "/web/-1".toList ∧
      (∃ after args log, cdsBrowse justStarted (objectRequest "4294967295".toList) =
          .ok (true, after) ∧ args.id = 0xFFFFFFFF ∧
        Browsed justStarted args { objectRequest "4294967295".toList with log := log } true after) ∧
      ∃ item after, dlnaItemNew "/b.mp3".toList mp3Probe = some item ∧
        didlAddItem justStarted bufferNew
          ⟨0xFFFFFFFF, "b".toList, .resource (some item) .none, some 0, false⟩ none "res".toList =
          .ok after ∧
        ItemEndsWithUrl justStarted 0xFFFFFFFF bufferNew after := by
  have texts : idAttribute 0xFFFFFFFF = "4294967295".toList ∧
      resourcePath 0xFFFFFFFF = "/web/-1".toList := by
    decide +kernel
  obtain ⟨item, made⟩ : ∃ item, dlnaItemNew "/b.mp3".toList mp3Probe = some item := ⟨_, rfl⟩
  have survives := ids_survive_text justStarted
    ⟨0xFFFFFFFF, "b".toList, .resource (some item) .none, some 0, false⟩
  have printed : ∃ after, didlAddItem justStarted bufferNew
      ⟨0xFFFFFFFF, "b".toList, .resource (some item) .none, some 0, false⟩ none "res".toList =
        .ok after := by
    obtain rfl := Option.some.inj made
    exact ⟨_, rfl⟩
  obtain ⟨out, printed⟩ := printed
  have answers : (cdsBrowse justStarted (objectRequest "4294967295".toList)).map Prod.fst =
      .ok true := by
    decide +kernel
  obtain ⟨⟨status, after⟩, browsed, same⟩ := Outcome.map_ok.mp answers
  obtain rfl : status = true := same
  obtain ⟨args, log, isId, -, answered⟩ :=
    survives.1.2.2.2 _ _ _ _ rfl (by rw [texts.1]; rfl) browsed
  exact ⟨texts.1 ▸ survives.1.2.2.1, texts.2 ▸ survives.2.2.2,
    ⟨after, args, log, browsed, isId, answered⟩, item, out, made, printed,
    survives.2.2.1 _ _ _ _ _ _ _ rfl rfl (by decide) printed⟩

end Libdlna
