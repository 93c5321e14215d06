import Libdlna.Model.Didl
import Libdlna.Model.Upnp

set_option autoImplicit false

namespace Libdlna

open CString

def cdsErrInvalidArgs : Nat := 402
def cdsErrActionFailed : Nat := 501
def cdsErrInvalidObjectId : Nat := 701
def cdsErrInvalidContainer : Nat := 710
def cdsErrProcessRequest : Nat := 720

def cdsObjectContainer : Text := "object.container.storageFolder".toList

def cdsArgObjectId : Text := "ObjectID".toList
def cdsArgBrowseFlag : Text := "BrowseFlag".toList
def cdsArgFilter : Text := "Filter".toList
def cdsArgStartIndex : Text := "StartingIndex".toList
def cdsArgRequestCount : Text := "RequestedCount".toList
def cdsArgSortCrit : Text := "SortCriteria".toList
def cdsArgSearchCrit : Text := "SearchCriteria".toList

def cdsDidlResult : Text := "Result".toList
def cdsDidlNumReturned : Text := "NumberReturned".toList
def cdsDidlTotalMatch : Text := "TotalMatches".toList
def cdsDidlUpdateId : Text := "UpdateID".toList

/-- The input arguments of Browse and Search, which differ in the one that says what to list. -/
structure CdsArguments where
  id : UInt32
  selector : Option OwnedText
  filter : Option OwnedText
  index : UInt32
  count : UInt32

def cdsGetArguments (ev : ActionEvent) (selectorKey : Text) : CdsArguments × ActionEvent :=
  let (id, ev) := upnpGetUi4 ev cdsArgObjectId
  let (selector, ev) := upnpGetString ev selectorKey
  let (filter, ev) := upnpGetString ev cdsArgFilter
  let (index, ev) := upnpGetUi4 ev cdsArgStartIndex
  let (count, ev) := upnpGetUi4 ev cdsArgRequestCount
  let (_, ev) := upnpGetUi4 ev cdsArgSortCrit
  (⟨toUInt32 id, selector, filter, toUInt32 index, toUInt32 count⟩, ev)

/-- The labels `browse_err` and `search_err`: what is not NULL is freed, also a second time. -/
def cdsErr (ev : ActionEvent) (args : CdsArguments) (out : Option Nat) (code : Nat) :
    Except Fault (Bool × ActionEvent) :=
  let handles := [args.selector.map OwnedText.handle, args.filter.map OwnedText.handle, out]
  .ok (false, (handles.filterMap id).foldl ActionEvent.release (ev.fail code))

def cdsFindItem (d : Dlna) (id : UInt32) : Option Ref :=
  match vfsGetItemById d id with
  | some item => some item
  | none => vfsGetItemById d 0

def cdsArgSearchCaps : Text := "SearchCaps".toList
def cdsArgSortCaps : Text := "SortCaps".toList

def cdsGetSearchCapabilities (ev : ActionEvent) : Except Fault (Bool × ActionEvent) :=
  let ev := upnpAddResponse ev cdsArgSearchCaps (some [])
  .ok (ev.status, ev)

def cdsGetSortCapabilities (ev : ActionEvent) : Except Fault (Bool × ActionEvent) :=
  let ev := upnpAddResponse ev cdsArgSortCaps (some [])
  .ok (ev.status, ev)

def cdsGetSystemUpdateId (d : Dlna) (ev : ActionEvent) : Except Fault (Bool × ActionEvent) :=
  match d.vfsRoot with
  | none => .error .nullDeref
  | some root => do
      let item ← d.readItem root
      match item.body with
      | .resource _ _ => .error .wrongUnionMember
      | .container box =>
          let ev := upnpAddResponse ev cdsDidlUpdateId (some (decimal box.updateID.toNat))
          .ok (ev.status, ev)

/-- The update id that a reply on `item` carries: that of the root for a resource. -/
def browseUpdateId (d : Dlna) (item : VfsItem) : Except Fault UInt32 :=
  match item.body with
  | .container box => .ok box.updateID
  | .resource _ _ =>
      match d.vfsRoot with
      | none => .error .nullDeref
      | some root => do
          let item ← d.readItem root
          match item.body with
          | .resource _ _ => .error .wrongUnionMember
          | .container box => .ok box.updateID

def cdsBrowseMetadata (d : Dlna) (ev : ActionEvent) (out : Buffer) (item : VfsItem)
    (filter : Text) : Except Fault (Int × Buffer × ActionEvent) := do
  let out ← didlAddHeader out
  let out ← (match item.body with
    | .resource _ _ => didlAddItem d out item (some "false".toList) filter
    | .container _ =>
        didlAddContainer d out item (some "true".toList) (some "true".toList)
          (some cdsObjectContainer))
  let updateID ← browseUpdateId d item
  let out ← didlAddFooter out
  let ev := upnpAddResponse ev cdsDidlResult out.buf
  let ev := upnpAddResponse ev cdsDidlNumReturned (some "1".toList)
  let ev := upnpAddResponse ev cdsDidlTotalMatch (some "1".toList)
  let ev := upnpAddResponse ev cdsDidlUpdateId (some (decimal updateID.toNat))
  .ok (if item.body.box?.isSome then 1 else 0, out, ev)

def cdsBrowseChild (d : Dlna) (filter : Text) (out : Buffer) (child : Ref) :
    Except Fault Buffer := do
  let item ← d.readItem child
  match item.body with
  | .container _ =>
      didlAddContainer d out item (some "true".toList) none (some cdsObjectContainer)
  | .resource _ _ => didlAddItem d out item (some "true".toList) filter

def cdsBrowseLoop (d : Dlna) (filter : Text) (count : Int) :
    List Ref → Int → Buffer → Except Fault (Int × Buffer)
  | [], resultCount, out => .ok (resultCount, out)
  | child :: rest, resultCount, out =>
      -- only fetch the requested count number or all entries if count = 0
      if count = 0 ∨ resultCount < count then do
        let out ← cdsBrowseChild d filter out child
        cdsBrowseLoop d filter count rest (resultCount + 1) out
      else cdsBrowseLoop d filter count rest resultCount out

def cdsBrowseDirectchildren (d : Dlna) (ev : ActionEvent) (out : Buffer) (index count : Int)
    (item : VfsItem) (filter : Text) : Except Fault (Int × Buffer × ActionEvent) :=
  match item.body with
  | .resource _ _ => .ok (-1, out, ev)
  | .container box => do
      let out ← didlAddHeader out
      -- the loop that skips children does not run for a negative index
      let items := box.children.drop index.toNat
      let count := if index = 0 ∧ count = 0 then toInt32 box.childrenCount.toNat else count
      let (resultCount, out) ← cdsBrowseLoop d filter count items 0 out
      let out ← didlAddFooter out
      let ev := upnpAddResponse ev cdsDidlResult out.buf
      let ev := upnpAddResponse ev cdsDidlNumReturned (some (decimalInt resultCount))
      let ev := upnpAddResponse ev cdsDidlTotalMatch
        (some (decimalInt (toInt32 box.childrenCount.toNat)))
      let ev := upnpAddResponse ev cdsDidlUpdateId (some (decimal box.updateID.toNat))
      .ok (resultCount, out, ev)

def cdsBrowse (d : Dlna) (ev : ActionEvent) : Except Fault (Bool × ActionEvent) :=
  if ev.status = false then .ok (false, ev.fail cdsErrActionFailed)
  else
    let (args, ev) := cdsGetArguments ev cdsArgBrowseFlag
    match args.selector, args.filter with
    | some flag, some filter =>
        let ev := ev.use flag.handle
        let metadata := flag.text = "BrowseMetadata".toList
        if metadata ∧ args.index ≠ 0 then cdsErr ev args none cdsErrProcessRequest
        else if ¬ metadata ∧ flag.text ≠ "BrowseDirectChildren".toList then
          cdsErr ev args none cdsErrProcessRequest
        else
          let ev := ev.release flag.handle
          match cdsFindItem d args.id with
          | none => cdsErr ev args none cdsErrInvalidObjectId
          | some target => do
              let item ← d.readItem target
              let (handle, ev) := ev.acquire
              -- the listing is written to the buffer and depends on the filter
              let ev := (ev.use handle).use filter.handle
              let (resultCount, _, ev) ← (
                if metadata then cdsBrowseMetadata d ev bufferNew item filter.text
                else
                  cdsBrowseDirectchildren d ev bufferNew (toInt32 args.index.toNat)
                    (toInt32 args.count.toNat) item filter.text)
              let ev := ev.release filter.handle
              if resultCount < 0 then cdsErr ev args (some handle) cdsErrActionFailed
              else
                let ev := ev.release handle
                .ok (ev.status, ev)
    | _, _ => cdsErr ev args none cdsErrInvalidArgs

def searchClassMatchKeyword : Text := "(upnp:class = \"".toList
def searchClassDerivedKeyword : Text := "(upnp:class derivedfrom \"".toList
def searchProtocolContainsKeyword : Text := "(res@protocolInfo contains \"".toList
def searchObjectKeyword : Text := "object".toList
def searchAnd : Text := ") and (".toList

def keywordSize : Nat := 256

/-- `strncpy` of what follows `opening` into `keyword`: a longer text leaves no terminator, and
reading the array as a string goes on into what follows it on the stack. -/
def keywordAfter (stack : Text → Text) (opening searchCriteria : Text) : Text :=
  let rest := searchCriteria.drop opening.length
  if rest.length < keywordSize then rest else rest.take keywordSize ++ stack searchCriteria

structure SearchKeyword where
  derivedFrom : Bool
  protocolContains : Bool
  keyword : Text

/-- The first half of `cds_search_match`: which comparison to make, and with what. -/
def searchKeyword (stack : Text → Text) (searchCriteria : Text) : SearchKeyword :=
  if searchClassMatchKeyword.isPrefixOf searchCriteria then
    ⟨false, false, keywordAfter stack searchClassMatchKeyword searchCriteria⟩
  else if searchClassDerivedKeyword.isPrefixOf searchCriteria then
    ⟨true, false, keywordAfter stack searchClassDerivedKeyword searchCriteria⟩
  else if searchProtocolContainsKeyword.isPrefixOf searchCriteria then
    ⟨false, true, keywordAfter stack searchProtocolContainsKeyword searchCriteria⟩
  else ⟨false, false, searchObjectKeyword⟩

/-- The comparison, which falls through to that of the whole class. -/
def searchResult (key : SearchKeyword) (objectType : Option Text) (protocolInfo : Text) : Bool :=
  if key.derivedFrom ∧ objectType.any key.keyword.isPrefixOf then true
  else if key.protocolContains ∧ (strstr key.keyword protocolInfo).isSome then true
  else objectType == some key.keyword

/-- `cds_search_match`; `stack` is what a read beyond `keyword` finds in the frame for a text. -/
def cdsSearchMatch (d : Dlna) (stack : Text → Text) (item : VfsItem) :
    Nat → Text → Except Fault Bool
  | 0, _ => .error .noReturn
  | fuel + 1, searchCriteria =>
      match item.body with
      | .container _ => .error .wrongUnionMember
      | .resource content cnv =>
          match (dlnaItemGet d item.id content).bind DlnaItem.profile with
          | none => .error .nullDeref
          | some profile => do
              let protocolInfo ← dlnaWriteProtocolInfo d.mode dlnaOrgPlaySpeedNormal cnv
                dlnaOrgOperationRange d.flags profile
              let result := searchResult (searchKeyword stack searchCriteria)
                (dlnaProfileUpnpObjectItem profile) protocolInfo
              match strstr searchAnd searchCriteria with
              | some andClause =>
                  if result then
                    cdsSearchMatch d stack item fuel (andClause.drop (searchAnd.length - 1))
                  else .ok false
              | none => .ok true

/-- Enough for every text: each clause is shorter than what precedes it. -/
def searchMatchFuel (searchCriteria : Text) : Nat := searchCriteria.length + 1

def cdsSearchChild (d : Dlna) (stack : VfsItem → Text → Text) (filter searchCriteria : Text)
    (recursive : Ref → Int → Buffer → Except Fault (Int × Buffer)) (count : Int)
    (found : Int × Buffer) (child : Ref) : Except Fault (Int × Buffer) :=
  let (resultCount, out) := found
  -- only fetch the requested count number or all entries if count = 0
  if count = 0 ∨ resultCount < count then do
    let item ← d.readItem child
    match item.body with
    | .container _ => do
        let (below, out) ← recursive child (if count = 0 then 0 else count - resultCount) out
        .ok (resultCount + below, out)
    | .resource _ _ => do
        let accepted ← cdsSearchMatch d (stack item) item (searchMatchFuel searchCriteria)
          searchCriteria
        if accepted then do
          let out ← didlAddItem d out item (some "true".toList) filter
          .ok (resultCount + 1, out)
        else .ok (resultCount, out)
  else .ok (resultCount, out)

/-- `cds_search_recursive`; `fuel` bounds the depth of the tree. -/
def cdsSearchRecursive (d : Dlna) (stack : VfsItem → Text → Text) (filter searchCriteria : Text) :
    Nat → Ref → Int → Buffer → Except Fault (Int × Buffer)
  | 0, _, _, _ => .error .noReturn
  | fuel + 1, r, count, out => do
      let item ← d.readItem r
      match item.body with
      | .resource _ _ => .ok (0, out)
      | .container box =>
          box.children.foldlM (cdsSearchChild d stack filter searchCriteria
            (cdsSearchRecursive d stack filter searchCriteria fuel) count) (0, out)

def cdsSearchDirectchildren (d : Dlna) (stack : VfsItem → Text → Text) (fuel : Nat)
    (ev : ActionEvent) (item : VfsItem) (r : Ref) (out : Buffer) (count : Int)
    (filter searchCriteria : Text) : Except Fault (Int × Buffer × ActionEvent) :=
  match item.body with
  | .resource _ _ => .ok (-1, out, ev)
  | .container box => do
      let out ← didlAddHeader out
      -- index has been set to 0
      let count := if count = 0 then toInt32 box.childrenCount.toNat else count
      let (resultCount, out) ← cdsSearchRecursive d stack filter searchCriteria fuel r count out
      let out ← didlAddFooter out
      let ev := upnpAddResponse ev cdsDidlResult out.buf
      let ev := upnpAddResponse ev cdsDidlNumReturned (some (decimalInt resultCount))
      let ev := upnpAddResponse ev cdsDidlTotalMatch (some (decimalInt resultCount))
      .ok (resultCount, out, ev)

def cdsSearch (d : Dlna) (stack : VfsItem → Text → Text) (fuel : Nat) (ev : ActionEvent) :
    Except Fault (Bool × ActionEvent) :=
  if ev.status = false then .ok (false, ev.fail cdsErrActionFailed)
  else
    let (args, ev) := cdsGetArguments ev cdsArgSearchCrit
    match args.selector, args.filter with
    | some searchCriteria, some filter =>
        match cdsFindItem d args.id with
        | none => cdsErr ev args none cdsErrInvalidContainer
        | some target => do
            let item ← d.readItem target
            let (handle, ev) := ev.acquire
            let ev := ((ev.use handle).use filter.handle).use searchCriteria.handle
            let (resultCount, _, ev) ← cdsSearchDirectchildren d stack fuel ev item target bufferNew
              (toInt32 args.count.toNat) filter.text searchCriteria.text
            if resultCount < 0 then cdsErr ev args (some handle) cdsErrActionFailed
            else
              let ev := ev.release handle
              let ev := upnpAddResponse ev cdsDidlUpdateId (some "0".toList)
              let ev := (ev.release searchCriteria.handle).release filter.handle
              .ok (ev.status, ev)
    | _, _ => cdsErr ev args none cdsErrInvalidArgs

end Libdlna
