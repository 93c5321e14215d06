import Libdlna.Didl.Elements

set_option autoImplicit false

/-!
# Reading the DIDL documents back

No string is escaped. What cannot be read back is a string that needs escaping, or one that does
not fit the stack area of `buffer_appendf`.
-/

namespace Libdlna

open CString Xml

inductive DidlCall where
  | addContainer (item : VfsItem) (restricted searchable objectClass : Option Text)
  | addItem (item : VfsItem) (restricted : Option Text) (filter : Text)

def DidlCall.exec (d : Dlna) (out : Buffer) : DidlCall → Except Fault Buffer
  | addContainer item restricted searchable objectClass =>
      didlAddContainer d out item restricted searchable objectClass
  | addItem item restricted filter => didlAddItem d out item restricted filter

def didlDocument (d : Dlna) (calls : List DidlCall) : Except Fault Buffer := do
  let out ← didlAddHeader bufferNew
  let out ← calls.foldlM (DidlCall.exec d) out
  didlAddFooter out

structure Entry where
  name : Text
  id : Option Text
  parentId : Option Text
  title : Text
  deriving DecidableEq

def readEntry (e : Element) : Entry where
  name := e.name
  id := e.attributeValue "id".toList
  parentId := e.attributeValue "parentID".toList
  title := e.children.textOf "dc:title".toList

def storedTitle (d : Dlna) (item : VfsItem) : Text :=
  match item.body with
  | .container _ => item.title
  | .resource content _ =>
      match dlnaItemGet d item.id content with
      | some dlnaItem => itemTitle dlnaItem item.title
      | none => item.title

def storedEntry (d : Dlna) (name : Text) (item : VfsItem) : Entry where
  name := name
  id := some (decimal item.id.toNat)
  parentId := some (decimal (parentId d item).toNat)
  title := storedTitle d item

def DidlCall.entry (d : Dlna) : DidlCall → Entry
  | addContainer item _ _ _ => storedEntry d "container".toList item
  | addItem item _ _ => storedEntry d "item".toList item

/-- The document is well-formed, and has one element for each call, with what is stored. -/
def Faithful (d : Dlna) (calls : List DidlCall) (document : Text) : Prop :=
  ∃ root, WellFormed document root ∧ root.name = "DIDL-Lite".toList ∧
    root.children.elements.map readEntry = calls.map (DidlCall.entry d)

/-- All strings that the call prints can stand in a document as they are. -/
def DidlCall.Plain (d : Dlna) : DidlCall → Prop
  | addContainer item restricted searchable objectClass =>
      (∃ box, item.body = .container box) ∧
        PlainContainer item restricted searchable objectClass
  | addItem item restricted filter =>
      (∃ content cnv, item.body = .resource content cnv ∧
        match dlnaItemGet d item.id content with
        | some dlnaItem => PlainItem d item.title dlnaItem filter
        -- nothing is printed for a resource whose file is not known
        | none => item.title = []) ∧
      PlainParam "restricted".toList restricted

variable {d : Dlna}

def itemParams (d : Dlna) (item : VfsItem) (restricted : Option Text) :
    List (Text × Option Text) :=
  [("id".toList, some (decimalInt item.id.toNat)),
    ("parentID".toList, some (decimalInt (parentId d item).toNat)),
    ("restricted".toList, restricted)]

def itemElement (d : Dlna) (item : VfsItem) (restricted : Option Text) (children : Content) :
    Element where
  name := "item".toList
  attributes := attributesOf (itemParams d item restricted)
  children := children

theorem itemParams_plain {item : VfsItem} {restricted : Option Text}
    (plain : PlainParam "restricted".toList restricted) :
    PlainParams (itemParams d item restricted) where
  names := by simp only [itemParams, List.forall_mem_cons]; decide
  distinct := by simp only [itemParams, List.map_cons, List.map_nil]; decide
  values := by
    simp only [itemParams, List.forall_mem_cons]
    exact ⟨uint32_plain (by decide) _, uint32_plain (by decide) _, plain, by simp⟩

theorem readEntry_stored {e : Element} {item : VfsItem} {params : List (Text × Option Text)}
    (attributes : e.attributes = attributesOf
      (("id".toList, some (decimalInt item.id.toNat)) ::
        ("parentID".toList, some (decimalInt (parentId d item).toNat)) :: params))
    (title : e.children.textOf "dc:title".toList = storedTitle d item) :
    readEntry e = storedEntry d e.name item := by
  have shown : attributesOf (("id".toList, some (decimalInt item.id.toNat)) ::
      ("parentID".toList, some (decimalInt (parentId d item).toNat)) :: params) =
      ("id".toList, decimal item.id.toNat) ::
        ("parentID".toList, decimal (parentId d item).toNat) :: attributesOf params := rfl
  rw [shown] at attributes
  rw [readEntry, storedEntry, Element.attributeValue, Element.attributeValue, attributes, title,
    List.find?_cons_of_pos (by simp), List.find?_cons_of_neg (by simp),
    List.find?_cons_of_pos (by simp)]
  rfl

def Appends (d : Dlna) (call : DidlCall) (e : Element) : Prop :=
  e.Plain ∧ readEntry e = call.entry d ∧ ∀ out, ∃ after, call.exec d out = .ok after ∧
    after.contents = out.contents ++ (e.content .nil).print

theorem addContainer_appends {item : VfsItem} {box : Container}
    {restricted searchable objectClass : Option Text} (isContainer : item.body = .container box)
    (plain : PlainContainer item restricted searchable objectClass) :
    Appends d (.addContainer item restricted searchable objectClass)
      (containerElement d item box restricted searchable objectClass) := by
  have others : "upnp:class".toList ≠ "dc:title".toList := by decide
  have title : (containerElement d item box restricted searchable objectClass).children.textOf
      "dc:title".toList = storedTitle d item := by
    unfold containerElement
    rw [textOf_tagContent, textOf_tagContent, if_neg others, if_pos rfl, List.nil_append,
      Option.getD_some, Content.textOf, List.append_nil, storedTitle, isContainer]
  exact ⟨containerElement_plain plain, readEntry_stored rfl title, fun out =>
    (containerTexts_spells plain).printed
      (didlAddContainer_prints d isContainer restricted searchable objectClass) out⟩

theorem addItem_appends {item : VfsItem} {content : Option DlnaItem} {cnv : Conversion}
    {restricted : Option Text} {filter : Text} (isResource : item.body = .resource content cnv)
    (plain : PlainParam "restricted".toList restricted)
    (inside : match dlnaItemGet d item.id content with
      | some dlnaItem => PlainItem d item.title dlnaItem filter
      | none => item.title = []) :
    ∃ e, Appends d (.addItem item restricted filter) e := by
  have params : PlainParams (itemParams d item restricted) := itemParams_plain plain
  -- both cases differ in what stands between the tags only
  have appends : ∀ children : Content, children.Plain →
      children.textOf "dc:title".toList = storedTitle d item →
      Spells (match dlnaItemGet d item.id content with
        | some dlnaItem => dlnaItemTexts d item.id item.title cnv dlnaItem filter
        | none => some []) children.print →
      Appends d (.addItem item restricted filter) (itemElement d item restricted children) := by
    intro children isPlain title spells
    refine ⟨⟨show isName "item".toList by decide, params.attributes, isPlain⟩,
      readEntry_stored (e := itemElement d item restricted children) rfl title, fun out => ?_⟩
    have spelled := element_spells (itemElement d item restricted children)
      (show "<item".toList = '<' :: "item".toList by decide)
      (show "</item>".toList = closingTag "item".toList by decide)
      (show "item".toList.length ≤ 64 by decide) rfl params.values spells
    refine Spells.printed ?_ (didlAddItem_prints d isResource restricted filter) out
    have texts : paramsTexts (itemParams d item restricted) =
        valueTexts "id".toList item.id.toNat ++ (valueTexts "parentID".toList
          (parentId d item).toNat ++ paramTexts "restricted".toList restricted) := by
      simp only [paramsTexts, itemParams, valueTexts, List.flatMap_cons, List.flatMap_nil,
        List.append_nil]
    rwa [texts, joinTexts_append, joinTexts_append] at spelled
  cases found : dlnaItemGet d item.id content with
  | none =>
      rw [found] at inside appends
      refine ⟨_, appends .nil trivial ?_ spells_nothing⟩
      rw [storedTitle, isResource]
      dsimp only
      rw [found]
      exact inside.symm
  | some dlnaItem =>
      rw [found] at inside appends
      refine ⟨_, appends _ (dlnaItemContent_plain inside) ?_ (dlnaItemTexts_spells inside)⟩
      rw [textOf_dlnaItemContent, storedTitle, isResource]
      dsimp only
      rw [found]

theorem DidlCall.Plain.appends {call : DidlCall} (plain : call.Plain d) :
    ∃ e, Appends d call e := by
  cases call with
  | addContainer item restricted searchable objectClass =>
      obtain ⟨⟨box, isContainer⟩, strings⟩ := plain
      exact ⟨_, addContainer_appends isContainer strings⟩
  | addItem item restricted filter =>
      obtain ⟨⟨content, cnv, isResource, inside⟩, strings⟩ := plain
      exact addItem_appends isResource strings inside

theorem calls_append {calls : List DidlCall} (plain : ∀ call ∈ calls, call.Plain d) :
    ∃ elements : List Element, (∀ e ∈ elements, e.Plain) ∧
      elements.map readEntry = calls.map (DidlCall.entry d) ∧
      ∀ out, ∃ after, calls.foldlM (DidlCall.exec d) out = .ok after ∧
        after.contents = out.contents ++ (Content.ofElements elements).print := by
  induction calls with
  | nil => exact ⟨[], by simp, rfl, fun out => ⟨out, rfl, by simp [Content.print_ofElements]⟩⟩
  | cons call calls ih =>
      obtain ⟨here, others⟩ := List.forall_mem_cons.mp plain
      obtain ⟨e, isPlain, entry, prints⟩ := here.appends
      obtain ⟨elements, arePlain, entries, print⟩ := ih others
      refine ⟨e :: elements, List.forall_mem_cons.mpr ⟨isPlain, arePlain⟩,
        congrArg₂ List.cons entry entries, fun out => ?_⟩
      obtain ⟨between, one, first⟩ := prints out
      obtain ⟨after, all, second⟩ := print between
      refine ⟨after, ?_, ?_⟩
      · rw [List.foldlM_cons, one]
        exact all
      · rw [second, first, Content.print_ofElements, Content.print_ofElements, List.flatMap_cons,
          List.append_assoc]

def didlNamespaces : List (Text × Text) :=
  [("xmlns".toList, "urn:schemas-upnp-org:metadata-1-0/DIDL-Lite/".toList),
    ("xmlns:dc".toList, "http://purl.org/dc/elements/1.1/".toList),
    ("xmlns:upnp".toList, "urn:schemas-upnp-org:metadata-1-0/upnp/".toList)]

def didlRoot (children : Content) : Element where
  name := "DIDL-Lite".toList
  attributes := didlNamespaces
  children := children

theorem didlNamespaces_plain : PlainAttributes didlNamespaces := by
  have inert : ∀ pair ∈ didlNamespaces, isName pair.1 ∧ pair.2.all isInert := by decide +kernel
  exact
    { names := fun pair member => (inert pair member).1
      values := fun pair member => plainValue_of_inert (List.all_eq_true.mp (inert pair member).2)
      distinct := by decide }

theorem didlRoot_plain {children : Content} (plain : children.Plain) :
    (didlRoot children).Plain where
  name := show isName "DIDL-Lite".toList by decide
  attributes := didlNamespaces_plain
  children := plain

theorem didlRoot_print (children : Content) :
    ((didlRoot children).content .nil).print = didlHeader ++ (children.print ++ didlFooter) := by
  have header : didlHeader = '<' :: ("DIDL-Lite".toList ++
      (didlNamespaces.flatMap printAttribute ++ ['>'])) := by decide +kernel
  have footer : didlFooter = closingTag "DIDL-Lite".toList := by decide
  rw [Element.content_print, header, footer, List.cons_append, List.append_assoc,
    List.append_assoc, List.singleton_append]
  rfl

theorem didlDocument_faithful {calls : List DidlCall} (plain : ∀ call ∈ calls, call.Plain d) :
    ∃ out, didlDocument d calls = .ok out ∧ Faithful d calls out.contents := by
  obtain ⟨elements, arePlain, entries, prints⟩ := calls_append plain
  have headerFits : Fits didlHeader := by
    show didlHeader.length < bufferDefaultCapacity
    decide +kernel
  have footerFits : Fits didlFooter := by
    show didlFooter.length < bufferDefaultCapacity
    decide
  obtain ⟨opened, header, first⟩ :=
    (spells_piece headerFits).printed didlAddHeader_prints bufferNew
  obtain ⟨filled, all, second⟩ := prints opened
  obtain ⟨closed, footer, third⟩ :=
    (spells_piece footerFits).printed didlAddFooter_prints filled
  have isRoot := (didlRoot_plain (Content.plain_ofElements arePlain)).wellFormed
  refine ⟨closed, ?_, didlRoot (Content.ofElements elements), ?_, rfl, ?_⟩
  · rw [didlDocument, Outcome.bind_ok]
    exact ⟨opened, header, Outcome.bind_ok.mpr ⟨filled, all, footer⟩⟩
  · rwa [third, second, first, bufferNew_contents, List.nil_append, List.append_assoc,
      ← didlRoot_print]
  · exact (congrArg _ (Content.elements_ofElements elements)).trans entries

/-- The strings of one item can make up for each other: an unescaped title is read back with the
rest of it from the artist. -/
def complementedCall : DidlCall :=
  .addItem
    { id := 1
      title := "&amp;".toList
      body := .resource (some
        { filename := [], filesize := 0, properties := none, profile := none
          profileCookie := false
          metadata := some
            { title := none
              author := some "</dc:artist><dc:title>amp;</dc:title><dc:artist>".toList
              comment := none, album := none, track := 0, genre := none } }) .none
      parent := some 0
      freed := false }
    none "dc:title".toList

example : (didlDocument (dlnaStart (fun _ => none) none) [complementedCall]).map (fun out =>
    (parseDocument out.contents).map fun root => root.children.elements.map readEntry) =
      .ok (some [complementedCall.entry (dlnaStart (fun _ => none) none)]) := by decide +kernel

def titledCall (title : Text) : DidlCall :=
  .addContainer
    { id := 1, title := title, body := .container ⟨[], 0, 0⟩, parent := some 0, freed := false }
    (some "true".toList) none (some cdsObjectContainer)

def describedCall : DidlCall :=
  .addItem
    { id := 2
      title := "take5.mp3".toList
      body := .resource (some
        { filename := "/music/take5.mp3".toList
          filesize := 7654321
          properties := some
            { duration := "0:05:24.".toList, bitrate := 24000, sampleFrequency := 44100, bps := 0,
              channels := 2, resolution := [] }
          metadata := some
            { title := some "Take Five".toList, author := some "Paul Desmond".toList, comment := none,
              album := some "Time Out".toList, track := 3, genre := some "Jazz".toList }
          profile := some mp3Profile
          profileCookie := true }) .none
      parent := some 0
      freed := false }
    (some "true".toList) "*".toList

theorem plainTag_of_inert {tag s : Text} (inert : s.all isInert)
    (short : s.length + 2 * tag.length + 5 < bufferDefaultCapacity) : PlainTag tag (some s) := by
  rintro _ ⟨⟩
  exact ⟨plainText_of_inert fun c member => .inl (List.all_eq_true.mp inert c member), short⟩

theorem plainParam_of_inert {param s : Text} (inert : s.all isInert)
    (short : s.length + param.length + 4 < bufferDefaultCapacity) : PlainParam param (some s) := by
  rintro _ ⟨⟩
  exact ⟨plainValue_of_inert (List.all_eq_true.mp inert), short⟩

/-- A container whose title needs no escape, and an item with metadata and a resource. -/
theorem didlDocument_faithful_applies :
    ∃ out, didlDocument (dlnaStart (fun _ => none) none)
        [titledCall "Jazz > Blues".toList, describedCall] = .ok out ∧
      Faithful (dlnaStart (fun _ => none) none) [titledCall "Jazz > Blues".toList, describedCall]
        out.contents := by
  refine didlDocument_faithful fun call member => ?_
  rcases List.mem_pair.mp member with rfl | rfl
  · refine ⟨⟨_, rfl⟩, plainParam_of_inert (by decide) (by decide), ?_,
      plainTag_of_inert (by decide) (by decide), ?_⟩
    · rintro s ⟨⟩
    · rintro s ⟨⟩
      exact ⟨⟨clean_of_all (by decide), by decide, by decide, by decide⟩, by decide⟩
  · refine ⟨⟨_, _, rfl, ?_⟩, plainParam_of_inert (by decide) (by decide)⟩
    refine ⟨plainTag_of_inert (by decide) (by decide), ?_, fun _ => ⟨⟨_, rfl, rfl⟩, ?_, ?_, ?_, ?_⟩⟩
    · rintro metadata ⟨⟩
      refine ⟨plainTag_of_inert (by decide) (by decide), ?_,
        plainTag_of_inert (by decide) (by decide), plainTag_of_inert (by decide) (by decide)⟩
      rintro s ⟨⟩
    · rintro c ⟨⟩
    · decide
    · decide
    · rintro properties ⟨⟩
      refine ⟨plainParam_of_inert (by decide) (by decide), ?_⟩
      rintro s ⟨⟩

theorem ampersand_unfaithful :
    ∃ out, didlDocument (dlnaStart (fun _ => none) none) [titledCall "R&B".toList] = .ok out ∧
      ¬ Faithful (dlnaStart (fun _ => none) none) [titledCall "R&B".toList] out.contents := by
  have unread : (didlDocument (dlnaStart (fun _ => none) none) [titledCall "R&B".toList]).map
      (fun out => parseDocument out.contents) = .ok none := by decide +kernel
  obtain ⟨out, printed, none⟩ := Outcome.map_ok.mp unread
  refine ⟨out, printed, ?_⟩
  rintro ⟨root, isWellFormed, -⟩
  rw [isWellFormed.parsed] at none
  cases none

end Libdlna
