import Libdlna.Didl.ProtocolInfo
import Libdlna.Didl.Text
import Libdlna.Shared.Xml

set_option autoImplicit false

/-!
# Reading the DIDL documents back

The trees that the DIDL functions spell when no string needs to be escaped, which they never do.
-/

namespace Libdlna

open CString Xml

def Spells (texts : Option (List Text)) (s : Text) : Prop :=
  ∃ pieces, texts = some pieces ∧ (∀ piece ∈ pieces, Fits piece) ∧ pieces.flatten = s

theorem Spells.join {first second : Option (List Text)} {s t : Text} (left : Spells first s)
    (right : Spells second t) : Spells (joinTexts first second) (s ++ t) := by
  obtain ⟨pieces, rfl, fits, rfl⟩ := left
  obtain ⟨others, rfl, othersFit, rfl⟩ := right
  exact ⟨pieces ++ others, rfl, List.forall_mem_append.mpr ⟨fits, othersFit⟩,
    List.flatten_append⟩

theorem Spells.append {first second : List Text} {s t : Text} (left : Spells (some first) s)
    (right : Spells (some second) t) : Spells (some (first ++ second)) (s ++ t) :=
  left.join right

theorem spells_nothing : Spells (some []) [] := ⟨[], rfl, by simp, rfl⟩

theorem spells_piece {s : Text} (fits : Fits s) : Spells (some [s]) s :=
  ⟨[s], rfl, by simpa using fits, by simp⟩

theorem Spells.printed {print : Buffer → Except Fault Buffer} {texts : Option (List Text)} {s : Text}
    (spells : Spells texts s) (prints : Prints print texts) (out : Buffer) :
    ∃ after, print out = .ok after ∧ after.contents = out.contents ++ s := by
  obtain ⟨pieces, rfl, fits, rfl⟩ := spells
  exact ⟨_, (prints out _).mpr ⟨pieces, rfl, fits, rfl⟩, foldl_bufferAppend_contents pieces out⟩

def tagContent (tag : Text) (value : Option Text) (rest : Content) : Content :=
  match value with
  | some (c :: s) => .element tag [] (.text (c :: s) .nil) rest
  | _ => rest

def PlainTag (tag : Text) (value : Option Text) : Prop :=
  ∀ s ∈ value, PlainText s ∧ s.length + 2 * tag.length + 5 < bufferDefaultCapacity

theorem tagContent_print (tag : Text) (value : Option Text) (rest : Content) :
    (tagContent tag value rest).print = (tagTexts tag value).flatten ++ rest.print := by
  match value with
  | none => rfl
  | some [] => rfl
  | some (c :: s) => simp [tagContent, tagTexts, Content.print, closingTag]

theorem tagTexts_spells {tag : Text} {value : Option Text} (plain : PlainTag tag value) :
    Spells (some (tagTexts tag value)) (tagTexts tag value).flatten := by
  match value with
  | none => exact spells_nothing
  | some [] => exact spells_nothing
  | some (c :: s) =>
      refine ⟨_, rfl, ?_, rfl⟩
      have fits := (plain _ rfl).2
      simp only [tagTexts, List.mem_singleton, forall_eq, Fits, List.length_append]
      simp at fits ⊢
      omega

theorem tagContent_plain {tag : Text} {value : Option Text} {rest : Content} (isName : isName tag)
    (plain : PlainTag tag value) (others : rest.Plain) : (tagContent tag value rest).Plain := by
  match value with
  | none => exact others
  | some [] => exact others
  | some (c :: s) =>
      have noAttributes : PlainAttributes [] := ⟨by simp, by simp, by simp⟩
      exact ⟨isName, noAttributes, ⟨by simp, (plain _ rfl).1, rfl, trivial⟩, others⟩

theorem tagContent_startsWithText {tag : Text} {value : Option Text} {rest : Content}
    (others : rest.startsWithText = false) :
    (tagContent tag value rest).startsWithText = false := by
  match value with
  | none => exact others
  | some [] => exact others
  | some (c :: s) => rfl

@[simp] theorem textOf_tagContent (name tag : Text) (value : Option Text) (rest : Content) :
    (tagContent tag value rest).textOf name =
      (if tag = name then value.getD [] else []) ++ rest.textOf name := by
  match value with
  | none => simp [tagContent]
  | some [] => simp [tagContent]
  | some (c :: s) => simp [tagContent, Content.textOf, Content.ownText]

def attributesOf (params : List (Text × Option Text)) : List (Text × Text) :=
  params.flatMap fun param => param.2.toList.map fun value => (param.1, value)

def paramsTexts (params : List (Text × Option Text)) : List Text :=
  params.flatMap fun param => paramTexts param.1 param.2

def PlainParam (param : Text) (value : Option Text) : Prop :=
  ∀ s ∈ value, PlainValue s ∧ s.length + param.length + 4 < bufferDefaultCapacity

structure PlainParams (params : List (Text × Option Text)) : Prop where
  names : ∀ param ∈ params, isName param.1
  distinct : (params.map Prod.fst).Nodup
  values : ∀ param ∈ params, PlainParam param.1 param.2

theorem paramTexts_spells {param : Text} {value : Option Text} (plain : PlainParam param value) :
    Spells (some (paramTexts param value))
      ((value.toList.map fun value => (param, value)).flatMap printAttribute) := by
  cases value with
  | none => exact spells_nothing
  | some value =>
      have fits := (plain value rfl).2
      have spelled : ([(param, value)] : List (Text × Text)).flatMap printAttribute =
          " ".toList ++ param ++ "=\"".toList ++ value ++ "\"".toList := by
        simp [printAttribute]
      simp only [Option.toList_some, List.map_cons, List.map_nil, spelled]
      refine spells_piece ?_
      simp only [Fits, List.length_append]
      simp
      omega

theorem paramsTexts_spells {params : List (Text × Option Text)}
    (values : ∀ param ∈ params, PlainParam param.1 param.2) :
    Spells (some (paramsTexts params)) ((attributesOf params).flatMap printAttribute) := by
  induction params with
  | nil => exact spells_nothing
  | cons param rest ih =>
      obtain ⟨here, others⟩ := List.forall_mem_cons.mp values
      simpa only [paramsTexts, attributesOf, List.flatMap_cons, List.flatMap_append] using
        (paramTexts_spells here).append (ih others)

theorem mem_attributesOf {params : List (Text × Option Text)} {pair : Text × Text} :
    pair ∈ attributesOf params ↔ (pair.1, some pair.2) ∈ params := by
  simp only [attributesOf, List.mem_flatMap, List.mem_map, Option.mem_toList]
  constructor
  · rintro ⟨⟨name, value⟩, member, shown, rfl, rfl⟩
    exact member
  · intro member
    exact ⟨_, member, pair.2, rfl, rfl⟩

theorem attributesOf_names (params : List (Text × Option Text)) :
    ((attributesOf params).map Prod.fst).Sublist (params.map Prod.fst) := by
  induction params with
  | nil => exact List.Sublist.refl _
  | cons param rest ih =>
      obtain ⟨name, value⟩ := param
      cases value with
      | none => simpa [attributesOf] using ih.cons name
      | some value => simpa [attributesOf] using ih.cons_cons name

theorem PlainParams.attributes {params : List (Text × Option Text)} (plain : PlainParams params) :
    PlainAttributes (attributesOf params) where
  names := fun _ member => plain.names _ (mem_attributesOf.mp member)
  values := fun pair member => (plain.values _ (mem_attributesOf.mp member) pair.2 rfl).1
  distinct := (attributesOf_names params).nodup plain.distinct

theorem decimalInt_chars (z : Int) : ∀ c ∈ decimalInt z, c.isDigit ∨ c = '-' := by
  intro c member
  unfold decimalInt at member
  split at member
  · rcases List.mem_cons.mp member with rfl | digit
    · exact .inr rfl
    · exact .inl (decimal_isDigit digit)
  · exact .inl (decimal_isDigit member)

theorem decimalInt_length {z : Int} (bounded : z.natAbs < 10 ^ 20) : (decimalInt z).length ≤ 21 := by
  unfold decimalInt
  split
  · have digits := decimal_length (k := 20) (by decide) bounded
    rw [List.length_cons]
    omega
  · have digits := decimal_length (n := z.toNat) (k := 20) (by decide) (by omega)
    omega

/-- Characters that stand for themselves in a document, whatever surrounds them. -/
def isInert (c : Char) : Bool := isPrintable c && c ∉ ['<', '&', '"', '>']

theorem plainValue_of_inert {s : Text} (inert : ∀ c ∈ s, isInert c) : PlainValue s where
  clean := clean_of_printable fun c member => by
    have here := inert c member
    simp only [isInert, Bool.and_eq_true] at here
    exact here.1
  noTag := fun inside => absurd (inert _ inside) (by decide)
  noReference := fun inside => absurd (inert _ inside) (by decide)
  noQuote := fun inside => absurd (inert _ inside) (by decide)

theorem plainText_of_inert {s : Text} (inert : ∀ c ∈ s, isInert c ∨ c = '"') : PlainText s where
  clean := clean_of_printable fun c member => by
    rcases inert c member with here | rfl
    · simp only [isInert, Bool.and_eq_true] at here
      exact here.1
    · decide
  noTag := fun inside => absurd (inert _ inside) (by decide)
  noReference := fun inside => absurd (inert _ inside) (by decide)
  -- every section end has a '>' in it
  noSectionEnd := fun ends => absurd (inert '>' (ends.subset (by decide))) (by decide)

theorem isInert_of_isInfoChar {c : Char} (infoChar : isInfoChar c) : isInert c := by
  have printable : isPrintable c := by
    simp only [isInfoChar, isProfileChar, Bool.or_eq_true, decide_eq_true_eq] at infoChar
    have others := List.all_eq_true.mp
      (show (['-', '_', '.', '/', ';', '=', '+'] ++ [':', '*']).all isPrintable by decide)
    rcases infoChar with (alphanum | special) | special
    · exact isPrintable_of_isAlphanum alphanum
    · exact others c (List.mem_append_left _ special)
    · exact others c (List.mem_append_right _ special)
  have markup := List.all_eq_true.mp
    (show ['<', '&', '"', '>'].all fun c => !isInfoChar c by decide)
  simp only [isInert, printable, Bool.true_and, decide_eq_true_eq]
  intro member
  simpa [infoChar] using markup c member

theorem isInert_of_isDigit {c : Char} (digit : c.isDigit) : isInert c :=
  isInert_of_isInfoChar (isInfoChar_of_isAlphanum (by simp [Char.isAlphanum, digit]))

theorem decimalInt_inert (z : Int) : ∀ c ∈ decimalInt z, isInert c := by
  intro c member
  rcases decimalInt_chars z c member with digit | rfl
  · exact isInert_of_isDigit digit
  · decide

theorem decimalInt_plain {param : Text} {z : Int} (short : param.length ≤ 64)
    (bounded : z.natAbs < 10 ^ 20) : PlainParam param (some (decimalInt z)) := by
  rintro s ⟨⟩
  have digits := decimalInt_length bounded
  exact ⟨plainValue_of_inert (decimalInt_inert z), by simp only [bufferDefaultCapacity]; omega⟩

theorem tagContent_spells {tag : Text} {value : Option Text} {texts : Option (List Text)}
    {rest : Content} (plain : PlainTag tag value) (others : Spells texts rest.print) :
    Spells (joinTexts (some (tagTexts tag value)) texts) (tagContent tag value rest).print := by
  rw [tagContent_print]
  exact (tagTexts_spells plain).join others

theorem element_spells (e : Element) {opening closing : Text} {params : List (Text × Option Text)}
    {inner : Option (List Text)} (isOpening : opening = '<' :: e.name)
    (isClosing : closing = closingTag e.name) (short : e.name.length ≤ 64)
    (attributes : e.attributes = attributesOf params)
    (values : ∀ param ∈ params, PlainParam param.1 param.2)
    (inside : Spells inner e.children.print) :
    Spells (joinTexts (some [opening]) (joinTexts (some (paramsTexts params))
        (joinTexts (some [">".toList]) (joinTexts inner (some [closing])))))
      (e.content .nil).print := by
  subst isOpening isClosing
  have opens : Fits ('<' :: e.name) := by
    simp only [Fits, List.length_cons, bufferDefaultCapacity]
    omega
  have closes : Fits (closingTag e.name) := by
    simp only [Fits, closingTag, List.length_cons, List.length_append, List.length_nil,
      bufferDefaultCapacity]
    omega
  have spelled := (spells_piece opens).join ((paramsTexts_spells values).join
    ((spells_piece fits_closing).join (inside.join (spells_piece closes))))
  simpa [Element.content, Content.print, attributes] using spelled

end Libdlna
