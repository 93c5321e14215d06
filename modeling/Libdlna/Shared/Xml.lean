import Mathlib.Data.List.Infix
import Mathlib.Data.List.Nodup

set_option autoImplicit false

/-!
# A subset of XML

Documents of elements, attributes and character data, without prolog, comments, CDATA sections and
processing instructions, and with white space in tags only where it has to be. A text is the list
of its bytes, each shown as the character with that code.
-/

namespace Xml

def isContinuation (c : Char) : Bool := 0x80 ≤ c.toNat && c.toNat ≤ 0xBF

/-- The UTF-8 encodings of the characters that XML allows. -/
def encodesChar : List Char → Bool
  | [a] => (a = '\t' || a = '\n' || a = '\r' || 0x20 ≤ a.toNat) && a.toNat < 0x80
  | [a, b] => 0xC2 ≤ a.toNat && a.toNat ≤ 0xDF && isContinuation b
  | [a, b, c] =>
      0xE0 ≤ a.toNat && a.toNat ≤ 0xEF && isContinuation b && isContinuation c &&
        -- neither overlong, nor a surrogate, nor U+FFFE or U+FFFF
        (a.toNat != 0xE0 || 0xA0 ≤ b.toNat) && (a.toNat != 0xED || b.toNat ≤ 0x9F) &&
        (a.toNat != 0xEF || b.toNat != 0xBF || c.toNat < 0xBE)
  | [a, b, c, d] =>
      0xF0 ≤ a.toNat && a.toNat ≤ 0xF4 && isContinuation b && isContinuation c &&
        isContinuation d && (a.toNat != 0xF0 || 0x90 ≤ b.toNat) &&
        (a.toNat != 0xF4 || b.toNat ≤ 0x8F)
  | _ => false

def Legal (s : List Char) : Prop :=
  ∃ encoded : List (List Char), s = encoded.flatten ∧ ∀ c ∈ encoded, encodesChar c

/-- Legal, and read as it stands: a carriage return is read as a line feed. -/
structure Clean (s : List Char) : Prop where
  legal : Legal s
  unreturned : '\r' ∉ s

theorem Legal.append {s t : List Char} (left : Legal s) (right : Legal t) : Legal (s ++ t) := by
  obtain ⟨first, rfl, firstEncodes⟩ := left
  obtain ⟨second, rfl, secondEncodes⟩ := right
  exact ⟨first ++ second, List.flatten_append.symm,
    List.forall_mem_append.mpr ⟨firstEncodes, secondEncodes⟩⟩

theorem Clean.append {s t : List Char} (left : Clean s) (right : Clean t) : Clean (s ++ t) where
  legal := left.legal.append right.legal
  unreturned := by simp [left.unreturned, right.unreturned]

def isPrintable (c : Char) : Bool := 0x20 ≤ c.toNat && c.toNat < 0x80

theorem clean_of_printable {s : List Char} (printable : ∀ c ∈ s, isPrintable c) : Clean s where
  legal := by
    refine ⟨s.map fun c => [c], by simp [← List.flatMap_def], ?_⟩
    intro encoded member
    obtain ⟨c, inText, rfl⟩ := List.mem_map.mp member
    have bounds := printable c inText
    simp only [isPrintable, Bool.and_eq_true, decide_eq_true_eq] at bounds
    simp [encodesChar, bounds.1, bounds.2]
  unreturned := by
    intro returned
    exact absurd (printable _ returned) (by decide)

theorem clean_of_all {s : List Char} (printable : s.all isPrintable) : Clean s :=
  clean_of_printable (List.all_eq_true.mp printable)

/-- What stands between two tags, spelled first child before next sibling. -/
inductive Content where
  | nil
  | text (s : List Char) (rest : Content)
  | element (name : List Char) (attributes : List (List Char × List Char))
      (children rest : Content)
  deriving DecidableEq

structure Element where
  name : List Char
  attributes : List (List Char × List Char)
  children : Content
  deriving DecidableEq

namespace Content

def elements : Content → List Element
  | nil => []
  | text _ rest => elements rest
  | element name attributes children rest => ⟨name, attributes, children⟩ :: elements rest

def ownText : Content → List Char
  | nil => []
  | text s rest => s ++ ownText rest
  | element _ _ _ rest => ownText rest

def textOf (name : List Char) : Content → List Char
  | nil => []
  | text _ rest => textOf name rest
  | element other _ children rest =>
      (if other = name then ownText children else []) ++ textOf name rest

end Content

namespace Element

variable (e : Element)

def attributeValue (name : List Char) : Option (List Char) :=
  (e.attributes.find? fun pair => pair.1 = name).map Prod.snd

def content (rest : Content) : Content := .element e.name e.attributes e.children rest

end Element

def Content.ofElements (elements : List Element) : Content := elements.foldr Element.content .nil

def printAttribute (pair : List Char × List Char) : List Char :=
  ' ' :: (pair.1 ++ '=' :: '"' :: (pair.2 ++ ['"']))

def closingTag (name : List Char) : List Char := '<' :: '/' :: (name ++ ['>'])

namespace Content

def print : Content → List Char
  | nil => []
  | text s rest => s ++ print rest
  | element name attributes children rest =>
      '<' :: (name ++ (attributes.flatMap printAttribute ++
        '>' :: (print children ++ (closingTag name ++ print rest))))

end Content

theorem Element.content_print (e : Element) :
    (e.content .nil).print = '<' :: (e.name ++ (e.attributes.flatMap printAttribute ++
      '>' :: (e.children.print ++ closingTag e.name))) := by
  simp [content, Content.print]

def isNameStart (c : Char) : Bool := c.isAlpha || c = '_' || c = ':'

def isNameChar (c : Char) : Bool := isNameStart c || c.isDigit || c = '-' || c = '.'

def isName (name : List Char) : Bool := name.head?.any isNameStart && name.all isNameChar

def parseName (s : List Char) : Option (List Char × List Char) :=
  let name := s.takeWhile isNameChar
  if isName name then some (name, s.dropWhile isNameChar) else none

def entities : List (List Char × Char) :=
  [("lt;".toList, '<'), ("gt;".toList, '>'), ("amp;".toList, '&'), ("quot;".toList, '"'),
    ("apos;".toList, Char.ofNat 39)]

def parseReference (s : List Char) : Option (Char × List Char) :=
  (entities.find? fun entity => entity.1.isPrefixOf s).map
    fun entity => (entity.2, s.drop entity.1.length)

def sectionEnd : List Char := "]]>".toList

def parseText : Nat → List Char → Option (List Char × List Char)
  | 0, _ => none
  | _ + 1, [] => some ([], [])
  | fuel + 1, c :: rest =>
      if c = '<' then some ([], c :: rest)
      else if c = '&' then do
        let (c, rest) ← parseReference rest
        let (s, rest) ← parseText fuel rest
        some (c :: s, rest)
      else if sectionEnd.isPrefixOf (c :: rest) then none
      else do
        let (s, rest) ← parseText fuel rest
        some (c :: s, rest)

def parseValue : Nat → List Char → Option (List Char × List Char)
  | 0, _ => none
  | _ + 1, [] => none
  | fuel + 1, c :: rest =>
      if c = '"' then some ([], rest)
      else if c = '<' then none
      else if c = '&' then do
        let (c, rest) ← parseReference rest
        let (s, rest) ← parseValue fuel rest
        some (c :: s, rest)
      else do
        let (s, rest) ← parseValue fuel rest
        some (c :: s, rest)

def parseAttributes : Nat → List Char → Option (List (List Char × List Char) × List Char)
  | 0, _ => none
  | fuel + 1, s =>
      if s.head? = some ' ' then do
        let (name, rest) ← parseName s.tail
        let rest ← (if ['=', '"'].isPrefixOf rest then some (rest.drop 2) else none)
        let (value, rest) ← parseValue (rest.length + 1) rest
        let (others, rest) ← parseAttributes fuel rest
        -- no attribute name may appear more than once
        if name ∈ others.map Prod.fst then none else some ((name, value) :: others, rest)
      else some ([], s)

def parseClosingTag (name s : List Char) : Option (List Char) :=
  if (closingTag name).isPrefixOf s then some (s.drop (closingTag name).length) else none

def parseContent : Nat → List Char → Option (Content × List Char)
  | 0, _ => none
  | _ + 1, [] => some (.nil, [])
  | fuel + 1, c :: rest =>
      if c ≠ '<' then do
        let (s, rest) ← parseText (rest.length + 2) (c :: rest)
        let (siblings, rest) ← parseContent fuel rest
        some (.text s siblings, rest)
      else if rest.head? = some '/' then some (.nil, c :: rest)
      else do
        let (name, rest) ← parseName rest
        let (attributes, rest) ← parseAttributes (rest.length + 1) rest
        if ['/', '>'].isPrefixOf rest then do
          let (siblings, rest) ← parseContent fuel (rest.drop 2)
          some (.element name attributes .nil siblings, rest)
        else if rest.head? = some '>' then do
          let (children, rest) ← parseContent fuel rest.tail
          let rest ← parseClosingTag name rest
          let (siblings, rest) ← parseContent fuel rest
          some (.element name attributes children siblings, rest)
        else none

def normalizeLines : List Char → List Char
  | [] => []
  | c :: rest =>
      if c = '\r' then
        if rest.head? = some '\n' then normalizeLines rest else '\n' :: normalizeLines rest
      else c :: normalizeLines rest

def parseDocument (s : List Char) : Option Element :=
  let s := normalizeLines s
  match parseContent (s.length + 1) s with
  | some (.element name attributes children .nil, []) => some ⟨name, attributes, children⟩
  | _ => none

structure WellFormed (document : List Char) (root : Element) : Prop where
  legal : Legal document
  parsed : parseDocument document = some root

structure PlainText (s : List Char) : Prop where
  clean : Clean s
  noTag : '<' ∉ s
  noReference : '&' ∉ s
  noSectionEnd : ¬ sectionEnd <:+: s

structure PlainValue (s : List Char) : Prop where
  clean : Clean s
  noTag : '<' ∉ s
  noReference : '&' ∉ s
  noQuote : '"' ∉ s

structure PlainAttributes (attributes : List (List Char × List Char)) : Prop where
  names : ∀ pair ∈ attributes, isName pair.1
  values : ∀ pair ∈ attributes, PlainValue pair.2
  distinct : (attributes.map Prod.fst).Nodup

namespace Content

def startsWithText : Content → Bool
  | text _ _ => true
  | _ => false

/-- Adjacent texts and empty ones cannot be told apart in print. -/
def Plain : Content → Prop
  | nil => True
  | text s rest => s ≠ [] ∧ PlainText s ∧ startsWithText rest = false ∧ Plain rest
  | element name attributes children rest =>
      isName name ∧ PlainAttributes attributes ∧ Plain children ∧ Plain rest

end Content

theorem isName_isNameChar {name : List Char} (valid : isName name) : ∀ c ∈ name, isNameChar c := by
  simp only [isName, Bool.and_eq_true, List.all_eq_true] at valid
  exact valid.2

theorem isName_head {name : List Char} (valid : isName name) :
    ∃ c rest, name = c :: rest ∧ isNameStart c := by
  cases name with
  | nil => simp [isName] at valid
  | cons c rest =>
      simp only [isName, List.head?_cons, Option.any_some, Bool.and_eq_true] at valid
      exact ⟨c, rest, rfl, valid.1⟩

theorem parseName_append {name rest : List Char} (valid : isName name)
    (stops : rest.takeWhile isNameChar = []) : parseName (name ++ rest) = some (name, rest) := by
  have chars := isName_isNameChar valid
  have taken : (name ++ rest).takeWhile isNameChar = name := by
    rw [List.takeWhile_append_of_pos chars, stops, List.append_nil]
  have left : (name ++ rest).dropWhile isNameChar = rest := by
    have whole := List.takeWhile_append_dropWhile (p := isNameChar) (l := rest)
    rw [stops, List.nil_append] at whole
    rw [List.dropWhile_append_of_pos chars, whole]
  rw [parseName, taken, left, if_pos valid]

def Stops (tail : List Char) : Prop := tail = [] ∨ ∃ rest, tail = '<' :: rest

theorem sectionEnd_prefix_append {s tail : List Char} (stops : Stops tail)
    (starts : sectionEnd <+: s ++ tail) : sectionEnd <+: s := by
  rcases stops with rfl | ⟨rest, rfl⟩
  · simpa using starts
  · rcases List.prefix_or_prefix_of_prefix starts (List.prefix_append s _) with inside | longer
    · exact inside
    · obtain ⟨more, split⟩ := longer
      -- a section end that goes on beyond s would have the markup character in it
      cases more with
      | nil => exact ⟨[], by simpa using split.symm⟩
      | cons c more =>
          rw [← split] at starts
          obtain ⟨rfl, -⟩ := List.cons_prefix_cons.mp ((List.prefix_append_right_inj s).mp starts)
          have markup : '<' ∈ sectionEnd := by simp [← split]
          exact absurd markup (by decide)

theorem PlainText.tail {c : Char} {s : List Char} (plain : '<' ∉ c :: s ∧ '&' ∉ c :: s ∧
    ¬ sectionEnd <:+: c :: s) : '<' ∉ s ∧ '&' ∉ s ∧ ¬ sectionEnd <:+: s := by
  obtain ⟨noTag, noReference, noSectionEnd⟩ := plain
  refine ⟨fun inside => noTag (List.mem_cons_of_mem c inside),
    fun inside => noReference (List.mem_cons_of_mem c inside), fun inside => noSectionEnd ?_⟩
  exact List.infix_cons_iff.mpr (.inr inside)

theorem parseText_append {s : List Char} (tail : List Char)
    (plain : '<' ∉ s ∧ '&' ∉ s ∧ ¬ sectionEnd <:+: s) (stops : Stops tail) (fuel : Nat)
    (enough : s.length < fuel) :
    parseText fuel (s ++ tail) = some (s, tail) := by
  induction s generalizing fuel with
  | nil =>
      cases fuel with
      | zero => omega
      | succ fuel =>
          rcases stops with rfl | ⟨rest, rfl⟩
          · rfl
          · simp [parseText]
  | cons c s ih =>
      cases fuel with
      | zero => omega
      | succ fuel =>
          have noTag : c ≠ '<' := by
            rintro rfl
            exact plain.1 (List.mem_cons_self ..)
          have noReference : c ≠ '&' := by
            rintro rfl
            exact plain.2.1 (List.mem_cons_self ..)
          have noSectionEnd : ¬ sectionEnd.isPrefixOf (c :: s ++ tail) := by
            rw [List.isPrefixOf_iff_prefix]
            exact fun starts => plain.2.2 (sectionEnd_prefix_append stops starts).isInfix
          have inner := ih (PlainText.tail plain) fuel (by simpa using enough)
          rw [List.cons_append] at noSectionEnd ⊢
          rw [parseText, if_neg noTag, if_neg noReference, if_neg noSectionEnd, inner]
          rfl

theorem parseValue_append {s : List Char} (rest : List Char)
    (plain : '<' ∉ s ∧ '&' ∉ s ∧ '"' ∉ s) (fuel : Nat) (enough : s.length < fuel) :
    parseValue fuel (s ++ '"' :: rest) = some (s, rest) := by
  induction s generalizing fuel with
  | nil =>
      cases fuel with
      | zero => omega
      | succ fuel => simp [parseValue]
  | cons c s ih =>
      cases fuel with
      | zero => omega
      | succ fuel =>
          simp only [List.mem_cons, not_or] at plain
          obtain ⟨⟨noTag, restTag⟩, ⟨noReference, restReference⟩, noQuote, restQuote⟩ := plain
          have inner := ih ⟨restTag, restReference, restQuote⟩ fuel (by simpa using enough)
          rw [List.cons_append, parseValue, if_neg (Ne.symm noQuote), if_neg (Ne.symm noTag),
            if_neg (Ne.symm noReference), inner]
          rfl

theorem PlainAttributes.tail {pair : List Char × List Char}
    {attributes : List (List Char × List Char)} (plain : PlainAttributes (pair :: attributes)) :
    PlainAttributes attributes where
  names := fun other member => plain.names other (List.mem_cons_of_mem pair member)
  values := fun other member => plain.values other (List.mem_cons_of_mem pair member)
  distinct := by
    have distinct := plain.distinct
    rw [List.map_cons, List.nodup_cons] at distinct
    exact distinct.2

theorem parseAttributes_print {attributes : List (List Char × List Char)} (rest : List Char)
    (plain : PlainAttributes attributes) (stops : rest.head? ≠ some ' ') (fuel : Nat)
    (enough : attributes.length < fuel) :
    parseAttributes fuel (attributes.flatMap printAttribute ++ rest) = some (attributes, rest) := by
  induction attributes generalizing fuel with
  | nil =>
      cases fuel with
      | zero => omega
      | succ fuel => simp [parseAttributes, stops]
  | cons pair attributes ih =>
      cases fuel with
      | zero => omega
      | succ fuel =>
          obtain ⟨name, value⟩ := pair
          have isName := plain.names (name, value) (List.mem_cons_self ..)
          have isPlain : PlainValue value := plain.values (name, value) (List.mem_cons_self ..)
          have fresh : name ∉ attributes.map Prod.fst := by
            have distinct := plain.distinct
            rw [List.map_cons, List.nodup_cons] at distinct
            exact distinct.1
          have others := ih plain.tail fuel (by simpa using enough)
          have spelled : ((name, value) :: attributes).flatMap printAttribute ++ rest =
              ' ' :: (name ++ '=' :: '"' ::
                (value ++ '"' :: (attributes.flatMap printAttribute ++ rest))) := by
            simp [printAttribute]
          have read := parseValue_append (attributes.flatMap printAttribute ++ rest)
            ⟨isPlain.noTag, isPlain.noReference, isPlain.noQuote⟩
            ((value ++ '"' :: (attributes.flatMap printAttribute ++ rest)).length + 1)
            (by rw [List.length_append]; omega)
          rw [spelled, parseAttributes, if_pos List.head?_cons, List.tail_cons,
            parseName_append isName (List.takeWhile_cons_of_neg (by decide))]
          have opened : ∀ rest : List Char, ['=', '"'].isPrefixOf ('=' :: '"' :: rest) = true := by
            simp
          simp only [Option.bind_eq_bind, Option.bind_some, opened, if_true, List.drop_succ_cons,
            List.drop_zero, read, others, if_neg fresh]

theorem length_le_printed (attributes : List (List Char × List Char)) :
    attributes.length ≤ (attributes.flatMap printAttribute).length := by
  induction attributes with
  | nil => simp
  | cons pair attributes ih =>
      simp only [List.flatMap_cons, List.length_append, List.length_cons, printAttribute]
      omega

theorem attributes_stop_name (attributes : List (List Char × List Char)) (rest : List Char) :
    (attributes.flatMap printAttribute ++ '>' :: rest).takeWhile isNameChar = [] := by
  cases attributes with
  | nil => exact List.takeWhile_cons_of_neg (by decide)
  | cons pair attributes => exact List.takeWhile_cons_of_neg (by decide)

theorem parseClosingTag_print (name rest : List Char) :
    parseClosingTag name (closingTag name ++ rest) = some rest := by
  simp [parseClosingTag]

def Ends (tail : List Char) : Prop := tail = [] ∨ ∃ rest, tail = '<' :: '/' :: rest

theorem Ends.stops {tail : List Char} (ends : Ends tail) : Stops tail :=
  ends.imp_right fun ⟨rest, same⟩ => ⟨'/' :: rest, same⟩

theorem print_stops {content : Content} (other : content.startsWithText = false) {tail : List Char}
    (ends : Ends tail) : Stops (content.print ++ tail) := by
  cases content with
  | nil => exact ends.stops
  | text s rest => cases other
  | element name attributes children rest => exact .inr ⟨_, rfl⟩

theorem parseContent_ends {fuel : Nat} {tail : List Char} (ends : Ends tail) :
    parseContent (fuel + 1) tail = some (.nil, tail) := by
  rcases ends with rfl | ⟨rest, rfl⟩
  · rfl
  · simp [parseContent]

section Steps

variable {fuel : Nat} {after tail : List Char} {rest : Content}

theorem parseContent_text {s : List Char} (nonempty : s ≠ []) (plain : PlainText s)
    (stops : Stops after) (siblings : parseContent fuel after = some (rest, tail)) :
    parseContent (fuel + 1) (s ++ after) = some (.text s rest, tail) := by
  obtain ⟨c, s, rfl⟩ := List.exists_cons_of_ne_nil nonempty
  have noTag : c ≠ '<' := by
    rintro rfl
    exact plain.noTag (List.mem_cons_self ..)
  have read := parseText_append after ⟨plain.noTag, plain.noReference, plain.noSectionEnd⟩ stops
    ((s ++ after).length + 2) (by rw [List.length_append, List.length_cons]; omega)
  rw [List.cons_append] at read ⊢
  rw [parseContent, if_pos noTag]
  simp only [Option.bind_eq_bind, Option.bind_some, read, siblings]

theorem parseContent_element {name inner : List Char} {attributes : List (List Char × List Char)}
    {children : Content} (named : isName name) (plain : PlainAttributes attributes)
    (inside : parseContent fuel inner = some (children, closingTag name ++ after))
    (siblings : parseContent fuel after = some (rest, tail)) :
    parseContent (fuel + 1)
        ('<' :: (name ++ (attributes.flatMap printAttribute ++ '>' :: inner))) =
      some (.element name attributes children rest, tail) := by
  have opened : (name ++ (attributes.flatMap printAttribute ++ '>' :: inner)).head? ≠ some '/' := by
    obtain ⟨c, others, rfl, starts⟩ := isName_head named
    rw [List.cons_append, List.head?_cons, Ne, Option.some.injEq]
    rintro rfl
    exact absurd starts (by decide)
  have readName := parseName_append named (attributes_stop_name attributes inner)
  have bounded := length_le_printed attributes
  have readAttributes := parseAttributes_print ('>' :: inner) plain (by simp)
    ((attributes.flatMap printAttribute ++ '>' :: inner).length + 1)
    (by rw [List.length_append]; omega)
  -- an element without content is printed with two tags
  have notEmpty : ['/', '>'].isPrefixOf ('>' :: inner) = false := rfl
  rw [parseContent, if_neg (not_not.mpr rfl), if_neg opened]
  simp only [Option.bind_eq_bind, Option.bind_some, readName, readAttributes, notEmpty,
    Bool.false_eq_true, if_false, List.head?_cons, if_true, List.tail_cons, inside,
    parseClosingTag_print, siblings]

end Steps

theorem parseContent_print {content : Content} (plain : content.Plain) (tail : List Char)
    (ends : Ends tail) (fuel : Nat) (enough : (content.print ++ tail).length < fuel) :
    parseContent fuel (content.print ++ tail) = some (content, tail) := by
  induction content generalizing tail fuel with
  | nil =>
      cases fuel with
      | zero => omega
      | succ fuel => exact parseContent_ends ends
  | text s rest ih =>
      obtain ⟨nonempty, isPlain, other, plainRest⟩ := plain
      have spelled : (Content.text s rest).print ++ tail = s ++ (rest.print ++ tail) := by
        simp [Content.print]
      rw [spelled] at enough ⊢
      have positive := List.length_pos_of_ne_nil nonempty
      rw [List.length_append] at enough
      cases fuel with
      | zero => omega
      | succ fuel =>
          apply parseContent_text nonempty isPlain (print_stops other ends)
          exact ih plainRest tail ends fuel (by omega)
  | element name attributes children rest ihChildren ihRest =>
      obtain ⟨named, isPlain, plainChildren, plainRest⟩ := plain
      have spelled : (Content.element name attributes children rest).print ++ tail =
          '<' :: (name ++ (attributes.flatMap printAttribute ++
            '>' :: (children.print ++ (closingTag name ++ (rest.print ++ tail))))) := by
        simp [Content.print]
      rw [spelled] at enough ⊢
      simp only [List.length_cons, List.length_append] at enough
      cases fuel with
      | zero => omega
      | succ fuel =>
          have closes : Ends (closingTag name ++ (rest.print ++ tail)) := .inr ⟨_, rfl⟩
          apply parseContent_element named isPlain
          · apply ihChildren plainChildren _ closes
            simp only [List.length_append]
            omega
          · apply ihRest plainRest tail ends
            rw [List.length_append]
            omega

theorem normalizeLines_unreturned {s : List Char} (unreturned : '\r' ∉ s) :
    normalizeLines s = s := by
  induction s with
  | nil => rfl
  | cons c s ih =>
      rw [List.mem_cons, not_or] at unreturned
      rw [normalizeLines, if_neg (Ne.symm unreturned.1), ih unreturned.2]

theorem isAlpha_bounds {c : Char} (alpha : c.isAlpha) : 65 ≤ c.toNat ∧ c.toNat ≤ 122 := by
  change (decide (c.val ≥ 65 ∧ c.val ≤ 90) || (c.val ≥ 97 && c.val ≤ 122)) = true at alpha
  simp only [Bool.or_eq_true, Bool.and_eq_true, decide_eq_true_eq, UInt32.le_iff_toNat_le,
    ge_iff_le] at alpha
  change 65 ≤ c.val.toNat ∧ c.val.toNat ≤ 122
  change 65 ≤ c.val.toNat ∧ c.val.toNat ≤ 90 ∨ 97 ≤ c.val.toNat ∧ c.val.toNat ≤ 122 at alpha
  omega

theorem isPrintable_of_isAlphanum {c : Char} (alphanum : c.isAlphanum) : isPrintable c := by
  have bounds : 0x20 ≤ c.toNat ∧ c.toNat < 0x80 := by
    rw [Char.isAlphanum, Bool.or_eq_true] at alphanum
    rcases alphanum with alpha | digit
    · have alphaBounds := isAlpha_bounds alpha
      omega
    · have digitBounds : 48 ≤ c.toNat ∧ c.toNat ≤ 57 := Char.isDigit_iff_toNat.mp digit
      omega
  simp [isPrintable, bounds]

theorem isPrintable_of_isNameChar {c : Char} (nameChar : isNameChar c) : isPrintable c := by
  simp only [isNameChar, isNameStart, Bool.or_eq_true, decide_eq_true_eq] at nameChar
  rcases nameChar with ((((alpha | rfl) | rfl) | digit) | rfl) | rfl
  · exact isPrintable_of_isAlphanum (by simp [Char.isAlphanum, alpha])
  · decide
  · decide
  · exact isPrintable_of_isAlphanum (by simp [Char.isAlphanum, digit])
  · decide
  · decide

theorem clean_name {name : List Char} (valid : isName name) : Clean name :=
  clean_of_printable fun c member => isPrintable_of_isNameChar (isName_isNameChar valid c member)

theorem clean_closingTag {name : List Char} (valid : isName name) : Clean (closingTag name) :=
  (clean_of_all (s := ['<', '/']) (by decide)).append
    ((clean_name valid).append (clean_of_all (s := ['>']) (by decide)))

theorem clean_attributes {attributes : List (List Char × List Char)}
    (plain : PlainAttributes attributes) : Clean (attributes.flatMap printAttribute) := by
  induction attributes with
  | nil => exact clean_of_printable (by simp)
  | cons pair attributes ih =>
      have name := clean_name (plain.names pair (List.mem_cons_self ..))
      have value := (plain.values pair (List.mem_cons_self ..)).clean
      exact (((clean_of_all (s := [' ']) (by decide)).append
        (name.append ((clean_of_all (s := ['=', '"']) (by decide)).append
          (value.append (clean_of_all (s := ['"']) (by decide))))))).append (ih plain.tail)

theorem clean_print {content : Content} (plain : content.Plain) : Clean content.print := by
  induction content with
  | nil => exact clean_of_printable (by simp [Content.print])
  | text s rest ih => exact plain.2.1.clean.append (ih plain.2.2.2)
  | element name attributes children rest ihChildren ihRest =>
      obtain ⟨isName, isPlain, plainChildren, plainRest⟩ := plain
      exact (clean_of_all (s := ['<']) (by decide)).append
        ((clean_name isName).append ((clean_attributes isPlain).append
          ((clean_of_all (s := ['>']) (by decide)).append ((ihChildren plainChildren).append
            ((clean_closingTag isName).append (ihRest plainRest))))))

structure Element.Plain (e : Element) : Prop where
  name : isName e.name
  attributes : PlainAttributes e.attributes
  children : e.children.Plain

theorem Element.Plain.content {e : Element} {rest : Content} (plain : e.Plain)
    (others : rest.Plain) : (e.content rest).Plain :=
  ⟨plain.name, plain.attributes, plain.children, others⟩

theorem Element.Plain.wellFormed {root : Element} (plain : root.Plain) :
    WellFormed (root.content .nil).print root := by
  have isPlain : (root.content .nil).Plain := plain.content trivial
  have clean := clean_print isPlain
  have parsed := parseContent_print isPlain [] (.inl rfl)
    ((root.content .nil).print.length + 1) (by rw [List.append_nil]; omega)
  rw [List.append_nil] at parsed
  refine ⟨clean.legal, ?_⟩
  simp only [parseDocument, normalizeLines_unreturned clean.unreturned, parsed]
  rfl

namespace Content

@[simp] theorem elements_ofElements (elements : List Element) :
    (ofElements elements).elements = elements := by
  induction elements with
  | nil => rfl
  | cons e rest ih => exact congrArg (e :: ·) ih

theorem print_ofElements (elements : List Element) :
    (ofElements elements).print = elements.flatMap fun e => (e.content .nil).print := by
  induction elements with
  | nil => rfl
  | cons e rest ih =>
      rw [List.flatMap_cons, ← ih]
      simp [ofElements, Element.content, print]

theorem plain_ofElements {elements : List Element} (plain : ∀ e ∈ elements, e.Plain) :
    (ofElements elements).Plain := by
  induction elements with
  | nil => trivial
  | cons e rest ih =>
      obtain ⟨here, others⟩ := List.forall_mem_cons.mp plain
      exact here.content (ih others)

end Content

end Xml
