import Libdlna.Cds.Requests
import Libdlna.Shared.Windows
import Libdlna.Vfs.Removal

set_option autoImplicit false

/-!
# Browsing the children of a container

The two numbers of a request go through `atoi` and a signed `int` before they bound the loops.
-/

namespace Libdlna

open CString ActionEvent Windows

variable {d : Dlna} {filter : Text}

def childText (d : Dlna) (filter : Text) (child : Ref) : Text :=
  printed fun out => cdsBrowseChild d filter out child

theorem cdsBrowseChild_prints (d : Dlna) (filter : Text) (child : Ref) :
    ∃ texts, Prints (fun out => cdsBrowseChild d filter out child) texts := by
  unfold cdsBrowseChild
  cases d.readItem child with
  | error fault => exact ⟨none, prints_fault⟩
  | ok item =>
      cases body : item.body with
      | container box =>
          refine ⟨some (containerTexts d item box (some "true".toList) none
            (some cdsObjectContainer)), ?_⟩
          simpa only [Bind.bind, Except.bind, body] using didlAddContainer_prints d body _ _ _
      | resource content cnv =>
          refine ⟨itemTexts d item content cnv (some "true".toList) filter, ?_⟩
          simpa only [Bind.bind, Except.bind, body] using didlAddItem_prints d body _ _

theorem cdsBrowseChild_contents {child : Ref} {out after : Buffer}
    (shown : cdsBrowseChild d filter out child = .ok after) :
    after.contents = out.contents ++ childText d filter child := by
  obtain ⟨texts, prints⟩ := cdsBrowseChild_prints d filter child
  exact prints.contents shown

theorem cdsBrowseLoop_ok {count : Int} {items : List Ref} {n total : Int} {out after : Buffer}
    (nonnegative : 0 ≤ n) (ran : cdsBrowseLoop d filter count items n out = .ok (total, after)) :
    ∃ listed, listed = (if count = 0 then items else items.take (count - n).toNat) ∧
      total = n + listed.length ∧
      after.contents = out.contents ++ listed.flatMap (childText d filter) := by
  induction items generalizing n out with
  | nil =>
      simp only [cdsBrowseLoop, Except.ok.injEq, Prod.mk.injEq] at ran
      obtain ⟨rfl, rfl⟩ := ran
      exact ⟨[], by simp, by simp, by simp⟩
  | cons child rest ih =>
      unfold cdsBrowseLoop at ran
      by_cases wanted : count = 0 ∨ n < count
      · rw [if_pos wanted] at ran
        obtain ⟨between, shown, ran⟩ := Outcome.bind_ok.mp ran
        obtain ⟨listed, isListed, total, contents⟩ := ih (by omega) ran
        refine ⟨child :: listed, ?_, ?_, ?_⟩
        · rw [isListed]
          rcases Decidable.em (count = 0) with all | bounded
          · simp only [if_pos all]
          · have left : (count - n).toNat = (count - (n + 1)).toNat + 1 := by omega
            simp only [if_neg bounded, left, List.take_succ_cons]
        · rw [total]
          simp
          omega
        · rw [contents, cdsBrowseChild_contents shown]
          simp
      · rw [if_neg wanted] at ran
        obtain ⟨listed, isListed, total, contents⟩ := ih nonnegative ran
        -- the budget is used up: what remains of the list is skipped
        have spent : (count - n).toNat = 0 := by omega
        have bounded : count ≠ 0 := fun all => wanted (.inl all)
        rw [if_neg bounded, spent, List.take_zero] at isListed
        refine ⟨listed, ?_, total, contents⟩
        rw [isListed, if_neg bounded, spent, List.take_zero]

theorem cdsBrowseLoop_budgeted {count : Int} {items : List Ref} {total : Int} {out after : Buffer}
    (ran : cdsBrowseLoop d filter count items 0 out = .ok (total, after)) :
    total = (budgeted count items).length ∧
      after.contents = out.contents ++ (budgeted count items).flatMap (childText d filter) := by
  obtain ⟨listed, rfl, isTotal, contents⟩ := cdsBrowseLoop_ok le_rfl ran
  rw [Int.sub_zero] at isTotal contents
  rw [Int.zero_add] at isTotal
  exact ⟨isTotal, contents⟩

theorem didlAddHeader_contents {out after : Buffer} (added : didlAddHeader out = .ok after) :
    after.contents = out.contents ++ didlHeader := by
  obtain ⟨pieces, same, -, rfl⟩ := (didlAddHeader_prints out after).mp added
  obtain rfl := Option.some.inj same
  exact bufferAppend_contents out didlHeader

theorem didlAddFooter_buf {out after : Buffer} (added : didlAddFooter out = .ok after) :
    after.buf = some (out.contents ++ didlFooter) := by
  obtain ⟨pieces, same, -, rfl⟩ := (didlAddFooter_prints out after).mp added
  obtain rfl := Option.some.inj same
  exact bufferAppend_buf out didlFooter

def browseReply (d : Dlna) (filter : Text) (listed : List Ref) (total : Nat) (updateID : UInt32) :
    List (Text × Text) :=
  [(cdsDidlResult, didlHeader ++ listed.flatMap (childText d filter) ++ didlFooter),
    (cdsDidlNumReturned, decimal listed.length), (cdsDidlTotalMatch, decimal total),
    (cdsDidlUpdateId, decimal updateID.toNat)]

theorem cdsBrowseDirectchildren_ok {ev replied : ActionEvent} {out : Buffer} {index count : Int}
    {item : VfsItem} {box : Container} {resultCount : Int} (active : ev.status = true)
    (isContainer : item.body = .container box)
    (counted : box.childrenCount.toNat = box.children.length)
    (short : box.children.length < 2 ^ 31)
    (ran : cdsBrowseDirectchildren d ev bufferNew index count item filter =
      .ok (resultCount, out, replied)) :
    replied = { ev with
      response := ev.response ++ browseReply d filter
        (budgeted count (box.children.drop index.toNat)) box.children.length box.updateID } := by
  unfold cdsBrowseDirectchildren at ran
  simp only [isContainer] at ran
  obtain ⟨opened, header, ran⟩ := Outcome.bind_ok.mp ran
  obtain ⟨⟨total, filled⟩, listed, ran⟩ := Outcome.bind_ok.mp ran
  obtain ⟨closed, footer, ran⟩ := Outcome.bind_ok.mp ran
  obtain ⟨-, -, rfl⟩ : _ ∧ _ ∧ _ := by simpa only [Except.ok.injEq, Prod.mk.injEq] using ran
  have totalMatches : toInt32 (box.childrenCount.toNat : Int) = box.children.length := by
    rw [counted]
    exact toInt32_small (by omega) (by omega)
  -- the special case 0/0 lists what the count 0 lists anyway
  have same : budgeted (if index = 0 ∧ count = 0 then toInt32 box.childrenCount.toNat else count)
      (box.children.drop index.toNat) = budgeted count (box.children.drop index.toNat) := by
    by_cases both : index = 0 ∧ count = 0
    · obtain ⟨rfl, rfl⟩ := both
      rw [if_pos ⟨rfl, rfl⟩, totalMatches]
      simp [budgeted_length]
    · rw [if_neg both]
  obtain ⟨isTotal, contents⟩ := cdsBrowseLoop_budgeted listed
  rw [same] at isTotal contents
  rw [didlAddHeader_contents header, bufferNew_contents, List.nil_append] at contents
  rw [didlAddFooter_buf footer, contents, isTotal, totalMatches, decimalInt_natCast,
    decimalInt_natCast]
  simp [upnpAddResponse, active, browseReply]

section SignedWindow

variable {α : Type} {items : List α} {i n : Nat}

/-- A number from 2^31 on arrives as a negative `int`: as an index it skips nothing, as a count it
lists nothing. -/
def signedWindow (i n : Nat) (items : List α) : List α :=
  budgeted (toInt32 n) (items.drop (toInt32 i).toNat)

theorem signedWindow_small (index : i < 2 ^ 31) (count : n < 2 ^ 31) :
    signedWindow i n items = window i n items := by
  rw [signedWindow, toInt32_small (by omega) (by omega), toInt32_small (by omega) (by omega),
    Int.toNat_natCast, window_eq_budgeted]

theorem signedWindow_large_index (index : 2 ^ 31 ≤ i) (index_lt : i < 2 ^ 32) (count : n < 2 ^ 31) :
    signedWindow i n items = budgeted n items := by
  rw [signedWindow, toInt32_small (by omega) (by omega), toInt32_large (by omega) (by omega),
    Int.toNat_of_nonpos (by omega), List.drop_zero]

theorem signedWindow_large_count (count : 2 ^ 31 ≤ n) (count_lt : n < 2 ^ 32) :
    signedWindow i n items = [] := by
  rw [signedWindow, toInt32_large (by omega) (by omega)]
  exact budgeted_negative (by omega) _

theorem signedWindow_length_iff (short : items.length < 2 ^ 31) (index_lt : i < 2 ^ 32)
    (count_lt : n < 2 ^ 32) :
    (signedWindow i n items).length = (window i n items).length ↔
      (n < 2 ^ 31 → i < 2 ^ 31 ∨ items = []) ∧ (2 ^ 31 ≤ n → items.length ≤ i) := by
  rcases lt_or_ge n (2 ^ 31) with count | count
  · rcases lt_or_ge i (2 ^ 31) with index | index
    · rw [signedWindow_small index count]
      exact ⟨fun _ => ⟨fun _ => .inl index, by omega⟩, fun _ => rfl⟩
    · rw [signedWindow_large_index index index_lt count, window_large_index (by omega),
        List.length_nil, budgeted_length_eq_zero]
      constructor
      · intro empty
        exact ⟨fun _ => .inr empty, by omega⟩
      · intro allowed
        exact (allowed.1 count).resolve_left (by omega)
  · rw [signedWindow_large_count count count_lt, window_large_count (by omega)]
    simp only [List.length_nil, List.length_drop]
    omega

theorem signedWindow_eq (short : items.length < 2 ^ 31) (index_lt : i < 2 ^ 32)
    (count_lt : n < 2 ^ 32) (same : (signedWindow i n items).length = (window i n items).length) :
    signedWindow i n items = window i n items := by
  rcases lt_or_ge n (2 ^ 31) with count | count
  · rcases lt_or_ge i (2 ^ 31) with index | index
    · exact signedWindow_small index count
    -- the index has become negative, so that only an empty list is right
    · have empty : window i n items = [] := window_large_index (by omega)
      rw [empty, List.length_nil, List.length_eq_zero_iff] at same
      rw [same, empty]
  · have empty : signedWindow i n items = [] := signedWindow_large_count count count_lt
    rw [empty, List.length_nil, eq_comm, List.length_eq_zero_iff] at same
    rw [same, empty]

end SignedWindow

structure BrowseRequest (d : Dlna) (ev : ActionEvent) (r : Ref) (filter : Text) (i n : Nat) :
    Prop where
  active : ev.status = true
  fresh : ev.response = []
  flag : ev.argText cdsArgBrowseFlag = some "BrowseDirectChildren".toList
  filter : ev.argText cdsArgFilter = some filter
  target : cdsFindItem d (toUInt32 (ev.argUi4 cdsArgObjectId)) = some r
  index : ev.argText cdsArgStartIndex = some (decimal i)
  count : ev.argText cdsArgRequestCount = some (decimal n)
  index_lt : i < 2 ^ 32
  count_lt : n < 2 ^ 32

structure ChildList (d : Dlna) (r : Ref) (box : Container) : Prop where
  container : d.containerOf r = some box
  counted : box.childrenCount.toNat = box.children.length
  short : box.children.length < 2 ^ 31

structure BrowseExact (d : Dlna) (filter : Text) (i n : Nat) (box : Container)
    (after : ActionEvent) : Prop where
  result : after.reply cdsDidlResult =
    some (didlHeader ++ (window i n box.children).flatMap (childText d filter) ++ didlFooter)
  numberReturned : after.reply cdsDidlNumReturned = some (decimal (window i n box.children).length)
  totalMatches : after.reply cdsDidlTotalMatch = some (decimal box.children.length)

theorem containerOf_readItem {r : Ref} {box : Container} {item : VfsItem}
    (container : d.containerOf r = some box) (read : d.readItem r = .ok item) :
    item.body = .container box := by
  rw [Dlna.containerOf, (Dlna.readItem_ok read).1, Option.bind_some] at container
  cases body : item.body with
  | resource content cnv => simp [body, VfsBody.box?] at container
  | container held => simpa [body, VfsBody.box?] using container

theorem argUi4_decimal {ev : ActionEvent} {key : Text} {n : Nat}
    (sent : ev.argText key = some (decimal n)) (bounded : n < 2 ^ 32) :
    toInt32 (toUInt32 (ev.argUi4 key)).toNat = toInt32 n := by
  have value : ev.argUi4 key = atoi (decimal n) := by simp only [argUi4, sent]
  rw [toInt32_toUInt32, value, atoi_decimal (by omega), toInt32_idem]

theorem argUi4_zero {ev : ActionEvent} {key : Text} (sent : ev.argText key = some "0".toList) :
    toUInt32 (ev.argUi4 key) = 0 := by
  have value : ev.argUi4 key = atoi "0".toList := by simp only [argUi4, sent]
  rw [value]
  decide +kernel

section Requests

variable {ev after : ActionEvent} {r : Ref} {i n : Nat} {box : Container}

theorem cdsBrowse_reply (request : BrowseRequest d ev r filter i n) (children : ChildList d r box)
    (answered : cdsBrowse d ev = .ok (true, after)) :
    after.response = browseReply d filter
      (signedWindow i n box.children) box.children.length
      box.updateID := by
  obtain ⟨args, filter', r', item, log, resultCount, out, replied, log', reads, isFilter, target,
    found, listed, rfl⟩ := cdsBrowse_children_ok request.flag answered
  have sameFilter : filter = filter' := Option.some.inj (request.filter.symm.trans isFilter)
  have sameTarget : r = r' := by
    rw [reads.id, request.target] at target
    exact Option.some.inj target
  subst sameFilter sameTarget
  rw [reads.index, reads.count, argUi4_decimal request.index request.index_lt,
    argUi4_decimal request.count request.count_lt] at listed
  have active : ({ ev with log := log } : ActionEvent).status = true := request.active
  have isReplied := cdsBrowseDirectchildren_ok active
    (containerOf_readItem children.container found) children.counted children.short listed
  simp [isReplied, request.fresh, signedWindow]

theorem reply_of_browseReply {listed : List Ref} {total : Nat} {updateID : UInt32}
    (response : after.response = browseReply d filter listed total updateID) :
    after.reply cdsDidlResult =
        some (didlHeader ++ listed.flatMap (childText d filter) ++ didlFooter) ∧
      after.reply cdsDidlNumReturned = some (decimal listed.length) ∧
      after.reply cdsDidlTotalMatch = some (decimal total) := by
  have numReturned : cdsDidlResult ≠ cdsDidlNumReturned := by decide
  have totalMatch : cdsDidlResult ≠ cdsDidlTotalMatch := by decide
  have counts : cdsDidlNumReturned ≠ cdsDidlTotalMatch := by decide
  refine ⟨?_, ?_, ?_⟩ <;>
    simp [ActionEvent.reply, response, browseReply, numReturned, totalMatch, counts]

theorem cdsBrowse_exact (request : BrowseRequest d ev r filter i n) (children : ChildList d r box)
    (answered : cdsBrowse d ev = .ok (true, after))
    (same : signedWindow i n box.children = window i n box.children) :
    BrowseExact d filter i n box after := by
  obtain ⟨result, numberReturned, totalMatches⟩ :=
    reply_of_browseReply (cdsBrowse_reply request children answered)
  rw [same] at result numberReturned
  exact ⟨result, numberReturned, totalMatches⟩

theorem browse_exact_iff (request : BrowseRequest d ev r filter i n) (children : ChildList d r box)
    (answered : cdsBrowse d ev = .ok (true, after)) :
    BrowseExact d filter i n box after ↔
      (n < 2 ^ 31 → i < 2 ^ 31 ∨ box.children = []) ∧ (2 ^ 31 ≤ n → box.children.length ≤ i) := by
  rw [← signedWindow_length_iff children.short request.index_lt request.count_lt]
  constructor
  · intro exactly
    obtain ⟨-, numberReturned, -⟩ :=
      reply_of_browseReply (cdsBrowse_reply request children answered)
    exact decimal_injective (Option.some.inj (numberReturned.symm.trans exactly.numberReturned))
  · intro same
    exact cdsBrowse_exact request children answered
      (signedWindow_eq children.short request.index_lt request.count_lt same)

end Requests

def pageRequest (i n : Nat) : ActionEvent where
  status := true
  args :=
    [(cdsArgObjectId, some "0".toList), (cdsArgBrowseFlag, some "BrowseDirectChildren".toList),
      (cdsArgFilter, some "*".toList), (cdsArgStartIndex, some (decimal i)),
      (cdsArgRequestCount, some (decimal n)), (cdsArgSortCrit, none)]
  errCode := 0
  response := []
  log := []

theorem pageRequest_browseRequest {i n : Nat} (index_lt : i < 2 ^ 32) (count_lt : n < 2 ^ 32) :
    BrowseRequest oneContainer (pageRequest i n) 0 "*".toList i n where
  active := rfl
  fresh := rfl
  flag := rfl
  filter := rfl
  target := by
    rw [argUi4_zero rfl]
    decide +kernel
  index := rfl
  count := rfl
  index_lt := index_lt
  count_lt := count_lt

theorem oneContainer_childList : ChildList oneContainer 0 ⟨[1], 1, 1⟩ where
  container := rfl
  counted := rfl
  short := by decide

theorem browse_inexact_from_2147483648 :
    ∃ after, BrowseRequest oneContainer (pageRequest (2 ^ 31) 1) 0 "*".toList (2 ^ 31) 1 ∧
      ChildList oneContainer 0 ⟨[1], 1, 1⟩ ∧
      cdsBrowse oneContainer (pageRequest (2 ^ 31) 1) = .ok (true, after) ∧
      ¬ BrowseExact oneContainer "*".toList (2 ^ 31) 1 ⟨[1], 1, 1⟩ after := by
  have listsOne : (cdsBrowse oneContainer (pageRequest (2 ^ 31) 1)).map
      (fun reply => (reply.1, reply.2.reply cdsDidlNumReturned)) =
        .ok (true, some "1".toList) := by decide +kernel
  obtain ⟨⟨status, after⟩, answered, same⟩ := Outcome.map_ok.mp listsOne
  obtain ⟨rfl, one⟩ := Prod.mk.inj same
  refine ⟨after, pageRequest_browseRequest (by decide) (by decide), oneContainer_childList,
    answered, fun exactly => ?_⟩
  have none := exactly.numberReturned
  rw [show after.reply cdsDidlNumReturned = _ from one,
    window_large_index (show [1].length ≤ 2 ^ 31 by decide)] at none
  exact absurd none (by decide)

theorem browse_exact_iff_applies :
    ∃ after, cdsBrowse oneContainer (pageRequest 0 0) = .ok (true, after) ∧
      BrowseExact oneContainer "*".toList 0 0 ⟨[1], 1, 1⟩ after := by
  have succeeds : (cdsBrowse oneContainer (pageRequest 0 0)).map Prod.fst = .ok true := by
    decide +kernel
  obtain ⟨⟨status, after⟩, answered, same⟩ := Outcome.map_ok.mp succeeds
  obtain rfl : status = true := same
  exact ⟨after, answered, (browse_exact_iff (pageRequest_browseRequest (by decide) (by decide))
    oneContainer_childList answered).mpr ⟨fun _ => .inl (by decide), fun many => by omega⟩⟩

end Libdlna
