import Libdlna.Cds.Budget

set_option autoImplicit false

/-!
# Searching the resources below a container
-/

namespace Libdlna

open CString ActionEvent Windows

variable {d : Dlna} {stack : VfsItem → Text → Text} {filter criteria : Text}

def searchAccepts (d : Dlna) (stack : VfsItem → Text → Text) (criteria : Text) (r : Ref) : Bool :=
  match d.readItem r with
  | .error _ => false
  | .ok item =>
      match cdsSearchMatch d (stack item) item (searchMatchFuel criteria) criteria with
      | .error _ => false
      | .ok accepted => accepted

def searchMatches (d : Dlna) (stack : VfsItem → Text → Text) (criteria : Text)
    (below : Forest Ref) : List Ref :=
  below.leaves.filter (searchAccepts d stack criteria)

structure Listed (d : Dlna) (filter : Text) (before : Int × Buffer) (listed : List Ref)
    (after : Int × Buffer) : Prop where
  count : after.1 = before.1 + listed.length
  contents : after.2.contents = before.2.contents ++ listed.flatMap (childText d filter)

theorem Listed.nothing (found : Int × Buffer) : Listed d filter found [] found :=
  ⟨by simp, by simp⟩

theorem Listed.append {before between after : Int × Buffer} {first second : List Ref}
    (one : Listed d filter before first between) (two : Listed d filter between second after) :
    Listed d filter before (first ++ second) after where
  count := by
    rw [two.count, one.count, List.length_append]
    omega
  contents := by
    rw [two.contents, one.contents, List.flatMap_append, List.append_assoc]

theorem acceptsMatch_ok {r : Ref} {accepted : Bool}
    (matched : acceptsMatch d stack criteria r = .ok accepted) :
    searchAccepts d stack criteria r = accepted := by
  obtain ⟨item, read, matched⟩ := Outcome.bind_ok.mp matched
  simp [searchAccepts, read, matched]

theorem emitItem_contents {r : Ref} (resource : ShowsResource d r) {out shown : Buffer}
    (emitted : emitItem d filter out r = .ok shown) :
    shown.contents = out.contents ++ childText d filter r := by
  obtain ⟨item, content, cnv, read, isResource⟩ := resource
  refine cdsBrowseChild_contents ?_
  simpa [emitItem, cdsBrowseChild, read, Bind.bind, Except.bind, isResource] using emitted

theorem foldlM_searchLeaf_listed {count : Int} {leaves : List Ref}
    (resources : ∀ r ∈ leaves, ShowsResource d r) {before after : Int × Buffer}
    (ran : leaves.foldlM
      (searchLeaf (acceptsMatch d stack criteria) (emitItem d filter) count) before = .ok after) :
    Listed d filter before
      (withinBudget count before.1 (leaves.filter (searchAccepts d stack criteria))) after := by
  induction leaves generalizing before with
  | nil =>
      obtain rfl := Except.ok.inj ran
      simpa [withinBudget] using Listed.nothing before
  | cons r leaves ih =>
      obtain ⟨resource, others⟩ := List.forall_mem_cons.mp resources
      by_cases wanted : count = 0 ∨ before.1 < count
      · rw [List.foldlM_cons] at ran
        obtain ⟨between, first, ran⟩ := Outcome.bind_ok.mp ran
        rw [searchLeaf, if_pos wanted] at first
        obtain ⟨accepted, matched, first⟩ := Outcome.bind_ok.mp first
        have accepts := acceptsMatch_ok matched
        cases accepted with
        | false =>
            obtain rfl := Except.ok.inj first
            rw [List.filter_cons_of_neg (by simp [accepts])]
            exact ih others ran
        | true =>
            obtain ⟨shown, emitted, first⟩ := Outcome.bind_ok.mp first
            obtain rfl := Except.ok.inj first
            rw [List.filter_cons_of_pos accepts, withinBudget_cons wanted]
            have one : Listed d filter before [r] (before.1 + 1, shown) :=
              ⟨rfl, by simpa using emitItem_contents resource emitted⟩
            exact one.append (ih others ran)
      · rw [foldlM_searchLeaf_spent wanted] at ran
        obtain rfl := Except.ok.inj ran
        rw [withinBudget_spent wanted]
        exact Listed.nothing before

theorem cdsSearchRecursive_listed {r : Ref} {below : Forest Ref}
    (container : ListsChildren d r below.roots) (represents : Represents d below) {fuel : Nat}
    {count : Int} {out : Buffer} {after : Int × Buffer}
    (ran : cdsSearchRecursive d stack filter criteria fuel r count out = .ok after) :
    Listed d filter (0, out) (withinBudget count 0 (searchMatches d stack criteria below))
      after := by
  rw [cdsSearchRecursive_eq] at ran
  -- more fuel does not change the result
  have more := searchRecursive_mono (Nat.le_max_left fuel (below.height + 1)) ran
  have enough : below.height < max fuel (below.height + 1) := Nat.le_max_right ..
  rw [searchRecursive_flat container represents enough] at more
  exact foldlM_searchLeaf_listed (Forest.All.leaves represents) more

structure SearchedTree (d : Dlna) (r : Ref) (box : Container) (below : Forest Ref) : Prop where
  container : d.containerOf r = some box
  counted : box.childrenCount.toNat = box.children.length
  children : box.children = below.roots
  represents : Represents d below

/-- How many resources a Search for `n` may list: the count 0 is taken for that of the direct
children. -/
def searchBudget (n : Nat) (box : Container) : Nat :=
  if n = 0 then (toInt32 box.childrenCount.toNat).toNat else n

def searchReply (d : Dlna) (filter : Text) (listed : List Ref) : List (Text × Text) :=
  browseReply d filter listed listed.length 0

section Requests

variable {r : Ref} {box : Container} {below : Forest Ref} {fuel i n : Nat} {ev after : ActionEvent}

theorem withinBudget_searchBudget (tree : SearchedTree d r box below) (small : n < 2 ^ 31) :
    withinBudget (if toInt32 n = 0 then toInt32 box.childrenCount.toNat else toInt32 n) 0
        (searchMatches d stack criteria below) =
      (searchMatches d stack criteria below).take (searchBudget n box) := by
  rw [toInt32_small (by omega) (by omega)]
  unfold withinBudget searchBudget
  by_cases everything : n = 0
  · subst everything
    simp only [Nat.cast_zero, if_true, Int.sub_zero]
    by_cases childless : toInt32 box.childrenCount.toNat = 0
    · -- without children there is nothing to list
      have bounded := box.childrenCount.toNat_lt
      have none : box.childrenCount.toNat = 0 := by
        unfold toInt32 at childless
        omega
      rw [tree.counted, List.length_eq_zero_iff, tree.children] at none
      simp [searchMatches, Forest.leaves_of_roots_nil none]
    · rw [if_neg childless]
  · simp [everything]

theorem cdsSearchDirectchildren_ok {item : VfsItem} {resultCount : Int} {out : Buffer}
    {replied : ActionEvent} (tree : SearchedTree d r box below) (read : d.readItem r = .ok item)
    (active : ev.status = true) (small : n < 2 ^ 31)
    (ran : cdsSearchDirectchildren d stack fuel ev item r bufferNew (toInt32 n) filter criteria =
      .ok (resultCount, out, replied)) :
    (upnpAddResponse replied cdsDidlUpdateId (some "0".toList)).response =
      ev.response ++ searchReply d filter
        ((searchMatches d stack criteria below).take (searchBudget n box)) := by
  have isContainer := containerOf_readItem tree.container read
  unfold cdsSearchDirectchildren at ran
  simp only [isContainer] at ran
  obtain ⟨opened, header, ran⟩ := Outcome.bind_ok.mp ran
  obtain ⟨⟨total, filled⟩, listed, ran⟩ := Outcome.bind_ok.mp ran
  obtain ⟨closed, footer, ran⟩ := Outcome.bind_ok.mp ran
  obtain ⟨-, -, rfl⟩ : _ ∧ _ ∧ _ := by simpa only [Except.ok.injEq, Prod.mk.injEq] using ran
  have container : ListsChildren d r below.roots :=
    ⟨item, box, read, isContainer, tree.children⟩
  obtain ⟨isTotal, contents⟩ := cdsSearchRecursive_listed container tree.represents listed
  dsimp only at isTotal contents
  rw [withinBudget_searchBudget tree small] at isTotal contents
  rw [didlAddHeader_contents header, bufferNew_contents, List.nil_append] at contents
  rw [didlAddFooter_buf footer, contents, isTotal, Int.zero_add, decimalInt_natCast]
  have updateId : decimal 0 = ['0'] := by decide
  simp [upnpAddResponse, active, searchReply, browseReply, updateId]

structure SearchRequest (d : Dlna) (ev : ActionEvent) (r : Ref) (filter criteria : Text)
    (i n : Nat) : Prop where
  active : ev.status = true
  fresh : ev.response = []
  criteria : ev.argText cdsArgSearchCrit = some criteria
  filter : ev.argText cdsArgFilter = some filter
  target : cdsFindItem d (toUInt32 (ev.argUi4 cdsArgObjectId)) = some r
  index : ev.argText cdsArgStartIndex = some (decimal i)
  count : ev.argText cdsArgRequestCount = some (decimal n)
  index_lt : i < 2 ^ 31
  count_lt : n < 2 ^ 31

structure SearchExact (d : Dlna) (filter : Text) (i n : Nat) (matching : List Ref)
    (after : ActionEvent) : Prop where
  result : after.reply cdsDidlResult =
    some (didlHeader ++ (window i n matching).flatMap (childText d filter) ++ didlFooter)
  numberReturned : after.reply cdsDidlNumReturned = some (decimal (window i n matching).length)
  totalMatches : after.reply cdsDidlTotalMatch = some (decimal matching.length)

theorem cdsSearch_reply (request : SearchRequest d ev r filter criteria i n)
    (tree : SearchedTree d r box below) (answered : cdsSearch d stack fuel ev = .ok (true, after)) :
    after.response = searchReply d filter
      ((searchMatches d stack criteria below).take (searchBudget n box)) := by
  obtain ⟨args, criteria', filter', r', item, log, resultCount, out, replied, reads, isCriteria,
    isFilter, target, found, listed, -, -, response⟩ := cdsSearch_ok answered
  have sameCriteria := Option.some.inj (request.criteria.symm.trans isCriteria)
  have sameFilter := Option.some.inj (request.filter.symm.trans isFilter)
  have sameTarget : r = r' := by
    rw [reads.id, request.target] at target
    exact Option.some.inj target
  subst sameCriteria sameFilter sameTarget
  have below32 : n < 2 ^ 32 := request.count_lt.trans (by decide)
  rw [reads.count, argUi4_decimal request.count below32] at listed
  have active : ({ ev with log := log } : ActionEvent).status = true := request.active
  rw [response, cdsSearchDirectchildren_ok tree found active request.count_lt listed]
  simp [request.fresh]

/-- All matches are listed when they stay within the budget, and so they are in the window. -/
theorem cdsSearch_exact (request : SearchRequest d ev r filter criteria i n)
    (tree : SearchedTree d r box below) (answered : cdsSearch d stack fuel ev = .ok (true, after))
    (within : (searchMatches d stack criteria below).length ≤ searchBudget n box)
    (first : i = 0 ∨ searchMatches d stack criteria below = []) :
    SearchExact d filter i n (searchMatches d stack criteria below) after := by
  obtain ⟨result, numberReturned, totalMatches⟩ :=
    reply_of_browseReply (cdsSearch_reply request tree answered)
  rw [List.take_of_length_le within] at result numberReturned totalMatches
  generalize searchMatches d stack criteria below = matching at *
  have same : window i n matching = matching := by
    rcases first with rfl | rfl
    · refine window_whole (or_iff_not_imp_left.mpr fun bounded => ?_)
      rwa [searchBudget, if_neg bounded] at within
    · exact window_nil i n
  exact ⟨by rw [same, result], by rw [same, numberReturned], totalMatches⟩

theorem search_exact_iff (request : SearchRequest d ev r filter criteria i n)
    (tree : SearchedTree d r box below) (answered : cdsSearch d stack fuel ev = .ok (true, after)) :
    SearchExact d filter i n (searchMatches d stack criteria below) after ↔
      (searchMatches d stack criteria below).length ≤ searchBudget n box ∧
        (i = 0 ∨ searchMatches d stack criteria below = []) := by
  constructor
  · intro exactly
    obtain ⟨-, numberReturned, totalMatches⟩ :=
      reply_of_browseReply (cdsSearch_reply request tree answered)
    generalize searchMatches d stack criteria below = matching at *
    have total := decimal_injective
      (Option.some.inj (totalMatches.symm.trans exactly.totalMatches))
    have number := decimal_injective
      (Option.some.inj (numberReturned.symm.trans exactly.numberReturned))
    rw [List.length_take] at total number
    have within : matching.length ≤ searchBudget n box := by omega
    refine ⟨within, ?_⟩
    have shorter := window_length_le i n matching
    rw [← List.length_eq_zero_iff]
    omega
  · rintro ⟨within, first⟩
    exact cdsSearch_exact request tree answered within first

end Requests

theorem nestedFiles_tree : SearchedTree nestedFiles 0 ⟨[1], 1, 3⟩ nestedForest where
  container := rfl
  counted := rfl
  children := rfl
  represents := nestedFiles_represents

def searchRequest (i n : Nat) : ActionEvent where
  status := true
  args :=
    [(cdsArgObjectId, some "0".toList), (cdsArgSearchCrit, some "*".toList),
      (cdsArgFilter, some "*".toList), (cdsArgStartIndex, some (decimal i)),
      (cdsArgRequestCount, some (decimal n)), (cdsArgSortCrit, none)]
  errCode := 0
  response := []
  log := []

theorem searchRequest_request {i n : Nat} (index_lt : i < 2 ^ 31) (count_lt : n < 2 ^ 31) :
    SearchRequest nestedFiles (searchRequest i n) 0 "*".toList "*".toList i n where
  active := rfl
  fresh := rfl
  criteria := rfl
  filter := rfl
  target := by
    rw [argUi4_zero rfl]
    decide +kernel
  index := rfl
  count := rfl
  index_lt := index_lt
  count_lt := count_lt

theorem nestedFiles_matches :
    searchMatches nestedFiles (fun _ text => text) "*".toList nestedForest = [2, 3] := by
  decide +kernel

theorem search_for_all_misses_nested :
    ∃ after, SearchRequest nestedFiles (searchRequest 0 0) 0 "*".toList "*".toList 0 0 ∧
      SearchedTree nestedFiles 0 ⟨[1], 1, 3⟩ nestedForest ∧
      cdsSearch nestedFiles (fun _ text => text) 5 (searchRequest 0 0) = .ok (true, after) ∧
      ¬ SearchExact nestedFiles "*".toList 0 0
        (searchMatches nestedFiles (fun _ text => text) "*".toList nestedForest) after := by
  have listsOne : (cdsSearch nestedFiles (fun _ text => text) 5 (searchRequest 0 0)).map
      (fun reply => (reply.1, reply.2.reply cdsDidlTotalMatch)) =
        .ok (true, some "1".toList) := by decide +kernel
  obtain ⟨⟨status, after⟩, answered, same⟩ := Outcome.map_ok.mp listsOne
  obtain ⟨rfl, one⟩ := Prod.mk.inj same
  refine ⟨after, searchRequest_request (by decide) (by decide), nestedFiles_tree, answered,
    fun exactly => ?_⟩
  have two := exactly.totalMatches
  rw [show after.reply cdsDidlTotalMatch = _ from one, nestedFiles_matches] at two
  exact absurd two (by decide)

theorem search_exact_iff_applies :
    ∃ after, cdsSearch nestedFiles (fun _ text => text) 5 (searchRequest 0 2) =
        .ok (true, after) ∧
      SearchExact nestedFiles "*".toList 0 2
        (searchMatches nestedFiles (fun _ text => text) "*".toList nestedForest) after := by
  have succeeds : (cdsSearch nestedFiles (fun _ text => text) 5 (searchRequest 0 2)).map
      Prod.fst = .ok true := by decide +kernel
  obtain ⟨⟨status, after⟩, answered, same⟩ := Outcome.map_ok.mp succeeds
  obtain rfl : status = true := same
  refine ⟨after, answered,
    (search_exact_iff (searchRequest_request (by decide) (by decide)) nestedFiles_tree
      answered).mpr ⟨?_, .inl rfl⟩⟩
  rw [nestedFiles_matches]
  decide

end Libdlna
