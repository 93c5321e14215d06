import Libdlna.Cds.Search
import Libdlna.Vfs.Reachable

set_option autoImplicit false

/-!
# The tree that clients see

Additions keep every registered item readable, so that what they build can be browsed and searched.
-/

namespace Libdlna

open CString Dlna Runs Windows

variable {d after : Dlna} {item : VfsItem} {parent : Ref}

structure ServedTree (d : Dlna) : Prop extends VfsTree d where
  live : Live d

theorem ServedTree.step (served : ServedTree d) {call : Call} (taken : AdditionStep d call after)
    (sound : ¬ AdoptsItself d call) : ServedTree after := by
  refine ⟨served.toVfsTree.step taken sound, ?_⟩
  rcases additionStep_outcome served.allocated served.nonempty taken sound with
    ⟨item, parent, fresh, -, -, placed⟩ | rejected | ⟨mode, rfl⟩
  · exact served.live.placed served.allocated placed fresh
  · exact served.live.rejected served.allocated rejected
  · exact served.live

theorem dlnaStart_servedTree (getMediaProfile : Text → Option DlnaProfile) (db : Option Store) :
    ServedTree (dlnaStart getMediaProfile db) :=
  ⟨dlnaStart_vfsTree getMediaProfile db, (dlnaStart_vfsTable getMediaProfile db).live⟩

theorem servedTree_throughout (getMediaProfile : Text → Option DlnaProfile) (db : Option Store)
    {calls : List Call} (sound : Along AdditionStep (fun d call _ => ¬ AdoptsItself d call)
      (dlnaStart getMediaProfile db) calls) :
    Throughout AdditionStep ServedTree (dlnaStart getMediaProfile db) calls :=
  throughout_of_step (fun _ _ _ served allowed taken => served.step taken allowed)
    (dlnaStart_servedTree getMediaProfile db) sound

namespace ServedTree

variable (served : ServedTree d) {r : Ref} {box : Container}
include served

theorem childList (member : r ∈ d.registered) (isContainer : d.containerOf r = some box) :
    ChildList d r box where
  container := isContainer
  counted := (served.lists r member box isContainer).counted
  short := (served.lists r member box isContainer).bounded

theorem child_younger (member : r ∈ d.registered) (isContainer : d.containerOf r = some box)
    {c : Ref} (listed : c ∈ box.children) : r < c := by
  obtain ⟨registered, notRoot, isParent⟩ := (served.lists r member box isContainer).children c listed
  obtain ⟨p, -, isParent', -, younger, -⟩ := served.parents c registered notRoot
  rw [isParent] at isParent'
  obtain rfl := Option.some.inj isParent'
  exact younger

/-- Children are younger than their parents, so that every list of items spans a finite forest. -/
theorem exists_forest (n : Nat) (items : List Ref)
    (each : ∀ c ∈ items, c ∈ d.registered ∧ d.heap.length ≤ c + n) :
    ∃ below : Forest Ref, below.roots = items ∧ Represents d below := by
  induction n generalizing items with
  | zero =>
      cases items with
      | nil => exact ⟨.nil, rfl, trivial⟩
      | cons c rest =>
          obtain ⟨registered, beyond⟩ := each c List.mem_cons_self
          exact absurd (served.allocated.registered c registered) (Nat.not_lt.mpr beyond)
  | succ n ihHeight =>
      induction items with
      | nil => exact ⟨.nil, rfl, trivial⟩
      | cons c rest ihRest =>
          obtain ⟨later, roots, represents⟩ :=
            ihRest fun q inRest => each q (List.mem_cons_of_mem _ inRest)
          obtain ⟨registered, bounded⟩ := each c List.mem_cons_self
          obtain ⟨item, found, isLive⟩ := served.live c registered
          have read : d.readItem c = .ok item := by simp [Dlna.readItem, found, isLive]
          cases body : item.body with
          | resource content cnv =>
              exact ⟨.leaf c later, congrArg _ roots, ⟨item, content, cnv, read, body⟩, represents⟩
          | container box =>
              have isContainer : d.containerOf c = some box :=
                IsContainer.containerOf ⟨found, isLive, body⟩
              obtain ⟨children, rootsBelow, representsBelow⟩ := ihHeight box.children
                fun q listed =>
                  ⟨((served.lists c registered box isContainer).children q listed).1,
                    calc d.heap.length ≤ c + (n + 1) := bounded
                      _ = Nat.succ c + n := (Nat.succ_add_eq_add_succ c n).symm
                      _ ≤ q + n := Nat.add_le_add_right
                        (served.child_younger registered isContainer listed) n⟩
              exact ⟨.node c children later, congrArg _ roots,
                ⟨item, box, read, body, rootsBelow.symm⟩, representsBelow, represents⟩

theorem exists_searchedTree (member : r ∈ d.registered)
    (isContainer : d.containerOf r = some box) : ∃ below, SearchedTree d r box below := by
  have lists := served.lists r member box isContainer
  obtain ⟨below, roots, represents⟩ := served.exists_forest d.heap.length box.children
    fun c listed => ⟨(lists.children c listed).1, Nat.le_add_left _ _⟩
  exact ⟨below, isContainer, lists.counted, roots.symm, represents⟩

end ServedTree

theorem cdsFindItem_registered {id : UInt32} {r : Ref} (found : cdsFindItem d id = some r) :
    r ∈ d.registered := by
  unfold cdsFindItem at found
  cases lookup : vfsGetItemById d id with
  | none => exact vfsGetItemById_mem (by simpa only [lookup] using found)
  | some target =>
      obtain rfl : target = r := by simpa only [lookup, Option.some.injEq] using found
      exact vfsGetItemById_mem lookup

def PagesExact (d : Dlna) : Prop :=
  ∀ ev after r filter i n box, BrowseRequest d ev r filter i n → d.containerOf r = some box →
    i < 2 ^ 31 → n < 2 ^ 31 → cdsBrowse d ev = .ok (true, after) →
      BrowseExact d filter i n box after

/-- Below every container there is a finite tree, and a Search from the start that lists fewer
resources than it may list is exact. -/
def SearchesExact (d : Dlna) : Prop :=
  ∀ r ∈ d.registered, ∀ box, d.containerOf r = some box → ∃ below, SearchedTree d r box below ∧
    ∀ stack fuel ev after filter criteria n, SearchRequest d ev r filter criteria 0 n →
      cdsSearch d stack fuel ev = .ok (true, after) →
      (searchMatches d stack criteria below).length ≤ searchBudget n box →
        SearchExact d filter 0 n (searchMatches d stack criteria below) after

theorem ServedTree.pagesExact (served : ServedTree d) : PagesExact d := by
  intro ev after r filter i n box request isContainer index count answered
  have member := cdsFindItem_registered request.target
  exact cdsBrowse_exact request (served.childList member isContainer) answered
    (signedWindow_small index count)

theorem ServedTree.searchesExact (served : ServedTree d) : SearchesExact d := by
  intro r member box isContainer
  obtain ⟨below, tree⟩ := served.exists_searchedTree member isContainer
  refine ⟨below, tree, ?_⟩
  intro stack fuel ev after filter criteria n request answered within
  exact cdsSearch_exact request tree answered within (.inl rfl)

theorem clients_throughout (getMediaProfile : Text → Option DlnaProfile) (db : Option Store)
    {calls : List Call} (sound : Along AdditionStep (fun d call _ => ¬ AdoptsItself d call)
      (dlnaStart getMediaProfile db) calls) :
    Throughout AdditionStep (fun d => PagesExact d ∧ SearchesExact d)
      (dlnaStart getMediaProfile db) calls :=
  (servedTree_throughout getMediaProfile db sound).mono fun _ served =>
    ⟨served.pagesExact, served.searchesExact⟩

end Libdlna
