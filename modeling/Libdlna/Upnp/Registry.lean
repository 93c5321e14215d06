import Libdlna.Model.ActionRequests
import Libdlna.Model.ServiceRegistry

set_option autoImplicit false

/-!
# The table of services

Services are looked up by their ids and URLs, but deleted by their `typeid`, which no descriptor of
the library sets. A service is deleted when no later one shares that key with it.
-/

namespace Libdlna

open CString

variable {C : Type} {before later services : List (DlnaDescriptor C)} {s t : DlnaDescriptor C}

structure Distinguished (services : List (DlnaDescriptor C)) : Prop where
  named : ∀ s ∈ services, s.id.isSome ∧ s.scpdUrl.isSome
  ids : (services.map fun s => s.id).Nodup
  urls : (services.map fun s => s.scpdUrl).Nodup

def registeredServices (services : List (DlnaDescriptor C)) : List (DlnaServiceEntry C) :=
  services.foldl dlnaServiceRegister []

def LookedUpIn (table : List (DlnaServiceEntry C)) (s : DlnaDescriptor C) : Prop :=
  (∃ id, s.id = some id ∧
      dlnaServiceFind (table.map DlnaServiceEntry.service) id = some s.toDlnaService) ∧
    ∃ url, s.scpdUrl = some url ∧
      dlnaServiceFindUrl (table.map DlnaServiceEntry.service) (some url) = .ok (some s.toDlnaService)

def GoneFrom (table : List (DlnaServiceEntry C)) (s : DlnaDescriptor C) : Prop :=
  (∃ id, s.id = some id ∧ dlnaServiceFind (table.map DlnaServiceEntry.service) id = none) ∧
    ∃ url, s.scpdUrl = some url ∧
      dlnaServiceFindUrl (table.map DlnaServiceEntry.service) (some url) = .ok none

/-- To unregister the service removes it and nothing else. -/
def UnregistersExactly (services : List (DlnaDescriptor C)) (s : DlnaDescriptor C) : Prop :=
  GoneFrom (dlnaServiceUnregister (registeredServices services) s) s ∧
    ∀ t ∈ services, t.id ≠ s.id →
      LookedUpIn (dlnaServiceUnregister (registeredServices services) s) t

def tableOf (services : List (DlnaDescriptor C)) : List (DlnaServiceEntry C) :=
  services.map fun s => ⟨s.typeid, s.toDlnaService⟩

theorem registeredServices_eq (services : List (DlnaDescriptor C)) :
    registeredServices services = tableOf services := by
  have appended (table : List (DlnaServiceEntry C)) :
      services.foldl dlnaServiceRegister table = table ++ tableOf services := by
    induction services generalizing table with
    | nil => simp [tableOf]
    | cons s rest ih =>
        rw [List.foldl_cons, ih, dlnaServiceRegister]
        simp [tableOf]
  exact appended []

theorem tableOf_services (services : List (DlnaDescriptor C)) :
    (tableOf services).map DlnaServiceEntry.service =
      services.map DlnaDescriptor.toDlnaService := by
  rw [tableOf, List.map_map]
  rfl

theorem dlnaServiceUnregister_tableOf (services : List (DlnaDescriptor C)) (s : DlnaDescriptor C) :
    dlnaServiceUnregister (tableOf services) s =
      tableOf (KeyedTable.remove (fun s => s.typeid) services s.typeid) := by
  unfold dlnaServiceUnregister tableOf
  exact KeyedTable.remove_map _ _ services s.typeid

theorem lookedUpIn_of_mem (distinguished : Distinguished services) (member : s ∈ services) :
    LookedUpIn (tableOf services) s := by
  obtain ⟨hasId, hasUrl⟩ := distinguished.named s member
  obtain ⟨id, isId⟩ := Option.isSome_iff_exists.mp hasId
  obtain ⟨url, isUrl⟩ := Option.isSome_iff_exists.mp hasUrl
  have copied : s.toDlnaService ∈ services.map DlnaDescriptor.toDlnaService :=
    List.mem_map_of_mem member
  have ids : ((services.map DlnaDescriptor.toDlnaService).map DlnaService.id).Nodup := by
    rw [List.map_map]
    exact distinguished.ids
  have urls : ((services.map DlnaDescriptor.toDlnaService).map DlnaService.scpdUrl).Nodup := by
    rw [List.map_map]
    exact distinguished.urls
  have byId := KeyedTable.find?_self ids copied
  have byUrl := KeyedTable.find?_self urls copied
  rw [isId] at byId
  rw [isUrl] at byUrl
  constructor
  · exact ⟨id, isId, by rw [tableOf_services, dlnaServiceFind, byId]⟩
  · exact ⟨url, isUrl, by rw [tableOf_services, dlnaServiceFindUrl, byUrl]⟩

theorem goneFrom_iff (hasId : s.id.isSome) (hasUrl : s.scpdUrl.isSome) :
    GoneFrom (tableOf services) s ↔
      ∀ t ∈ services, t.id ≠ s.id ∧ t.scpdUrl ≠ s.scpdUrl := by
  obtain ⟨id, isId⟩ := Option.isSome_iff_exists.mp hasId
  obtain ⟨url, isUrl⟩ := Option.isSome_iff_exists.mp hasUrl
  unfold GoneFrom
  rw [tableOf_services, isId, isUrl]
  simp [dlnaServiceFind, dlnaServiceFindUrl, forall_and]

/-- The service is not the one that its key names, so that it stays. -/
theorem not_unregistersExactly (distinguished : Distinguished (before ++ s :: later))
    (member : t ∈ later) (shared : t.typeid = s.typeid) :
    ¬ UnregistersExactly (before ++ s :: later) s := by
  intro exactly
  obtain ⟨hasId, hasUrl⟩ := distinguished.named s (by simp)
  have present : (KeyedTable.find (fun s => s.typeid) later s.typeid).isSome :=
    KeyedTable.find_isSome.mpr ⟨t, member, shared⟩
  obtain ⟨removed, found⟩ := Option.isSome_iff_exists.mp present
  obtain ⟨between, rest, split, last⟩ := KeyedTable.find_split found
  have key : removed.typeid = s.typeid := KeyedTable.find_key found
  have left : KeyedTable.remove (fun s => s.typeid) (before ++ s :: later) s.typeid =
      (before ++ s :: between) ++ rest := by
    have deleted : KeyedTable.remove (fun s => s.typeid)
        ((before ++ s :: between) ++ removed :: rest) removed.typeid = _ :=
      KeyedTable.remove_last fun other inRest => key ▸ last other inRest
    rw [← deleted, split, key]
    simp
  have gone := exactly.1
  rw [registeredServices_eq, dlnaServiceUnregister_tableOf, left, goneFrom_iff hasId hasUrl] at gone
  exact (gone s (by simp)).1 rfl

theorem unregistersExactly_iff (before later : List (DlnaDescriptor C)) (s : DlnaDescriptor C)
    (distinguished : Distinguished (before ++ s :: later)) :
    UnregistersExactly (before ++ s :: later) s ↔ ∀ t ∈ later, t.typeid ≠ s.typeid := by
  constructor
  · intro exactly t member shared
    exact not_unregistersExactly distinguished member shared exactly
  · intro last
    obtain ⟨hasId, hasUrl⟩ := distinguished.named s (by simp)
    have ids := distinguished.ids
    have urls := distinguished.urls
    rw [List.map_append, List.map_cons, List.nodup_middle, List.nodup_cons, ← List.map_append]
      at ids urls
    have left : KeyedTable.remove (fun s => s.typeid) (before ++ s :: later) s.typeid =
        before ++ later :=
      KeyedTable.remove_last last
    have distinguishedLeft : Distinguished (before ++ later) := by
      refine ⟨fun t member => distinguished.named t ?_, ids.2, urls.2⟩
      exact List.mem_append.mpr ((List.mem_append.mp member).imp_right (List.mem_cons_of_mem s))
    unfold UnregistersExactly
    rw [registeredServices_eq, dlnaServiceUnregister_tableOf, left, goneFrom_iff hasId hasUrl]
    constructor
    · intro t member
      constructor
      · intro same
        exact ids.1 (same ▸ List.mem_map_of_mem member)
      · intro same
        exact urls.1 (same ▸ List.mem_map_of_mem member)
    · intro t member other
      apply lookedUpIn_of_mem distinguishedLeft
      have different : t ≠ s := fun same => other (same ▸ rfl)
      rcases List.mem_append.mp member with inBefore | inRest
      · exact List.mem_append_left _ inBefore
      · exact List.mem_append_right _ ((List.mem_cons.mp inRest).resolve_left different)

def firstServices : List (DlnaDescriptor Handler) :=
  [cmsService [], cdsService (fun _ text => text) 1 []]

theorem firstServices_distinguished : Distinguished firstServices where
  named := by
    intro s member
    have cases : s = cmsService [] ∨ s = cdsService (fun _ text => text) 1 [] := by
      simpa [firstServices] using member
    rcases cases with rfl | rfl <;> exact ⟨rfl, rfl⟩
  ids := by decide
  urls := by decide

theorem cds_unregistersExactly :
    UnregistersExactly firstServices (cdsService (fun _ text => text) 1 []) :=
  (unregistersExactly_iff [cmsService []] [] _ firstServices_distinguished).mpr
    fun _ member => absurd member List.not_mem_nil

theorem cms_not_unregistersExactly :
    Distinguished firstServices ∧ ¬ UnregistersExactly firstServices (cmsService []) := by
  have distinguished : Distinguished
      ([] ++ cmsService [] :: [cdsService (fun _ text => text) 1 []]) :=
    firstServices_distinguished
  exact ⟨distinguished, not_unregistersExactly distinguished List.mem_cons_self rfl⟩

end Libdlna
