import Libdlna.Model.ServiceRegistry
import Libdlna.Model.StateVariables
import Libdlna.Shared.Outcome
import Mathlib.Data.List.Nodup

set_option autoImplicit false

/-!
# State variables

The search for a state variable goes down the table of variables but compares the names of the
actions, which is the search that is meant only where the two tables name alike.
-/

namespace Libdlna

open CString

variable {C S : Type} {actions : List (ServiceAction C)} {vars : List (ServiceStatevar S)}
  {name : Text} {services : List (StatevarService C S)} {srv : StatevarService C S}
  {ar : StateVarRequest}

def namedStatevar (vars : List (ServiceStatevar S)) (name : Text) : Option (ServiceStatevar S) :=
  vars.find? fun var => var.name = name

/-- Down to the variable that is requested, or to the end of the table if there is none, each
variable has an action in its place, and both or neither have the requested name. -/
def NamedAlike (actions : List (ServiceAction C)) (vars : List (ServiceStatevar S)) (name : Text) :
    Prop :=
  ∀ i var, vars[i]? = some var → (∀ earlier ∈ vars.take i, earlier.name ≠ name) →
    ∃ action, actions[i]? = some action ∧ (action.name = name ↔ var.name = name)

theorem namedAlike_nil : NamedAlike actions ([] : List (ServiceStatevar S)) name := by
  intro i var here
  simp at here

theorem namedAlike_cons {action : ServiceAction C} {var : ServiceStatevar S} :
    NamedAlike (action :: actions) (var :: vars) name ↔
      (action.name = name ↔ var.name = name) ∧ (var.name ≠ name → NamedAlike actions vars name) := by
  constructor
  · intro alike
    constructor
    · obtain ⟨_, ⟨⟩, same⟩ := alike 0 var rfl (by simp)
      exact same
    · intro other i next here passed
      apply alike (i + 1) next here
      rw [List.take_succ_cons]
      exact List.forall_mem_cons.mpr ⟨other, passed⟩
  · rintro ⟨same, later⟩ i next here passed
    cases i with
    | zero =>
        cases here
        exact ⟨action, rfl, same⟩
    | succ i =>
        rw [List.take_succ_cons] at passed
        obtain ⟨other, passed⟩ := List.forall_mem_cons.mp passed
        exact later other i next here passed

theorem not_namedAlike_short {var : ServiceStatevar S} :
    ¬ NamedAlike ([] : List (ServiceAction C)) (var :: vars) name := by
  intro alike
  obtain ⟨action, here, -⟩ := alike 0 var rfl (by simp)
  cases here

theorem walkStatevars_mem {found : ServiceStatevar S}
    (walked : walkStatevars name actions vars = .ok (some found)) : found ∈ vars := by
  induction vars generalizing actions with
  | nil => simp [walkStatevars] at walked
  | cons var vars ih =>
      cases actions with
      | nil => cases walked
      | cons action actions =>
          rw [walkStatevars] at walked
          split at walked
          · cases walked
            exact List.mem_cons_self
          · exact List.mem_cons_of_mem var (ih walked)

theorem walkStatevars_exact_iff (distinct : (vars.map ServiceStatevar.name).Nodup) :
    walkStatevars name actions vars = .ok (namedStatevar vars name) ↔
      NamedAlike actions vars name := by
  induction vars generalizing actions with
  | nil =>
      refine iff_of_true ?_ namedAlike_nil
      cases actions <;> rfl
  | cons var vars ih =>
      obtain ⟨fresh, distinctRest⟩ := List.nodup_cons.mp distinct
      cases actions with
      | nil => exact iff_of_false (by simp [walkStatevars]) not_namedAlike_short
      | cons action actions =>
          rw [namedAlike_cons, walkStatevars, namedStatevar, List.find?_cons]
          by_cases hit : var.name = name
          · rw [decide_eq_true hit]
            by_cases same : action.name = name
            · simp [same, hit]
            · rw [if_neg same]
              refine iff_of_false ?_ (by simp [same, hit])
              intro walked
              -- an entry further down cannot be the one that is requested
              have below := walkStatevars_mem walked
              exact fresh (List.mem_map_of_mem below)
          · rw [decide_eq_false hit]
            by_cases same : action.name = name
            · rw [if_pos same]
              refine iff_of_false ?_ (by simp [same, hit])
              intro walked
              have found : namedStatevar vars name = some var := (Except.ok.inj walked).symm
              have isNamed := List.find?_some found
              exact hit (of_decide_eq_true isNamed)
            · rw [if_neg same]
              exact (ih distinctRest).trans (by simp [same, hit])

def Addressed (ar : StateVarRequest) (uuid : Text) : Prop :=
  ar.errCode = dlnaESuccess ∧ ar.devUDN.drop 5 = uuid

def AnswersStatevar (dlna : S) (var : ServiceStatevar S) (ar answer : StateVarRequest) : Prop :=
  match var.get with
  | none => answer.errCode ≠ dlnaESuccess
  | some get =>
      answer = { ar with
        currentVal := get dlna
        errCode := if get dlna = none then dlnaSoapEInvalidAction else dlnaESuccess }

structure QueryExact (services : List (StatevarService C S)) (uuid : Text) (dlna : S)
    (ar : StateVarRequest) (srv : StatevarService C S) (vars : List (ServiceStatevar S)) :
    Prop where
  finds : upnpFindServiceStatevar services ar =
    .ok ((namedStatevar vars ar.stateVarName).map fun var => (srv, var))
  answers : Addressed ar uuid → ∀ var, namedStatevar vars ar.stateVarName = some var →
    ∃ answer, upnpVarRequestHandler services uuid dlna ar = .ok answer ∧
      AnswersStatevar dlna var ar answer

theorem upnpFindServiceStatevar_exact_iff
    (found : services.find? (fun service => service.id = some ar.serviceID) = some srv)
    (table : srv.statevar = some vars) (distinct : (vars.map ServiceStatevar.name).Nodup) :
    upnpFindServiceStatevar services ar =
        .ok ((namedStatevar vars ar.stateVarName).map fun var => (srv, var)) ↔
      NamedAlike srv.actions vars ar.stateVarName := by
  rw [← walkStatevars_exact_iff distinct]
  unfold upnpFindServiceStatevar
  rw [found]
  dsimp only
  rw [table]
  dsimp only
  rw [Outcome.map_ok]
  constructor
  · rintro ⟨walked, isWalked, same⟩
    have injective : Function.Injective fun var : ServiceStatevar S => (srv, var) :=
      fun var other pairs => (Prod.mk.inj pairs).2
    rw [isWalked, Option.map_injective injective same]
  · intro walked
    exact ⟨_, walked, rfl⟩

theorem upnpVarRequestHandler_found {uuid : Text} {dlna : S} {var : ServiceStatevar S}
    (addressed : Addressed ar uuid)
    (finds : upnpFindServiceStatevar services ar = .ok (some (srv, var))) :
    (∃ answer, upnpVarRequestHandler services uuid dlna ar = .ok answer ∧
        AnswersStatevar dlna var ar answer) ↔ var.get.isSome := by
  unfold upnpVarRequestHandler AnswersStatevar
  rw [if_neg (not_not.mpr addressed.1), if_neg (not_not.mpr addressed.2), finds]
  cases getter : var.get with
  | none => simp [getter, Bind.bind, Except.bind]
  | some get => simp [getter, Bind.bind, Except.bind]

theorem queryExact_iff (services : List (StatevarService C S)) (uuid : Text) (dlna : S)
    (ar : StateVarRequest) (srv : StatevarService C S) (vars : List (ServiceStatevar S))
    (found : services.find? (fun service => service.id = some ar.serviceID) = some srv)
    (table : srv.statevar = some vars) (distinct : (vars.map ServiceStatevar.name).Nodup) :
    QueryExact services uuid dlna ar srv vars ↔
      NamedAlike srv.actions vars ar.stateVarName ∧
        (Addressed ar uuid →
          ∀ var, namedStatevar vars ar.stateVarName = some var → var.get.isSome) := by
  have search := upnpFindServiceStatevar_exact_iff found table distinct
  constructor
  · intro exactly
    refine ⟨search.mp exactly.finds, fun addressed var isNamed => ?_⟩
    have finds := exactly.finds
    rw [isNamed] at finds
    exact (upnpVarRequestHandler_found addressed finds).mp (exactly.answers addressed var isNamed)
  · rintro ⟨alike, getters⟩
    have finds := search.mpr alike
    refine ⟨finds, fun addressed var isNamed => ?_⟩
    rw [isNamed] at finds
    exact (upnpVarRequestHandler_found addressed finds).mpr (getters addressed var isNamed)

def volumeService : StatevarService Unit Unit where
  id := some "R".toList
  type := "R".toList
  scpdUrl := none
  actions := [⟨"Volume".toList, [], none⟩]
  description := []
  statevar := some [⟨"Volume".toList, some fun _ => some "50".toList⟩]

def volumeRequest : StateVarRequest where
  errCode := dlnaESuccess
  devUDN := "uuid:7".toList
  serviceID := "R".toList
  stateVarName := "Volume".toList
  currentVal := none

theorem volume_queryExact :
    QueryExact [volumeService] "7".toList () volumeRequest volumeService
      [⟨"Volume".toList, some fun _ => some "50".toList⟩] := by
  refine (queryExact_iff [volumeService] "7".toList () volumeRequest volumeService _ rfl rfl
    (List.nodup_singleton _)).mpr ⟨?_, ?_⟩
  · exact namedAlike_cons.mpr ⟨Iff.rfl, fun _ => namedAlike_nil⟩
  · rintro - var ⟨⟩
    rfl

def cmsStatevarService : StatevarService Handler Controller where
  toDlnaService := (cmsService []).toDlnaService
  statevar := some (cmsServiceVariables Controller)

def sourceRequest : StateVarRequest where
  errCode := dlnaESuccess
  devUDN := "uuid:7".toList
  serviceID := "urn:upnp-org:serviceId:ConnectionManager".toList
  stateVarName := "SourceProtocolInfo".toList
  currentVal := none

/-- The variable is the first of eleven, and the search runs past the end of the five actions. -/
theorem cms_not_queryExact :
    ((cmsServiceVariables Controller).map ServiceStatevar.name).Nodup ∧
      ∀ c, ¬ QueryExact [cmsStatevarService] "7".toList c sourceRequest cmsStatevarService
        (cmsServiceVariables Controller) := by
  refine ⟨by decide, fun c exactly => ?_⟩
  have faults : upnpFindServiceStatevar [cmsStatevarService] sourceRequest =
      .error .nullDeref := by rfl
  have finds := exactly.finds
  rw [faults] at finds
  cases finds

end Libdlna
