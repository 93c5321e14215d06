import Libdlna.Model.Gena
import Mathlib.Data.List.Nodup

set_option autoImplicit false

/-!
# Subscriptions in the table of a device

What an operation on the table does to the subscriptions that it leaves there.
-/

namespace Libdlna.Gena

open CString

def sids (subscriptions : List Subscription) : List Text := subscriptions.map (·.sid)

theorem findSid_some {subscriptions : List Subscription} {sid : Text} {sub : Subscription}
    (found : findSid subscriptions sid = some sub) : sub ∈ subscriptions ∧ sub.sid = sid :=
  ⟨List.mem_of_find?_eq_some found, by simpa using List.find?_some found⟩

theorem findSid_none {subscriptions : List Subscription} {sid : Text}
    (missing : findSid subscriptions sid = none) : ∀ sub ∈ subscriptions, sub.sid ≠ sid := by
  simpa [findSid] using missing

theorem removeSid_sublist (subscriptions : List Subscription) (sid : Text) :
    (removeSid subscriptions sid).Sublist subscriptions :=
  List.eraseP_sublist ..

theorem sid_of_mem_removeSid {subscriptions : List Subscription} {sid : Text} {sub : Subscription}
    (distinct : (sids subscriptions).Nodup) (member : sub ∈ removeSid subscriptions sid) :
    sub.sid ≠ sid := by
  induction subscriptions with
  | nil => exact absurd member (by simp [removeSid])
  | cons first rest ih =>
      rw [sids, List.map_cons, List.nodup_cons] at distinct
      by_cases here : first.sid = sid
      · rw [removeSid, List.eraseP_cons_of_pos (by simpa using here)] at member
        rintro same
        exact distinct.1 (here ▸ same ▸ List.mem_map_of_mem member)
      · rw [removeSid, List.eraseP_cons_of_neg (by simpa using here), List.mem_cons] at member
        rcases member with rfl | later
        · exact here
        · exact ih distinct.2 later

theorem sids_updateSid {write : Subscription → Subscription} (same : ∀ sub, (write sub).sid = sub.sid)
    (sid : Text) (subscriptions : List Subscription) :
    sids (updateSid sid write subscriptions) = sids subscriptions := by
  induction subscriptions with
  | nil => rfl
  | cons first rest ih =>
      rw [updateSid]
      split
      · simp only [sids, List.map_cons, same]
      · simp only [sids, List.map_cons] at ih ⊢
        rw [ih]

theorem mem_updateSid {write : Subscription → Subscription} {subscriptions : List Subscription}
    {sid : Text} {sub : Subscription} (distinct : (sids subscriptions).Nodup)
    (member : sub ∈ updateSid sid write subscriptions) :
    (∃ before ∈ subscriptions, before.sid = sid ∧ sub = write before) ∨
      sub ∈ subscriptions ∧ sub.sid ≠ sid := by
  induction subscriptions with
  | nil => exact absurd member (by simp [updateSid])
  | cons first rest ih =>
      rw [sids, List.map_cons, List.nodup_cons] at distinct
      rw [updateSid] at member
      by_cases here : first.sid = sid
      · rw [if_pos here, List.mem_cons] at member
        rcases member with rfl | later
        · exact .inl ⟨first, List.mem_cons_self .., here, rfl⟩
        · refine .inr ⟨List.mem_cons_of_mem _ later, ?_⟩
          rintro same
          exact distinct.1 (here ▸ same ▸ List.mem_map_of_mem later)
      · rw [if_neg here, List.mem_cons] at member
        rcases member with rfl | later
        · exact .inr ⟨List.mem_cons_self .., here⟩
        · rcases ih distinct.2 later with ⟨before, member, found, rfl⟩ | ⟨member, other⟩
          · exact .inl ⟨before, List.mem_cons_of_mem _ member, found, rfl⟩
          · exact .inr ⟨List.mem_cons_of_mem _ member, other⟩

structure ServiceInfo.SameNames (service service' : ServiceInfo) : Prop where
  serviceId : service.serviceId = service'.serviceId
  udn : service.udn = service'.udn
  active : service.active = service'.active

theorem ServiceInfo.SameNames.refl (service : ServiceInfo) : service.SameNames service :=
  ⟨rfl, rfl, rfl⟩

theorem ServiceInfo.SameNames.trans {service service' service'' : ServiceInfo}
    (first : service.SameNames service') (second : service'.SameNames service'') :
    service.SameNames service'' :=
  ⟨first.serviceId.trans second.serviceId, first.udn.trans second.udn,
    first.active.trans second.active⟩

theorem ServiceInfo.sameNames_removeSubscriptionSID (service : ServiceInfo) (sid : Text) :
    (service.removeSubscriptionSID sid).SameNames service := by
  rw [removeSubscriptionSID]
  split <;> exact ⟨rfl, rfl, rfl⟩

theorem ServiceInfo.removeSubscriptionSID_sublist (service : ServiceInfo) (sid : Text) :
    (service.removeSubscriptionSID sid).subscriptionList.Sublist service.subscriptionList := by
  rw [removeSubscriptionSID]
  split
  · exact removeSid_sublist ..
  · exact List.Sublist.refl _

theorem ServiceInfo.sid_of_mem_removeSubscriptionSID {service : ServiceInfo} {sid : Text}
    {sub : Subscription} (distinct : (sids service.subscriptionList).Nodup)
    (member : sub ∈ (service.removeSubscriptionSID sid).subscriptionList) : sub.sid ≠ sid := by
  rw [removeSubscriptionSID] at member
  split at member
  · exact sid_of_mem_removeSid distinct member
  · next missing => exact findSid_none missing sub member

theorem ServiceInfo.getSubscriptionSID_some {service after : ServiceInfo} {sid : Text} {now : Int}
    {sub : Subscription} (got : service.getSubscriptionSID sid now = (after, some sub)) :
    after = service ∧ sub ∈ service.subscriptionList ∧ sub.sid = sid ∧ sub.expired now = false := by
  rw [getSubscriptionSID] at got
  split at got
  · next found isFound =>
      split at got
      · exact nomatch (Prod.ext_iff.mp got).2
      · next fresh =>
          obtain ⟨rfl, same⟩ := Prod.ext_iff.mp got
          obtain rfl := Option.some.inj same
          exact ⟨rfl, (findSid_some isFound).1, (findSid_some isFound).2, by simpa using fresh⟩
  · exact nomatch (Prod.ext_iff.mp got).2

theorem ServiceInfo.getSubscriptionSID_none {service after : ServiceInfo} {sid : Text} {now : Int}
    (got : service.getSubscriptionSID sid now = (after, none)) :
    after = service.removeSubscriptionSID sid := by
  rw [getSubscriptionSID] at got
  split at got
  · split at got
    · exact (Prod.ext_iff.mp got).1.symm
    · exact nomatch (Prod.ext_iff.mp got).2
  · next missing =>
      rw [removeSubscriptionSID, missing]
      exact (Prod.ext_iff.mp got).1.symm

def Standing (device : Option Device) (i : Nat) (sub : Subscription) : Prop :=
  ∃ d service, device = some d ∧ d.serviceTable[i]? = some service ∧
    sub ∈ service.subscriptionList

def Leads (device : Option Device) (servId udn : Text) (handle : Int) (i : Nat) : Prop :=
  ∃ d service, device = some d ∧ d.handle = handle ∧
    findServiceId d.serviceTable servId udn = some (service, i)

def tableSids (table : List ServiceInfo) : List Text :=
  table.flatMap fun service => sids service.subscriptionList

def AllActive (device : Option Device) : Prop :=
  ∀ d, device = some d → ∀ service ∈ d.serviceTable, service.active = true

def Distinct (device : Option Device) : Prop :=
  ∀ d, device = some d → (tableSids d.serviceTable).Nodup

theorem findService_place {table : List ServiceInfo} {wanted : ServiceInfo → Bool}
    {service : ServiceInfo} {i : Nat} (found : findService table wanted = some (service, i)) :
    table[i]? = some service := by
  have member := List.mem_of_find?_eq_some found
  simpa using List.mem_zipIdx_iff_getElem?.mp member

theorem Distinct.service {device : Option Device} {d : Device} {service : ServiceInfo} {i : Nat}
    (distinct : Distinct device) (isDevice : device = some d)
    (here : d.serviceTable[i]? = some service) : (sids service.subscriptionList).Nodup := by
  have whole := distinct d isDevice
  rw [tableSids, List.nodup_flatMap] at whole
  exact whole.1 service (List.mem_of_getElem? here)

theorem Distinct.unique {device : Option Device} (distinct : Distinct device) {i j : Nat}
    {sub sub' : Subscription} (standing : Standing device i sub) (standing' : Standing device j sub')
    (same : sub.sid = sub'.sid) : i = j ∧ sub = sub' := by
  obtain ⟨d, service, isDevice, here, member⟩ := standing
  obtain ⟨d', service', isDevice', there, member'⟩ := standing'
  obtain rfl := Option.some.inj (isDevice.symm.trans isDevice')
  have whole := distinct d isDevice
  rw [tableSids, List.nodup_flatMap] at whole
  have inList : sub.sid ∈ sids service.subscriptionList := List.mem_map_of_mem member
  have inList' : sub.sid ∈ sids service'.subscriptionList := same ▸ List.mem_map_of_mem member'
  have samePlace : i = j := by
    obtain ⟨inside, rfl⟩ := List.getElem?_eq_some_iff.mp here
    obtain ⟨inside', rfl⟩ := List.getElem?_eq_some_iff.mp there
    have apart := List.pairwise_iff_getElem.mp whole.2
    rcases Nat.lt_trichotomy i j with less | same | more
    · exact absurd inList' (apart i j inside inside' less inList)
    · exact same
    · exact absurd inList (apart j i inside' inside more inList')
  subst samePlace
  obtain rfl := Option.some.inj (here.symm.trans there)
  exact ⟨rfl, List.inj_on_of_nodup_map (distinct.service isDevice here) member member' same⟩

/-- What becomes of the subscriptions: each one that is left comes from one before, in the same
place, and the ways to it are the same. -/
structure Evolves (change : Subscription → Subscription → Prop) (before after : Option Device) :
    Prop where
  each : ∀ i sub, Standing after i sub →
    ∃ sub', Standing before i sub' ∧ sub.sid = sub'.sid ∧ change sub' sub
  leads : ∀ i sub, Standing after i sub → ∀ servId udn handle,
    Leads before servId udn handle i → Leads after servId udn handle i
  distinct : Distinct before → Distinct after
  active : AllActive before → AllActive after

theorem Evolves.refl {change : Subscription → Subscription → Prop} {device : Option Device}
    (same : ∀ i sub, Standing device i sub → change sub sub) : Evolves change device device where
  each i sub standing := ⟨sub, standing, rfl, same i sub standing⟩
  leads _ _ _ _ _ _ leads := leads
  distinct distinct := distinct
  active active := active

theorem Evolves.of_none {change : Subscription → Subscription → Prop}
    {before after : Option Device} (none : ∀ i sub, ¬ Standing after i sub)
    (distinct : Distinct after) (active : AllActive after) : Evolves change before after where
  each i sub standing := absurd standing (none i sub)
  leads i sub standing := absurd standing (none i sub)
  distinct _ := distinct
  active _ := active

theorem findService_snd (table : List ServiceInfo) (wanted : ServiceInfo → Bool) :
    (findService table wanted).map Prod.snd = (table.map wanted).findIdx? id := by
  rw [List.findIdx?_map, Function.id_comp]
  exact List.findIdx?_eq_fst_find?_zipIdx.symm

theorem leads_iff {device : Option Device} {servId udn : Text} {handle : Int} {i : Nat} :
    Leads device servId udn handle i ↔
      ∃ d, device = some d ∧ d.handle = handle ∧
        (findServiceId d.serviceTable servId udn).map Prod.snd = some i := by
  simp only [Option.map_eq_some_iff]
  constructor
  · rintro ⟨d, service, isDevice, isHandle, found⟩
    exact ⟨d, isDevice, isHandle, (service, i), found, rfl⟩
  · rintro ⟨d, isDevice, isHandle, ⟨service, j⟩, found, rfl⟩
    exact ⟨d, service, isDevice, isHandle, found⟩

section Modify

variable {table : List ServiceInfo} {write : ServiceInfo → ServiceInfo} {i : Nat}
  {service : ServiceInfo}

theorem map_modify {β : Type} (f : ServiceInfo → β) (here : table[i]? = some service)
    (same : f (write service) = f service) : (table.modify i write).map f = table.map f := by
  apply List.ext_getElem?
  intro j
  rw [List.getElem?_map, List.getElem?_map, List.getElem?_modify]
  by_cases isHere : i = j
  · subst isHere
    simp [here, same]
  · simp [isHere]

theorem findServiceId_modify (here : table[i]? = some service)
    (names : (write service).SameNames service) (servId udn : Text) :
    (findServiceId (table.modify i write) servId udn).map Prod.snd =
      (findServiceId table servId udn).map Prod.snd := by
  rw [findServiceId, findServiceId, findService_snd, findService_snd,
    map_modify _ here (by rw [names.serviceId, names.udn])]

theorem tableSids_modify (here : table[i]? = some service)
    (fewer : (sids (write service).subscriptionList).Sublist (sids service.subscriptionList)) :
    (tableSids (table.modify i write)).Sublist (tableSids table) := by
  induction table generalizing i with
  | nil => exact absurd here (by simp)
  | cons first rest ih =>
      cases i with
      | zero =>
          obtain rfl := Option.some.inj here
          exact fewer.append (List.Sublist.refl _)
      | succ i => exact (List.Sublist.refl _).append (ih here)

theorem tableSids_add (here : table[i]? = some service) (sub : Subscription) :
    (tableSids (table.modify i (·.add sub))).Perm (sub.sid :: tableSids table) := by
  induction table generalizing i with
  | nil => exact absurd here (by simp)
  | cons first rest ih =>
      cases i with
      | zero => exact List.Perm.refl _
      | succ i => exact ((ih here).append_left _).trans List.perm_middle

end Modify

theorem setService_const {s : GenaSystem} {d : Device} {service : ServiceInfo} {i : Nat}
    (isDevice : s.device = some d) (here : d.serviceTable[i]? = some service)
    (write : ServiceInfo → ServiceInfo) :
    (s.setService i fun _ => write service) = s.setService i write := by
  have same : d.serviceTable.modify i (fun _ => write service) =
      d.serviceTable.modify i write := by
    apply List.ext_getElem?
    intro j
    rw [List.getElem?_modify, List.getElem?_modify]
    by_cases isHere : i = j
    · subst isHere
      simp [here]
    · simp [isHere]
  simp only [GenaSystem.setService, isDevice, Option.map_some, same]

structure ServiceInfo.Becomes (change : Subscription → Subscription → Prop)
    (before after : ServiceInfo) : Prop where
  names : after.SameNames before
  each : ∀ sub ∈ after.subscriptionList,
    ∃ sub' ∈ before.subscriptionList, sub.sid = sub'.sid ∧ change sub' sub
  fewer : (sids after.subscriptionList).Sublist (sids before.subscriptionList)

theorem allActive_setService {s : GenaSystem} {d : Device} {service : ServiceInfo} {i : Nat}
    {write : ServiceInfo → ServiceInfo} (isDevice : s.device = some d)
    (here : d.serviceTable[i]? = some service) (same : (write service).active = service.active)
    (active : AllActive s.device) : AllActive (s.setService i write).device := by
  intro d' isAfter service' member
  rw [GenaSystem.setService, isDevice, Option.map_some, Option.some.injEq] at isAfter
  subst isAfter
  obtain ⟨j, there⟩ := List.getElem?_of_mem member
  dsimp only at there
  by_cases isHere : i = j
  · subst isHere
    rw [List.getElem?_modify_eq, here] at there
    obtain rfl := Option.some.inj there
    exact same.trans (active d isDevice service (List.mem_of_getElem? here))
  · rw [List.getElem?_modify_ne _ _ isHere] at there
    exact active d isDevice service' (List.mem_of_getElem? there)

theorem evolves_setService {change : Subscription → Subscription → Prop} {s : GenaSystem}
    {d : Device} {service : ServiceInfo} {i : Nat} {write : ServiceInfo → ServiceInfo}
    (isDevice : s.device = some d) (here : d.serviceTable[i]? = some service)
    (becomes : service.Becomes change (write service))
    (others : ∀ j sub, j ≠ i → Standing s.device j sub → change sub sub) :
    Evolves change s.device (s.setService i write).device where
  each j sub := by
    rintro ⟨d', service', isAfter, there, member⟩
    rw [GenaSystem.setService, isDevice, Option.map_some, Option.some.injEq] at isAfter
    subst isAfter
    dsimp only at there
    by_cases isHere : i = j
    · subst isHere
      rw [List.getElem?_modify_eq, here] at there
      obtain rfl := Option.some.inj there
      obtain ⟨sub', member', same, changed⟩ := becomes.each sub member
      exact ⟨sub', ⟨d, service, isDevice, here, member'⟩, same, changed⟩
    · rw [List.getElem?_modify_ne _ _ isHere] at there
      have standing : Standing s.device j sub := ⟨d, service', isDevice, there, member⟩
      exact ⟨sub, standing, rfl, others j sub (Ne.symm isHere) standing⟩
  leads j sub _ servId udn handle leads := by
    rw [leads_iff] at leads ⊢
    obtain ⟨d', isBefore, isHandle, found⟩ := leads
    obtain rfl := Option.some.inj (isDevice.symm.trans isBefore)
    refine ⟨{ d with serviceTable := d.serviceTable.modify i write }, ?_, isHandle, ?_⟩
    · rw [GenaSystem.setService, isDevice]
      rfl
    · exact (findServiceId_modify here becomes.names servId udn).trans found
  distinct distinct d' isAfter := by
    rw [GenaSystem.setService, isDevice, Option.map_some, Option.some.injEq] at isAfter
    subst isAfter
    exact (tableSids_modify here becomes.fewer).nodup (distinct d isDevice)
  active active := allActive_setService isDevice here becomes.names.active active

section Operations

variable {service : ServiceInfo} {change : Subscription → Subscription → Prop}

theorem ServiceInfo.becomes_removed (sid : Text)
    (same : ∀ sub ∈ service.subscriptionList, sub.sid ≠ sid → change sub sub)
    (distinct : (sids service.subscriptionList).Nodup) :
    service.Becomes change (service.removeSubscriptionSID sid) where
  names := service.sameNames_removeSubscriptionSID sid
  each sub member := by
    have before := (service.removeSubscriptionSID_sublist sid).subset member
    exact ⟨sub, before, rfl, same sub before (sid_of_mem_removeSubscriptionSID distinct member)⟩
  fewer := (service.removeSubscriptionSID_sublist sid).map _

theorem ServiceInfo.becomes_updated {sid : Text} {write : Subscription → Subscription}
    (kept : ∀ sub, (write sub).sid = sub.sid) (distinct : (sids service.subscriptionList).Nodup)
    (here : ∀ sub ∈ service.subscriptionList, sub.sid = sid → change sub (write sub))
    (same : ∀ sub ∈ service.subscriptionList, sub.sid ≠ sid → change sub sub) :
    service.Becomes change (service.update sid write) where
  names := ⟨rfl, rfl, rfl⟩
  each sub member := by
    rcases mem_updateSid distinct member with ⟨before, inList, found, rfl⟩ | ⟨inList, other⟩
    · exact ⟨before, inList, kept before, here before inList found⟩
    · exact ⟨sub, inList, rfl, same sub inList other⟩
  fewer := by
    rw [ServiceInfo.update, sids_updateSid kept]

theorem ServiceInfo.becomes_updated_removed {sid : Text} {write : Subscription → Subscription}
    (kept : ∀ sub, (write sub).sid = sub.sid) (distinct : (sids service.subscriptionList).Nodup)
    (same : ∀ sub ∈ service.subscriptionList, sub.sid ≠ sid → change sub sub) :
    service.Becomes change ((service.update sid write).removeSubscriptionSID sid) where
  names :=
    ((service.update sid write).sameNames_removeSubscriptionSID sid).trans ⟨rfl, rfl, rfl⟩
  each sub member := by
    have distinct' : (sids (service.update sid write).subscriptionList).Nodup := by
      rwa [ServiceInfo.update, sids_updateSid kept]
    have other := sid_of_mem_removeSubscriptionSID distinct' member
    have inList := ((service.update sid write).removeSubscriptionSID_sublist sid).subset member
    rcases mem_updateSid distinct inList with ⟨before, -, found, rfl⟩ | ⟨inList, -⟩
    · exact absurd ((kept before).trans found) other
    · exact ⟨sub, inList, rfl, same sub inList other⟩
  fewer := by
    have fewer := ((service.update sid write).removeSubscriptionSID_sublist sid).map (·.sid)
    rw [← sids, ← sids] at fewer
    rwa [ServiceInfo.update, sids_updateSid kept] at fewer

end Operations

end Libdlna.Gena
