import Libdlna.Events.Tables
import Libdlna.Shared.Outcome
import Mathlib.Logic.Function.Iterate

set_option autoImplicit false

/-!
# Steps of the event system

What one step does to the jobs, to the memory that they share and to the subscriptions.
-/

namespace Libdlna.Gena

open CString

structure Advance where
  raised : List NotifyThread := []
  -- the subscription whose notification has been sent
  ended : Option Text := none
  -- the one that has become active
  woken : Option Text := none

def Advance.touches (advance : Advance) (sid : Text) : Prop :=
  (∃ job ∈ advance.raised, job.sid = sid) ∨ advance.ended = some sid ∨ advance.woken = some sid

structure Advances (advance : Advance) (before after : Subscription) : Prop where
  eventKey : after.eventKey =
    nextEventKey^[advance.raised.countP (·.sid = before.sid)] before.eventKey
  toSend : after.toSendEventKey =
    if advance.ended = some before.sid then nextEventKey before.toSendEventKey
    else before.toSendEventKey
  active : after.active = (before.active || decide (advance.woken = some before.sid))
  raisedActive : (∃ job ∈ advance.raised, job.sid = before.sid) → after.active = true

theorem Advances.refl {advance : Advance} {sub : Subscription}
    (untouched : ¬ advance.touches sub.sid) : Advances advance sub sub := by
  rw [Advance.touches, not_or, not_or] at untouched
  have none : advance.raised.countP (·.sid = sub.sid) = 0 := by
    rw [List.countP_eq_zero]
    intro job member same
    exact untouched.1 ⟨job, member, by simpa using same⟩
  exact
    { eventKey := by rw [none, Function.iterate_zero_apply]
      toSend := by rw [if_neg untouched.2.1]
      active := by simp [untouched.2.2]
      raisedActive := fun raised => absurd raised untouched.1 }

theorem Advance.not_touches_empty (sid : Text) : ¬ ({} : Advance).touches sid := by
  simp [touches]

theorem Advances.of_same {before after : Subscription} (eventKey : after.eventKey = before.eventKey)
    (toSend : after.toSendEventKey = before.toSendEventKey)
    (active : after.active = before.active) : Advances {} before after where
  eventKey := by simpa using eventKey
  toSend := by simpa using toSend
  active := by simpa using active
  raisedActive raised := by simp at raised

theorem Evolves.same (device : Option Device) : Evolves (Advances {}) device device :=
  .refl fun _ sub _ => .refl (Advance.not_touches_empty sub.sid)

section Evolving

variable {s : GenaSystem} {d : Device} {service : ServiceInfo} {i : Nat}

theorem evolves_removed (distinct : Distinct s.device) (isDevice : s.device = some d)
    (here : d.serviceTable[i]? = some service) {write : ServiceInfo → ServiceInfo} {sid : Text}
    (isWrite : write service = service.removeSubscriptionSID sid) :
    Evolves (Advances {}) s.device (s.setService i write).device := by
  have refl (sub : Subscription) : Advances {} sub sub := .refl (Advance.not_touches_empty sub.sid)
  apply evolves_setService isDevice here
  · rw [isWrite]
    exact service.becomes_removed sid (fun sub _ _ => refl sub) (distinct.service isDevice here)
  · exact fun j sub _ _ => refl sub

theorem evolves_updated {advance : Advance} {sub : Subscription}
    {write : Subscription → Subscription} (distinct : Distinct s.device)
    (isDevice : s.device = some d) (here : d.serviceTable[i]? = some service)
    (member : sub ∈ service.subscriptionList) (kept : ∀ sub, (write sub).sid = sub.sid)
    (only : ∀ sid, advance.touches sid → sid = sub.sid)
    (advances : Advances advance sub (write sub)) :
    Evolves (Advances advance) s.device
      (s.setService i (·.update sub.sid write)).device := by
  have standing : Standing s.device i sub := ⟨d, service, isDevice, here, member⟩
  apply evolves_setService isDevice here
  · apply ServiceInfo.becomes_updated kept (distinct.service isDevice here)
    · intro sub' member' same
      have other : Standing s.device i sub' := ⟨d, service, isDevice, here, member'⟩
      exact (distinct.unique other standing same).2 ▸ advances
    · exact fun sub' member' other => .refl fun touched => other (only _ touched)
  · intro j sub' elsewhere standing'
    refine .refl fun touched => elsewhere ?_
    exact (distinct.unique standing' standing (only _ touched)).1

end Evolving

def Releases (input : NotifyThread) (before after : List Shared) : Prop :=
  ∃ count, before[input.shared]? = some ⟨count, false⟩ ∧
    after = before.set input.shared ⟨count - 1, count - 1 = 0⟩

theorem access_ok {s : GenaSystem} {input : NotifyThread} {shared : Shared} :
    s.access input = .ok shared ↔
      s.shared[input.shared]? = some shared ∧ shared.freed = false := by
  rw [GenaSystem.access]
  cases found : s.shared[input.shared]? with
  | none => simp
  | some shared' =>
      obtain ⟨count, isFreed⟩ := shared'
      cases isFreed with
      | true =>
          simp only [if_true, reduceCtorEq, Option.some.injEq, false_iff, not_and]
          rintro rfl notFreed
          exact nomatch notFreed
      | false =>
          simp only [Bool.false_eq_true, if_false, Except.ok.injEq, Option.some.injEq]
          constructor
          · rintro rfl
            exact ⟨rfl, rfl⟩
          · exact And.left

theorem freeNotifyStruct_ok {s t : GenaSystem} {input : NotifyThread}
    (freed : s.freeNotifyStruct input = .ok t) :
    Releases input s.shared t.shared ∧ t = { s with shared := t.shared } := by
  rw [GenaSystem.freeNotifyStruct, Outcome.bind_ok] at freed
  obtain ⟨⟨count, isFreed⟩, accessed, freed⟩ := freed
  obtain ⟨found, rfl⟩ := access_ok.mp accessed
  obtain rfl := Except.ok.inj freed
  exact ⟨⟨count, found, rfl⟩, rfl⟩

theorem handleInfo_some {s : GenaSystem} {handle : Int} {d : Device}
    (found : s.handleInfo handle = some d) : s.device = some d ∧ d.handle = handle := by
  rw [GenaSystem.handleInfo, Option.filter_eq_some_iff] at found
  exact ⟨found.1, by simpa using found.2⟩

theorem handleInfo_none {s : GenaSystem} {handle : Int} (missing : s.handleInfo handle = none)
    (servId udn : Text) (i : Nat) : ¬ Leads s.device servId udn handle i := by
  rintro ⟨d, service, isDevice, isHandle, -⟩
  rw [GenaSystem.handleInfo, isDevice] at missing
  simp [Option.filter, isHandle] at missing

theorem findServiceId_none {s : GenaSystem} {d : Device} {servId udn : Text}
    (isDevice : s.device = some d) (missing : findServiceId d.serviceTable servId udn = none)
    (handle : Int) (i : Nat) : ¬ Leads s.device servId udn handle i := by
  rintro ⟨d', service, isDevice', -, found⟩
  obtain rfl := Option.some.inj (isDevice.symm.trans isDevice')
  exact nomatch missing.symm.trans found

def Unreachable (s : GenaSystem) (input : NotifyThread) : Prop :=
  ∀ i sub, Standing s.device i sub → sub.sid = input.sid →
    ¬ Leads s.device input.servId input.udn input.deviceHandle i

def Finds (s : GenaSystem) (input : NotifyThread) (i : Nat) (sub : Subscription) : Prop :=
  Standing s.device i sub ∧ sub.sid = input.sid ∧
    Leads s.device input.servId input.udn input.deviceHandle i

structure Issues (s : GenaSystem) (jobs : List NotifyThread) (active : Bool) : Prop where
  each : ∀ job ∈ jobs, job.shared = s.shared.length ∧
    ∃ i sub, Finds s job i sub ∧ job.eventKey = sub.eventKey ∧ sub.active = active
  once : (jobs.map (·.sid)).Nodup

/-- What a step does to the jobs and to what they share. `wakes` has to hold for a subscription to
become active without an event. -/
inductive JobsMove (wakes : Prop) (s t : GenaSystem) : Advance → Prop
  | rests (jobs : t.jobs = s.jobs) (shared : t.shared = s.shared) : JobsMove wakes s t {}
  | unused (jobs : t.jobs = s.jobs) (shared : t.shared = s.shared ++ [⟨0, true⟩]) :
      JobsMove wakes s t {}
  | woken (sid : Text) (reason : wakes) (jobs : t.jobs = s.jobs)
      (shared : t.shared = s.shared ++ [⟨0, true⟩])
      (active : ∃ i sub, Standing t.device i sub ∧ sub.sid = sid ∧ sub.active = true)
      (idle : ∃ i sub, Standing s.device i sub ∧ sub.sid = sid ∧ sub.active = false) :
      JobsMove wakes s t { woken := some sid }
  | raised (added refused : List NotifyThread) (count : Int)
      (jobs : t.jobs = s.jobs.raise added refused)
      (isCount : count = added.length + refused.length)
      (shared : t.shared = s.shared ++ [⟨count, count = 0⟩])
      (issues : Issues s (added ++ refused) true) :
      JobsMove wakes s t { raised := added ++ refused }
  | started (job : NotifyThread) (added : Bool) (jobs : t.jobs = s.jobs.start job added)
      (shared : t.shared = s.shared ++ [⟨1, !added⟩]) (issues : Issues s [job] false) :
      JobsMove wakes s t { raised := [job], woken := some job.sid }
  | dropped (k : Nat) (input : NotifyThread) (taken : s.jobs.waiting[k]? = some input)
      (jobs : t.jobs = (s.jobs.takeWaiting k).drop input)
      (shared : Releases input s.shared t.shared) (gone : Unreachable t input) :
      JobsMove wakes s t {}
  | lost (k : Nat) (input : NotifyThread) (taken : s.jobs.waiting[k]? = some input)
      (jobs : t.jobs = (s.jobs.takeWaiting k).lose input)
      (shared : Releases input s.shared t.shared) : JobsMove wakes s t {}
  | requeued (k : Nat) (input : NotifyThread) (taken : s.jobs.waiting[k]? = some input)
      (jobs : t.jobs = (s.jobs.takeWaiting k).requeue input) (shared : t.shared = s.shared) :
      JobsMove wakes s t {}
  | leaked (k : Nat) (input : NotifyThread) (taken : s.jobs.waiting[k]? = some input)
      (jobs : t.jobs = (s.jobs.takeWaiting k).leak input) (shared : t.shared = s.shared) :
      JobsMove wakes s t {}
  | sent (k : Nat) (input : NotifyThread) (i : Nat) (sub : Subscription)
      (taken : s.jobs.waiting[k]? = some input)
      (jobs : t.jobs = (s.jobs.takeWaiting k).send input sub) (shared : t.shared = s.shared)
      (finds : Finds s input i sub) (next : input.eventKey = sub.toSendEventKey) :
      JobsMove wakes s t {}
  | finished (k : Nat) (job : NotifyThread × Subscription) (taken : s.jobs.sending[k]? = some job)
      (jobs : t.jobs = s.jobs.takeSending k) (shared : Releases job.1 s.shared t.shared)
      (gone : Unreachable t job.1) : JobsMove wakes s t {}
  | advanced (k : Nat) (job : NotifyThread × Subscription)
      (taken : s.jobs.sending[k]? = some job) (jobs : t.jobs = s.jobs.takeSending k)
      (shared : Releases job.1 s.shared t.shared) :
      JobsMove wakes s t { ended := some job.1.sid }

def Moves (wakes : Prop) (s t : GenaSystem) : Prop :=
  t.issued = s.issued ∧
    ∃ advance, Evolves (Advances advance) s.device t.device ∧ JobsMove wakes s t advance

/-- What the steps rely on: there is one subscription for an identifier, and one that is not active
has used no key. -/
structure Sound (s : GenaSystem) : Prop where
  distinct : Distinct s.device
  active : AllActive s.device
  idle : ∀ i sub, Standing s.device i sub → sub.active = false → sub.eventKey = 0

section Delivery

variable {wakes : Prop} {s t : GenaSystem} {input : NotifyThread} {k : Nat}

theorem getSubscriptionSID_device {d : Device} {service after : ServiceInfo} {i : Nat}
    {sid : Text} {answer : Option Subscription} (distinct : Distinct s.device)
    (isDevice : s.device = some d) (here : d.serviceTable[i]? = some service)
    (got : service.getSubscriptionSID sid s.now = (after, answer)) :
    Evolves (Advances {}) s.device (s.setService i fun _ => after).device := by
  cases answer with
  | none =>
      exact evolves_removed distinct isDevice here (ServiceInfo.getSubscriptionSID_none got)
  | some sub =>
      obtain ⟨rfl, -⟩ := ServiceInfo.getSubscriptionSID_some got
      have refl (sub : Subscription) : Advances {} sub sub :=
        .refl (Advance.not_touches_empty sub.sid)
      apply evolves_setService isDevice here
      · exact ⟨.refl after, fun sub member => ⟨sub, member, rfl, refl sub⟩, .refl _⟩
      · exact fun j sub _ _ => refl sub

theorem drop_ok (dropped : s.drop input = .ok t) :
    t.device = s.device ∧ t.issued = s.issued ∧ t.jobs = s.jobs.drop input ∧
      Releases input s.shared t.shared := by
  obtain ⟨released, same⟩ := freeNotifyStruct_ok dropped
  rw [same]
  exact ⟨rfl, rfl, rfl, released⟩

theorem lose_ok (lost : s.lose input = .ok t) :
    t.device = s.device ∧ t.issued = s.issued ∧ t.jobs = s.jobs.lose input ∧
      Releases input s.shared t.shared := by
  obtain ⟨released, same⟩ := freeNotifyStruct_ok lost
  rw [same]
  exact ⟨rfl, rfl, rfl, released⟩

theorem unreachable_removed {d : Device} {service : ServiceInfo} {i : Nat}
    (distinct : Distinct s.device) (isDevice : s.device = some d)
    (found : findServiceId d.serviceTable input.servId input.udn = some (service, i))
    (after : t.device = (s.setService i fun _ => service.removeSubscriptionSID input.sid).device) :
    Unreachable t input := by
  have here := findService_place found
  intro j sub standing same leads
  obtain ⟨d', service', isAfter, there, member⟩ := standing
  obtain ⟨d'', isAfter', -, found'⟩ := leads_iff.mp leads
  obtain rfl := Option.some.inj (isAfter.symm.trans isAfter')
  rw [after, GenaSystem.setService, isDevice, Option.map_some, Option.some.injEq] at isAfter
  subst isAfter
  dsimp only at there found'
  rw [findServiceId_modify here (service.sameNames_removeSubscriptionSID input.sid), found,
    Option.map_some, Option.some.injEq] at found'
  obtain rfl : i = j := found'
  rw [List.getElem?_modify_eq, here] at there
  obtain rfl := Option.some.inj there
  exact ServiceInfo.sid_of_mem_removeSubscriptionSID (distinct.service isDevice here) member same

theorem moves_dropped (taken : s.jobs.waiting[k]? = some input) {s' : GenaSystem}
    (dropped : s'.drop input = .ok t) (device : Evolves (Advances {}) s.device s'.device)
    (issued : s'.issued = s.issued) (shared : s'.shared = s.shared)
    (jobs : s'.jobs = s.jobs.takeWaiting k)
    (gone : ∀ u : GenaSystem, u.device = s'.device → Unreachable u input) : Moves wakes s t := by
  obtain ⟨sameDevice, sameIssued, isJobs, released⟩ := drop_ok dropped
  refine ⟨sameIssued.trans issued, {}, sameDevice ▸ device, ?_⟩
  exact .dropped k input taken (jobs ▸ isJobs) (shared ▸ released) (gone t sameDevice)

theorem moves_lost (taken : s.jobs.waiting[k]? = some input) {s' : GenaSystem}
    (lost : s'.lose input = .ok t) (device : Evolves (Advances {}) s.device s'.device)
    (issued : s'.issued = s.issued) (shared : s'.shared = s.shared)
    (jobs : s'.jobs = s.jobs.takeWaiting k) : Moves wakes s t := by
  obtain ⟨sameDevice, sameIssued, isJobs, released⟩ := lose_ok lost
  refine ⟨sameIssued.trans issued, {}, sameDevice ▸ device, ?_⟩
  exact .lost k input taken (jobs ▸ isJobs) (shared ▸ released)

theorem moves_delivered {supply : GenaSystem.NotifySupply} {i : Nat} {sub : Subscription}
    (taken : s.jobs.waiting[k]? = some input) {s' : GenaSystem}
    (delivered : s'.deliver input sub supply = .ok t)
    (device : Evolves (Advances {}) s.device s'.device) (issued : s'.issued = s.issued)
    (shared : s'.shared = s.shared)
    (jobs : s'.jobs = s.jobs.takeWaiting k)
    (finds : Finds s input i sub) : Moves wakes s t := by
  rw [GenaSystem.deliver] at delivered
  split at delivered
  · split at delivered
    · obtain rfl := Except.ok.inj delivered
      refine ⟨issued, {}, device, ?_⟩
      rw [jobs]
      split
      · exact .requeued k input taken rfl shared
      · exact .leaked k input taken rfl shared
    · next next =>
        obtain rfl := Except.ok.inj delivered
        refine ⟨issued, {}, device, ?_⟩
        exact .sent k input i sub taken (by rw [jobs]) shared finds (not_not.mp next)
  · exact moves_lost taken delivered device issued shared jobs

theorem moves_begin {supply : GenaSystem.NotifySupply} (sound : Sound s)
    (taken : s.jobs.waiting[k]? = some input)
    (begun : { s with jobs := s.jobs.takeWaiting k }.beginNotify input supply = .ok t) :
    Moves wakes s t := by
  rw [GenaSystem.beginNotify] at begun
  cases known : GenaSystem.handleInfo { s with jobs := s.jobs.takeWaiting k } input.deviceHandle with
  | none =>
      rw [known] at begun
      dsimp only at begun
      refine moves_dropped taken begun (.same _) rfl rfl rfl ?_
      intro u same i sub standing sameSid
      exact same ▸ handleInfo_none known _ _ i
  | some d =>
      rw [known] at begun
      obtain ⟨_, -, begun⟩ := Outcome.bind_ok.mp begun
      obtain ⟨isDevice, isHandle⟩ := handleInfo_some known
      cases found : findServiceId d.serviceTable input.servId input.udn with
      | none =>
          rw [found] at begun
          dsimp only at begun
          refine moves_dropped taken begun (.same _) rfl rfl rfl ?_
          intro u same i sub standing sameSid
          exact same ▸ findServiceId_none isDevice found _ i
      | some place =>
          obtain ⟨service, i⟩ := place
          rw [found] at begun
          dsimp only at begun
          have here := findService_place found
          split at begun
          · cases got : service.getSubscriptionSID input.sid s.now with
            | mk after answer =>
                rw [got] at begun
                have evolves := getSubscriptionSID_device sound.distinct isDevice here got
                cases answer with
                | none =>
                    refine moves_dropped taken begun evolves rfl rfl rfl ?_
                    intro u same
                    rw [ServiceInfo.getSubscriptionSID_none got] at same
                    exact unreachable_removed sound.distinct isDevice found same
                | some sub =>
                    obtain ⟨-, member, sameSid, -⟩ := ServiceInfo.getSubscriptionSID_some got
                    have standing : Standing s.device i sub :=
                      ⟨d, service, isDevice, here, member⟩
                    have leads : Leads s.device input.servId input.udn input.deviceHandle i :=
                      ⟨d, service, isDevice, isHandle, found⟩
                    exact moves_delivered taken begun evolves rfl rfl rfl
                      ⟨standing, sameSid, leads⟩
          · exact moves_lost taken begun (.same _) rfl rfl rfl

variable {job : NotifyThread × Subscription}

theorem moves_finished (taken : s.jobs.sending[k]? = some job) {s' : GenaSystem}
    (freed : s'.freeNotifyStruct job.1 = .ok t)
    (device : Evolves (Advances {}) s.device s'.device)
    (issued : s'.issued = s.issued) (shared : s'.shared = s.shared) (jobs : s'.jobs = s.jobs.takeSending k)
    (gone : ∀ u : GenaSystem, u.device = s'.device → Unreachable u job.1) : Moves wakes s t := by
  obtain ⟨released, same⟩ := freeNotifyStruct_ok freed
  rw [shared] at released
  rw [same]
  refine ⟨issued, {}, device, ?_⟩
  exact .finished k job taken jobs released (gone _ rfl)

theorem moves_advanced (taken : s.jobs.sending[k]? = some job) {s' : GenaSystem}
    (freed : s'.freeNotifyStruct job.1 = .ok t)
    (device : Evolves (Advances { ended := some job.1.sid }) s.device s'.device)
    (issued : s'.issued = s.issued) (shared : s'.shared = s.shared)
    (jobs : s'.jobs = s.jobs.takeSending k) : Moves wakes s t := by
  obtain ⟨released, same⟩ := freeNotifyStruct_ok freed
  rw [shared] at released
  rw [same]
  exact ⟨issued, _, device, .advanced k job taken jobs released⟩

theorem touches_ended {sid sid' : Text} :
    Advance.touches { ended := some sid } sid' ↔ sid' = sid := by
  simp [Advance.touches, eq_comm]

theorem advances_advanced (sub : Subscription) :
    Advances { ended := some sub.sid } sub sub.advanced where
  eventKey := rfl
  toSend := by rw [if_pos rfl, Subscription.advanced]
  active := by simp [Subscription.advanced]
  raisedActive raised := by simp at raised

theorem evolves_advanced {d : Device} {service : ServiceInfo} {i : Nat} {sub : Subscription}
    (distinct : Distinct s.device) (isDevice : s.device = some d)
    (here : d.serviceTable[i]? = some service) (member : sub ∈ service.subscriptionList)
    (removes : Prop) [Decidable removes] :
    Evolves (Advances { ended := some sub.sid }) s.device
      (s.setService i fun _ =>
        if removes then
          (service.update sub.sid (·.advanced)).removeSubscriptionSID sub.sid
        else service.update sub.sid (·.advanced)).device := by
  have kept : ∀ sub : Subscription, sub.advanced.sid = sub.sid := fun _ => rfl
  have refl : ∀ other : Subscription, other.sid ≠ sub.sid →
      Advances { ended := some sub.sid } other other :=
    fun other apart => .refl fun touched => apart (touches_ended.mp touched)
  by_cases isRemoved : removes
  · simp only [if_pos isRemoved]
    apply evolves_setService isDevice here
    · exact ServiceInfo.becomes_updated_removed kept (distinct.service isDevice here)
        fun other _ apart => refl other apart
    · intro j other elsewhere standing
      refine refl other fun same => elsewhere ?_
      exact (distinct.unique standing ⟨d, service, isDevice, here, member⟩ same).1
  · simp only [if_neg isRemoved]
    rw [setService_const isDevice here (·.update sub.sid (·.advanced))]
    exact evolves_updated distinct isDevice here member kept
      (fun other touched => touches_ended.mp touched) (advances_advanced sub)

theorem moves_finish {transmit : Text → Except Int Int} (sound : Sound s)
    (taken : s.jobs.sending[k]? = some job)
    (ended : { s with jobs := s.jobs.takeSending k }.endNotify job.1 job.2 transmit = .ok t) :
    Moves wakes s t := by
  rw [GenaSystem.endNotify] at ended
  cases known : GenaSystem.handleInfo { s with jobs := s.jobs.takeSending k } job.1.deviceHandle with
  | none =>
      rw [known] at ended
      dsimp only at ended
      refine moves_finished taken ended (.same _) rfl rfl rfl ?_
      intro u same i sub standing sameSid
      exact same ▸ handleInfo_none known _ _ i
  | some d =>
      rw [known] at ended
      obtain ⟨_, -, ended⟩ := Outcome.bind_ok.mp ended
      obtain ⟨isDevice, isHandle⟩ := handleInfo_some known
      cases found : findServiceId d.serviceTable job.1.servId job.1.udn with
      | none =>
          rw [found] at ended
          dsimp only at ended
          refine moves_finished taken ended (.same _) rfl rfl rfl ?_
          intro u same i sub standing sameSid
          exact same ▸ findServiceId_none isDevice found _ i
      | some place =>
          obtain ⟨service, i⟩ := place
          rw [found] at ended
          dsimp only at ended
          have here := findService_place found
          split at ended
          · cases got : service.getSubscriptionSID job.1.sid s.now with
            | mk after answer =>
                rw [got] at ended
                cases answer with
                | none =>
                    have evolves := getSubscriptionSID_device sound.distinct isDevice here got
                    refine moves_finished taken ended evolves rfl rfl rfl ?_
                    intro u same
                    rw [ServiceInfo.getSubscriptionSID_none got] at same
                    exact unreachable_removed sound.distinct isDevice found same
                | some sub =>
                    obtain ⟨rfl, member, sameSid, -⟩ := ServiceInfo.getSubscriptionSID_some got
                    rw [← sameSid] at ended
                    have evolves := evolves_advanced sound.distinct isDevice here member
                      (GenaSystem.genaNotify transmit job.2.deliveryURLs (-1) =
                        genaENotifyUnacceptedRemoveSub)
                    exact moves_advanced taken ended (sameSid ▸ evolves) rfl rfl rfl
          · next inactive =>
              exact absurd (sound.active d isDevice service (List.mem_of_getElem? here)) inactive

end Delivery

def GenaSystem.Walk.jobs (walk : GenaSystem.Walk) : List NotifyThread := walk.added ++ walk.refused

theorem Advances.cons {jobs : List NotifyThread} {job : NotifyThread} {before after : Subscription}
    (other : job.sid ≠ before.sid) (advances : Advances { raised := jobs } before after) :
    Advances { raised := job :: jobs } before after where
  eventKey := by
    have same : (job :: jobs).countP (·.sid = before.sid) = jobs.countP (·.sid = before.sid) :=
      List.countP_cons_of_neg (by simpa using other)
    rw [same]
    exact advances.eventKey
  toSend := advances.toSend
  active := advances.active
  raisedActive := by
    rintro ⟨job', member, same⟩
    rcases List.mem_cons.mp member with rfl | later
    · exact absurd same other
    · exact advances.raisedActive ⟨job', later, same⟩

structure Walked (event : GenaSystem.Event) (subscriptions : List Subscription)
    (walk : GenaSystem.Walk) : Prop where
  fewer : (sids walk.subscriptions).Sublist (sids subscriptions)
  once : (walk.jobs.map (·.sid)).Sublist (sids subscriptions)
  job : ∀ job ∈ walk.jobs, ∃ sub ∈ subscriptions, sub.active = true ∧ job = event.job sub
  each : ∀ sub ∈ walk.subscriptions, ∃ sub' ∈ subscriptions, sub.sid = sub'.sid ∧
    Advances { raised := walk.jobs } sub' sub
  removed : walk.subscriptions.length + walk.removed = subscriptions.length

section Walking

open GenaSystem

variable {event : Event} {now noMemoryCode : Int} {sub : Subscription} {rest : List Subscription}
  {walk : Walk}

theorem Walked.skip (sound : Walked event rest walk) :
    Walked event (sub :: rest) { walk with removed := walk.removed + 1 } where
  fewer := sound.fewer.cons _
  once := sound.once.cons _
  job job member := by
    obtain ⟨sub', inRest, found⟩ := sound.job job member
    exact ⟨sub', List.mem_cons_of_mem _ inRest, found⟩
  each after member := by
    obtain ⟨sub', inRest, found⟩ := sound.each after member
    exact ⟨sub', List.mem_cons_of_mem _ inRest, found⟩
  removed := congrArg Nat.succ sound.removed

theorem Walked.apart (sound : Walked event rest walk)
    (distinct : (sids (sub :: rest)).Nodup) : ∀ job ∈ walk.jobs, job.sid ≠ sub.sid := by
  rw [sids, List.map_cons, List.nodup_cons] at distinct
  intro job member same
  exact distinct.1 (same ▸ sound.once.subset (List.mem_map_of_mem member))

theorem Walked.pass (sound : Walked event rest walk) (distinct : (sids (sub :: rest)).Nodup) :
    Walked event (sub :: rest) { walk with subscriptions := sub :: walk.subscriptions } where
  fewer := sound.fewer.cons_cons _
  once := sound.once.cons _
  job job member := by
    obtain ⟨sub', inRest, found⟩ := sound.job job member
    exact ⟨sub', List.mem_cons_of_mem _ inRest, found⟩
  each after member := by
    rcases List.mem_cons.mp member with rfl | later
    · refine ⟨after, List.mem_cons_self .., rfl, .refl ?_⟩
      rintro (⟨job, member, same⟩ | ended | woken)
      · exact sound.apart distinct job member same
      · exact nomatch ended
      · exact nomatch woken
    · obtain ⟨sub', inRest, found⟩ := sound.each after later
      exact ⟨sub', List.mem_cons_of_mem _ inRest, found⟩
  removed := by
    have removed := sound.removed
    simp only [List.length_cons]
    omega

theorem advances_raises {jobs : List NotifyThread} (isActive : sub.active = true)
    (apart : ∀ job ∈ jobs, job.sid ≠ sub.sid) :
    Advances { raised := event.job sub :: jobs } sub sub.raises where
  eventKey := by
    have none : jobs.countP (·.sid = sub.sid) = 0 := by
      rw [List.countP_eq_zero]
      intro job member same
      exact apart job member (by simpa using same)
    have one : (event.job sub :: jobs).countP (·.sid = sub.sid) = 1 := by
      rw [List.countP_cons_of_pos (by simp [Event.job]), none]
    rw [one]
    rfl
  toSend := rfl
  active := by simp [Subscription.raises]
  raisedActive _ := isActive

theorem Walked.raise (isActive : sub.active = true) (sound : Walked event rest walk)
    (distinct : (sids (sub :: rest)).Nodup) :
    Walked event (sub :: rest)
      { walk with
        subscriptions := sub.raises :: walk.subscriptions
        added := event.job sub :: walk.added } where
  fewer := sound.fewer.cons_cons _
  once := sound.once.cons_cons _
  job job member := by
    rcases List.mem_cons.mp member with rfl | later
    · exact ⟨sub, List.mem_cons_self .., isActive, rfl⟩
    · obtain ⟨sub', inRest, found⟩ := sound.job job later
      exact ⟨sub', List.mem_cons_of_mem _ inRest, found⟩
  each after member := by
    rcases List.mem_cons.mp member with rfl | later
    · exact ⟨sub, List.mem_cons_self .., rfl,
        advances_raises isActive (sound.apart distinct)⟩
    · obtain ⟨sub', inRest, same, advances⟩ := sound.each after later
      refine ⟨sub', List.mem_cons_of_mem _ inRest, same, advances.cons ?_⟩
      rw [sids, List.map_cons, List.nodup_cons] at distinct
      intro isFirst
      have first : sub.sid = sub'.sid := isFirst
      exact distinct.1 (first ▸ List.mem_map_of_mem inRest)
  removed := by
    have removed := sound.removed
    simp only [List.length_cons]
    omega

theorem walked_stop (subscriptions : List Subscription) (returnCode : Int) :
    Walked event subscriptions ⟨subscriptions, [], [], 0, returnCode⟩ where
  fewer := .refl _
  once := List.nil_sublist _
  job _ member := absurd member List.not_mem_nil
  each after member := ⟨after, member, rfl, .refl (Advance.not_touches_empty _)⟩
  removed := rfl

theorem walked_refused (isActive : sub.active = true) (distinct : (sids (sub :: rest)).Nodup)
    (returnCode : Int) :
    Walked event (sub :: rest) ⟨sub.raises :: rest, [], [event.job sub], 0, returnCode⟩ := by
  have sound : Walked event (sub :: rest) ⟨sub.raises :: rest, [event.job sub], [], 0, returnCode⟩ :=
    (walked_stop rest returnCode).raise isActive distinct
  exact { fewer := sound.fewer, once := sound.once, job := sound.job, each := sound.each,
          removed := sound.removed }

theorem notifyEach_walked (distinct : (sids rest).Nodup) (attempts : List Attempt) :
    Walked event rest (notifyEach event now noMemoryCode rest attempts) := by
  induction rest generalizing attempts with
  | nil => exact walked_stop [] genaSuccess
  | cons sub rest ih =>
      have later : (sids rest).Nodup := (List.nodup_cons.mp distinct).2
      rw [notifyEach]
      split
      · exact (ih later attempts).skip
      · split
        · next isActive =>
            split
            · exact (ih later attempts.tail).raise isActive distinct
            · exact walked_refused isActive distinct _
            · exact walked_stop _ _
        · exact (ih later attempts).pass distinct

end Walking

section Calls

open GenaSystem

variable {wakes : Prop} {s : GenaSystem} {deviceHandle : Int} {udn servId propertySet : Text}

theorem walked_evolves {d : Device} {service : ServiceInfo} {i : Nat} {event : Event} {walk : Walk}
    (distinct : Distinct s.device) (isDevice : s.device = some d)
    (here : d.serviceTable[i]? = some service)
    (walked : Walked event service.subscriptionList walk) :
    Evolves (Advances { raised := walk.jobs }) s.device (s.setService i walk.write).device := by
  apply evolves_setService isDevice here
  · exact ⟨⟨rfl, rfl, rfl⟩, walked.each, walked.fewer⟩
  · intro j sub elsewhere standing
    apply Advances.refl
    rintro (⟨job, member, same⟩ | ended | woken)
    · obtain ⟨sub', inList, -, rfl⟩ := walked.job job member
      exact elsewhere (distinct.unique standing ⟨d, service, isDevice, here, inList⟩ same.symm).1
    · exact nomatch ended
    · exact nomatch woken

theorem moves_unused (t : GenaSystem) (issued : t.issued = s.issued) (device : t.device = s.device)
    (jobs : t.jobs = s.jobs) (shared : t.shared = s.shared ++ [⟨0, true⟩]) : Moves wakes s t :=
  ⟨issued, {}, device ▸ .same _, .unused jobs shared⟩

theorem moves_walked {d : Device} {service : ServiceInfo} {i : Nat} {walk : Walk} {t : GenaSystem}
    (sound : Sound s) (isDevice : s.device = some d) (isHandle : d.handle = deviceHandle)
    (found : findServiceId d.serviceTable servId udn = some (service, i))
    (walked : Walked ⟨propertySet, servId, udn, s.shared.length, deviceHandle⟩
      service.subscriptionList walk)
    (device : t.device = (s.setService i walk.write).device) (issued : t.issued = s.issued)
    (jobs : t.jobs = s.jobs.raise walk.added walk.refused) {count : Int}
    (isCount : count = walk.added.length + walk.refused.length)
    (shared : t.shared = s.shared ++ [⟨count, count = 0⟩]) : Moves wakes s t := by
  have here := findService_place found
  have evolves := walked_evolves sound.distinct isDevice here walked
  refine ⟨issued, _, device ▸ evolves, .raised _ _ count jobs isCount shared ⟨?_, ?_⟩⟩
  · intro job member
    obtain ⟨sub, inList, isActive, rfl⟩ := walked.job job member
    have standing : Standing s.device i sub := ⟨d, service, isDevice, here, inList⟩
    have leads : Leads s.device servId udn deviceHandle i := ⟨d, service, isDevice, isHandle, found⟩
    exact ⟨rfl, i, sub, ⟨standing, rfl, leads⟩, rfl, isActive⟩
  · exact walked.once.nodup (sound.distinct.service isDevice here)

theorem moves_notifyAll (sound : Sound s) (attempts : List Attempt) (noMemoryCode : Int) :
    Moves wakes s (s.notifyAll deviceHandle udn servId propertySet attempts noMemoryCode).1 := by
  rw [GenaSystem.notifyAll]
  dsimp only
  cases known : s.handleInfo deviceHandle with
  | none => exact moves_unused _ rfl rfl rfl rfl
  | some d =>
      obtain ⟨isDevice, isHandle⟩ := handleInfo_some known
      dsimp only
      cases found : findServiceId d.serviceTable servId udn with
      | none => exact moves_unused _ rfl rfl rfl rfl
      | some place =>
          have distinct := sound.distinct.service isDevice (findService_place found)
          exact moves_walked sound isDevice isHandle found (notifyEach_walked distinct attempts)
            rfl rfl rfl rfl rfl

theorem touches_woken {sid sid' : Text} : Advance.touches { woken := some sid } sid' ↔
    sid' = sid := by
  simp [Advance.touches, eq_comm]

theorem touches_started {job : NotifyThread} {sid' : Text} :
    Advance.touches { raised := [job], woken := some job.sid } sid' ↔ sid' = job.sid := by
  simp [Advance.touches, eq_comm]

theorem advances_woken (sub : Subscription) :
    Advances { woken := some sub.sid } sub (sub.activated 0) where
  eventKey := by simp [Subscription.activated]
  toSend := rfl
  active := by simp [Subscription.activated]
  raisedActive _ := rfl

theorem advances_started {event : Event} {sub : Subscription} (first : sub.eventKey = 0) :
    Advances { raised := [event.job sub], woken := some sub.sid } sub (sub.activated 1) where
  eventKey := by
    have one : [event.job sub].countP (·.sid = sub.sid) = 1 := by simp [Event.job]
    rw [one, Function.iterate_one, Subscription.activated, first]
    rfl
  toSend := rfl
  active := by simp [Subscription.activated]
  raisedActive _ := rfl

theorem standing_updated {d : Device} {service : ServiceInfo} {i : Nat} {sub : Subscription}
    (isDevice : s.device = some d) (here : d.serviceTable[i]? = some service)
    (member : sub ∈ service.subscriptionList) (distinct : (sids service.subscriptionList).Nodup)
    (write : Subscription → Subscription) :
    Standing (s.setService i (·.update sub.sid write)).device i (write sub) := by
  refine ⟨{ d with serviceTable := d.serviceTable.modify i (·.update sub.sid write) },
    service.update sub.sid write, ?_, ?_, ?_⟩
  · rw [setService, isDevice]
    rfl
  · rw [List.getElem?_modify_eq, here]
    rfl
  · rw [ServiceInfo.update]
    generalize service.subscriptionList = subscriptions at member distinct
    induction subscriptions with
    | nil => exact absurd member List.not_mem_nil
    | cons first rest ih =>
        rw [sids, List.map_cons, List.nodup_cons] at distinct
        rw [updateSid]
        rcases List.mem_cons.mp member with rfl | later
        · rw [if_pos rfl]
          exact List.mem_cons_self ..
        · have other : first.sid ≠ sub.sid := by
            intro same
            exact distinct.1 (same ▸ List.mem_map_of_mem later)
          rw [if_neg other]
          exact List.mem_cons_of_mem _ (ih later distinct.2)

def GenaSystem.InitAttempt.raises : InitAttempt → Prop
  | .tries .added | .tries .refused => True
  | .tries .noMemory | .noPropertySet _ => False

def GenaSystem.FindsIdle (s : GenaSystem) (deviceHandle : Int) (udn servId sid : Text) : Prop :=
  ∃ d service i sub, s.handleInfo deviceHandle = some d ∧
    findServiceId d.serviceTable servId udn = some (service, i) ∧
    (service.getSubscriptionSID sid s.now).2 = some sub ∧ sub.active = false

theorem moves_startNotify {d : Device} {service : ServiceInfo} {i : Nat} {sub : Subscription}
    (sound : Sound s) (isDevice : s.device = some d) (isHandle : d.handle = deviceHandle)
    (found : findServiceId d.serviceTable servId udn = some (service, i))
    (member : sub ∈ service.subscriptionList) (isIdle : sub.active = false)
    (attempt : InitAttempt) (reason : ¬ attempt.raises → wakes) :
    Moves wakes s (s.startNotify i ⟨propertySet, servId, udn, s.shared.length, deviceHandle⟩ sub
      attempt).1 := by
  have here := findService_place found
  have distinct := sound.distinct.service isDevice here
  have standing : Standing s.device i sub := ⟨d, service, isDevice, here, member⟩
  have kept (keys : Int) : ∀ sub : Subscription, (sub.activated keys).sid = sub.sid := fun _ => rfl
  have woken := evolves_updated sound.distinct isDevice here member (kept 0)
    (fun _ touched => touches_woken.mp touched) (advances_woken sub)
  have awake := standing_updated isDevice here member distinct (·.activated 0)
  let event : Event := ⟨propertySet, servId, udn, s.shared.length, deviceHandle⟩
  have started := evolves_updated sound.distinct isDevice here member (kept 1)
    (fun _ touched => touches_started.mp touched)
    (advances_started (sound.idle i sub standing isIdle) : Advances
      { raised := [event.job sub], woken := some sub.sid } sub (sub.activated 1))
  have issues : Issues s [event.job sub] false := by
    refine ⟨fun job isJob => ?_, List.nodup_singleton _⟩
    obtain rfl := List.mem_singleton.mp isJob
    have finds : Finds s (event.job sub) i sub :=
      ⟨standing, rfl, ⟨d, service, isDevice, isHandle, found⟩⟩
    exact ⟨rfl, i, sub, finds, rfl, isIdle⟩
  have before : ∃ i sub', Standing s.device i sub' ∧ sub'.sid = sub.sid ∧ sub'.active = false :=
    ⟨i, sub, standing, rfl, isIdle⟩
  cases attempt with
  | noPropertySet returnCode =>
      have wakes := reason id
      exact ⟨rfl, _, woken, .woken sub.sid wakes rfl rfl ⟨i, _, awake, rfl, rfl⟩ before⟩
  | tries attempt =>
      cases attempt with
      | noMemory =>
          have wakes := reason id
          exact ⟨rfl, _, woken, .woken sub.sid wakes rfl rfl ⟨i, _, awake, rfl, rfl⟩ before⟩
      | refused => exact ⟨rfl, _, started, .started (event.job sub) false rfl rfl issues⟩
      | added => exact ⟨rfl, _, started, .started (event.job sub) true rfl rfl issues⟩

theorem moves_rests (t : GenaSystem) (issued : t.issued = s.issued)
    (device : Evolves (Advances {}) s.device t.device) (jobs : t.jobs = s.jobs)
    (shared : t.shared = s.shared) : Moves wakes s t :=
  ⟨issued, {}, device, .rests jobs shared⟩

theorem moves_initNotify {sid : Text} (sound : Sound s) (attempt : InitAttempt)
    (reason : ¬ attempt.raises → s.FindsIdle deviceHandle udn servId sid → wakes) :
    Moves wakes s (s.genaInitNotify deviceHandle udn servId propertySet sid attempt).1 := by
  rw [genaInitNotify]
  cases known : s.handleInfo deviceHandle with
  | none => exact moves_rests _ rfl (.same _) rfl rfl
  | some d =>
      obtain ⟨isDevice, isHandle⟩ := handleInfo_some known
      dsimp only
      cases found : findServiceId d.serviceTable servId udn with
      | none => exact moves_rests _ rfl (.same _) rfl rfl
      | some place =>
          obtain ⟨service, i⟩ := place
          have here := findService_place found
          dsimp only
          cases got : service.getSubscriptionSID sid s.now with
          | mk after answer =>
              cases answer with
              | none =>
                  have evolves := getSubscriptionSID_device sound.distinct isDevice here got
                  exact moves_rests _ rfl evolves rfl rfl
              | some sub =>
                  obtain ⟨-, member, -, -⟩ := ServiceInfo.getSubscriptionSID_some got
                  dsimp only
                  split
                  · exact moves_rests _ rfl (.same _) rfl rfl
                  · next idle =>
                      have isIdle := Bool.eq_false_iff.mpr idle
                      refine moves_startNotify sound isDevice isHandle found member isIdle attempt ?_
                      intro silent
                      exact reason silent ⟨d, service, i, sub, known, found, by rw [got], isIdle⟩

end Calls

theorem Advances.trans_same {sub sub' sub'' : Subscription} (first : Advances {} sub sub')
    (second : Advances {} sub' sub'') : Advances {} sub sub'' := by
  apply Advances.of_same
  · exact second.eventKey.trans first.eventKey
  · exact second.toSend.trans first.toSend
  · have later := second.active
    have earlier := first.active
    simp only [reduceCtorEq, decide_false, Bool.or_false] at later earlier
    exact later.trans earlier

theorem Evolves.trans_same {device device' device'' : Option Device}
    (first : Evolves (Advances {}) device device')
    (second : Evolves (Advances {}) device' device'') :
    Evolves (Advances {}) device device'' where
  each i sub standing := by
    obtain ⟨sub', standing', same, advances⟩ := second.each i sub standing
    obtain ⟨sub'', standing'', same', advances'⟩ := first.each i sub' standing'
    exact ⟨sub'', standing'', same.trans same', advances'.trans_same advances⟩
  leads i sub standing servId udn handle leads := by
    obtain ⟨sub', standing', -, -⟩ := second.each i sub standing
    exact second.leads i sub standing _ _ _ (first.leads i sub' standing' _ _ _ leads)
  distinct distinct := second.distinct (first.distinct distinct)
  active active := second.active (first.active active)

structure Subscribed (s t : GenaSystem) (sid : Text) : Prop where
  jobs : t.jobs = s.jobs
  shared : t.shared = s.shared
  fresh : sid ∉ s.issued
  issued : t.issued = s.issued ++ [sid]
  each : ∀ i sub, Standing t.device i sub → Standing s.device i sub ∨
    sub.sid = sid ∧ sub.eventKey = 0 ∧ sub.toSendEventKey = 0 ∧ sub.active = false
  leads : ∀ i servId udn handle, Leads s.device servId udn handle i →
    Leads t.device servId udn handle i
  distinct : (∀ i sub, Standing s.device i sub → sub.sid ≠ sid) → Distinct s.device →
    Distinct t.device
  active : AllActive s.device → AllActive t.device

section Requests

open GenaSystem

variable {wakes : Prop} {s : GenaSystem} {request : Request} {around : Surroundings}

theorem subscribed_add {d : Device} {service : ServiceInfo} {i : Nat} {t : GenaSystem}
    (sub : Subscription) (isDevice : s.device = some d) (here : d.serviceTable[i]? = some service)
    (fresh : sub.sid ∉ s.issued) (first : sub.eventKey = 0 ∧ sub.toSendEventKey = 0 ∧
      sub.active = false) (device : t.device = (s.setService i (·.add sub)).device)
    (issued : t.issued = s.issued ++ [sub.sid]) (jobs : t.jobs = s.jobs)
    (shared : t.shared = s.shared) : Subscribed s t sub.sid where
  jobs := jobs
  shared := shared
  fresh := fresh
  issued := issued
  each := by
    rw [setService, isDevice, Option.map_some] at device
    rintro j other ⟨d', service', isAfter, there, member⟩
    obtain rfl := Option.some.inj (device.symm.trans isAfter)
    dsimp only at there
    by_cases isHere : i = j
    · subst isHere
      rw [List.getElem?_modify_eq, here] at there
      obtain rfl := Option.some.inj there
      rcases List.mem_cons.mp member with rfl | before
      · exact .inr ⟨rfl, first⟩
      · exact .inl ⟨d, service, isDevice, here, before⟩
    · rw [List.getElem?_modify_ne _ _ isHere] at there
      exact .inl ⟨d, service', isDevice, there, member⟩
  leads := by
    rw [setService, isDevice, Option.map_some] at device
    intro j servId udn handle leads
    rw [leads_iff] at leads ⊢
    obtain ⟨d', isBefore, isHandle, found⟩ := leads
    obtain rfl := Option.some.inj (isDevice.symm.trans isBefore)
    refine ⟨_, device, isHandle, ?_⟩
    exact (findServiceId_modify here ⟨rfl, rfl, rfl⟩ servId udn).trans found
  distinct := by
    rw [setService, isDevice, Option.map_some] at device
    intro apart distinct d' isAfter
    obtain rfl := Option.some.inj (device.symm.trans isAfter)
    rw [(tableSids_add here sub).nodup_iff, List.nodup_cons]
    refine ⟨fun member => ?_, distinct d isDevice⟩
    rw [tableSids, List.mem_flatMap] at member
    obtain ⟨service', inTable, inList⟩ := member
    obtain ⟨j, there⟩ := List.getElem?_of_mem inTable
    obtain ⟨other, isOther, same⟩ := List.mem_map.mp inList
    exact apart j other ⟨d, service', isDevice, there, isOther⟩ same
  active active := device ▸ allActive_setService isDevice here rfl active

theorem subscribed_only (t : GenaSystem) {sid : Text} (fresh : sid ∉ s.issued)
    (device : t.device = s.device) (issued : t.issued = s.issued ++ [sid])
    (jobs : t.jobs = s.jobs) (shared : t.shared = s.shared) : Subscribed s t sid where
  jobs := jobs
  shared := shared
  fresh := fresh
  issued := issued
  each _ _ standing := .inl (device ▸ standing)
  leads _ _ _ _ leads := device ▸ leads
  distinct _ distinct := device ▸ distinct
  active active := device ▸ active

theorem processSubscription_cases (fresh : around.sid ∉ s.issued) :
    (s.processSubscription request around).1 = s ∨
      Subscribed s (s.processSubscription request around).1 around.sid := by
  rw [processSubscription]
  cases request.nt with
  | none => exact .inl rfl
  | some nt =>
      dsimp only
      split
      · exact .inl rfl
      · split
        · exact .inl rfl
        · split
          · exact .inl rfl
          · next d isDevice =>
              split
              · exact .inl rfl
              · next service i found =>
                  split
                  · exact .inl rfl
                  · split
                    · exact .inl rfl
                    · split
                      · exact .inl rfl
                      · exact .inl rfl
                      · split
                        · exact .inr (subscribed_add (newSubscription around.sid _ _ _) isDevice
                            (findService_place found) fresh ⟨rfl, rfl, rfl⟩ rfl rfl rfl rfl)
                        · exact .inr (subscribed_only _ fresh rfl rfl rfl rfl)

theorem evolves_renewed {d : Device} {service : ServiceInfo} {i : Nat} {sub : Subscription}
    (distinct : Distinct s.device) (isDevice : s.device = some d)
    (here : d.serviceTable[i]? = some service) (member : sub ∈ service.subscriptionList)
    (expireTime : Int) :
    Evolves (Advances {}) s.device
      (s.setService i (·.update sub.sid (·.renewed expireTime))).device :=
  evolves_updated distinct isDevice here member (fun _ => rfl)
    (fun sid touched => absurd touched (Advance.not_touches_empty sid)) (.of_same rfl rfl rfl)

theorem evolves_renewed_removed {d : Device} {service : ServiceInfo} {i : Nat}
    {sub : Subscription} (distinct : Distinct s.device) (isDevice : s.device = some d)
    (here : d.serviceTable[i]? = some service) (member : sub ∈ service.subscriptionList)
    (expireTime : Int) :
    Evolves (Advances {}) s.device
      ((s.setService i (·.update sub.sid (·.renewed expireTime))).setService i
        (·.removeSubscriptionSID sub.sid)).device := by
  have renewed := evolves_renewed distinct isDevice here member expireTime
  have after : (s.setService i (·.update sub.sid (·.renewed expireTime))).device =
      some { d with serviceTable :=
        d.serviceTable.modify i (·.update sub.sid (·.renewed expireTime)) } := by
    rw [setService, isDevice]
    rfl
  have there : (d.serviceTable.modify i (·.update sub.sid (·.renewed expireTime)))[i]? =
      some (service.update sub.sid (·.renewed expireTime)) := by
    rw [List.getElem?_modify_eq, here]
    rfl
  exact renewed.trans_same (evolves_removed (renewed.distinct distinct) after there rfl)

theorem moves_renewal (sound : Sound s) : Moves wakes s (s.processRenewal request around).1 := by
  rw [processRenewal]
  split
  · exact moves_rests _ rfl (.same _) rfl rfl
  · split
    · exact moves_rests _ rfl (.same _) rfl rfl
    · next d isDevice =>
        split
        · exact moves_rests _ rfl (.same _) rfl rfl
        · next service i found =>
            have here := findService_place found
            split
            · exact moves_rests _ rfl (.same _) rfl rfl
            · split
              · next after got =>
                  have evolves := getSubscriptionSID_device sound.distinct isDevice here got
                  exact moves_rests _ rfl evolves rfl rfl
              · next after sub got =>
                  obtain ⟨rfl, member, -, -⟩ := ServiceInfo.getSubscriptionSID_some got
                  split
                  · exact moves_rests _ rfl (evolves_removed sound.distinct isDevice here rfl)
                      rfl rfl
                  · dsimp only
                    split
                    · exact moves_rests _ rfl
                        (evolves_renewed sound.distinct isDevice here member _) rfl rfl
                    · exact moves_rests _ rfl
                        (evolves_renewed_removed sound.distinct isDevice here member _) rfl rfl

theorem moves_unsubscribe (sound : Sound s) :
    Moves wakes s (s.processUnsubscribe request around).1 := by
  rw [processUnsubscribe]
  split
  · exact moves_rests _ rfl (.same _) rfl rfl
  · split
    · exact moves_rests _ rfl (.same _) rfl rfl
    · next d isDevice =>
        split
        · exact moves_rests _ rfl (.same _) rfl rfl
        · next service i found =>
            have here := findService_place found
            split
            · exact moves_rests _ rfl (.same _) rfl rfl
            · split
              · next after got =>
                  have evolves := getSubscriptionSID_device sound.distinct isDevice here got
                  exact moves_rests _ rfl evolves rfl rfl
              · exact moves_rests _ rfl (evolves_removed sound.distinct isDevice here rfl) rfl rfl

end Requests

section Steps

variable {s t : GenaSystem}

theorem evolves_map (f : Device → Device) (handle : ∀ d, (f d).handle = d.handle)
    (table : ∀ d, (f d).serviceTable = d.serviceTable) (device : Option Device) :
    Evolves (Advances {}) device (device.map f) := by
  cases device with
  | none => exact .same none
  | some d =>
      refine ⟨?_, ?_, ?_, ?_⟩
      · rintro i sub ⟨d', service, isAfter, here, member⟩
        obtain rfl := Option.some.inj isAfter
        rw [table] at here
        exact ⟨sub, ⟨d, service, rfl, here, member⟩, rfl, .refl (Advance.not_touches_empty _)⟩
      · rintro i sub - servId udn h ⟨d', service, isBefore, isHandle, found⟩
        obtain rfl := Option.some.inj isBefore
        exact ⟨f d, service, rfl, (handle d).trans isHandle, by rw [table, found]⟩
      · intro distinct d' isAfter
        obtain rfl := Option.some.inj isAfter
        rw [table]
        exact distinct d rfl
      · intro active d' isAfter
        obtain rfl := Option.some.inj isAfter
        rw [table]
        exact active d rfl

theorem evolves_without {device : Option Device} (after : Option Device)
    (empty : ∀ d, after = some d → ∀ service ∈ d.serviceTable,
      service.active = true ∧ service.subscriptionList = []) :
    Evolves (Advances {}) device after := by
  apply Evolves.of_none
  · rintro i sub ⟨d, service, isAfter, here, member⟩
    rw [(empty d isAfter service (List.mem_of_getElem? here)).2] at member
    exact List.not_mem_nil member
  · intro d isAfter
    have none : tableSids d.serviceTable = [] := by
      rw [tableSids, List.flatMap_eq_nil_iff]
      intro service member
      rw [(empty d isAfter service member).2]
      rfl
    rw [none]
    exact List.nodup_nil
  · exact fun d isAfter service member => (empty d isAfter service member).1

def GenaAction.WakesOnly (s : GenaSystem) (action : GenaAction) : Prop :=
  ∃ deviceHandle udn servId propertySet sid attempt,
    action = .initNotify deviceHandle udn servId propertySet sid attempt ∧ ¬ attempt.raises ∧
      s.FindsIdle deviceHandle udn servId sid

theorem genaStep_cases (sound : Sound s) {action : GenaAction} (step : GenaStep s action t) :
    Moves (action.WakesOnly s) s t ∨ ∃ sid, Subscribed s t sid := by
  have taken : action.exec s = some (.ok t) := step
  cases action with
  | registerDevice handle table =>
      simp only [GenaAction.exec, Option.ite_none_right_eq_some, Option.some.injEq,
        Except.ok.injEq] at taken
      obtain ⟨⟨-, fresh⟩, rfl⟩ := taken
      refine .inl (moves_rests _ rfl (evolves_without _ ?_) rfl rfl)
      intro d isAfter service member
      obtain rfl := Option.some.inj isAfter
      have checked := List.all_eq_true.mp fresh service member
      simp only [Bool.and_eq_true, List.isEmpty_iff] at checked
      exact checked.1
  | unregisterDevice =>
      obtain rfl := Except.ok.inj (Option.some.inj taken)
      refine .inl (moves_rests _ rfl (evolves_without _ ?_) rfl rfl)
      intro d isAfter service member
      obtain ⟨d', -, rfl⟩ := Option.map_eq_some_iff.mp isAfter
      exact absurd member List.not_mem_nil
  | freeHandle =>
      obtain rfl := Except.ok.inj (Option.some.inj taken)
      exact .inl (moves_rests _ rfl (evolves_without _ (by simp)) rfl rfl)
  | setMaxSubscriptions n =>
      simp only [GenaAction.exec, Option.ite_none_right_eq_some, Option.some.injEq,
        Except.ok.injEq] at taken
      obtain ⟨-, rfl⟩ := taken
      have evolves := evolves_map (fun device => { device with maxSubscriptions := n })
        (fun _ => rfl) (fun _ => rfl) s.device
      exact .inl (moves_rests _ rfl evolves rfl rfl)
  | setMaxSubscriptionTimeOut n =>
      simp only [GenaAction.exec, Option.ite_none_right_eq_some, Option.some.injEq,
        Except.ok.injEq] at taken
      obtain ⟨-, rfl⟩ := taken
      have evolves := evolves_map (fun device => { device with maxSubscriptionTimeOut := n })
        (fun _ => rfl) (fun _ => rfl) s.device
      exact .inl (moves_rests _ rfl evolves rfl rfl)
  | subscribe request around =>
      simp only [GenaAction.exec, List.contains_iff_mem, Option.ite_none_left_eq_some,
        Option.some.injEq, Except.ok.injEq] at taken
      obtain ⟨fresh, rfl⟩ := taken
      rw [GenaSystem.processSubscribe]
      split
      · exact .inl (moves_renewal sound)
      · rcases processSubscription_cases fresh with same | subscribed
        · rw [same]
          exact .inl (moves_rests _ rfl (.same _) rfl rfl)
        · exact .inr ⟨_, subscribed⟩
  | unsubscribe request around =>
      obtain rfl := Except.ok.inj (Option.some.inj taken)
      exact .inl (moves_unsubscribe sound)
  | initNotify deviceHandle udn servId propertySet sid attempt =>
      obtain rfl := Except.ok.inj (Option.some.inj taken)
      refine .inl (moves_initNotify sound attempt fun silent idle => ?_)
      exact ⟨deviceHandle, udn, servId, propertySet, sid, attempt, rfl, silent, idle⟩
  | notifyAll deviceHandle udn servId vars attempts =>
      obtain rfl := Except.ok.inj (Option.some.inj taken)
      exact .inl (moves_notifyAll sound attempts _)
  | notifyAllExt deviceHandle udn servId propSet attempts =>
      obtain rfl := Except.ok.inj (Option.some.inj taken)
      exact .inl (moves_notifyAll sound attempts _)
  | begin k supply =>
      obtain ⟨input, waits, begun⟩ := Option.map_eq_some_iff.mp taken
      exact .inl (moves_begin sound waits begun)
  | finish k transmit =>
      obtain ⟨job, sends, ended⟩ := Option.map_eq_some_iff.mp taken
      exact .inl (moves_finish sound sends ended)
  | discard k =>
      obtain ⟨input, waits, lost⟩ := Option.map_eq_some_iff.mp taken
      exact .inl (moves_lost waits lost (.same _) rfl rfl rfl)
  | tick now =>
      simp only [GenaAction.exec, Option.ite_none_right_eq_some, Option.some.injEq,
        Except.ok.injEq] at taken
      obtain ⟨-, rfl⟩ := taken
      exact .inl (moves_rests _ rfl (.same _) rfl rfl)

end Steps

end Libdlna.Gena
