import Libdlna.Vfs.Tree

set_option autoImplicit false

/-!
# Object ids identify items

Ids are drawn from a generator or chosen by the caller, and stay distinct until the checksums of a
path run into the last id below `UINT_MAX`.
-/

namespace Libdlna

open CString Dlna Runs

variable {d after : Dlna} {item : VfsItem} {parent : Ref} {id : UInt32}

def IdsDistinct (d : Dlna) : Prop := (d.registered.map d.idOf).Nodup

def Fetched (d : Dlna) (call : Call) (after : Dlna) : Prop :=
  ∀ id, call.exec d = .ok (id, after) → d.heap.length ∈ after.registered →
    vfsGetItemById after id = some d.heap.length

structure Registers (d : Dlna) (id : UInt32) (after : Dlna) : Prop where
  registered : after.registered = d.registered ++ [d.heap.length]
  new : after.idOf d.heap.length = some id
  old : ∀ r, r < d.heap.length → after.idOf r = d.idOf r

theorem Placed.registers (placed : Placed d item parent after) : Registers d item.id after where
  registered := placed.registered
  new := by simp [idOf, placed.added]
  old := by
    intro r old
    by_cases isParent : r = parent
    · obtain ⟨holder, box, updateID, isContainer, -, there⟩ := placed.listed
      simp [idOf, isParent, there, isContainer.1]
    · simp [idOf, placed.others r old.ne isParent]

theorem SelfParented.registers (adopted : SelfParented d item after) :
    Registers d item.id after where
  registered := adopted.registered
  new := by simp [idOf, adopted.added]
  old := fun r old => by simp [idOf, adopted.others r old.ne]

namespace Registers

variable (registers : Registers d id after)
include registers

theorem fetches : vfsGetItemById after id = some d.heap.length := by
  have newest := KeyedTable.find_append_same after.idOf d.registered d.heap.length
  rw [← registers.registered, registers.new] at newest
  exact newest

theorem idsDistinct_iff (allocated : Allocated d) :
    IdsDistinct after ↔ IdsDistinct d ∧ vfsIsIdRegistered d id = false := by
  have same : d.registered.map after.idOf = d.registered.map d.idOf :=
    List.map_congr_left fun r old => registers.old r (allocated.registered r old)
  have free : vfsIsIdRegistered d id = false ↔ some id ∉ d.registered.map d.idOf := by
    rw [← Bool.not_eq_true, vfsIsIdRegistered_iff, List.mem_map]
  rw [IdsDistinct, registers.registered, List.map_append, same, List.map_singleton, registers.new,
    free, IdsDistinct]
  simp [List.nodup_append]

end Registers

def BoundedStep (d : Dlna) (call : Call) (after : Dlna) : Prop :=
  AdditionStep d call after ∧ after.registered.length < 2 ^ 31

/-- The checksums of an accepted file end at the last id, and the id used instead is taken. -/
def Clashes (d : Dlna) : Call → Prop
  | .addResource _ fullpath _ probe =>
      ProbesTo d fullpath (startId d.mode) .exhausted ∧
        vfsIsIdRegistered d (startId d.mode - 1) = true ∧
        (d.db.isSome ∨ probe.profile.isSome)
  | _ => False

structure Identified (d : Dlna) : Prop where
  allocated : Allocated d
  nonempty : d.registered ≠ []
  distinct : IdsDistinct d

inductive Addition (d : Dlna) (call : Call) (after : Dlna) : Prop where
  | registers (id : UInt32) (granted : ∀ other, call.exec d = .ok (other, after) → other = id)
      (fresh : ¬ Clashes d call → vfsIsIdRegistered d id = false)
      (taken : Clashes d call → vfsIsIdRegistered d id = true)
      (added : Registers d id after)
  | none (sound : ¬ Clashes d call) (registered : after.registered = d.registered)
      (ids : ∀ r ∈ d.registered, after.idOf r = d.idOf r)

theorem vfsResourceItem_accepted {fullpath : Text} {probe : Probe} {made : Option DlnaItem}
    {between : Dlna} (answered : vfsResourceItem d id fullpath probe = .ok (made, between)) :
    made ≠ none ↔ (d.db.isSome ∨ probe.profile.isSome) := by
  unfold vfsResourceItem at answered
  cases store : d.db with
  | none =>
      simp only [store, Except.ok.injEq, Prod.mk.injEq] at answered
      cases accepted : probe.profile <;> simp [← answered.1, dlnaItemNew, accepted]
  | some db =>
      simp only [store] at answered
      split at answered
      · simp only [Except.ok.injEq, Prod.mk.injEq] at answered
        simp [← answered.1]
      · obtain ⟨⟨changed, status⟩, written, rest⟩ := Outcome.bind_ok.mp answered
        simp only [Except.ok.injEq, Prod.mk.injEq] at rest
        rw [rest.1] at written
        cases made with
        | none => simp [dmsDbAdd] at written
        | some item => simp

theorem exec_unique {call : Call} {other : UInt32} (one : call.exec d = .ok (id, after))
    (two : call.exec d = .ok (other, after)) : id = other := by
  rw [one] at two
  exact (Prod.mk.inj (Except.ok.inj two)).1

section Additions

variable (allocated : Allocated d) (nonempty : d.registered ≠ []) {name : Text} {granted : UInt32}
include allocated nonempty

theorem dlnaVfsAddContainer_addition {objectId containerId : UInt32}
    (executed : dlnaVfsAddContainer d name objectId containerId = .ok (granted, after))
    (few : after.registered.length < 2 ^ 31) :
    Allocated after ∧ Addition d (.addContainer name objectId containerId) after := by
  have empty : ∀ box, (containerItem granted name).body.box? = some box → box = ⟨[], 0, 0⟩ :=
    fun box body => (Option.some.inj body).symm
  obtain ⟨provided, outcome⟩ := dlnaVfsAddContainer_ok allocated nonempty executed
  have added : Allocated after ∧ Registers d granted after := by
    rcases outcome with ⟨-, parent, -, placed⟩ | ⟨-, adopted⟩
    · exact ⟨allocated.placed placed empty, placed.registers⟩
    · exact ⟨allocated.selfParented adopted empty, adopted.registers⟩
  have fewer : d.registered.length < 2 ^ 31 := by
    rw [added.2.registered, List.length_append] at few
    omega
  refine ⟨added.1, .registers granted ?_ (fun _ => vfsContainerId_free nonempty fewer provided)
    (fun clash => clash.elim) added.2⟩
  exact fun other again => exec_unique again executed

theorem dlnaVfsAddResource_addition {fullpath : Text} {containerId : UInt32} {probe : Probe}
    (executed : dlnaVfsAddResource d name fullpath containerId probe = .ok (granted, after)) :
    Allocated after ∧ Addition d (.addResource name fullpath containerId probe) after := by
  obtain ⟨id, item, between, provided, answered, outcome⟩ :=
    dlnaVfsAddResource_ok allocated nonempty executed
  have accepted := vfsResourceItem_accepted answered
  rcases outcome with ⟨isNone, -, rejected⟩ | ⟨rfl, isSome, -, parent, -, placed⟩
  · refine ⟨rejected.allocated allocated, .none ?_ rejected.registered ?_⟩
    · rintro ⟨-, -, files⟩
      exact accepted.mpr files isNone
    · intro r member
      simp [idOf, rejected.others r (allocated.registered r member).ne]
  · refine ⟨allocated.placed placed (by simp [resourceItem, VfsBody.box?]),
      .registers granted ?_ ?_ ?_ placed.registers⟩
    · exact fun other again => exec_unique again executed
    · intro sound
      -- a probe sequence that runs out is harmless while start - 1 is free
      rcases vfsProvideNextId_some nonempty provided with ⟨-, -, free, -⟩ | ⟨limit, isStart⟩
      · exact free
      · by_contra taken
        rw [Bool.not_eq_false, isStart] at taken
        exact sound ⟨limit, taken, accepted.mp isSome⟩
    · rintro ⟨limit, taken, -⟩
      rcases vfsProvideNextId_some nonempty provided with found | ⟨-, isStart⟩
      · exact absurd (probesTo_unique found limit) (by simp)
      · rw [isStart]
        exact taken

theorem boundedStep_addition {call : Call} (taken : BoundedStep d call after) :
    Allocated after ∧ Addition d call after := by
  obtain ⟨⟨isAddition, granted, executed⟩, few⟩ := taken
  cases call with
  | addContainer name objectId containerId =>
      exact dlnaVfsAddContainer_addition allocated nonempty executed few
  | addResource name fullpath containerId probe =>
      exact dlnaVfsAddResource_addition allocated nonempty executed
  | setCapabilityMode mode =>
      simp only [Call.exec, Except.ok.injEq, Prod.mk.injEq] at executed
      obtain ⟨-, rfl⟩ := executed
      exact ⟨⟨allocated.registered, allocated.children⟩, .none (fun clash => clash) rfl
        fun _ _ => rfl⟩
  | removeItemById id => simp [Call.isAddition] at isAddition
  | removeItemByTitle name => simp [Call.isAddition] at isAddition

end Additions

theorem Identified.step (identified : Identified d) {call : Call}
    (taken : BoundedStep d call after) (sound : ¬ Clashes d call) : Identified after := by
  obtain ⟨allocated, addition⟩ := boundedStep_addition identified.allocated identified.nonempty taken
  cases addition with
  | registers id granted fresh clash added =>
      exact ⟨allocated, by simp [added.registered],
        (added.idsDistinct_iff identified.allocated).mpr ⟨identified.distinct, fresh sound⟩⟩
  | none sound registered ids =>
      refine ⟨allocated, by rw [registered]; exact identified.nonempty, ?_⟩
      rw [IdsDistinct, registered, List.map_congr_left ids]
      exact identified.distinct

theorem not_idsDistinct_of_clash (identified : Identified d) {call : Call}
    (taken : BoundedStep d call after) (clash : Clashes d call) : ¬ IdsDistinct after := by
  obtain ⟨-, addition⟩ := boundedStep_addition identified.allocated identified.nonempty taken
  cases addition with
  | registers id granted fresh taken added =>
      intro distinct
      have free := ((added.idsDistinct_iff identified.allocated).mp distinct).2
      simp [taken clash] at free
  | none sound registered ids => exact absurd clash sound

theorem Identified.fetched (identified : Identified d) {call : Call}
    (taken : BoundedStep d call after) : Fetched d call after := by
  intro id executed inTable
  obtain ⟨-, addition⟩ := boundedStep_addition identified.allocated identified.nonempty taken
  cases addition with
  | registers other granted fresh taken added =>
      rw [granted id executed]
      exact added.fetches
  | none sound registered ids =>
      rw [registered] at inTable
      exact absurd (identified.allocated.registered _ inTable) (Nat.lt_irrefl _)

theorem dlnaStart_identified (getMediaProfile : Text → Option DlnaProfile) (db : Option Store) :
    Identified (dlnaStart getMediaProfile db) :=
  ⟨(dlnaStart_vfsTree getMediaProfile db).allocated, (dlnaStart_vfsTree getMediaProfile db).nonempty,
    by simp [IdsDistinct, dlnaStart, dlnaInit]⟩

theorem ids_identify_iff (getMediaProfile : Text → Option DlnaProfile) (db : Option Store)
    (calls : List Call) :
    (Throughout BoundedStep IdsDistinct (dlnaStart getMediaProfile db) calls ∧
        Along BoundedStep Fetched (dlnaStart getMediaProfile db) calls) ↔
      Along BoundedStep (fun d call _ => ¬ Clashes d call) (dlnaStart getMediaProfile db) calls := by
  have initial := dlnaStart_identified getMediaProfile db
  have distinctness : Throughout BoundedStep IdsDistinct (dlnaStart getMediaProfile db) calls ↔
      Along BoundedStep (fun d call _ => ¬ Clashes d call) (dlnaStart getMediaProfile db) calls :=
    throughout_iff_along (fun d (identified : Identified d) => identified.distinct)
      (fun d call after identified taken sound => identified.step taken sound)
      (fun d call after identified taken clash =>
        not_idsDistinct_of_clash identified taken (not_not.mp clash)) initial calls
  refine ⟨fun both => distinctness.mp both.1, fun sound => ⟨distinctness.mpr sound, ?_⟩⟩
  exact along_of_invariant (fun d call after identified sound taken => identified.step taken sound)
    (fun d call after identified sound taken => identified.fetched taken) initial sound

def limitCalls : List Call :=
  [.addContainer "a".toList 0xFFFFFFFE 0,
    .addResource "b".toList "/bcari3k.mp3".toList 0xFFFFFFFE mp3Probe]

def limitTaken : Dlna :=
  { dlnaStart (fun _ => none) none with
    heap :=
      [{ rootItem with body := .container ⟨[1], 1, 1⟩ },
        { containerItem 0xFFFFFFFE "a".toList with parent := some 0 }]
    registered := [0, 1]
    vfsItems := 1 }

theorem limitTaken_reached : BoundedStep (dlnaStart (fun _ => none) none)
    (.addContainer "a".toList 0xFFFFFFFE 0) limitTaken :=
  ⟨⟨rfl, 0xFFFFFFFE, rfl⟩, by decide⟩

/-- The checksum of the path is `0xFFFFFFFE`, so the file gets the id of the root. -/
theorem ids_clash_at_limit :
    ¬ (Throughout BoundedStep IdsDistinct (dlnaStart (fun _ => none) none) limitCalls ∧
        Along BoundedStep Fetched (dlnaStart (fun _ => none) none) limitCalls) := by
  rintro ⟨⟨-, later⟩, -⟩
  have identified : Identified limitTaken :=
    (dlnaStart_identified _ _).step limitTaken_reached fun clash => clash
  have clash : Clashes limitTaken
      (.addResource "b".toList "/bcari3k.mp3".toList 0xFFFFFFFE mp3Probe) := by
    refine ⟨⟨0, by decide +kernel, ?_, by simp⟩, by decide +kernel, by simp [mp3Probe]⟩
    intro j within
    rw [Nat.le_zero.mp within]
    decide +kernel
  -- the call ends, with the id 0 that the root has
  have returns : (dlnaVfsAddResource limitTaken "b".toList "/bcari3k.mp3".toList 0xFFFFFFFE
      mp3Probe).isOk = true := by
    decide +kernel
  obtain ⟨⟨id, after⟩, executed⟩ := Outcome.of_isOk returns
  have few : after.registered.length < 2 ^ 31 := by
    rcases (dlnaVfsAddResource_addition identified.allocated identified.nonempty executed).2 with
      ⟨_, _, _, _, added⟩ | ⟨_, registered, _⟩
    · rw [added.registered]
      decide
    · rw [registered]
      decide
  have taken : BoundedStep limitTaken
      (.addResource "b".toList "/bcari3k.mp3".toList 0xFFFFFFFE mp3Probe) after :=
    ⟨⟨rfl, id, executed⟩, few⟩
  exact not_idsDistinct_of_clash identified taken clash
    ((later limitTaken limitTaken_reached).2 after taken).head

end Libdlna
