import Libdlna.Vfs.Reachable

set_option autoImplicit false

/-!
# Parents

A parent is looked up by id among all items. Both functions that add one then write to the container
part of its union.
-/

namespace Libdlna

open CString Dlna Runs

variable {d after : Dlna} {r : Ref} {item : VfsItem} {id containerId : UInt32}

theorem readItem_live {content : VfsItem} (found : d.heap[r]? = some content)
    (live : content.freed = false) : Dlna.readItem d r = .ok content := by
  simp [Dlna.readItem, found, live]

theorem vfsBumpUpdateID_wrong_iff {content : VfsItem} (found : d.heap[r]? = some content)
    (live : content.freed = false) :
    vfsBumpUpdateID d r = .error .wrongUnionMember ↔ d.containerOf r = none := by
  have isBody : d.containerOf r = content.body.box? := by simp [Dlna.containerOf, found]
  rw [vfsBumpUpdateID, readItem_live found live, isBody]
  cases body : content.body with
  | resource dlnaItem cnv => simp [Bind.bind, Except.bind, body, VfsBody.box?]
  | container box => simp [Bind.bind, Except.bind, body, VfsBody.box?]

theorem readItem_notWrong : Dlna.readItem d r ≠ .error .wrongUnionMember := by
  intro wrong
  unfold Dlna.readItem at wrong
  split at wrong
  · cases wrong
  · split at wrong <;> cases wrong

theorem vfsItemAddChild_wrong {child : Ref}
    (wrong : vfsItemAddChild d r child = .error .wrongUnionMember) : d.containerOf r = none := by
  obtain ⟨content, read, failed⟩ := (Outcome.bind_error_later readItem_notWrong).mp wrong
  have found := (readItem_ok read).1
  cases body : content.body with
  | resource dlnaItem cnv => simp [Dlna.containerOf, found, body, VfsBody.box?]
  | container box =>
      simp only [body] at failed
      split at failed
      · cases failed
      · split at failed <;> cases failed

theorem vfsItemAddChild_bind_notWrong {A : Type} {child : Ref} {next : Dlna → A}
    (isContainer : d.containerOf r ≠ none) :
    (vfsItemAddChild d r child >>= fun after => .ok (next after)) ≠ .error .wrongUnionMember :=
  Outcome.bind_ne_error (fun wrong => isContainer (vfsItemAddChild_wrong wrong)) fun _ => by simp

theorem dlnaItemFree_notWrong {dlnaItem : DlnaItem} :
    dlnaItemFree dlnaItem ≠ .error .wrongUnionMember := by
  intro wrong
  unfold dlnaItemFree at wrong
  split at wrong
  · cases wrong
  · split at wrong <;> cases wrong

theorem hashDel_notWrong : d.hashDel r ≠ .error .wrongUnionMember := by
  intro wrong
  unfold hashDel at wrong
  split at wrong <;> cases wrong

theorem vfsItemFree_notWrong {fuel : Nat} : vfsItemFree fuel d r ≠ .error .wrongUnionMember := by
  induction fuel generalizing d r with
  | zero => simp [vfsItemFree]
  | succ fuel ih =>
      by_cases empty : d.registered = []
      · simp [vfsItemFree, empty]
      · rw [vfsItemFree_eq empty]
        refine Outcome.bind_ne_error readItem_notWrong fun content => ?_
        refine Outcome.bind_ne_error hashDel_notWrong fun deleted => ?_
        refine Outcome.bind_ne_error (fun failed => ?_) fun emptied => by simp
        cases body : content.body with
        | resource dlnaItem cnv =>
            rw [body] at failed
            cases dlnaItem with
            | none => cases failed
            | some dlnaItem =>
                -- its profile is followed, and no union
                exact dlnaItemFree_notWrong (Outcome.map_error.mp failed)
        | container box =>
            rw [body] at failed
            obtain ⟨s, c, -, below⟩ := Outcome.foldlM_error failed
            exact ih below

def NamesNoResource (d : Dlna) (containerId : UInt32) : Prop :=
  ∀ r, vfsGetItemById d containerId = some r → d.containerOf r ≠ none

/-- The new item is registered before its parent is looked up, so its own id leads to itself. -/
theorem vfsSetParent_wrong_iff (table : VfsTable d) (fresh : item.freed = false) :
    vfsSetParent (d.hashAdd item).2 d.heap.length containerId = .error .wrongUnionMember ↔
      (containerId = item.id ∧ item.body.box? = none) ∨
        (containerId ≠ item.id ∧ ¬ NamesNoResource d containerId) := by
  unfold vfsSetParent
  rw [vfsGetItemById_hashAdd table.allocated]
  by_cases same : containerId = item.id
  · have isBody : (d.hashAdd item).2.containerOf d.heap.length = item.body.box? := by
      simp [Dlna.containerOf, hashAdd_new]
    simp only [same, if_true, Outcome.bind_error,
      vfsBumpUpdateID_wrong_iff hashAdd_new fresh, isBody]
    simp
  · rw [if_neg same]
    cases found : vfsGetItemById d containerId with
    | none =>
        have nobody : NamesNoResource d containerId := by simp [NamesNoResource, found]
        have notEmpty : (d.hashAdd item).2.vfsRoot ≠ none := by simp [Dlna.vfsRoot, hashAdd]
        obtain ⟨root, isRoot⟩ := Option.ne_none_iff_exists'.mp notEmpty
        simp [isRoot, same, nobody]
    | some known =>
        have member := vfsGetItemById_mem found
        obtain ⟨content, there, live⟩ := table.live known member
        have kept : (d.hashAdd item).2.heap[known]? = d.heap[known]? :=
          hashAdd_lookup (table.allocated.registered known member).ne
        have sameBox : (d.hashAdd item).2.containerOf known = d.containerOf known := by
          simp [Dlna.containerOf, kept]
        have isNamed : NamesNoResource d containerId ↔ d.containerOf known ≠ none := by
          simp [NamesNoResource, found]
        simp only [Outcome.bind_error, vfsBumpUpdateID_wrong_iff (kept.trans there) live, sameBox,
          isNamed]
        simp [same]

theorem vfsSetParent_container (table : VfsTable d) {parent : Ref}
    (alone : d.registered = [] → item.body.box? ≠ none)
    (set : vfsSetParent (d.hashAdd item).2 d.heap.length containerId = .ok (parent, after)) :
    after.containerOf parent ≠ none := by
  rcases vfsSetParent_ok set with ⟨-, bumped, bump, rfl⟩ | ⟨-, isRoot, rfl⟩
  · obtain ⟨content, box, isContainer, -⟩ := vfsBumpUpdateID_ok bump
    rw [withParent_containerOf, vfsBumpUpdateID_containerOf bump isContainer.containerOf]
    exact Option.some_ne_none _
  · rw [withParent_containerOf]
    by_cases empty : d.registered = []
    -- the new item is the root
    · obtain rfl : d.heap.length = parent := by
        simpa [Dlna.vfsRoot, hashAdd, empty] using isRoot
      simpa [Dlna.containerOf, hashAdd_new] using alone empty
    · rw [vfsRoot_hashAdd empty] at isRoot
      obtain ⟨content, box, isContainer⟩ := table.root_container isRoot
      have older := table.allocated.registered parent (List.mem_of_mem_head? isRoot)
      simp [Dlna.containerOf, hashAdd_lookup older.ne, isContainer.1, isContainer.2.2,
        VfsBody.box?]

theorem vfsProvideNextId_notWrong {fullpath : Option Text} :
    vfsProvideNextId d fullpath ≠ .error .wrongUnionMember := by
  intro wrong
  unfold vfsProvideNextId at wrong
  dsimp only at wrong
  split at wrong
  · cases wrong
  · split at wrong <;> cases wrong

theorem vfsContainerId_notWrong {objectId : UInt32} :
    vfsContainerId d objectId ≠ .error .wrongUnionMember := by
  intro wrong
  unfold vfsContainerId at wrong
  split at wrong
  · exact vfsProvideNextId_notWrong wrong
  · cases wrong

theorem dlnaVfsAddContainer_wrong_iff (table : VfsTable d) {name : Text} {objectId : UInt32} :
    dlnaVfsAddContainer d name objectId containerId = .error .wrongUnionMember ↔
      ∃ id, vfsContainerId d objectId = .ok id ∧ containerId ≠ id ∧
        ¬ NamesNoResource d containerId := by
  have wrongParent (id : UInt32) :
      vfsSetParent (d.hashAdd (containerItem id name)).2 d.heap.length containerId =
        .error .wrongUnionMember ↔ containerId ≠ id ∧ ¬ NamesNoResource d containerId := by
    rw [vfsSetParent_wrong_iff table rfl]
    simp [containerItem, VfsBody.box?]
  constructor
  · intro wrong
    obtain ⟨id, provided, rest⟩ := (Outcome.bind_error_later vfsContainerId_notWrong).mp wrong
    rcases Outcome.bind_error.mp rest with failed | ⟨⟨parent, set⟩, setParent, rest⟩
    · exact ⟨id, provided, (wrongParent id).mp failed⟩
    · have isBox : d.registered = [] → (containerItem id name).body.box? ≠ none :=
        fun _ => Option.some_ne_none _
      have isContainer := vfsSetParent_container table isBox setParent
      dsimp only at rest
      split at rest
      · exact absurd rest (vfsItemAddChild_bind_notWrong isContainer)
      · cases rest
  · rintro ⟨id, provided, named⟩
    exact Outcome.bind_error.mpr (.inr ⟨id, provided,
      Outcome.bind_error.mpr (.inl ((wrongParent id).mpr named))⟩)

theorem dmsDbAdd_notWrong {db : Store} {dlnaItem : Option DlnaItem} :
    dmsDbAdd db id dlnaItem ≠ .error .wrongUnionMember := by
  intro wrong
  simp only [dmsDbAdd] at wrong
  repeat' split at wrong
  all_goals cases wrong

theorem vfsResourceItem_notWrong {fullpath : Text} {probe : Probe} :
    vfsResourceItem d id fullpath probe ≠ .error .wrongUnionMember := by
  intro wrong
  unfold vfsResourceItem at wrong
  split at wrong
  · cases wrong
  · split at wrong
    · cases wrong
    · exact Outcome.bind_ne_error dmsDbAdd_notWrong (fun stored => by simp) wrong

theorem dlnaVfsAddResource_wrong_iff (table : VfsTable d) {name fullpath : Text} {probe : Probe} :
    dlnaVfsAddResource d name fullpath containerId probe = .error .wrongUnionMember ↔
      d.registered ≠ [] ∧ ∃ id item between, vfsProvideNextId d (some fullpath) = .ok id ∧
        vfsResourceItem d id fullpath probe = .ok (some item, between) ∧
          (containerId = id ∨ ¬ NamesNoResource d containerId) := by
  by_cases empty : d.registered = []
  · simp [dlnaVfsAddResource, empty]
  have stored (db : Option Store) : VfsTable { d with db := db } := table.idle rfl rfl
  have wrongParent (db : Option Store) (id : UInt32) (item : DlnaItem) :
      vfsSetParent ({ d with db := db }.hashAdd (resourceItem id name (some item))).2
          d.heap.length containerId = .error .wrongUnionMember ↔
        containerId = id ∨ ¬ NamesNoResource d containerId := by
    refine (vfsSetParent_wrong_iff (stored db) rfl).trans ?_
    have sameNames : NamesNoResource { d with db := db } containerId ↔
        NamesNoResource d containerId := Iff.rfl
    rw [sameNames]
    simp only [resourceItem, VfsBody.box?, and_true]
    tauto
  rw [dlnaVfsAddResource, if_neg empty]
  constructor
  · intro wrong
    refine ⟨empty, ?_⟩
    obtain ⟨id, provided, rest⟩ := (Outcome.bind_error_later vfsProvideNextId_notWrong).mp wrong
    obtain ⟨⟨item, between⟩, answered, rest⟩ :=
      (Outcome.bind_error_later vfsResourceItem_notWrong).mp rest
    obtain ⟨db, rfl⟩ := vfsResourceItem_ok answered
    dsimp only at rest
    cases item with
    | none =>
        rw [if_pos rfl] at rest
        exact absurd rest (Outcome.bind_ne_error vfsItemFree_notWrong fun freed => by simp)
    | some item =>
        rw [if_neg (Option.some_ne_none item)] at rest
        refine ⟨id, item, _, provided, answered, (wrongParent db id item).mp ?_⟩
        rcases Outcome.bind_error.mp rest with failed | ⟨⟨parent, set⟩, setParent, rest⟩
        · exact failed
        · have isContainer := vfsSetParent_container (stored db)
            (fun none => absurd none empty) setParent
          exact absurd rest (vfsItemAddChild_bind_notWrong isContainer)
  · rintro ⟨-, id, item, between, provided, answered, named⟩
    obtain ⟨db, rfl⟩ := vfsResourceItem_ok answered
    refine Outcome.bind_error.mpr (.inr ⟨id, provided, Outcome.bind_error.mpr (.inr
      ⟨_, answered, ?_⟩)⟩)
    dsimp only
    rw [if_neg (Option.some_ne_none item)]
    exact Outcome.bind_error.mpr (.inl ((wrongParent db id item).mpr named))

structure ParentsAreContainers (d : Dlna) (call : Call) : Prop where
  typed : call.exec d ≠ .error .wrongUnionMember
  parent : ∀ id after, call.exec d = .ok (id, after) → ∀ r ∈ after.registered,
    r ∉ d.registered → ∃ p box, after.parentOf r = some p ∧ p ∈ after.registered ∧
      after.containerOf p = some box

/-- What `container_id` has to avoid: resources, and the id that the new resource gets. -/
def NamesContainer (d : Dlna) : Call → Prop
  | .addContainer _ objectId containerId =>
      ∀ id, vfsContainerId d objectId = .ok id → containerId = id ∨ NamesNoResource d containerId
  | .addResource _ fullpath containerId probe =>
      d.registered ≠ [] → ∀ id item between, vfsProvideNextId d (some fullpath) = .ok id →
        vfsResourceItem d id fullpath probe = .ok (some item, between) →
          containerId ≠ id ∧ NamesNoResource d containerId
  | _ => True

theorem exec_wrong_iff (table : VfsTable d) {call : Call} :
    call.exec d = .error .wrongUnionMember ↔ ¬ NamesContainer d call := by
  cases call with
  | addContainer name objectId containerId =>
      refine (dlnaVfsAddContainer_wrong_iff table).trans ?_
      simp [NamesContainer]
  | addResource name fullpath containerId probe =>
      refine (dlnaVfsAddResource_wrong_iff table).trans ?_
      simp only [NamesContainer]
      push Not
      refine and_congr_right fun _ => exists₃_congr fun id item between =>
        and_congr_right fun _ => and_congr_right fun _ => ?_
      tauto
  | removeItemById id =>
      simp only [Call.exec, NamesContainer, Outcome.map_error, not_true, iff_false]
      unfold dlnaVfsRemoveItemById dlnaVfsRemove
      split
      · simp
      · exact vfsItemFree_notWrong
  | removeItemByTitle name =>
      simp only [Call.exec, NamesContainer, Outcome.map_error, not_true, iff_false]
      unfold dlnaVfsRemoveItemByTitle dlnaVfsRemove
      split
      · simp
      · exact vfsItemFree_notWrong
  | setCapabilityMode mode => simp [Call.exec, NamesContainer]

theorem callStep_parent (table : VfsTable d) {call : Call} (taken : CallStep d call after)
    (member : r ∈ after.registered) (isNew : r ∉ d.registered) :
    ∃ p box, after.parentOf r = some p ∧ p ∈ after.registered ∧
      after.containerOf p = some box := by
  cases callStep_outcome table.allocated taken with
  | placed item parent containerId adds chosen placed grown fresh empty =>
      rw [placed.registered] at member ⊢
      obtain rfl := List.mem_singleton.mp ((List.mem_append.mp member).resolve_left isNew)
      obtain ⟨box, isContainer, -⟩ := placed.containerOf_parent
      exact ⟨parent, box, placed.parentOf_new, List.mem_append_left _ chosen.registered,
        isContainer⟩
  | alone item declines adopted fresh empty =>
      have added := member
      rw [adopted.registered] at added
      obtain rfl := List.mem_singleton.mp ((List.mem_append.mp added).resolve_left isNew)
      refine ⟨d.heap.length, ⟨[], 0, 0⟩, ?_, member, ?_⟩
      · simp [parentOf, adopted.added]
      · simpa [Dlna.containerOf, adopted.added] using empty
  | rejected declines rejected =>
      rw [rejected.registered] at member
      exact absurd member isNew
  | idle declines registered heap =>
      rw [registered] at member
      exact absurd member isNew
  | removed x declines selected freed spares =>
      exact absurd (freed.sublist.subset member) isNew

theorem parents_are_containers_iff {getMediaProfile : Text → Option DlnaProfile}
    {db : Option Store} {calls : List Call}
    (reached : Reaches CallStep (dlnaStart getMediaProfile db) calls d) (call : Call) :
    ParentsAreContainers d call ↔ NamesContainer d call := by
  have table := reaches_vfsTable reached
  constructor
  · intro sound
    by_contra named
    exact sound.typed ((exec_wrong_iff table).mpr named)
  · intro named
    refine ⟨fun wrong => (exec_wrong_iff table).mp wrong named, ?_⟩
    intro id after executed r member isNew
    exact callStep_parent table ⟨id, executed⟩ member isNew

theorem first_parent_is_container :
    ParentsAreContainers justStarted (.addContainer "a".toList 1 0) := by
  have atStart : Reaches CallStep justStarted [] justStarted := rfl
  refine (parents_are_containers_iff atStart _).mpr fun id _ => .inr ?_
  intro r found
  obtain rfl : r = 0 := by simpa [justStarted, dlnaStart, dlnaInit] using vfsGetItemById_mem found
  exact Option.some_ne_none (⟨[], 0, 0⟩ : Container)

theorem resource_parents_itself :
    Reaches CallStep justStarted [] justStarted ∧ ¬ ParentsAreContainers justStarted
      (.addResource "a".toList "/a.mp3".toList 3090875270 mp3Probe) := by
  refine ⟨rfl, fun sound => sound.typed ?_⟩
  have table : VfsTable justStarted := dlnaStart_vfsTable _ _
  refine (dlnaVfsAddResource_wrong_iff table).mpr ⟨List.cons_ne_nil _ _, 3090875270, _, justStarted,
    vfsProvideNextId_mp3, rfl, .inl rfl⟩

end Libdlna
