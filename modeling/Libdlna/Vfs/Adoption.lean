import Libdlna.Vfs.Parents

set_option autoImplicit false

/-!
# Items under their own ids

An item is registered before its parent is looked up, so that its own id leads to itself. A
container becomes its own parent then; a resource is accessed as if it were a container.
-/

namespace Libdlna

open CString Dlna Runs

variable {d after : Dlna} {call : Call}

/-- `container_id` does not name a resource that is there before the call. -/
def LeavesResources (d : Dlna) : Call → Prop
  | .addContainer _ _ containerId => NamesNoResource d containerId
  | .addResource _ _ containerId _ => NamesNoResource d containerId
  | _ => True

/-- An addition ends in a VFS, or in an access to the wrong member of the new item's union. -/
inductive UnionStep : Except Fault Dlna → Call → Except Fault Dlna → Prop where
  | returns {d after : Dlna} {call : Call} (taken : AdditionStep d call after) :
      UnionStep (.ok d) call (.ok after)
  | faults {d : Dlna} {call : Call} (isAddition : call.isAddition = true)
      (leaves : LeavesResources d call) (wrong : call.exec d = .error .wrongUnionMember) :
      UnionStep (.ok d) call (.error .wrongUnionMember)

def IsTree (s : Except Fault Dlna) : Prop := ∃ d, s = .ok d ∧ TreeInvariant d

def KeepsApart (s : Except Fault Dlna) (call : Call) (_ : Except Fault Dlna) : Prop :=
  ∀ d, s = .ok d → ¬ AdoptsItself d call

theorem adoptsItself_of_wrong (table : VfsTable d) (leaves : LeavesResources d call)
    (wrong : call.exec d = .error .wrongUnionMember) : AdoptsItself d call := by
  have named := (exec_wrong_iff table).mp wrong
  cases call with
  | addContainer name objectId containerId =>
      exact absurd (fun _ _ => .inr leaves) named
  | addResource name fullpath containerId probe =>
      simp only [NamesContainer] at named
      push Not at named
      obtain ⟨-, id, item, between, provided, answered, meets⟩ := named
      obtain rfl : containerId = id := by
        by_contra other
        exact meets other leaves
      exact ⟨provided, item, between, answered⟩
  | setCapabilityMode mode => exact absurd trivial named
  | removeItemById id => exact absurd trivial named
  | removeItemByTitle name => exact absurd trivial named

theorem wrong_of_adoptsItself (table : VfsTable d) (nonempty : d.registered ≠ [])
    {name fullpath : Text} {containerId : UInt32} {probe : Probe}
    (adopts : AdoptsItself d (.addResource name fullpath containerId probe)) :
    (Call.addResource name fullpath containerId probe).exec d = .error .wrongUnionMember := by
  obtain ⟨provided, item, between, answered⟩ := adopts
  exact (dlnaVfsAddResource_wrong_iff table).mpr
    ⟨nonempty, containerId, item, between, provided, answered, .inl rfl⟩

theorem AdditionStep.callStep (taken : AdditionStep d call after) : CallStep d call after := taken.2

theorem treeInvariant_throughout_iff (getMediaProfile : Text → Option DlnaProfile)
    (db : Option Store) (calls : List Call) :
    Throughout UnionStep IsTree (.ok (dlnaStart getMediaProfile db)) calls ↔
      Along UnionStep KeepsApart (.ok (dlnaStart getMediaProfile db)) calls := by
  refine throughout_iff_along
    (fun s (known : ∃ d, s = .ok d ∧ VfsTree d ∧ VfsTable d) => ?_) ?_ ?_ ?_ calls
  · obtain ⟨d, here, tree, -⟩ := known
    exact ⟨d, here, tree.treeInvariant⟩
  · rintro s call s' ⟨d, rfl, tree, table⟩ step apart
    cases step with
    | returns taken =>
        exact ⟨_, rfl, tree.step taken (apart d rfl), table.step taken.callStep⟩
    | faults isAddition leaves wrong =>
        exact absurd (adoptsItself_of_wrong table leaves wrong) (apart d rfl)
  · rintro s call s' ⟨d, rfl, tree, table⟩ step meets ⟨after, isAfter, invariant⟩
    simp only [KeepsApart, Except.ok.injEq, forall_eq', not_not] at meets
    cases step with
    | returns taken =>
        obtain rfl := Except.ok.inj isAfter
        exact not_treeInvariant_of_adopted tree taken meets invariant
    | faults isAddition leaves wrong => cases isAfter
  · exact ⟨_, rfl, dlnaStart_vfsTree getMediaProfile db, dlnaStart_vfsTable getMediaProfile db⟩

/-- A container with the id 5 under the container 5 is detached from the root; a resource under the
id that the CRC of its path gives it is taken for a container. -/
theorem treeInvariant_fails_for_own_id :
    ¬ Throughout UnionStep IsTree (.ok justStarted) [.addContainer "a".toList 5 5] ∧
      ¬ Throughout UnionStep IsTree (.ok justStarted)
        [.addResource "a".toList "/a.mp3".toList 3090875270 mp3Probe] := by
  constructor
  · rintro ⟨-, later⟩
    obtain ⟨after, taken⟩ : ∃ after, AdditionStep justStarted (.addContainer "a".toList 5 5) after :=
      ⟨_, rfl, 5, rfl⟩
    obtain ⟨_, same, invariant⟩ := later _ (.returns taken)
    obtain rfl := Except.ok.inj same
    exact not_treeInvariant_of_adopted (dlnaStart_vfsTree _ _) taken rfl invariant
  · rintro ⟨-, later⟩
    have onlyRoot : NamesNoResource justStarted 3090875270 := by
      intro r found
      obtain rfl : r = 0 := by simpa [justStarted, dlnaStart, dlnaInit] using vfsGetItemById_mem found
      exact Option.some_ne_none (⟨[], 0, 0⟩ : Container)
    have adopts : AdoptsItself justStarted
        (.addResource "a".toList "/a.mp3".toList 3090875270 mp3Probe) :=
      ⟨vfsProvideNextId_mp3, _, justStarted, rfl⟩
    have wrong := wrong_of_adoptsItself (dlnaStart_vfsTable _ _) (List.cons_ne_nil _ _) adopts
    obtain ⟨after, isAfter, -⟩ := later _ (.faults rfl onlyRoot wrong)
    cases isAfter

end Libdlna
