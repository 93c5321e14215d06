import Libdlna.Model.Http
import Libdlna.Vfs.Reachable

set_option autoImplicit false

/-!
# Two handlers for one path

`dlna_http_get_info` and `dlna_http_open` resolve a path each on its own. They agree as long as
none of the checks that only one of them makes is needed.
-/

namespace Libdlna

open CString Dlna

variable {C : Type} {d : Dlna} {services : List (DlnaService C)} {files : FileSystem} {path : Text}

def FilesReadable (d : Dlna) (files : FileSystem) : Prop :=
  ∀ r ∈ d.registered, ∀ item content cnv, d.heap[r]? = some item →
    item.body = .resource content cnv → ∀ dlnaItem, dlnaItemGet d item.id content = some dlnaItem →
      (files.stat dlnaItem.filename).isSome ∧ files.access dlnaItem.filename = .granted ∧
        files.opens dlnaItem.filename = true

def HandlersAgree (d : Dlna) (services : List (DlnaService C)) (files : FileSystem) (path : Text) :
    Prop :=
  ∃ info handle, dlnaHttpGetInfo d services files path = .ok info ∧
    dlnaHttpOpen d services files path .read = .ok handle ∧
      info.map Prod.fst = handle.map Prod.fst

def Servable (d : Dlna) (item : VfsItem) : Prop :=
  match item.body with
  | .container _ => False
  | .resource content _ =>
      ∀ dlnaItem, dlnaItemGet d item.id content = some dlnaItem → dlnaItem.profile ≠ none

/-- No check of one handler that the other lacks makes a difference for the path. -/
def SameChecks (d : Dlna) (services : List (DlnaService C)) (path : Text) : Prop :=
  match httpFindService services path with
  | .error _ => False
  | .ok (some service) => service.description ≠ []
  | .ok none => ∀ id, httpObjectId path = .ok id → ∀ r, vfsGetItemById d id = some r →
      ∀ item, d.heap[r]? = some item → Servable d item

theorem httpObjectId_slash (slash : '/' ∈ path) : ∃ id, httpObjectId path = .ok id := by
  obtain ⟨tail, found⟩ := strrchr_isSome slash
  exact ⟨toUInt32 (strtoul (tail.drop 1)), by rw [httpObjectId, found]⟩

theorem httpItem_agree_iff (live : Live d) (readable : FilesReadable d files) (id : UInt32) :
    (∃ info handle, httpItemInfo d files id = .ok info ∧ httpItemOpen d files id = .ok handle ∧
        info.map Prod.fst = handle.map Prod.fst) ↔
      ∀ r, vfsGetItemById d id = some r → ∀ item, d.heap[r]? = some item → Servable d item := by
  cases lookup : vfsGetItemById d id with
  | none => simp [httpItemInfo, httpItemOpen, lookup]
  | some r =>
      have member := vfsGetItemById_mem lookup
      obtain ⟨item, found, isLive⟩ := live r member
      have read : d.readItem r = .ok item := by simp [Dlna.readItem, found, isLive]
      have servable : (∀ q, some r = some q → ∀ other, d.heap[q]? = some other →
          Servable d other) ↔ Servable d item := by
        constructor
        · exact fun each => each r rfl item found
        · rintro this _ ⟨⟩ other same
          rw [found] at same
          exact Option.some.inj same ▸ this
      rw [servable]
      cases body : item.body with
      | container box =>
          simp [httpItemOpen, lookup, read, body, Servable, Bind.bind, Except.bind]
      | resource content cnv =>
          cases known : dlnaItemGet d item.id content with
          | none =>
              simp [httpItemInfo, httpItemOpen, lookup, read, body, known, Servable, Bind.bind,
                Except.bind]
          | some dlnaItem =>
              obtain ⟨hasStat, granted, opens⟩ :=
                readable r member item content cnv found body dlnaItem known
              obtain ⟨st, isStat⟩ := Option.isSome_iff_exists.mp hasStat
              cases profile : dlnaItem.profile <;>
                simp [httpItemInfo, httpItemOpen, httpGetFileLocal, lookup, read, body, known,
                  Servable, isStat, granted, opens, profile, Bind.bind, Except.bind]

theorem handlers_agree_iff (live : Live d) (readable : FilesReadable d files) (slash : '/' ∈ path) :
    HandlersAgree d services files path ↔ SameChecks d services path := by
  obtain ⟨id, number⟩ := httpObjectId_slash slash
  unfold HandlersAgree SameChecks dlnaHttpGetInfo dlnaHttpOpen
  cases lookup : httpFindService services path with
  | error fault => simp [Bind.bind, Except.bind]
  | ok found =>
      cases found with
      | some service =>
          by_cases empty : service.description = [] <;>
            simp [httpGetFileFromMemory, empty, Bind.bind, Except.bind]
      | none =>
          simp only [number, Except.ok.injEq, forall_eq']
          exact httpItem_agree_iff live readable id

def oneResource : Dlna :=
  { justStarted with
    heap :=
      [{ rootItem with body := .container ⟨[1], 1, 1⟩ },
        { resourceItem 7 "b".toList (dlnaItemNew "/b.mp3".toList mp3Probe) with parent := some 0 }]
    registered := [0, 1]
    vfsItems := 1 }

def allFiles : FileSystem where
  stat := fun _ => some ⟨1000, 0, false⟩
  access := fun _ => .granted
  opens := fun _ => true

theorem allFiles_readable (d : Dlna) : FilesReadable d allFiles := by
  intro r member item content cnv found body dlnaItem known
  exact ⟨rfl, rfl, rfl⟩

theorem oneResource_live : Live oneResource := by
  intro r member
  have cases : r = 0 ∨ r = 1 := by simpa [oneResource] using member
  rcases cases with rfl | rfl
  · exact ⟨_, rfl, rfl⟩
  · exact ⟨_, rfl, rfl⟩

/-- `/web/0` names the root, whose list of children is taken for a file. -/
theorem handlers_disagree_on_root :
    Live justStarted ∧ FilesReadable justStarted allFiles ∧
      ¬ HandlersAgree justStarted ([] : List (DlnaService Unit)) allFiles "/web/0".toList := by
  have live := (dlnaStart_vfsTable (fun _ => none) none).live
  refine ⟨live, allFiles_readable _, ?_⟩
  have faults : dlnaHttpOpen justStarted ([] : List (DlnaService Unit)) allFiles "/web/0".toList
      .read = .error .wrongUnionMember := by
    decide +kernel
  rintro ⟨info, handle, -, opened, -⟩
  rw [faults] at opened
  cases opened

theorem handlers_agree_on_resource :
    HandlersAgree oneResource ([] : List (DlnaService Unit)) allFiles "/web/7".toList := by
  refine (handlers_agree_iff oneResource_live (allFiles_readable _) (by decide)).mpr ?_
  have noService : httpFindService ([] : List (DlnaService Unit)) "/web/7".toList = .ok none :=
    rfl
  have number : httpObjectId "/web/7".toList = .ok 7 := by decide +kernel
  have lookup : vfsGetItemById oneResource 7 = some 1 := by decide
  simp only [SameChecks, noService, number, Except.ok.injEq, forall_eq', lookup, Option.some.injEq]
  rintro item ⟨⟩
  simp [Servable, resourceItem, dlnaItemGet, dlnaItemNew, mp3Probe]

end Libdlna
