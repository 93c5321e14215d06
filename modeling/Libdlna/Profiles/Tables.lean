import Libdlna.Model.Profiler
import Libdlna.Shared.KeyedTable
import Mathlib.Data.List.Pairwise

set_option autoImplicit false

/-!
# The tables of the families

An id belongs to one family, and but for five profiles to one profile of it.
-/

namespace Libdlna

/-- A number for the id, which is compared at once where the texts are not. -/
def idKey (profile : StaticProfile) : Nat :=
  profile.id.val.foldl (fun n c => 128 * n + c.toNat) 0

section Tables

variable {Row : Type} {mapping : List Row} {profiles : List StaticProfile}

def RowFound (profiles : List StaticProfile) (profile : StaticProfile) : Prop :=
  profiles.find? (fun p => idKey p = idKey profile ∧ p.mime = profile.mime) = some profile

instance (profiles : List StaticProfile) (profile : StaticProfile) :
    Decidable (RowFound profiles profile) :=
  inferInstanceAs (Decidable (_ = _))

theorem rows_listed {profile : Row → StaticProfile}
    (found : ∀ row ∈ mapping, RowFound profiles (profile row)) :
    ∀ row ∈ mapping, profile row ∈ profiles :=
  fun row member => List.mem_of_find?_eq_some (found row member)

theorem rowFound_listed {profile : Row → StaticProfile}
    (listed : ∀ row ∈ mapping, profile row ∈ profiles) {matching : Row → Bool} {s : StaticProfile}
    (found : (mapping.find? matching).map profile = some s) : s ∈ profiles := by
  obtain ⟨row, hit, rfl⟩ := Option.map_eq_some_iff.mp found
  exact listed row (List.mem_of_find?_eq_some hit)

end Tables

theorem rows_found :
    (∀ row ∈ aacProfilesMapping, RowFound dlnaProfilesSupportedAudioMpeg4 row.profile) ∧
    (∀ row ∈ AvWmv9.wmvProfilesMapping, RowFound AvWmv9.dlnaProfilesSupportedAvWmv9 row.profile) ∧
    (∀ row ∈ AvMpeg4Part2.mpeg4ProfilesMapping,
      RowFound AvMpeg4Part2.dlnaProfilesSupportedAvMpeg4Part2 row.profile) ∧
    (∀ row ∈ AvMpeg4Part10.avcProfilesMapping,
      RowFound AvMpeg4Part10.dlnaProfilesSupportedAvMpeg4Part10 row.profile) ∧
    (∀ row ∈ jpegProfilesMapping, RowFound dlnaProfilesSupportedImageJpeg row.profile) ∧
    ∀ row ∈ pngProfilesMapping, RowFound dlnaProfilesSupportedImagePng row.profile := by
  decide +kernel

theorem aac_rows_listed :
    ∀ row ∈ aacProfilesMapping, row.profile ∈ dlnaProfilesSupportedAudioMpeg4 :=
  rows_listed rows_found.1

theorem wmv_rows_listed :
    ∀ row ∈ AvWmv9.wmvProfilesMapping, row.profile ∈ AvWmv9.dlnaProfilesSupportedAvWmv9 :=
  rows_listed rows_found.2.1

theorem mpeg4_rows_listed :
    ∀ row ∈ AvMpeg4Part2.mpeg4ProfilesMapping,
      row.profile ∈ AvMpeg4Part2.dlnaProfilesSupportedAvMpeg4Part2 :=
  rows_listed rows_found.2.2.1

theorem avc_rows_listed :
    ∀ row ∈ AvMpeg4Part10.avcProfilesMapping,
      row.profile ∈ AvMpeg4Part10.dlnaProfilesSupportedAvMpeg4Part10 :=
  rows_listed rows_found.2.2.2.1

theorem jpeg_rows_listed :
    ∀ row ∈ jpegProfilesMapping, row.profile ∈ dlnaProfilesSupportedImageJpeg :=
  rows_listed rows_found.2.2.2.2.1

theorem png_rows_listed :
    ∀ row ∈ pngProfilesMapping, row.profile ∈ dlnaProfilesSupportedImagePng :=
  rows_listed rows_found.2.2.2.2.2

open AudioAac in
def heaacV2AdtsProfiles : List StaticProfile :=
  [heaacV2L2Adts, heaacV2L2320Adts, heaacV2L3Adts, heaacV2Mult5Adts]

def shadowedProfiles : List StaticProfile := AudioAmr.threeGpp :: heaacV2AdtsProfiles

def allMediaProfiles : List MediaProfile :=
  [.imageJpeg, .imagePng, .audioAc3, .audioAmr, .audioAtrac3, .audioLpcm, .audioMp3, .audioMpeg4,
    .audioWma, .avMpeg1, .avMpeg2, .avMpeg4Part2, .avMpeg4Part10, .avWmv9]

theorem mem_allMediaProfiles (family : MediaProfile) : family ∈ allMediaProfiles := by
  cases family <;> decide

theorem ids_checked :
    (∀ family ∈ allMediaProfiles, (registeredProfile family).profiles.Pairwise fun s t =>
      idKey s = idKey t → t ∈ shadowedProfiles) ∧
    (allMediaProfiles.Pairwise fun f g => ∀ s ∈ (registeredProfile f).profiles,
      ∀ t ∈ (registeredProfile g).profiles, idKey s ≠ idKey t) ∧
    ∀ s ∈ [AudioAmr.amr, AudioAmr.amrWbplus, AudioLpcm.lpcm, AudioLpcm.lpcmLow],
      s ∉ shadowedProfiles := by
  decide +kernel

theorem ids_distinct (family : MediaProfile) :
    (registeredProfile family).profiles.Pairwise fun s t =>
      idKey s = idKey t → t ∈ shadowedProfiles :=
  ids_checked.1 family (mem_allMediaProfiles family)

theorem families_apart : allMediaProfiles.Pairwise fun f g =>
    ∀ s ∈ (registeredProfile f).profiles, ∀ t ∈ (registeredProfile g).profiles,
      idKey s ≠ idKey t :=
  ids_checked.2.1

theorem amr_plain : AudioAmr.amr ∉ shadowedProfiles := ids_checked.2.2 _ (by simp)

theorem amrWbplus_plain : AudioAmr.amrWbplus ∉ shadowedProfiles := ids_checked.2.2 _ (by simp)

theorem lpcm_plain {c : Prop} [Decidable c] :
    (if c then AudioLpcm.lpcmLow else AudioLpcm.lpcm) ∉ shadowedProfiles := by
  split <;> exact ids_checked.2.2 _ (by simp)

variable {f g : MediaProfile} {s t : StaticProfile}

theorem eq_of_same_id (inF : s ∈ (registeredProfile f).profiles)
    (inG : t ∈ (registeredProfile g).profiles) (same : s.id = t.id) : f = g := by
  by_contra differ
  have symmetric : Std.Symm fun f g : MediaProfile =>
      ∀ s ∈ (registeredProfile f).profiles, ∀ t ∈ (registeredProfile g).profiles,
        idKey s ≠ idKey t :=
    ⟨fun f g apart s inG t inF same => apart t inF s inG same.symm⟩
  have apart := families_apart.forall (mem_allMediaProfiles f) (mem_allMediaProfiles g) differ
  exact apart s inF t inG (by rw [idKey, idKey, same])

theorem findProfile_listed {families : List MediaProfile} (registered : f ∈ families)
    (listed : s ∈ (registeredProfile f).profiles) (plain : s ∉ shadowedProfiles) :
    findProfile (families.map registeredProfile) s.id.val = some (registeredProfile f, s) := by
  unfold findProfile
  rw [List.findSome?_map]
  induction families with
  | nil => simp at registered
  | cons g rest ih =>
      rw [List.findSome?_cons, Function.comp_apply]
      by_cases same : g = f
      · subst same
        obtain ⟨first, inTable, found, matched, rfl | before⟩ :=
          KeyedTable.find?_first (fun prof : StaticProfile => decide (prof.id.val = s.id.val))
            (ids_distinct g) listed (by simp)
        · rw [found]
          rfl
        · have sameId : first.id = s.id := Subtype.ext (by simpa using matched)
          exact absurd (before (by rw [idKey, idKey, sameId])) plain
      · have absent : (registeredProfile g).profiles.find?
            (fun prof => decide (prof.id.val = s.id.val)) = none := by
          rw [List.find?_eq_none]
          intro t inG hit
          exact same (eq_of_same_id inG listed (Subtype.ext (by simpa using hit)))
        rw [absent]
        exact ih ((List.mem_cons.mp registered).resolve_left (Ne.symm same))

end Libdlna
