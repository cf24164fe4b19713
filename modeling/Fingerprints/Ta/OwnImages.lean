import Fingerprints.Db.WellFormed
import Fingerprints.Runs.Recall
import Fingerprints.Ta.OwnedTemplates

/-!
# Images that the application stored

The framework keeps the image of a database and hands it back after a restart. `storedSystem` is the
application with restarts and with those loads only: an image that a load decodes was packed from
the database of an earlier state.

* **`view_of_packed`**: what is decoded from such an image is what was packed, if the size of the
  image fits into 32 bits;
* **`recalled_owned`**: the ownership of the templates holds of all states.
-/

namespace Fpc

open Wire Wire.Outcome Runs

/-! ## Packing and decoding -/

theorem SlotsOwned.flagged {db : FingerprintDatabase} (h : SlotsOwned (slots (some db))) :
    db.Flagged := by
  intro set hset f hf
  rw [← slots_of_set hset] at hf
  exact (h f hf).flagged

/-- The image tells the view. -/
theorem view_of_image {d d' : FingerprintDatabase} (hlt : d.packedLength < 2 ^ 32)
    (h : d'.view.image fpcDbVersion4 = d.view.image fpcDbVersion4) : d'.view = d.view := by
  have hlength : d'.packedLength = d.packedLength := by
    rw [← length_image_view, h, length_image_view]
  obtain ⟨x, hx, hview, _⟩ := fpcDbCreate_view hlt DbEnv.willing_allocOk
  obtain ⟨x', hx', hview', _⟩ := fpcDbCreate_view (hlength ▸ hlt) DbEnv.willing_allocOk
  rw [h, hlength, hx] at hx'
  cases hx'
  rw [← hview, ← hview']

/-- A database whose size fits into 32 bits packs to its image. -/
theorem packed_image {d : FingerprintDatabase} {image : List UInt8} (hd : d.Flagged)
    (hlt : d.packedLength < 2 ^ 32) (h : PacksTo (some d) image) :
    image = d.view.image fpcDbVersion4 := by
  obtain ⟨n, hsize, _, hdata⟩ := h
  have hout : (List.replicate d.packedLength (0 : UInt8)).length = d.packedLength :=
    List.length_replicate
  obtain ⟨hsize', hdata'⟩ := fpcDbGetData_packedLength hd hlt hout
  unfold getDataSize at hsize
  unfold getData at hdata
  simp only at hsize hdata
  rw [hsize'] at hsize
  cases hsize
  rw [hdata'] at hdata
  cases hdata
  rfl

theorem getElem?_image_version (db : TemplateDb) :
    (db.image fpcDbVersion4)[4]? = some fpcDbVersion4 := by
  rw [image_v4]
  rfl

/-- **What is decoded from an image that was packed** is what was packed. -/
theorem view_of_packed {env : DbEnv} {d d' : FingerprintDatabase} {image : List UInt8}
    (howned : SlotsOwned (slots (some d))) (hlt : d.packedLength < 2 ^ 32)
    (hpacks : PacksTo (some d) image)
    (h : fpcDbCreate env (some image) image.length = .ok d') : d'.view = d.view := by
  have himage := packed_image howned.flagged hlt hpacks
  subst himage
  have hb : (d.view.image fpcDbVersion4).length < 2 ^ 32 := by
    rw [length_image_view]
    exact hlt
  obtain ⟨heq, _⟩ := fpcDbCreate_ok hb (getElem?_image_version _) (announcedLength_image _ hb) h
  exact view_of_image hlt heq.symm

/-! ## The application with its images -/

/-- The command does not get its database from an image, or from one that was packed in one of the
states. -/
def LoadsOwn (states : List Ta) (e : Event) : Prop :=
  e.loads = true → ∀ image ∈ e.image, ∀ db,
    fpcDbCreate e.env.db (some image) image.length = .ok db →
      e.result.ta.bio.userDb = some db → ∃ ta ∈ states, PacksTo ta.bio.userDb image

/-- The application with restarts, and with loads of images that it packed before. -/
def storedSystem (P : Platform) : System (Recalled Ta) (Option Event) :=
  (taSystem P).recalling LoadsOwn

/-- The command loads an image that was packed from a database for which 32 bits do not hold the
size, so that fields are missing from it. -/
def Event.LoadsTruncated (states : List Ta) (e : Event) : Prop :=
  e.loads = true ∧ ∃ image ∈ e.image, ∃ ta ∈ states, ∃ db ∈ ta.bio.userDb,
    PacksTo (some db) image ∧ 2 ^ 32 ≤ db.packedLength

/-- The image of a load was packed in one of the states, from a database whose size fits. -/
def LoadsWhole (states : List Ta) (e : Event) : Prop :=
  e.loads = true → ∀ image ∈ e.image, ∀ db,
    fpcDbCreate e.env.db (some image) image.length = .ok db →
      e.result.ta.bio.userDb = some db →
        ∃ ta ∈ states, ∃ d ∈ ta.bio.userDb, PacksTo (some d) image ∧ d.packedLength < 2 ^ 32

section

variable {P : Platform} {ta : Ta} {r : Recalled Ta} {history : List (Option Event)}

/-- A database that packs is there. -/
theorem PacksTo.userDb {pDb : Option FingerprintDatabase} {image : List UInt8}
    (h : PacksTo pDb image) : ∃ db, pDb = some db := by
  cases pDb with
  | none =>
    obtain ⟨n, hsize, _⟩ := h
    cases hsize
  | some db => exact ⟨db, rfl⟩

theorem LoadsOwn.whole {states all : List Ta} {e : Event} (h : LoadsOwn states e)
    (hsub : states ⊆ all) (hnot : ¬ e.LoadsTruncated all) : LoadsWhole states e := by
  intro hload image himage db hcreate hdb
  obtain ⟨ta, hta, hpacks⟩ := h hload image himage db hcreate hdb
  obtain ⟨d, hd⟩ := hpacks.userDb
  rw [hd] at hpacks
  refine ⟨ta, hta, d, hd, hpacks, ?_⟩
  by_contra hlong
  exact hnot ⟨hload, image, himage, ta, hsub hta, d, hd, hpacks, Nat.le_of_not_lt hlong⟩

/-- Where no image is truncated, those that are loaded are whole. -/
theorem stored_whole (hrun : (storedSystem P).Run history r)
    (hwhole : ∀ e, some e ∈ history → ¬ e.LoadsTruncated r.states) :
    ((taSystem P).recalling LoadsWhole).Run history r :=
  System.Run.recalled_mono hrun fun e he _ hsub hown => hown.whole hsub (hwhole e he)

/-- Valid slots own templates and free slots own none, in all states. -/
theorem recalled_owned {Q : List Ta → Event → Prop}
    (hrun : ((taSystem P).recalling Q).Run history r) :
    ∀ ta ∈ r.states, SlotsOwned (slots ta.bio.userDb) := by
  refine System.Run.recalled_invariant ?_ ?_ hrun
  · intro ta hinit
    rw [slots_of_init hinit]
    exact slotsOwned_nil
  · intro ta e ta' howned hstep
    exact (step_keepsOwnership hstep).owned howned

end

end Fpc
