import TradeRegister.Proofs.Password.Recipe

/-! # Stored passwords are verified

A password verifies against the text it was stored as, together with the passwords of the same
digest and no others. Every setting of the digest is read back from that text, so verification runs
the same computation; what the digest computes does not matter.
-/

namespace TradeRegister

namespace Argon2

theorem length_longHash {size : Nat} (h : size ≤ 64) (message : Bytes) :
    (longHash size message).length = size := by
  rw [longHash, if_pos h, Blake2b.hash_length h]

theorem Job.length_run {j : Job} (h : j.tagLength ≤ 64) (password salt data : Bytes) :
    (j.run password salt data).length = j.tagLength := by
  rw [run, finish, length_longHash h]

end Argon2

namespace Password

open Argon2 (Variant Version Job)

/-- The fields of a password stored at the usual cost. -/
def usual (salt output : Bytes) : Stored where
  algorithm := Variant.id.name.toList
  version := some Version.v19.number
  parameters := costParameters usualCost
  salt := some (Base64.encode .standard salt)
  output := some output

def digest (salt : Bytes) (password : String) : Bytes :=
  Job.run ⟨.id, .v19, usualCost, 32⟩ (Bytes.ofString password) salt []

def usualRecipe (salt : Bytes) : Recipe := ⟨.id, .v19, usualCost, 32, salt, []⟩

variable {salt : Bytes} {password : String}

theorem hash?_eq (salt : Bytes) (password : String) :
    hash? salt password =
      if (Bytes.ofString password).length ≤ maxLength then
        some (usual salt (digest salt password)).text
      else none := rfl

theorem length_le_maxLength_iff {octets : Bytes} :
    octets.length ≤ maxLength ↔ octets.length < 2 ^ 32 := by
  unfold maxLength
  omega

theorem hash?_isSome_iff (salt : Bytes) (password : String) :
    (hash? salt password).isSome = true ↔ (Bytes.ofString password).length < 2 ^ 32 := by
  rw [hash?_eq, ← length_le_maxLength_iff]
  split
  · next h => exact iff_of_true rfl h
  · next h => exact iff_of_false (by simp) h

theorem length_digest (salt : Bytes) (password : String) : (digest salt password).length = 32 :=
  Job.length_run (by decide) _ _ _

theorem fits_digest (hsalt : salt.length = 16) (password : String) :
    (usualRecipe salt).Fits (digest salt password) where
  cost := rfl
  memory := (by decide : usualCost.memory < 2 ^ 32)
  passes := (by decide : usualCost.passes < 2 ^ 32)
  size := (length_digest salt password).symm
  octets := by simp [length_digest]
  salt := by simp [usualRecipe, hsalt]
  data := rfl

theorem verify_of_hash? {stored : String} (hsalt : salt.length = 16)
    (h : hash? salt password = some stored) : verify password stored = true := by
  rw [hash?_eq] at h
  split at h
  · next hoctets =>
    obtain rfl := Option.some.inj h
    exact (fits_digest hsalt password).verify_text_iff.2 ⟨hoctets, rfl⟩
  · cases h

/-- The text holds all that its digest was made with, and goes with no other digest. -/
structure StoredAs (salt : Bytes) (password text : String) : Prop where
  parsed : Stored.parse? text = some (usual salt (digest salt password))
  reading : reading? text = some (⟨.id, .v19, ⟨19456, 2, 1⟩, 32, salt, []⟩, digest salt password)
  verified : verify password text = true
  verified_iff : ∀ other, verify other text = true ↔
    (Bytes.ofString other).length < 2 ^ 32 ∧ digest salt other = digest salt password

/-- Every password of a length that the digest takes can be stored, and verifies from then on. -/
theorem exists_storedAs (hsalt : salt.length = 16)
    (hpassword : (Bytes.ofString password).length < 2 ^ 32) :
    ∃ text, hash? salt password = some text ∧ StoredAs salt password text := by
  have hfits := fits_digest hsalt password
  have hhash : hash? salt password = some (usual salt (digest salt password)).text := by
    rw [hash?_eq, if_pos (length_le_maxLength_iff.2 hpassword)]
  refine ⟨_, hhash, hfits.parse?_text, hfits.reading?_text, verify_of_hash? hsalt hhash, ?_⟩
  intro other
  rw [← length_le_maxLength_iff]
  exact hfits.verify_text_iff

/-- A password that is not ASCII, under a salt whose base64 form has both special symbols. -/
theorem exists_storedAs_umlauts :
    (List.replicate 16 (0xfb : UInt8)).length = 16 ∧
      (Bytes.ofString "Überraschungsgröße").length < 2 ^ 32 ∧
      ∃ text, hash? (List.replicate 16 0xfb) "Überraschungsgröße" = some text ∧
        StoredAs (List.replicate 16 0xfb) "Überraschungsgröße" text :=
  ⟨by decide, by decide, exists_storedAs (by decide) (by decide)⟩

end Password
end TradeRegister
