import PulseMesh.SubLib.Cryptde

/-!
# Encryption under a password

The encryption of a key file: every encryption takes a salt of its own, and a cipher text carries a
check of the password.  The key derivation behind it is a parameter.
-/

namespace PulseMesh.Blockchain

open SubLib List

inductive Bip39Error where
  | conversionError (msg : String)
  | encryptionFailure (msg : String)
  | decryptionFailure (msg : String)
  | notPresent
  | serializationFailure (msg : String)
  | deserializationFailure (msg : String)
deriving DecidableEq

def Bip39Error.debug : Bip39Error → String
  | .conversionError msg => s!"ConversionError({msg.quote})"
  | .encryptionFailure msg => s!"EncryptionFailure({msg.quote})"
  | .decryptionFailure msg => s!"DecryptionFailure({msg.quote})"
  | .notPresent => "NotPresent"
  | .serializationFailure msg => s!"SerializationFailure({msg.quote})"
  | .deserializationFailure msg => s!"DeserializationFailure({msg.quote})"

structure Bip39 where
  encryptBytes : (salt : Nat) → Bytes → (password : String) → Except Bip39Error String
  decryptBytes : (crypt password : String) → Except Bip39Error PlainData

/-- What is encrypted can be decrypted under its password, and under no other. -/
structure Bip39.Sound (bip39 : Bip39) : Prop where
  encrypts : ∀ salt bytes password, ∃ crypt,
    bip39.encryptBytes salt bytes password = .ok crypt ∧ bip39.decryptBytes crypt password = .ok ⟨bytes⟩
  onePassword : ∀ crypt password other plain plain',
    bip39.decryptBytes crypt password = .ok plain → bip39.decryptBytes crypt other = .ok plain' →
      password = other

/-! ### A sound encryption -/

/-- The bytes in clear, then a mark that no byte is written as, then the password. -/
def markedBip39 : Bip39 where
  encryptBytes _ bytes password :=
    .ok (String.ofList (bytes.map (fun byte => Char.ofNat byte.toNat) ++ 'Ā' :: password.toList))
  decryptBytes crypt password :=
    match crypt.toList.dropWhile fun letter => decide (letter.toNat < 256) with
    | [] => .error (.conversionError "Invalid input length")
    | _ :: label =>
      if label = password.toList then
        .ok ⟨(crypt.toList.takeWhile fun letter => decide (letter.toNat < 256)).map
          fun letter => UInt8.ofNat letter.toNat⟩
      else
        .error (.decryptionFailure "InvalidPassword")

lemma markedBip39_sound : markedBip39.Sound := by
  have small : ∀ byte : UInt8, (Char.ofNat byte.toNat).toNat = byte.toNat := by
    intro byte
    have bound := byte.toNat_lt
    rw [Char.ofNat, dif_pos (Or.inl (by omega))]
    rfl
  constructor
  · intro salt bytes password
    refine ⟨_, rfl, ?_⟩
    have clear : ∀ letter ∈ bytes.map (fun byte => Char.ofNat byte.toNat),
        decide (letter.toNat < 256) = true := by
      intro letter member
      obtain ⟨byte, -, rfl⟩ := mem_map.mp member
      have bound := byte.toNat_lt
      rw [small, decide_eq_true_eq]
      exact bound
    have back : ∀ byte ∈ bytes, UInt8.ofNat (Char.ofNat byte.toNat).toNat = byte := by
      intro byte _
      rw [small, UInt8.ofNat_toNat]
    simp only [markedBip39, String.toList_ofList]
    rw [dropWhile_append_of_pos clear, takeWhile_append_of_pos clear, takeWhile_cons_of_neg (by decide)]
    simp [map_map, Function.comp_def, map_congr_left back]
  · intro crypt password other plain plain' opens opens'
    simp only [markedBip39] at opens opens'
    split at opens
    · cases opens
    next label split =>
      rw [split] at opens'
      dsimp only at opens opens'
      split_ifs at opens opens' with own own'
      exact String.toList_injective (own.symm.trans own')

end PulseMesh.Blockchain
