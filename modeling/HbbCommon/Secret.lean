import Mathlib.Data.List.AList

/-! The secret layer (`password_security`) as the configuration store uses it: field-level
ciphers for strings and byte vectors, taken as parameters with their stated contract. -/

namespace HbbCommon.Secret

/-- `encrypt_*_or_original` -/
structure FieldCipher (α : Type) where
  encrypt : α → Nat → α
  decrypt : α → α × Bool × Bool
  isCipher : α → Bool

/-- The contract of the secret layer -/
structure FieldCipher.Lawful {α : Type} (c : FieldCipher α) (size : α → Nat) : Prop where
  decrypt_encrypt : ∀ p n, c.isCipher p = false → size p ≤ n →
    c.decrypt (c.encrypt p n) = (p, true, false)
  encrypt_long : ∀ p n, n < size p → c.encrypt p n = p
  decrypt_plain : ∀ s, c.isCipher s = false → (c.decrypt s).1 = s ∧ (c.decrypt s).2.1 = false
  cipher_prefixed : ∀ s, c.isCipher s = true → 0 < size s

structure SecretLayer where
  str : FieldCipher String
  vec : FieldCipher (List UInt8)

def SecretLayer.Lawful (s : SecretLayer) : Prop :=
  s.str.Lawful String.utf8ByteSize ∧ s.vec.Lawful List.length

/-- `ENCRYPT_MAX_LEN` -/
def encryptMaxLen : Nat := 128

section

variable {α : Type} {c : FieldCipher α} {size : α → Nat}

theorem FieldCipher.Lawful.decrypt_stored (h : c.Lawful size) (p : α) (n : Nat)
    (hp : c.isCipher p = false) :
    (c.decrypt (c.encrypt p n)).1 = p := by
  by_cases hn : size p ≤ n
  · rw [h.decrypt_encrypt p n hp hn]
  · rw [h.encrypt_long p n (by omega), (h.decrypt_plain p hp).1]

theorem FieldCipher.Lawful.decrypt_stored_rewrite (h : c.Lawful size) (p : α) (n : Nat)
    (hp : c.isCipher p = false) (hn : size p ≤ n) :
    (c.decrypt (c.encrypt p n)).2.2 = false := by
  rw [h.decrypt_encrypt p n hp hn]

theorem FieldCipher.Lawful.empty_not_cipher (h : c.Lawful size) (s : α) (hs : size s = 0) :
    c.isCipher s = false := by
  cases hc : c.isCipher s
  · rfl
  · have := h.cipher_prefixed s hc
    omega

end

/-- A lawful cipher that marks its output with two copies of `m`. -/
def markCipher {β : Type} [DecidableEq β] (m : β) (size : List β → Nat) :
    FieldCipher (List β) where
  isCipher s := decide (s.take 2 = [m, m])
  encrypt p n := if p.take 2 = [m, m] then p else if n < size p then p else m :: m :: p
  decrypt s := if s.take 2 = [m, m] then (s.drop 2, true, false) else (s, false, !s.isEmpty)

theorem markCipher_lawful {β : Type} [DecidableEq β] (m : β) (size : List β → Nat)
    (hsize : ∀ s, s ≠ [] → 0 < size s) : (markCipher m size).Lawful size where
  decrypt_encrypt p n hp hn := by
    simp only [markCipher, decide_eq_false_iff_not] at hp ⊢
    simp [hp, show ¬ n < size p by omega]
  encrypt_long p n hn := by
    simp only [markCipher]
    split <;> simp [hn]
  decrypt_plain s hs := by
    simp only [markCipher, decide_eq_false_iff_not] at hs ⊢
    simp [hs]
  cipher_prefixed s hs := by
    apply hsize
    rintro rfl
    simp [markCipher] at hs

/-- A cipher on characters read as a cipher on strings. -/
def FieldCipher.onString (c : FieldCipher (List Char)) : FieldCipher String where
  encrypt p n := ⟨c.encrypt p.toList n⟩
  decrypt s := (⟨(c.decrypt s.toList).1⟩, (c.decrypt s.toList).2)
  isCipher s := c.isCipher s.toList

theorem FieldCipher.Lawful.onString {c : FieldCipher (List Char)}
    (h : c.Lawful fun l => String.utf8ByteSize ⟨l⟩) : c.onString.Lawful String.utf8ByteSize where
  decrypt_encrypt p n hp hn := by
    show (String.mk (c.decrypt (c.encrypt p.toList n)).1, (c.decrypt (c.encrypt p.toList n)).2) = _
    rw [h.decrypt_encrypt p.toList n hp hn]
    rfl
  encrypt_long p n hn := by
    show (⟨c.encrypt p.toList n⟩ : String) = p
    rw [h.encrypt_long p.toList n hn]
    rfl
  decrypt_plain s hs := by
    refine ⟨?_, (h.decrypt_plain s.toList hs).2⟩
    show (⟨(c.decrypt s.toList).1⟩ : String) = s
    rw [(h.decrypt_plain s.toList hs).1]
    rfl
  cipher_prefixed s hs := h.cipher_prefixed s.toList hs

theorem utf8ByteSize_pos (l : List Char) (h : l ≠ []) : 0 < String.utf8ByteSize ⟨l⟩ := by
  cases l with
  | nil => exact absurd rfl h
  | cons c cs =>
    have := Char.utf8Size_pos c
    simp only [String.utf8ByteSize, String.utf8ByteSize.go]
    omega

/-- Ciphertexts start with the version text `00`, as `PASSWORD_ENC_VERSION` does. -/
def markLayer : SecretLayer where
  str := (markCipher '0' fun l => String.utf8ByteSize ⟨l⟩).onString
  vec := markCipher 48 List.length

theorem markLayer_lawful : markLayer.Lawful :=
  ⟨(markCipher_lawful _ _ utf8ByteSize_pos).onString,
    markCipher_lawful _ _ fun _ h => List.length_pos.mpr h⟩

end HbbCommon.Secret
