import Mathlib.Data.List.Basic
import Mathlib.Algebra.Group.Nat.Basic

/-! Base64 in the original alphabet with padding, as `base64::encode` and `base64::decode` call
libsodium for `Variant::Original`, and Rust's `String::from_utf8_lossy`. -/

namespace HbbCommon.Base64

def alphabet : List Char :=
  "ABCDEFGHIJKLMNOPQRSTUVWXYZabcdefghijklmnopqrstuvwxyz0123456789+/".toList

def encodeDigit (d : Nat) : Char := alphabet.getD d '='

def decodeDigit (c : Char) : Option Nat := alphabet.indexOf? c

/-- Three bytes to four digits; a final group of one or two bytes is padded with `=`. -/
def encodeBytes : List UInt8 → List Char
  | b₀ :: b₁ :: b₂ :: rest =>
    let n := b₀.toNat * 65536 + b₁.toNat * 256 + b₂.toNat
    [encodeDigit (n / 262144), encodeDigit (n / 4096 % 64), encodeDigit (n / 64 % 64),
      encodeDigit (n % 64)] ++ encodeBytes rest
  | [b₀, b₁] =>
    let n := (b₀.toNat * 256 + b₁.toNat) * 4
    [encodeDigit (n / 4096), encodeDigit (n / 64 % 64), encodeDigit (n % 64), '=']
  | [b₀] =>
    let n := b₀.toNat * 16
    [encodeDigit (n / 64), encodeDigit (n % 64), '=', '=']
  | [] => []

def encode (s : String) : String := ⟨encodeBytes s.toUTF8.data.toList⟩

/-- The bytes of `sodium_base642bin` -/
def pushDigit (st : List UInt8 × Nat × Nat) (d : Nat) : List UInt8 × Nat × Nat :=
  let acc := st.2.1 * 64 + d
  let len := st.2.2 + 6
  if 8 ≤ len then (st.1 ++ [UInt8.ofNat (acc / 2 ^ (len - 8))], acc % 2 ^ (len - 8), len - 8)
  else (st.1, acc, len)

/-- The digits, then exactly the padding the leftover bits call for, and nothing after it -/
def decode (s : String) : Option (List UInt8) :=
  let digits := s.toList.takeWhile fun c => (decodeDigit c).isSome
  let rest := s.toList.drop digits.length
  let (out, acc, len) := (digits.filterMap decodeDigit).foldl pushDigit ([], 0, 0)
  if 4 < len ∨ acc % 2 ^ len ≠ 0 then none
  else if rest = List.replicate (len / 2) '=' then some out else none

section Groups

variable (out : List UInt8) (b₀ b₁ b₂ : UInt8)

end Groups

example : encode ":" = "Og==" := by decide

example : decode "YQ==" = some [97] := by decide

/-- Whether a byte continues a multi-byte sequence. -/
def isCont (b : UInt8) : Bool := 0x80 ≤ b.toNat ∧ b.toNat < 0xC0

/-- Whether `b₁` may follow the first byte `b₀`, as `Utf8Chunks` checks it -/
def secondOk (b₀ b₁ : UInt8) : Bool :=
  let x := b₀.toNat
  let y := b₁.toNat
  if 0xC2 ≤ x ∧ x ≤ 0xDF then isCont b₁
  else if x = 0xE0 then 0xA0 ≤ y ∧ y ≤ 0xBF
  else if x = 0xED then 0x80 ≤ y ∧ y ≤ 0x9F
  else if 0xE1 ≤ x ∧ x ≤ 0xEF then isCont b₁
  else if x = 0xF0 then 0x90 ≤ y ∧ y ≤ 0xBF
  else if x = 0xF4 then 0x80 ≤ y ∧ y ≤ 0x8F
  else if 0xF1 ≤ x ∧ x ≤ 0xF3 then isCont b₁
  else false

/-- `U+FFFD` -/
def replacementChar : Char := Char.ofNat 0xFFFD

/-- The characters of `String::from_utf8_lossy` -/
def fromUtf8Lossy : Nat → List UInt8 → List Char
  | 0, _ => []
  | _, [] => []
  | fuel + 1, b₀ :: rest =>
    let x := b₀.toNat
    if x < 0x80 then Char.ofNat x :: fromUtf8Lossy fuel rest
    else match rest with
      | [] => [replacementChar]
      | b₁ :: r₁ =>
        if !secondOk b₀ b₁ then replacementChar :: fromUtf8Lossy fuel rest
        else if x ≤ 0xDF then Char.ofNat ((x % 32) * 64 + b₁.toNat % 64) :: fromUtf8Lossy fuel r₁
        else match r₁ with
          | [] => [replacementChar]
          | b₂ :: r₂ =>
            if !isCont b₂ then replacementChar :: fromUtf8Lossy fuel r₁
            else if x ≤ 0xEF then
              Char.ofNat ((x % 16) * 4096 + (b₁.toNat % 64) * 64 + b₂.toNat % 64) ::
                fromUtf8Lossy fuel r₂
            else match r₂ with
              | [] => [replacementChar]
              | b₃ :: r₃ =>
                if !isCont b₃ then replacementChar :: fromUtf8Lossy fuel r₂
                else Char.ofNat ((x % 8) * 262144 + (b₁.toNat % 64) * 4096 +
                  (b₂.toNat % 64) * 64 + b₃.toNat % 64) :: fromUtf8Lossy fuel r₃

def fromUtf8LossyString (bs : List UInt8) : String := ⟨fromUtf8Lossy bs.length bs⟩

example :
    fromUtf8LossyString [97, 0xE2, 0x82, 0xAC, 0xE2, 0x82, 98] =
      "a€" ++ ⟨[replacementChar]⟩ ++ "b" := by
  decide

end HbbCommon.Base64
