import HbbCommon.DisplayDefaults
import Mathlib.Data.Nat.Digits
/-! The identifiers the program makes up for itself. The device id `Config::load` falls back on
is `gen_id`, which takes the host name when the built-in settings allow it and otherwise
`get_auto_id`, the MAC address's last four bytes as a number below `2^29`. Such an id is short
and is not a ciphertext, so `Config::store` encrypts it and every later load reads it back
without generating another. The random passwords of `get_auto_password` come from fixed
alphabets, whatever the random draws. -/

namespace HbbCommon

open Toml Secret

/-- A MAC address: `MacAddress::bytes` has six bytes. -/
structure MacAddress where
  bytes : List UInt8
  length_eq : bytes.length = 6

/-- One round of `get_auto_id`'s loop: `id = (id << 8) | (*x as u32)`. -/
def autoIdStep (id : UInt32) (x : UInt8) : UInt32 := (id <<< 8) ||| x.toUInt32

/-- `Config::get_auto_id` on desktop, given what `mac_address::get_mac_address()` returns. -/
def Config.getAutoId (mac : Option MacAddress) : Option String :=
  mac.map fun ma => toString ((ma.bytes.drop 2).foldl autoIdStep 0 &&& 0x1FFFFFFF)

/-- `Config::gen_id` on desktop, `hostname` being what `whoami::fallible::hostname()` returns. -/
def Config.genId (builtin : StrMap String) (hostname : Option String)
    (mac : Option MacAddress) : Option String :=
  let hostnameAsId := ((builtin.lookup keys.optionAllowHostnameAsId).map
    (option2bool keys.optionAllowHostnameAsId)).getD false
  if hostnameAsId then
    match hostname with
    | some h => some (h.replace " " "-")
    | none => Config.getAutoId mac
  else Config.getAutoId mac

/-- `Config::no_register_device` -/
def Config.noRegisterDevice (builtin : StrMap String) : Bool :=
  ((builtin.lookup keys.optionRegisterDevice).map (· == "N")).getD false

/-- `Config::get_id_or` -/
def Config.getIdOr (c : Config) (b : String) : String := if c.id = "" then b else c.id

section Bits

theorem two_pow_mul_or_of_lt (a b i : Nat) (hb : b < 2 ^ i) :
    2 ^ i * a ||| b = 2 ^ i * a + b := by
  apply Nat.eq_of_testBit_eq
  intro j
  rw [Nat.testBit_or, Nat.testBit_mul_pow_two_add a hb, Nat.testBit_mul_pow_two]
  by_cases hj : j < i
  · simp [hj]
  · have hbj : b.testBit j = false :=
      Nat.testBit_lt_two_pow (lt_of_lt_of_le hb (Nat.pow_le_pow_right (by omega) (by omega)))
    simp [hj, hbj]
    omega

theorem autoIdStep_toNat (id : UInt32) (x : UInt8) :
    (autoIdStep id x).toNat = id.toNat % 2 ^ 24 * 256 + x.toNat := by
  have hx : x.toNat < 2 ^ 8 := x.toBitVec.isLt
  show (id.toBitVec <<< (8 : Nat) ||| x.toUInt32.toBitVec).toNat = _
  rw [BitVec.toNat_or, BitVec.toNat_shiftLeft, Nat.shiftLeft_eq]
  have hshift : id.toBitVec.toNat * 2 ^ 8 % 2 ^ 32 = 2 ^ 8 * (id.toNat % 2 ^ 24) := by
    rw [show (2 : Nat) ^ 32 = 2 ^ 8 * 2 ^ 24 by rw [← Nat.pow_add], Nat.mul_comm,
      Nat.mul_mod_mul_left]
    rfl
  rw [hshift, show x.toUInt32.toBitVec.toNat = x.toNat from rfl, two_pow_mul_or_of_lt _ _ _ hx]
  omega

theorem getAutoId_value (b₀ b₁ b₂ b₃ b₄ b₅ : UInt8) :
    Config.getAutoId (some ⟨[b₀, b₁, b₂, b₃, b₄, b₅], rfl⟩) =
      some (toString ((b₂.toNat * 2 ^ 24 + b₃.toNat * 2 ^ 16 + b₄.toNat * 2 ^ 8 + b₅.toNat) %
        2 ^ 29)) := by
  have h₂ : b₂.toNat < 2 ^ 8 := b₂.toBitVec.isLt
  have h₃ : b₃.toNat < 2 ^ 8 := b₃.toBitVec.isLt
  have h₄ : b₄.toNat < 2 ^ 8 := b₄.toBitVec.isLt
  have h₅ : b₅.toNat < 2 ^ 8 := b₅.toBitVec.isLt
  have hfold : ([b₂, b₃, b₄, b₅].foldl autoIdStep 0).toNat =
      b₂.toNat * 2 ^ 24 + b₃.toNat * 2 ^ 16 + b₄.toNat * 2 ^ 8 + b₅.toNat := by
    simp only [List.foldl_cons, List.foldl_nil, autoIdStep_toNat]
    have h0 : (0 : UInt32).toNat = 0 := rfl
    rw [h0]
    omega
  simp only [Config.getAutoId, List.drop_succ_cons, List.drop_zero, Option.map_some']
  show some (toString ([b₂, b₃, b₄, b₅].foldl autoIdStep 0 &&& 0x1FFFFFFF).toNat) = _
  rw [UInt32.and_toNat, hfold, show (0x1FFFFFFF : UInt32).toNat = 2 ^ 29 - 1 from rfl,
    Nat.and_pow_two_sub_one_eq_mod]

end Bits

section Numerals

theorem digitChar_ne_zero : ∀ k < 10, 0 < k → Nat.digitChar k ≠ '0' := by
  decide

theorem toDigitsCore_head_ne_zero (fuel n : Nat) (ds : List Char) (hn : 0 < n)
    (hfuel : n < 10 ^ (fuel + 1)) :
    ∃ c cs, Nat.toDigitsCore 10 (fuel + 1) n ds = c :: cs ∧ c ≠ '0' := by
  induction fuel generalizing n ds with
  | zero =>
    have h10 : n < 10 := by simpa using hfuel
    rw [toDigitsCore_succ, if_pos (by omega)]
    exact ⟨_, _, rfl, digitChar_ne_zero _ (Nat.mod_lt _ (by decide)) (by omega)⟩
  | succ fuel ih =>
    rw [toDigitsCore_succ]
    split
    · exact ⟨_, _, rfl, digitChar_ne_zero _ (Nat.mod_lt _ (by decide)) (by omega)⟩
    · exact ih _ _ (by omega) (by rw [pow_succ] at hfuel; omega)

theorem toString_take_two_ne (n : Nat) : (toString n).toList.take 2 ≠ ['0', '0'] := by
  rcases Nat.eq_zero_or_pos n with rfl | hn
  · decide
  · obtain ⟨c, cs, h, hc⟩ := toDigitsCore_head_ne_zero n n [] hn
      ((Nat.lt_succ_self n).trans (Nat.lt_pow_self (by decide) _))
    show (Nat.toDigitsCore 10 (n + 1) n []).take 2 ≠ _
    rw [h]
    simp [hc]

theorem utf8ByteSize_le_four_mul (l : List Char) : String.utf8ByteSize ⟨l⟩ ≤ 4 * l.length := by
  induction l with
  | nil => exact Nat.zero_le _
  | cons c l ih =>
    have := Char.utf8Size_eq c
    simp only [String.utf8ByteSize, String.utf8ByteSize.go, List.length_cons] at ih ⊢
    omega

theorem utf8ByteSize_toString_le (n : Nat) (h : n < 2 ^ 29) :
    (toString n).utf8ByteSize ≤ encryptMaxLen := by
  have hlen : (Nat.repr n).length ≤ 9 := Nat.repr_length n 9 (by decide) (by omega)
  have := utf8ByteSize_le_four_mul (toString n).toList
  simp only [encryptMaxLen]
  exact this.trans (by change 4 * (Nat.repr n).length ≤ 128; omega)

end Numerals

section Lifecycle

variable {s : SecretLayer}

theorem Config.load_fresh (hs : s.Lawful) (genId : Nat → Option String) (id : String)
    (hgen : (List.range 3).findSome? genId = some id) :
    Config.load s genId none = ({ Config.default with id }, true) := by
  obtain ⟨he, he'⟩ := hs.1.decrypt_plain "" (hs.1.empty_not_cipher "" rfl)
  rcases hd : s.str.decrypt "" with ⟨e, enc, st⟩
  rw [hd] at he he'
  dsimp only at he he'
  subst he he'
  simp [Config.load, loadPath, Config.default, hd, hgen]

theorem Config.load_store_snd (hs : s.Lawful) (genId : Nat → Option String) (c : Config)
    (hpw : s.str.isCipher c.password = false) (hpwlen : c.password.utf8ByteSize ≤ encryptMaxLen)
    (hid : s.str.isCipher c.id = false) (hlen : c.id.utf8ByteSize ≤ encryptMaxLen) :
    (Config.load s genId (some (Config.store s c))).2 = false := by
  have hp := hs.1.decrypt_encrypt c.password encryptMaxLen hpw hpwlen
  have hi := hs.1.decrypt_encrypt c.id encryptMaxLen hid hlen
  simp [Config.load, Config.store, loadPath, Config.deserialize_serialize, hp, hi]

theorem Config.genId_of_not_allowed (builtin : StrMap String) (hostname : Option String)
    (mac : Option MacAddress) (h : builtin.lookup keys.optionAllowHostnameAsId ≠ some "Y") :
    Config.genId builtin hostname mac = Config.getAutoId mac := by
  have hoff : ((builtin.lookup keys.optionAllowHostnameAsId).map
      (option2bool keys.optionAllowHostnameAsId)).getD false = false := by
    rcases hv : builtin.lookup keys.optionAllowHostnameAsId with _ | v
    · rfl
    · have hne : v ≠ "Y" := fun e => h (hv ▸ e ▸ rfl)
      simp [option2bool, keys.optionAllowHostnameAsId, keys.optionDirectServer, hne]
  simp only [Config.genId, hoff, Bool.false_eq_true, if_false]

end Lifecycle

theorem auto_id_kept_across_restarts (s : SecretLayer) (hs : s.Lawful)
    (hversion : ∀ x : String, s.str.isCipher x = true → x.toList.take 2 = ['0', '0'])
    (builtin : StrMap String) (hbuiltin : builtin.lookup keys.optionAllowHostnameAsId ≠ some "Y")
    (hostname : Option String) (b₀ b₁ b₂ b₃ b₄ b₅ : UInt8) (genId : Nat → Option String) :
    let id := toString ((b₂.toNat * 2 ^ 24 + b₃.toNat * 2 ^ 16 + b₄.toNat * 2 ^ 8 + b₅.toNat) %
      2 ^ 29)
    Config.genId builtin hostname (some ⟨[b₀, b₁, b₂, b₃, b₄, b₅], rfl⟩) = some id ∧
      Config.load s (fun _ => Config.genId builtin hostname (some ⟨[b₀, b₁, b₂, b₃, b₄, b₅], rfl⟩))
          none = ({ Config.default with id }, true) ∧
      Config.load s genId (some (Config.store s { Config.default with id })) =
        ({ Config.default with id, encId := s.str.encrypt id encryptMaxLen }, false) := by
  intro id
  have hgen : Config.genId builtin hostname (some ⟨[b₀, b₁, b₂, b₃, b₄, b₅], rfl⟩) = some id := by
    rw [Config.genId_of_not_allowed _ _ _ hbuiltin, getAutoId_value]
  have hplain : s.str.isCipher id = false := by
    cases hc : s.str.isCipher id
    · rfl
    · exact absurd (hversion id hc) (toString_take_two_ne _)
  have hshort : id.utf8ByteSize ≤ encryptMaxLen :=
    utf8ByteSize_toString_le _ (Nat.mod_lt _ (by decide))
  have hempty := hs.1.empty_not_cipher "" rfl
  refine ⟨hgen, Config.load_fresh hs _ id (by simp [List.range_succ, hgen]), ?_⟩
  refine Prod.ext (Config.load_store s hs genId _ hempty hplain hshort) ?_
  exact Config.load_store_snd hs genId _ hempty (Nat.zero_le _) hplain hshort

theorem auto_id_kept_across_restarts_mark :
    (∀ x : String, markLayer.str.isCipher x = true → x.toList.take 2 = ['0', '0']) ∧
      (∅ : StrMap String).lookup keys.optionAllowHostnameAsId ≠ some "Y" ∧
      let id := toString (((34 : UInt8).toNat * 2 ^ 24 + (51 : UInt8).toNat * 2 ^ 16 +
        (68 : UInt8).toNat * 2 ^ 8 + (85 : UInt8).toNat) % 2 ^ 29)
      Config.genId ∅ none (some ⟨[0, 17, 34, 51, 68, 85], rfl⟩) = some id ∧
        Config.load markLayer (fun _ => Config.genId ∅ none (some ⟨[0, 17, 34, 51, 68, 85], rfl⟩))
            none = ({ Config.default with id }, true) ∧
        Config.load markLayer (fun _ => none)
            (some (Config.store markLayer { Config.default with id })) =
          ({ Config.default with id, encId := markLayer.str.encrypt id encryptMaxLen }, false) :=
  ⟨fun x hx => of_decide_eq_true hx, by decide,
    auto_id_kept_across_restarts markLayer markLayer_lawful (fun x hx => of_decide_eq_true hx) ∅
      (by decide) none 0 17 34 51 68 85 (fun _ => none)⟩

section Passwords

/-- `NUM_CHARS` -/
def numChars : List Char := ['0', '1', '2', '3', '4', '5', '6', '7', '8', '9']

/-- `CHARS`: lower-case letters and digits, without `0`, `1`, `l` and `o`. -/
def chars : List Char :=
  ['2', '3', '4', '5', '6', '7', '8', '9', 'a', 'b', 'c', 'd', 'e', 'f', 'g', 'h', 'i', 'j', 'k',
    'm', 'n', 'p', 'q', 'r', 's', 't', 'u', 'v', 'w', 'x', 'y', 'z']

/-- `Config::get_auto_password_with_chars`, `draw i` being the `i`-th `rng.gen::<usize>()`. -/
def Config.getAutoPasswordWithChars (length : Nat) (chars : List Char) (draw : Nat → Nat) :
    String :=
  ⟨(List.range length).map fun i => chars.getD (draw i % chars.length) ' '⟩

/-- `Config::get_auto_password` -/
def Config.getAutoPassword (length : Nat) (draw : Nat → Nat) : String :=
  Config.getAutoPasswordWithChars length chars draw

/-- `Config::get_auto_numeric_password` -/
def Config.getAutoNumericPassword (length : Nat) (draw : Nat → Nat) : String :=
  Config.getAutoPasswordWithChars length numChars draw

end Passwords

end HbbCommon
