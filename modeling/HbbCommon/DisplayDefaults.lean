import HbbCommon.PeerConfig
import HbbCommon.Options
/-! The user defaults behind `PeerConfig`'s field defaults: `UserDefaultConfig::get`, with
`get_string` for the choice fields and `get_num_string` for the numbers, the latter over `i32`
and over `f64` (taken with its stated contract), and the `PeerDefaults` that `read` builds from
them. The numbers `get` prints parse back in range, so a `PeerConfig` loaded with these
defaults keeps its two range-checked values in range. -/

namespace HbbCommon

open Toml Secret

section Digits

/-- One step of `parseI32`'s digit loop. -/
def digitStep (acc : Int) (c : Char) : Int := acc * 10 + ((c.toNat - '0'.toNat : Nat) : Int)

theorem digitChar_value : ∀ k < 10, (Nat.digitChar k).toNat - '0'.toNat = k := by
  decide

theorem digitChar_isDigit : ∀ k < 10, (Nat.digitChar k).isDigit = true := by
  decide

theorem toDigitsCore_succ (fuel n : Nat) (ds : List Char) :
    Nat.toDigitsCore 10 (fuel + 1) n ds =
      if n / 10 = 0 then Nat.digitChar (n % 10) :: ds
      else Nat.toDigitsCore 10 fuel (n / 10) (Nat.digitChar (n % 10) :: ds) := rfl

theorem foldl_digitStep_toDigitsCore (fuel n : Nat) (ds : List Char) (h : n < 10 ^ fuel) :
    (Nat.toDigitsCore 10 fuel n ds).foldl digitStep 0 = ds.foldl digitStep (n : Int) := by
  induction fuel generalizing n ds with
  | zero =>
    obtain rfl : n = 0 := by simpa using h
    rfl
  | succ fuel ih =>
    have hd := digitChar_value (n % 10) (Nat.mod_lt _ (by decide))
    have hstep : digitStep ((n / 10 : Nat) : Int) (Nat.digitChar (n % 10)) = n := by
      rw [digitStep, hd]
      omega
    rw [toDigitsCore_succ]
    split
    · next h0 =>
      rw [List.foldl_cons, ← hstep, h0]
      rfl
    · rw [ih (n / 10) _ (by rw [pow_succ] at h; omega), List.foldl_cons, hstep]

theorem toDigitsCore_isDigit (fuel n : Nat) (ds : List Char) (h : ∀ c ∈ ds, c.isDigit = true) :
    ∀ c ∈ Nat.toDigitsCore 10 fuel n ds, c.isDigit = true := by
  induction fuel generalizing n ds with
  | zero => exact h
  | succ fuel ih =>
    have hd := digitChar_isDigit (n % 10) (Nat.mod_lt _ (by decide))
    rw [toDigitsCore_succ]
    split
    · exact List.forall_mem_cons.mpr ⟨hd, h⟩
    · exact ih _ _ (List.forall_mem_cons.mpr ⟨hd, h⟩)

theorem toDigitsCore_ne_nil (fuel n : Nat) (ds : List Char) :
    Nat.toDigitsCore 10 (fuel + 1) n ds ≠ [] := by
  induction fuel generalizing n ds with
  | zero => rw [toDigitsCore_succ]; split <;> exact List.cons_ne_nil _ _
  | succ fuel ih =>
    rw [toDigitsCore_succ]
    split
    · exact List.cons_ne_nil _ _
    · exact ih _ _

theorem parseI32_toString (v : I32) (h : 0 ≤ v.1) : parseI32 (toString v.1) = some v := by
  obtain ⟨n, hn⟩ := Int.eq_ofNat_of_zero_le h
  have hlt : n < 10 ^ (n + 1) := (Nat.lt_pow_self (by decide) _).trans
    (Nat.pow_lt_pow_right (by decide) (Nat.lt_succ_self n))
  have hval := foldl_digitStep_toDigitsCore (n + 1) n [] hlt
  have hdig := toDigitsCore_isDigit (n + 1) n [] (fun _ h => absurd h (List.not_mem_nil _))
  obtain ⟨c, cs, hcs⟩ := List.exists_cons_of_ne_nil (toDigitsCore_ne_nil n n [])
  have hc := hdig c (hcs ▸ List.mem_cons_self c cs)
  have hs : (toString v.1).toList = c :: cs := by
    rw [hn]
    exact hcs
  have hnotsign : c ≠ '-' ∧ c ≠ '+' := by
    constructor <;> rintro rfl <;> exact absurd hc (by decide)
  have hread : (c :: cs).foldl (fun acc c => acc * 10 + ((c.toNat - '0'.toNat : Nat) : Int)) 0
      = n := by
    rw [← hcs]
    exact hval
  have hall : (c :: cs).all Char.isDigit = true :=
    List.all_eq_true.mpr fun x hx => hdig x (hcs ▸ hx)
  have hrange : -2 ^ 31 ≤ (n : Int) ∧ (n : Int) < 2 ^ 31 := hn ▸ v.2
  unfold parseI32
  rw [hs]
  split
  next neg digits heq =>
  split at heq
  · next heq' => exact absurd (List.cons.inj heq').1 hnotsign.1
  · next heq' => exact absurd (List.cons.inj heq').1 hnotsign.2
  · obtain ⟨rfl, rfl⟩ := Prod.mk.inj heq
    simp only [List.isEmpty_cons, hall, not_true_eq_false, or_self, if_false, hread,
      Bool.false_eq_true, dif_pos hrange]
    exact congrArg some (Subtype.ext hn.symm)

end Digits

/-- The bounds `get_num_string::<T>` asks of its type -/
structure NumOps (T : Type) where
  parse : String → Option T
  toString : T → String
  le : T → T → Bool

/-- Rust's `i32`. -/
def i32Ops : NumOps I32 where
  parse := parseI32
  toString v := toString v.1
  le a b := decide (a.1 ≤ b.1)

/-- Rust's `f64`, as far as `get` and `default_custom_image_quality` use it -/
structure F64Ops (T : Type) extends NumOps T where
  ofNat : Nat → T
  asI32 : T → I32

/-- What the range proof needs of `f64`, on the values in `[10.0, 0xFFF as f64]` -/
structure F64Ops.Lawful {T : Type} (f : F64Ops T) : Prop where
  parse_toString : ∀ x, f.le (f.ofNat 10) x && f.le x (f.ofNat 0xFFF) →
    f.parse (f.toString x) = some x
  asI32_mem : ∀ x, f.le (f.ofNat 10) x && f.le x (f.ofNat 0xFFF) →
    10 ≤ (f.asI32 x).1 ∧ (f.asI32 x).1 ≤ 0xFFF
  fifty_mem : f.le (f.ofNat 10) (f.ofNat 50) && f.le (f.ofNat 50) (f.ofNat 0xFFF)

namespace UserDefaultConfig

variable (σ : Settings)

/-- `UserDefaultConfig::get_string` -/
def getString (u : UserDefaultConfig) (key default : String) (others : List String) : String :=
  match u.getAfter σ key with
  | some option => if others.contains option then option else default
  | none => default

/-- `UserDefaultConfig::get_num_string` -/
def getNumString {T : Type} (ops : NumOps T) (u : UserDefaultConfig) (key : String)
    (default min max : T) : String :=
  match u.getAfter σ key with
  | some option =>
    let v := (ops.parse option).getD default
    if ops.le min v && ops.le v max then ops.toString v else ops.toString default
  | none => ops.toString default

/-- `UserDefaultConfig::get`, with the desktop view style. -/
def get {T : Type} (f : F64Ops T) (u : UserDefaultConfig) (key : String) : String :=
  if key = keys.optionViewStyle then getString σ u key "original" ["adaptive"]
  else if key = keys.optionScrollStyle then getString σ u key "scrollauto" ["scrollbar"]
  else if key = keys.optionImageQuality then
    getString σ u key "balanced" ["best", "low", "custom"]
  else if key = keys.optionCodecPreference then
    getString σ u key "auto" ["vp8", "vp9", "av1", "h264", "h265"]
  else if key = keys.optionCustomImageQuality then
    getNumString σ f.toNumOps u key (f.ofNat 50) (f.ofNat 10) (f.ofNat 0xFFF)
  else if key = keys.optionCustomFps then
    getNumString σ f.toNumOps u key (f.ofNat 30) (f.ofNat 5) (f.ofNat 120)
  else if key = keys.optionEnableFileCopyPaste then getString σ u key "Y" ["", "N"]
  else if key = keys.optionTrackpadSpeed then
    getNumString σ i32Ops u key ⟨100, by decide⟩ ⟨10, by decide⟩ ⟨1000, by decide⟩
  else (u.getAfter σ key).getD ""

theorem get_customImageQuality {T : Type} (f : F64Ops T) (u : UserDefaultConfig) :
    get σ f u keys.optionCustomImageQuality = getNumString σ f.toNumOps u
      keys.optionCustomImageQuality (f.ofNat 50) (f.ofNat 10) (f.ofNat 0xFFF) := rfl

theorem get_trackpadSpeed {T : Type} (f : F64Ops T) (u : UserDefaultConfig) :
    get σ f u keys.optionTrackpadSpeed = getNumString σ i32Ops u keys.optionTrackpadSpeed
      ⟨100, by decide⟩ ⟨10, by decide⟩ ⟨1000, by decide⟩ := rfl

theorem getNumString_inRange {T : Type} (ops : NumOps T) (u : UserDefaultConfig) (key : String)
    (default min max : T) (hdefault : (ops.le min default && ops.le default max) = true) :
    ∃ v, (ops.le min v && ops.le v max) = true ∧
      getNumString σ ops u key default min max = ops.toString v := by
  unfold getNumString
  split
  · dsimp only
    split_ifs with h
    · exact ⟨_, h, rfl⟩
    · exact ⟨default, hdefault, rfl⟩
  · exact ⟨default, hdefault, rfl⟩

end UserDefaultConfig

/-- The `PeerDefaults` behind `PeerConfig`'s field defaults -/
def peerDefaults {T : Type} (σ : Settings) (f : F64Ops T) (u : UserDefaultConfig) :
    PeerDefaults where
  read := u.get σ f
  parseF64AsI32 s := (f.parse s).map f.asI32

section Ranges

variable {T : Type} (σ : Settings) (f : F64Ops T) (u : UserDefaultConfig)

theorem parseI32_read_trackpadSpeed :
    ∃ v : I32, parseI32 ((peerDefaults σ f u).read keys.optionTrackpadSpeed) = some v ∧
      10 ≤ v.1 ∧ v.1 ≤ 1000 := by
  obtain ⟨v, hv, heq⟩ := UserDefaultConfig.getNumString_inRange σ i32Ops u
    keys.optionTrackpadSpeed ⟨100, by decide⟩ ⟨10, by decide⟩ ⟨1000, by decide⟩ (by decide)
  have hr : 10 ≤ v.1 ∧ v.1 ≤ 1000 := by simpa [i32Ops] using hv
  refine ⟨v, ?_, hr⟩
  show parseI32 (UserDefaultConfig.get σ f u keys.optionTrackpadSpeed) = some v
  rw [UserDefaultConfig.get_trackpadSpeed, heq]
  exact parseI32_toString v (by omega)

theorem parseF64AsI32_read_customImageQuality (hf : f.Lawful) :
    ∃ x : I32, (peerDefaults σ f u).parseF64AsI32
        ((peerDefaults σ f u).read keys.optionCustomImageQuality) = some x ∧
      10 ≤ x.1 ∧ x.1 ≤ 0xFFF := by
  obtain ⟨v, hv, heq⟩ := UserDefaultConfig.getNumString_inRange σ f.toNumOps u
    keys.optionCustomImageQuality (f.ofNat 50) (f.ofNat 10) (f.ofNat 0xFFF) hf.fifty_mem
  refine ⟨f.asI32 v, ?_, hf.asI32_mem v hv⟩
  show (f.parse (UserDefaultConfig.get σ f u keys.optionCustomImageQuality)).map f.asI32 = _
  rw [UserDefaultConfig.get_customImageQuality, heq, hf.parse_toString v hv, Option.map_some']

theorem default_displayInRange (hf : f.Lawful) :
    (PeerConfig.default (peerDefaults σ f u)).DisplayInRange := by
  obtain ⟨v, hv, hvr⟩ := parseI32_read_trackpadSpeed σ f u
  obtain ⟨x, hx, hxr⟩ := parseF64AsI32_read_customImageQuality σ f u hf
  refine ⟨?_, x, ?_, hxr⟩
  · show 10 ≤ ((parseI32 _).getD _).1 ∧ ((parseI32 _).getD _).1 ≤ 1000
    rw [hv]
    exact hvr
  · show [((PeerDefaults.parseF64AsI32 _ _).getD _)] = _
    rw [hx]
    rfl

end Ranges

theorem peer_display_values_in_range {T : Type} (f : F64Ops T) (hf : f.Lawful) (σ : Settings)
    (u : UserDefaultConfig) (s : SecretLayer) (file : Option Table) :
    (PeerConfig.load s (peerDefaults σ f u) file).1.DisplayInRange ∧
      (PeerConfig.default (peerDefaults σ f u)).DisplayInRange :=
  ⟨PeerConfig.load_displayInRange s _ (default_displayInRange σ f u hf) file,
    default_displayInRange σ f u hf⟩

/-- An `f64` stand-in over `i32` values, exact on the integers the range proof meets. -/
def i32AsF64 : F64Ops I32 where
  toNumOps := i32Ops
  ofNat n := if h : n < 2 ^ 31 then ⟨n, by omega⟩ else ⟨0, by decide⟩
  asI32 := id

theorem i32AsF64_lawful : i32AsF64.Lawful :=
  have hrange (x : I32) (hx : (i32AsF64.le (i32AsF64.ofNat 10) x &&
      i32AsF64.le x (i32AsF64.ofNat 0xFFF)) = true) : 10 ≤ x.1 ∧ x.1 ≤ 0xFFF := by
    simpa [i32AsF64, i32Ops] using hx
  ⟨fun x hx => parseI32_toString x (by have := hrange x hx; omega), hrange, by decide⟩

/-- A peer file whose trackpad speed and custom image quality are both out of range. -/
def outOfRangePeerFile : Table :=
  [("trackpad-speed", .integer 5000), ("custom_image_quality", .array [.integer 3])]

theorem peer_display_values_in_range_out_of_range_file :
    i32AsF64.Lawful ∧
      (PeerConfig.load markLayer (peerDefaults Settings.empty i32AsF64 ⟨∅⟩)
        (some outOfRangePeerFile)).1.DisplayInRange ∧
      (PeerConfig.default (peerDefaults Settings.empty i32AsF64 ⟨∅⟩)).DisplayInRange :=
  ⟨i32AsF64_lawful, peer_display_values_in_range i32AsF64 i32AsF64_lawful Settings.empty ⟨∅⟩
    markLayer (some outOfRangePeerFile)⟩

end HbbCommon
