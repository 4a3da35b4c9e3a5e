import HbbCommon.Setters
import Mathlib.Data.String.Basic

/-! Trusted devices: the record and its 90-day expiry, the text `serde_json` makes of a list of
them (a parameter with its round-trip law, and one lawful instance), and the cache
`TRUSTED_DEVICES` kept next to the sealed copy in `CONFIG2`. -/

namespace HbbCommon

open Toml Secret

/-- A Rust `i64`. -/
abbrev I64 := {i : Int // -2 ^ 63 ≤ i ∧ i < 2 ^ 63}

structure TrustedDevice where
  hwid : List UInt8
  time : I64
  id : String
  name : String
  platform : String
  deriving DecidableEq

/-- `i64` addition as a release build wraps it. -/
def wrappingAddI64 (a b : Int) : Int := (a + b + 2 ^ 63) % 2 ^ 64 - 2 ^ 63

/-- `DAYS_90`, in milliseconds. -/
def days90 : Int := 90 * 24 * 60 * 60 * 1000

/-- `TrustedDevice::outdate`, at the time `now` that `get_time` returns. -/
def TrustedDevice.outdate (d : TrustedDevice) (now : Int) : Bool :=
  wrappingAddI64 d.time.1 days90 < now

/-- `serde_json::to_string` and `serde_json::from_str` on a list of trusted devices. -/
structure DeviceJson where
  toString : List TrustedDevice → String
  fromStr : String → Option (List TrustedDevice)

def DeviceJson.Lawful (j : DeviceJson) : Prop := ∀ l, j.fromStr (j.toString l) = some l

/-- `serde_json` -/
def DeviceJson.SizeMonotone (j : DeviceJson) : Prop :=
  ∀ l₁ l₂, l₁.Sublist l₂ → (j.toString l₁).utf8ByteSize ≤ (j.toString l₂).utf8ByteSize

theorem Char.toNat_ofNat_of_lt (n : Nat) (h : n < 0xD800) : (Char.ofNat n).toNat = n := by
  have hv : n.isValidChar := Or.inl h
  simp [Char.ofNat, hv, Char.ofNatAux, Char.toNat, UInt32.toNat]

namespace DeviceText

/-- A field: its characters with `,` and `\` escaped, closed by `,`. -/
def escape : List Char → List Char
  | [] => [',']
  | c :: cs => (if c = ',' ∨ c = '\\' then ['\\', c] else [c]) ++ escape cs

def unescape : List Char → Option (List Char × List Char)
  | [] => none
  | ',' :: rest => some ([], rest)
  | '\\' :: c :: rest => (unescape rest).map fun r => (c :: r.1, r.2)
  | c :: rest => (unescape rest).map fun r => (c :: r.1, r.2)

theorem unescape_escape (cs rest : List Char) : unescape (escape cs ++ rest) = some (cs, rest) := by
  induction cs with
  | nil => rfl
  | cons c cs ih =>
    by_cases h : c = ',' ∨ c = '\\'
    · rw [escape, if_pos h, List.append_assoc]
      simp [unescape, ih]
    · rw [escape, if_neg h, List.append_assoc]
      simp only [not_or] at h
      simp [unescape, ih, h.1, h.2]

/-- An `i64` as eight bytes, least significant first, offset to be non-negative. -/
def timeChars (t : I64) : List Char :=
  let n := (t.1 + 2 ^ 63).toNat
  [n % 256, n / 256 % 256, n / 256 ^ 2 % 256, n / 256 ^ 3 % 256, n / 256 ^ 4 % 256,
    n / 256 ^ 5 % 256, n / 256 ^ 6 % 256, n / 256 ^ 7 % 256].map Char.ofNat

def charsTime : List Char → Option I64
  | [c₀, c₁, c₂, c₃, c₄, c₅, c₆, c₇] =>
    let v : Int := ((c₀.toNat + c₁.toNat * 256 + c₂.toNat * 256 ^ 2 + c₃.toNat * 256 ^ 3 +
      c₄.toNat * 256 ^ 4 + c₅.toNat * 256 ^ 5 + c₆.toNat * 256 ^ 6 + c₇.toNat * 256 ^ 7 : Nat) : Int)
      - 2 ^ 63
    if h : -2 ^ 63 ≤ v ∧ v < 2 ^ 63 then some ⟨v, h⟩ else none
  | _ => none

theorem charsTime_timeChars (t : I64) : charsTime (timeChars t) = some t := by
  obtain ⟨t, h₁, h₂⟩ := t
  have hb : ∀ k : Nat, (Char.ofNat (k % 256)).toNat = k % 256 := fun k =>
    Char.toNat_ofNat_of_lt _ (by omega)
  simp only [timeChars, List.map_cons, List.map_nil, charsTime, hb]
  have hn : (((t + 2 ^ 63).toNat : Nat) : Int) = t + 2 ^ 63 := Int.toNat_of_nonneg (by omega)
  generalize (t + 2 ^ 63).toNat = n at hn ⊢
  have hsum : n % 256 + n / 256 % 256 * 256 + n / 256 ^ 2 % 256 * 256 ^ 2 +
      n / 256 ^ 3 % 256 * 256 ^ 3 + n / 256 ^ 4 % 256 * 256 ^ 4 + n / 256 ^ 5 % 256 * 256 ^ 5 +
      n / 256 ^ 6 % 256 * 256 ^ 6 + n / 256 ^ 7 % 256 * 256 ^ 7 = n := by
    omega
  simp only [hsum, hn, add_sub_cancel_right, dif_pos (And.intro h₁ h₂)]

def encodeDevice (d : TrustedDevice) : List Char :=
  escape (d.hwid.map fun b => Char.ofNat b.toNat) ++ escape (timeChars d.time) ++
    escape d.id.toList ++ escape d.name.toList ++ escape d.platform.toList

def decodeDevice (cs : List Char) : Option (TrustedDevice × List Char) := do
  let (hwid, cs) ← unescape cs
  let (time, cs) ← unescape cs
  let time ← charsTime time
  let (id, cs) ← unescape cs
  let (name, cs) ← unescape cs
  let (platform, cs) ← unescape cs
  pure (⟨hwid.map fun c => UInt8.ofNat c.toNat, time, ⟨id⟩, ⟨name⟩, ⟨platform⟩⟩, cs)

theorem decodeDevice_encodeDevice (d : TrustedDevice) (rest : List Char) :
    decodeDevice (encodeDevice d ++ rest) = some (d, rest) := by
  have hbytes : (d.hwid.map fun b => Char.ofNat b.toNat).map (fun c => UInt8.ofNat c.toNat) =
      d.hwid := by
    rw [List.map_map]
    conv_rhs => rw [← List.map_id d.hwid]
    refine List.map_congr_left fun b _ => ?_
    have hb : b.toNat < 256 := b.toNat_lt_size
    simp only [Function.comp_apply, Char.toNat_ofNat_of_lt b.toNat (by omega), id]
    exact UInt8.toNat.inj (UInt8.toNat_ofNat_of_lt b.toNat_lt_size)
  simp only [decodeDevice, encodeDevice, String.toList, List.append_assoc, unescape_escape,
    Option.pure_def, Option.bind_eq_bind, Option.some_bind, hbytes, charsTime_timeChars]

/-- Decoding with one unit of fuel per device. -/
def decodeList : Nat → List Char → Option (List TrustedDevice)
  | _, [] => some []
  | 0, _ :: _ => none
  | fuel + 1, cs => do
    let (d, rest) ← decodeDevice cs
    let ds ← decodeList fuel rest
    pure (d :: ds)

theorem decodeList_encode (l : List TrustedDevice) (fuel : Nat) (h : l.length ≤ fuel) :
    decodeList fuel (l.flatMap encodeDevice) = some l := by
  induction l generalizing fuel with
  | nil => cases fuel <;> rfl
  | cons d l ih =>
    obtain ⟨fuel, rfl⟩ : ∃ f, fuel = f + 1 := ⟨fuel - 1, by simp at h; omega⟩
    obtain ⟨c, cs, hcs⟩ : ∃ c cs, encodeDevice d ++ l.flatMap encodeDevice = c :: cs :=
      List.exists_cons_of_ne_nil (by simp [encodeDevice, escape])
    rw [List.flatMap_cons, hcs, decodeList, ← hcs, decodeDevice_encodeDevice]
    · simp [ih fuel (by simpa using h)]
    · exact List.cons_ne_nil c cs

theorem length_escape_pos (cs : List Char) : 0 < (escape cs).length := by
  cases cs with
  | nil => decide
  | cons c cs => rw [escape, List.length_append]; split <;> simp only [List.length_cons] <;> omega

theorem length_le_encode (l : List TrustedDevice) : l.length ≤ (l.flatMap encodeDevice).length := by
  induction l with
  | nil => simp
  | cons d l ih =>
    have := length_escape_pos d.platform.toList
    simp only [List.flatMap_cons, List.length_append, List.length_cons, encodeDevice]
    omega

/-- A lawful stand-in for `serde_json` on device lists: a `[`, then the fields of each device. -/
def json : DeviceJson where
  toString l := ⟨'[' :: l.flatMap encodeDevice⟩
  fromStr s := match s.toList with
    | '[' :: cs => decodeList cs.length cs
    | _ => none

theorem json_lawful : json.Lawful := fun l =>
  decodeList_encode l _ (length_le_encode l)

theorem json_plain (l : List TrustedDevice) : markLayer.str.isCipher (json.toString l) = false :=
  rfl

theorem sublist_escape (cs : List Char) : cs.Sublist (escape cs) := by
  induction cs with
  | nil => exact List.nil_sublist _
  | cons c cs ih =>
    rw [escape]
    split
    · exact (ih.cons₂ c).cons _
    · exact ih.cons₂ c

theorem utf8ByteSize_name_lt (d : TrustedDevice) :
    d.name.utf8ByteSize < (json.toString [d]).utf8ByteSize := by
  have hsub : d.name.data.Sublist (encodeDevice d) :=
    ((sublist_escape _).trans (List.sublist_append_right _ _)).trans (List.sublist_append_left _ _)
  have h := String.utf8Len_le_of_sublist hsub
  have h₁ := Char.utf8Size_pos '['
  show String.utf8Len d.name.data < String.utf8Len ('[' :: (encodeDevice d ++ []))
  rw [List.append_nil, String.utf8Len_cons]
  omega

theorem json_sizeMonotone : json.SizeMonotone := fun l₁ l₂ h => by
  have hsub : (l₁.flatMap encodeDevice).Sublist (l₂.flatMap encodeDevice) := by
    induction h with
    | slnil => exact .slnil
    | cons d _ ih => exact ih.trans (List.sublist_append_right _ _)
    | cons₂ d _ ih => exact ih.append_left _
  exact String.utf8Len_le_of_sublist (hsub.cons₂ '[')

end DeviceText

/-- What the trusted-device operations read and write -/
structure DeviceState where
  config : Config
  config2 : Config2
  trustedDevices : List TrustedDevice × Bool
  clock : Int

/-- `1024 * 1024`: the largest sealed list `set_trusted_devices` writes. -/
def trustedDevicesMaxLen : Nat := 1024 * 1024

section Operations

variable (s : SecretLayer) (j : DeviceJson)

/-- `Config::set_trusted_devices` at time `now` -/
def setTrustedDevices (now : Int) (st : DeviceState) (devices : List TrustedDevice) :
    DeviceState :=
  let devices := devices.filter fun d => !d.outdate now
  let text := j.toString devices
  if trustedDevicesMaxLen < text.utf8ByteSize then st
  else { st with
    config2 := { st.config2 with trustedDevices := s.str.encrypt text trustedDevicesMaxLen }
    trustedDevices := (devices, true) }

/-- The part of `Config::get_trusted_devices` after the sealed list decrypted to `text` -/
def fillCache (now : Int) (st : DeviceState) (text : String) (store : Bool) :
    List TrustedDevice × DeviceState :=
  let devices := (j.fromStr text).getD []
  let len := devices.length
  let devices := devices.filter fun d => !d.outdate now
  let st := if store || devices.length ≠ len then setTrustedDevices s j now st devices else st
  (devices, { st with trustedDevices := (devices, true) })

/-- `Config::get_trusted_devices` at time `now` -/
def getTrustedDevices (now : Int) (st : DeviceState) : List TrustedDevice × DeviceState :=
  if st.trustedDevices.2 then (st.trustedDevices.1, st)
  else
    let (text, succ, store) := s.str.decrypt st.config2.trustedDevices
    if succ then fillCache s j now st text store else ([], st)

def addTrustedDevice (now : Int) (st : DeviceState) (device : TrustedDevice) : DeviceState :=
  let r := getTrustedDevices s j now st
  setTrustedDevices s j now r.2 (r.1.filter (fun d => d.hwid ≠ device.hwid) ++ [device])

def removeTrustedDevices (now : Int) (st : DeviceState) (hwids : List (List UInt8)) :
    DeviceState :=
  let r := getTrustedDevices s j now st
  setTrustedDevices s j now r.2 (r.1.filter fun d => d.hwid ∉ hwids)

def clearTrustedDevices (now : Int) (st : DeviceState) : DeviceState :=
  setTrustedDevices s j now st []

/-- `Config::set_permanent_password`: a changed password clears the trusted devices. -/
def setPermanentPassword (σ : Settings) (now : Int) (st : DeviceState) (password : String) :
    DeviceState :=
  match Config.setPermanentPassword σ st.config password with
  | none => st
  | some config => clearTrustedDevices s j now { st with config }

end Operations

/-- The operations of a trusted-device history -/
inductive DeviceOp where
  | get
  | add (device : TrustedDevice)
  | remove (hwids : List (List UInt8))
  | clear
  | setPermanentPassword (password : String)
  | setNatType (natType : I32)
  | setSerial (serial : I32)
  | setOption (k v : String)
  | setOptions (v : StrMap String)
  | setSocks (socks : Option Socks5Server)
  | setUnlockPin (pin : String)
  | setRendezvousServer (host : String)
  | set (cfg : Config2)

def DeviceOp.isConfig2Set : DeviceOp → Bool
  | .set _ => true
  | _ => false

/-- A `CONFIG2` setter applied to the state. -/
def DeviceState.updateConfig2 (st : DeviceState) (f : Config2 → Option Config2) : DeviceState :=
  { st with config2 := (f st.config2).getD st.config2 }

/-- One operation at time `now`. -/
def DeviceOp.step (s : SecretLayer) (j : DeviceJson) (σ : Settings) (st : DeviceState) :
    DeviceOp × Int → DeviceState
  | (op, now) =>
    let st := { st with clock := now }
    match op with
    | .get => (getTrustedDevices s j now st).2
    | .add device => addTrustedDevice s j now st device
    | .remove hwids => removeTrustedDevices s j now st hwids
    | .clear => clearTrustedDevices s j now st
    | .setPermanentPassword password => HbbCommon.setPermanentPassword s j σ now st password
    | .setNatType natType => st.updateConfig2 (Config.setNatType · natType)
    | .setSerial serial => st.updateConfig2 (Config.setSerial · serial)
    | .setOption k v => st.updateConfig2 (Config.setOption σ · k v)
    | .setOptions v => st.updateConfig2 (Config.setOptions σ · v)
    | .setSocks socks => st.updateConfig2 (Config.setSocks σ · socks)
    | .setUnlockPin pin => st.updateConfig2 (Config.setUnlockPin · pin)
    | .setRendezvousServer host => st.updateConfig2 (Config.setRendezvousServer · host)
    | .set cfg => st.updateConfig2 (Config2.set · cfg)

def DeviceOp.run (s : SecretLayer) (j : DeviceJson) (σ : Settings) (st : DeviceState)
    (ops : List (DeviceOp × Int)) : DeviceState :=
  ops.foldl (DeviceOp.step s j σ) st

/-- The times of the operations never go back. -/
def Chronological : Int → List (DeviceOp × Int) → Prop
  | _, [] => True
  | c, (_, t) :: rest => c ≤ t ∧ Chronological t rest

theorem Chronological.le_of_mem {c : Int} {ops : List (DeviceOp × Int)} (h : Chronological c ops)
    {x : DeviceOp × Int} (hx : x ∈ ops) : c ≤ x.2 := by
  induction ops generalizing c with
  | nil => cases hx
  | cons y ops ih =>
    obtain ⟨hle, hrest⟩ := h
    rcases List.mem_cons.mp hx with rfl | hx
    · exact hle
    · exact hle.trans (ih hrest hx)

section Cache

variable (s : SecretLayer) (j : DeviceJson)

/-- The sealed list in `CONFIG2` decrypts, and parses to `l`. -/
def Sealed (st : DeviceState) (l : List TrustedDevice) : Prop :=
  (s.str.decrypt st.config2.trustedDevices).2.1 = true ∧
    (j.fromStr (s.str.decrypt st.config2.trustedDevices).1).getD [] = l

/-- A synced cache is the sealed list filtered at a time up to the clock that `P` allows. -/
def CacheAgrees (P : Int → Prop) (st : DeviceState) : Prop :=
  st.trustedDevices.2 = true → ∃ t₀, P t₀ ∧ t₀ ≤ st.clock ∧ ∃ l, Sealed s j st l ∧
    st.trustedDevices.1 = l.filter fun d => !d.outdate t₀

theorem filter_outdate_idem (l : List TrustedDevice) (t : Int) :
    (l.filter fun d => !d.outdate t).filter (fun d => !d.outdate t) =
      l.filter fun d => !d.outdate t := by
  rw [List.filter_filter]
  simp

variable {s j} {P : Int → Prop}

theorem setTrustedDevices_spec (hs : s.Lawful) (hj : j.Lawful)
    (hplain : ∀ l, s.str.isCipher (j.toString l) = false) (now : Int) (st : DeviceState)
    (devices : List TrustedDevice) :
    let l := devices.filter fun d => !d.outdate now
    (trustedDevicesMaxLen < (j.toString l).utf8ByteSize →
        setTrustedDevices s j now st devices = st) ∧
      ((j.toString l).utf8ByteSize ≤ trustedDevicesMaxLen →
        Sealed s j (setTrustedDevices s j now st devices) l ∧
          (setTrustedDevices s j now st devices).trustedDevices = (l, true) ∧
          (setTrustedDevices s j now st devices).clock = st.clock) := by
  refine ⟨fun hlen => by simp only [setTrustedDevices, hlen, if_true], fun hlen => ?_⟩
  have h := hs.1.decrypt_encrypt _ _ (hplain _) hlen
  simp only [Sealed, setTrustedDevices, Nat.not_lt.mpr hlen, if_false, h, hj _, Option.getD_some,
    and_self]

theorem setTrustedDevices_cases (hs : s.Lawful) (hj : j.Lawful)
    (hplain : ∀ l, s.str.isCipher (j.toString l) = false) (now : Int) (st : DeviceState)
    (devices : List TrustedDevice) :
    setTrustedDevices s j now st devices = st ∨
      (Sealed s j (setTrustedDevices s j now st devices)
          (devices.filter fun d => !d.outdate now) ∧
        (setTrustedDevices s j now st devices).trustedDevices =
          (devices.filter fun d => !d.outdate now, true) ∧
        (setTrustedDevices s j now st devices).clock = st.clock) :=
  (lt_or_le _ _).imp (setTrustedDevices_spec hs hj hplain now st devices).1
    (setTrustedDevices_spec hs hj hplain now st devices).2

theorem cacheAgrees_of_sealed {st st' : DeviceState} (h : CacheAgrees s j P st)
    (hc : st'.config2.trustedDevices = st.config2.trustedDevices)
    (ht : st'.trustedDevices = st.trustedDevices) (hclock : st.clock ≤ st'.clock) :
    CacheAgrees s j P st' := by
  intro hsync
  obtain ⟨t₀, hP, ht₀, l, ⟨h₁, h₂⟩, h₃⟩ := h (ht ▸ hsync)
  exact ⟨t₀, hP, ht₀.trans hclock, l, ⟨hc ▸ h₁, hc ▸ h₂⟩, ht ▸ h₃⟩

theorem getTrustedDevices_fst (t : Int) (st : DeviceState) (h : CacheAgrees s j P st)
    (ht : st.clock ≤ t) :
    ∃ t₀, (P t₀ ∨ t₀ = t) ∧ t₀ ≤ t ∧ (getTrustedDevices s j t st).1 =
      if (s.str.decrypt st.config2.trustedDevices).2.1 then
        ((j.fromStr (s.str.decrypt st.config2.trustedDevices).1).getD []).filter
          fun d => !d.outdate t₀
      else [] := by
  unfold getTrustedDevices
  split
  · next hsync =>
    obtain ⟨t₀, hP, ht₀, l, ⟨h₁, h₂⟩, h₃⟩ := h hsync
    exact ⟨t₀, .inl hP, ht₀.trans ht, by rw [if_pos h₁, h₂, h₃]⟩
  · rcases hd : s.str.decrypt st.config2.trustedDevices with ⟨text, succ, store⟩
    cases succ <;> exact ⟨t, .inr rfl, le_refl t, rfl⟩

theorem updateConfig2_sealed (st : DeviceState) (f : Config2 → Option Config2)
    (hf : ∀ c', f st.config2 = some c' → c'.trustedDevices = st.config2.trustedDevices) :
    (st.updateConfig2 f).config2.trustedDevices = st.config2.trustedDevices := by
  unfold DeviceState.updateConfig2
  cases hf' : f st.config2 with
  | none => rfl
  | some c' => exact hf c' hf'

theorem DeviceOp.step_frame (σ : Settings) (st : DeviceState) (op : DeviceOp) (now : Int)
    (hop : op.isConfig2Set = false) :
    (op = .get ∨ (∃ d, op = .add d) ∨ (∃ hwids, op = .remove hwids) ∨ op = .clear ∨
        ∃ password, op = .setPermanentPassword password) ∨
      ((DeviceOp.step s j σ st (op, now)).config2.trustedDevices = st.config2.trustedDevices ∧
        (DeviceOp.step s j σ st (op, now)).trustedDevices = st.trustedDevices ∧
        (DeviceOp.step s j σ st (op, now)).clock = now) := by
  cases op with
  | get => exact .inl (.inl rfl)
  | add d => exact .inl (.inr (.inl ⟨d, rfl⟩))
  | remove hwids => exact .inl (.inr (.inr (.inl ⟨hwids, rfl⟩)))
  | clear => exact .inl (.inr (.inr (.inr (.inl rfl))))
  | setPermanentPassword password => exact .inl (.inr (.inr (.inr (.inr ⟨password, rfl⟩))))
  | setNatType _ | setSerial _ | setUnlockPin _ | setRendezvousServer _ =>
    exact .inr ⟨updateConfig2_sealed _ _ fun _ hc => by rw [setIfChanged_eq_some hc], rfl, rfl⟩
  | setOption k v =>
    refine .inr ⟨updateConfig2_sealed _ _ fun c' hc => ?_, rfl, rfl⟩
    obtain ⟨_, -, rfl⟩ := Option.map_eq_some'.mp hc
    rfl
  | setOptions _ | setSocks _ =>
    refine .inr ⟨updateConfig2_sealed _ _ fun c' hc => ?_, rfl, rfl⟩
    simp only [Config.setOptions, Config.setSocks] at hc
    split_ifs at hc
    cases hc
    rfl
  | set cfg => simp [DeviceOp.isConfig2Set] at hop

variable (hs : s.Lawful) (hj : j.Lawful) (hplain : ∀ l, s.str.isCipher (j.toString l) = false)
include hs hj hplain

theorem cacheAgrees_setTrustedDevices (now : Int) (hP : P now) (st : DeviceState)
    (devices : List TrustedDevice) (h : CacheAgrees s j P st) (hnow : now ≤ st.clock) :
    CacheAgrees s j P (setTrustedDevices s j now st devices) := by
  rcases setTrustedDevices_cases hs hj hplain now st devices with he | ⟨hsl, hc, hclock⟩
  · rw [he]
    exact h
  · intro _
    exact ⟨now, hP, by rw [hclock]; exact hnow, _, hsl, by rw [hc, filter_outdate_idem]⟩

theorem setTrustedDevices_clock (now : Int) (st : DeviceState) (devices : List TrustedDevice) :
    (setTrustedDevices s j now st devices).clock = st.clock := by
  rcases setTrustedDevices_cases hs hj hplain now st devices with he | ⟨-, -, hclock⟩
  · rw [he]
  · exact hclock

theorem fillCache_spec (now : Int) (hP : P now) (st : DeviceState) (text : String)
    (store : Bool) (hd : s.str.decrypt st.config2.trustedDevices = (text, true, store))
    (hnow : now ≤ st.clock) :
    (fillCache s j now st text store).1 = ((j.fromStr text).getD []).filter
        (fun d => !d.outdate now) ∧
      CacheAgrees s j P (fillCache s j now st text store).2 ∧
      (fillCache s j now st text store).2.clock = st.clock := by
  have hst : Sealed s j st ((j.fromStr text).getD []) := by simp [Sealed, hd]
  dsimp only [fillCache]
  split
  · rcases setTrustedDevices_cases hs hj hplain now st
      (((j.fromStr text).getD []).filter fun d => !d.outdate now) with he | ⟨hsl, -, hclock⟩
    · rw [he]
      exact ⟨rfl, fun _ => ⟨now, hP, hnow, _, hst, rfl⟩, rfl⟩
    · exact ⟨rfl, fun _ => ⟨now, hP, by rw [hclock]; exact hnow, _, hsl,
        by simp only [filter_outdate_idem]⟩, hclock⟩
  · exact ⟨rfl, fun _ => ⟨now, hP, hnow, _, hst, rfl⟩, rfl⟩

theorem getTrustedDevices_spec (now : Int) (hP : P now) (st : DeviceState)
    (h : CacheAgrees s j P st) (hnow : now ≤ st.clock) :
    CacheAgrees s j P (getTrustedDevices s j now st).2 ∧
      (getTrustedDevices s j now st).2.clock = st.clock := by
  unfold getTrustedDevices
  split
  · exact ⟨h, rfl⟩
  · rcases hd : s.str.decrypt st.config2.trustedDevices with ⟨text, succ, store⟩
    cases succ
    · exact ⟨h, rfl⟩
    · exact (fillCache_spec hs hj hplain now hP st text store hd hnow).2

theorem cacheAgrees_getThenSet (now : Int) (hP : P now) (st : DeviceState)
    (f : List TrustedDevice → List TrustedDevice) (h : CacheAgrees s j P st)
    (hnow : now ≤ st.clock) :
    let r := getTrustedDevices s j now st
    CacheAgrees s j P (setTrustedDevices s j now r.2 (f r.1)) ∧
      (setTrustedDevices s j now r.2 (f r.1)).clock = st.clock := by
  obtain ⟨h₂, hc₂⟩ := getTrustedDevices_spec hs hj hplain now hP st h hnow
  exact ⟨cacheAgrees_setTrustedDevices hs hj hplain now hP _ _ h₂ (hc₂ ▸ hnow),
    (setTrustedDevices_clock hs hj hplain _ _ _).trans hc₂⟩

theorem cacheAgrees_step (σ : Settings) (st : DeviceState) (op : DeviceOp) (now : Int)
    (hP : P now) (hop : op.isConfig2Set = false) (h : CacheAgrees s j P st)
    (hnow : st.clock ≤ now) :
    CacheAgrees s j P (DeviceOp.step s j σ st (op, now)) ∧
      (DeviceOp.step s j σ st (op, now)).clock = now := by
  have h₁ : CacheAgrees s j P { st with clock := now } := cacheAgrees_of_sealed h rfl rfl hnow
  rcases DeviceOp.step_frame σ st op now hop with
    (rfl | ⟨device, rfl⟩ | ⟨hwids, rfl⟩ | rfl | ⟨password, rfl⟩) | ⟨hc, ht, hclock⟩
  · exact getTrustedDevices_spec hs hj hplain now hP _ h₁ le_rfl
  · exact cacheAgrees_getThenSet hs hj hplain now hP _
      (fun l => l.filter (fun d => d.hwid ≠ device.hwid) ++ [device]) h₁ le_rfl
  · exact cacheAgrees_getThenSet hs hj hplain now hP _ (fun l => l.filter fun d => d.hwid ∉ hwids)
      h₁ le_rfl
  · exact ⟨cacheAgrees_setTrustedDevices hs hj hplain now hP _ _ h₁ le_rfl,
      setTrustedDevices_clock hs hj hplain _ _ _⟩
  · simp only [DeviceOp.step, HbbCommon.setPermanentPassword]
    split
    · exact ⟨h₁, rfl⟩
    · exact ⟨cacheAgrees_setTrustedDevices hs hj hplain now hP _ _
        (cacheAgrees_of_sealed h₁ rfl rfl le_rfl) le_rfl, setTrustedDevices_clock hs hj hplain _ _ _⟩
  · exact ⟨cacheAgrees_of_sealed h hc ht (by rw [hclock]; exact hnow), hclock⟩

theorem cacheAgrees_run (σ : Settings) (ops : List (DeviceOp × Int)) (st : DeviceState)
    (hchron : Chronological st.clock ops) (hops : ∀ x ∈ ops, x.1.isConfig2Set = false)
    (hP : ∀ x ∈ ops, P x.2) (h : CacheAgrees s j P st) :
    CacheAgrees s j P (DeviceOp.run s j σ st ops) ∧
      st.clock ≤ (DeviceOp.run s j σ st ops).clock := by
  induction ops generalizing st with
  | nil => exact ⟨h, le_rfl⟩
  | cons x ops ih =>
    obtain ⟨op, now⟩ := x
    obtain ⟨hle, hrest⟩ := hchron
    obtain ⟨h', hc'⟩ := cacheAgrees_step hs hj hplain σ st op now
      (hP _ (List.mem_cons_self _ _)) (hops _ (List.mem_cons_self _ _)) h hle
    obtain ⟨h'', hc''⟩ := ih _ (by rw [hc']; exact hrest)
      (fun x hx => hops x (List.mem_cons_of_mem _ hx)) (fun x hx => hP x (List.mem_cons_of_mem _ hx))
      h'
    refine ⟨h'', ?_⟩
    show st.clock ≤ (DeviceOp.run s j σ (DeviceOp.step s j σ st (op, now)) ops).clock
    omega

end Cache

/-- Pairwise distinct hwids, and a text no longer than `set_trusted_devices` writes. -/
def DeviceListOk (j : DeviceJson) (l : List TrustedDevice) : Prop :=
  (l.map (·.hwid)).Nodup ∧ (j.toString l).utf8ByteSize ≤ trustedDevicesMaxLen

/-- The sealed list, when it decrypts, and the cache, when synced, are both well formed. -/
structure DevicesOk (s : SecretLayer) (j : DeviceJson) (st : DeviceState) : Prop where
  sealed : (s.str.decrypt st.config2.trustedDevices).2.1 = true →
    DeviceListOk j ((j.fromStr (s.str.decrypt st.config2.trustedDevices).1).getD [])
  cache : st.trustedDevices.2 = true → DeviceListOk j st.trustedDevices.1

section Uniqueness

variable {s : SecretLayer} {j : DeviceJson}

theorem DeviceListOk.sublist (hmono : j.SizeMonotone) {l₁ l₂ : List TrustedDevice}
    (h : DeviceListOk j l₂) (hl : l₁.Sublist l₂) : DeviceListOk j l₁ :=
  ⟨List.Nodup.sublist (hl.map _) h.1, (hmono _ _ hl).trans h.2⟩

theorem nodup_hwid_filter (l : List TrustedDevice) (p : TrustedDevice → Bool)
    (h : (l.map (·.hwid)).Nodup) : ((l.filter p).map (·.hwid)).Nodup :=
  List.Nodup.sublist ((List.filter_sublist _).map _) h

theorem nodup_hwid_add (l : List TrustedDevice) (device : TrustedDevice)
    (h : (l.map (·.hwid)).Nodup) :
    ((l.filter (fun d => d.hwid ≠ device.hwid) ++ [device]).map (·.hwid)).Nodup := by
  rw [List.map_append, List.nodup_append]
  refine ⟨nodup_hwid_filter l _ h, List.nodup_singleton _, ?_⟩
  simp [List.disjoint_singleton]

variable (hs : s.Lawful) (hj : j.Lawful) (hplain : ∀ l, s.str.isCipher (j.toString l) = false)
include hs hj hplain

theorem devicesOk_setTrustedDevices (now : Int) (st : DeviceState) (devices : List TrustedDevice)
    (h : DevicesOk s j st) (hl : (devices.map (·.hwid)).Nodup) :
    DevicesOk s j (setTrustedDevices s j now st devices) := by
  obtain ⟨hbig, hfit⟩ := setTrustedDevices_spec hs hj hplain now st devices
  rcases lt_or_le trustedDevicesMaxLen
    (j.toString (devices.filter fun d => !d.outdate now)).utf8ByteSize with hlen | hlen
  · rw [hbig hlen]
    exact h
  · obtain ⟨⟨-, hp⟩, hc, -⟩ := hfit hlen
    have hok : DeviceListOk j (devices.filter fun d => !d.outdate now) :=
      ⟨nodup_hwid_filter devices _ hl, hlen⟩
    exact ⟨fun _ => by rw [hp]; exact hok, fun _ => by rw [hc]; exact hok⟩

theorem devicesOk_getTrustedDevices (hmono : j.SizeMonotone) (now : Int) (st : DeviceState)
    (h : DevicesOk s j st) :
    DevicesOk s j (getTrustedDevices s j now st).2 ∧
      ((getTrustedDevices s j now st).1.map (·.hwid)).Nodup := by
  unfold getTrustedDevices
  split
  · next hsync => exact ⟨h, (h.cache hsync).1⟩
  · rcases hd : s.str.decrypt st.config2.trustedDevices with ⟨text, succ, store⟩
    cases succ
    · exact ⟨h, List.nodup_nil⟩
    · have hread : DeviceListOk j ((j.fromStr text).getD []) := by
        simpa only [hd] using h.sealed (by rw [hd])
      have hl : DeviceListOk j (((j.fromStr text).getD []).filter fun d => !d.outdate now) :=
        hread.sublist hmono (List.filter_sublist _)
      have hst : ∀ b : Bool, DevicesOk s j (if b then setTrustedDevices s j now st
          (((j.fromStr text).getD []).filter fun d => !d.outdate now) else st)
        | true => devicesOk_setTrustedDevices hs hj hplain now st _ h hl.1
        | false => h
      exact ⟨⟨(hst _).sealed, fun _ => hl⟩, hl.1⟩

theorem devicesOk_step (hmono : j.SizeMonotone) (σ : Settings) (st : DeviceState) (op : DeviceOp)
    (now : Int) (hop : op.isConfig2Set = false) (h : DevicesOk s j st) :
    DevicesOk s j (DeviceOp.step s j σ st (op, now)) := by
  have h₁ : DevicesOk s j { st with clock := now } := ⟨h.sealed, h.cache⟩
  rcases DeviceOp.step_frame σ st op now hop with
    (rfl | ⟨device, rfl⟩ | ⟨hwids, rfl⟩ | rfl | ⟨password, rfl⟩) | ⟨hc, ht, -⟩
  · exact (devicesOk_getTrustedDevices hs hj hplain hmono now _ h₁).1
  · obtain ⟨h₂, hl⟩ := devicesOk_getTrustedDevices hs hj hplain hmono now _ h₁
    exact devicesOk_setTrustedDevices hs hj hplain now _ _ h₂ (nodup_hwid_add _ device hl)
  · obtain ⟨h₂, hl⟩ := devicesOk_getTrustedDevices hs hj hplain hmono now _ h₁
    exact devicesOk_setTrustedDevices hs hj hplain now _ _ h₂ (nodup_hwid_filter _ _ hl)
  · exact devicesOk_setTrustedDevices hs hj hplain now _ _ h₁ List.nodup_nil
  · simp only [DeviceOp.step, HbbCommon.setPermanentPassword]
    split
    · exact h₁
    · exact devicesOk_setTrustedDevices hs hj hplain now _ _ ⟨h.sealed, h.cache⟩ List.nodup_nil
  · exact ⟨fun hd => by rw [hc] at hd ⊢; exact h.sealed hd,
      fun hsync => by rw [ht] at hsync ⊢; exact h.cache hsync⟩

theorem devicesOk_run (hmono : j.SizeMonotone) (σ : Settings) (ops : List (DeviceOp × Int))
    (st : DeviceState) (hops : ∀ x ∈ ops, x.1.isConfig2Set = false) (h : DevicesOk s j st) :
    DevicesOk s j (DeviceOp.run s j σ st ops) := by
  induction ops generalizing st with
  | nil => exact h
  | cons x ops ih =>
    exact ih _ (fun y hy => hops y (List.mem_cons_of_mem _ hy))
      (devicesOk_step hs hj hplain hmono σ st x.1 x.2 (hops x (List.mem_cons_self _ _)) h)

theorem addTrustedDevice_spec (now : Int) (st : DeviceState) (device : TrustedDevice) :
    let r := getTrustedDevices s j now st
    let l := r.1.filter (fun d => !d.outdate now && d.hwid ≠ device.hwid) ++
      if device.outdate now then [] else [device]
    (trustedDevicesMaxLen < (j.toString l).utf8ByteSize → addTrustedDevice s j now st device = r.2) ∧
      ((j.toString l).utf8ByteSize ≤ trustedDevicesMaxLen →
        Sealed s j (addTrustedDevice s j now st device) l ∧
          (addTrustedDevice s j now st device).trustedDevices = (l, true)) := by
  intro r l
  have hl : ((r.1.filter fun d => d.hwid ≠ device.hwid) ++ [device]).filter
      (fun d => !d.outdate now) = l := by
    simp only [l, List.filter_append, List.filter_filter, List.filter_cons, List.filter_nil]
    cases device.outdate now <;> rfl
  obtain ⟨hbig, hfit⟩ := setTrustedDevices_spec hs hj hplain now r.2
    ((r.1.filter fun d => d.hwid ≠ device.hwid) ++ [device])
  rw [hl] at hbig hfit
  exact ⟨hbig, fun hlen => (hfit hlen).imp_right And.left⟩

theorem removeTrustedDevices_spec (now : Int) (st : DeviceState) (hwids : List (List UInt8)) :
    let r := getTrustedDevices s j now st
    let l := r.1.filter fun d => !d.outdate now && d.hwid ∉ hwids
    (trustedDevicesMaxLen < (j.toString l).utf8ByteSize →
        removeTrustedDevices s j now st hwids = r.2) ∧
      ((j.toString l).utf8ByteSize ≤ trustedDevicesMaxLen →
        Sealed s j (removeTrustedDevices s j now st hwids) l ∧
          (removeTrustedDevices s j now st hwids).trustedDevices = (l, true)) := by
  intro r l
  obtain ⟨hbig, hfit⟩ := setTrustedDevices_spec hs hj hplain now r.2
    (r.1.filter fun d => d.hwid ∉ hwids)
  rw [List.filter_filter] at hbig hfit
  exact ⟨hbig, fun hlen => (hfit hlen).imp_right And.left⟩

end Uniqueness

end HbbCommon

namespace HbbCommon

open Secret

theorem trusted_devices_read_agrees (s : SecretLayer) (hs : s.Lawful) (j : DeviceJson)
    (hj : j.Lawful) (hplain : ∀ l, s.str.isCipher (j.toString l) = false) (σ : Settings)
    (st : DeviceState) (hst : st.trustedDevices.2 = false) (ops : List (DeviceOp × Int))
    (hchron : Chronological st.clock ops) (hops : ∀ x ∈ ops, x.1.isConfig2Set = false)
    (t : Int) (ht : (DeviceOp.run s j σ st ops).clock ≤ t) :
    ∃ t₀, (t₀ = t ∨ t₀ ∈ ops.map Prod.snd) ∧ st.clock ≤ t₀ ∧ t₀ ≤ t ∧
      (getTrustedDevices s j t (DeviceOp.run s j σ st ops)).1 =
        if (s.str.decrypt (DeviceOp.run s j σ st ops).config2.trustedDevices).2.1 then
          ((j.fromStr (s.str.decrypt (DeviceOp.run s j σ st ops).config2.trustedDevices).1).getD
            []).filter fun d => !d.outdate t₀
        else [] := by
  obtain ⟨hrun, hclock⟩ := cacheAgrees_run (P := fun t₀ => t₀ ∈ ops.map Prod.snd) hs hj hplain σ
    ops st hchron hops (fun x hx => List.mem_map_of_mem _ hx) fun h => by simp [hst] at h
  obtain ⟨t₀, hP | rfl, ht₀, hread⟩ := getTrustedDevices_fst t _ hrun ht
  · obtain ⟨x, hx, rfl⟩ := List.mem_map.mp hP
    exact ⟨x.2, .inr hP, hchron.le_of_mem hx, ht₀, hread⟩
  · exact ⟨t₀, .inl rfl, hclock.trans ht, ht₀, hread⟩

/-- A device first seen at time 0. -/
def sampleDevice : TrustedDevice := ⟨[1, 2], ⟨0, by decide⟩, "123456789", "laptop", "Linux"⟩

/-- The state as the process starts: nothing sealed, the cache not synced. -/
def freshDevices : DeviceState := ⟨Config.default, Config2.default, ([], false), 0⟩

/-- `sampleDevice` added at time 0, then a read at time 5. -/
def sealAndRead : List (DeviceOp × Int) := [(.add sampleDevice, 0), (.get, 5)]

theorem trusted_devices_read_agrees_witness :
    ∃ t₀, (t₀ = 10 ∨ t₀ ∈ sealAndRead.map Prod.snd) ∧ freshDevices.clock ≤ t₀ ∧ t₀ ≤ 10 ∧
      (getTrustedDevices markLayer DeviceText.json 10
          (DeviceOp.run markLayer DeviceText.json Settings.empty freshDevices sealAndRead)).1 =
        if (markLayer.str.decrypt (DeviceOp.run markLayer DeviceText.json Settings.empty
            freshDevices sealAndRead).config2.trustedDevices).2.1 then
          ((DeviceText.json.fromStr (markLayer.str.decrypt (DeviceOp.run markLayer
            DeviceText.json Settings.empty freshDevices sealAndRead).config2.trustedDevices).1).getD
              []).filter fun d => !d.outdate t₀
        else [] :=
  trusted_devices_read_agrees markLayer markLayer_lawful DeviceText.json DeviceText.json_lawful
    DeviceText.json_plain Settings.empty freshDevices rfl sealAndRead
    (show (0 : Int) ≤ 0 ∧ (0 : Int) ≤ 5 ∧ True from ⟨le_rfl, by decide, trivial⟩)
    (fun x hx => by
      simp only [sealAndRead, List.mem_cons, List.mem_singleton, List.not_mem_nil, or_false] at hx
      rcases hx with rfl | rfl <;> rfl)
    10 (by decide)

theorem trusted_device_cached_past_expiry :
    (getTrustedDevices markLayer DeviceText.json (days90 + 1)
        (DeviceOp.run markLayer DeviceText.json Settings.empty freshDevices
          [(.add sampleDevice, 0)])).1 = [sampleDevice] ∧
      (markLayer.str.decrypt (DeviceOp.run markLayer DeviceText.json Settings.empty freshDevices
          [(.add sampleDevice, 0)]).config2.trustedDevices).2.1 = true ∧
      ((DeviceText.json.fromStr (markLayer.str.decrypt (DeviceOp.run markLayer DeviceText.json
          Settings.empty freshDevices [(.add sampleDevice, 0)]).config2.trustedDevices).1).getD
          []).filter (fun d => !d.outdate (days90 + 1)) = [] := by
  decide

theorem trusted_devices_invariant (s : SecretLayer) (hs : s.Lawful) (j : DeviceJson)
    (hj : j.Lawful) (hmono : j.SizeMonotone) (hplain : ∀ l, s.str.isCipher (j.toString l) = false)
    (σ : Settings) (st : DeviceState) (h : DevicesOk s j st) (ops : List (DeviceOp × Int))
    (hops : ∀ x ∈ ops, x.1.isConfig2Set = false) :
    DevicesOk s j (DeviceOp.run s j σ st ops) ∧
      (∀ now st device,
        let r := getTrustedDevices s j now st
        let l := r.1.filter (fun d => !d.outdate now && d.hwid ≠ device.hwid) ++
          if device.outdate now then [] else [device]
        (trustedDevicesMaxLen < (j.toString l).utf8ByteSize →
            addTrustedDevice s j now st device = r.2) ∧
          ((j.toString l).utf8ByteSize ≤ trustedDevicesMaxLen →
            Sealed s j (addTrustedDevice s j now st device) l ∧
              (addTrustedDevice s j now st device).trustedDevices = (l, true))) ∧
      (∀ now st hwids,
        let r := getTrustedDevices s j now st
        let l := r.1.filter fun d => !d.outdate now && d.hwid ∉ hwids
        (trustedDevicesMaxLen < (j.toString l).utf8ByteSize →
            removeTrustedDevices s j now st hwids = r.2) ∧
          ((j.toString l).utf8ByteSize ≤ trustedDevicesMaxLen →
            Sealed s j (removeTrustedDevices s j now st hwids) l ∧
              (removeTrustedDevices s j now st hwids).trustedDevices = (l, true))) ∧
      (∀ now st devices,
        trustedDevicesMaxLen < (j.toString (devices.filter fun d => !d.outdate now)).utf8ByteSize →
          setTrustedDevices s j now st devices = st) :=
  ⟨devicesOk_run hs hj hplain hmono σ ops st hops h, addTrustedDevice_spec hs hj hplain,
    removeTrustedDevices_spec hs hj hplain,
    fun now st devices => (setTrustedDevices_spec hs hj hplain now st devices).1⟩

theorem trusted_devices_invariant_fresh :
    DevicesOk markLayer DeviceText.json (DeviceOp.run markLayer DeviceText.json Settings.empty
      freshDevices [(.add sampleDevice, 0), (.remove [[1, 2]], 1)]) :=
  (trusted_devices_invariant markLayer markLayer_lawful DeviceText.json DeviceText.json_lawful
    DeviceText.json_sizeMonotone DeviceText.json_plain Settings.empty freshDevices
    ⟨fun h => absurd h (by decide), fun h => absurd h (by decide)⟩ _ (by decide)).1

/-- A device whose name alone is 1 MiB of text. -/
def bulkyDevice : TrustedDevice :=
  ⟨[1, 2], ⟨0, by decide⟩, "123456789", ⟨List.replicate trustedDevicesMaxLen '1'⟩, "Linux"⟩

/-- The process starting with `bulkyDevice` as the one sealed device. -/
def bulkyDevices : DeviceState :=
  ⟨Config.default, { Config2.default with
    trustedDevices := ⟨'0' :: '0' :: (DeviceText.json.toString [bulkyDevice]).data⟩ },
    ([], false), 0⟩

theorem trusted_devices_bulky_start_expired_remove :
    (Sealed markLayer DeviceText.json bulkyDevices [bulkyDevice] ∧
      trustedDevicesMaxLen < (DeviceText.json.toString [bulkyDevice]).utf8ByteSize ∧
      (DeviceOp.run markLayer DeviceText.json Settings.empty bulkyDevices [(.get, 0)]).trustedDevices =
        ([bulkyDevice], true)) ∧
    ((getTrustedDevices markLayer DeviceText.json (days90 + 1)
        (DeviceOp.run markLayer DeviceText.json Settings.empty freshDevices
          [(.add sampleDevice, 0)])).1 = [sampleDevice] ∧
      (DeviceOp.run markLayer DeviceText.json Settings.empty freshDevices
          [(.add sampleDevice, 0), (.remove [[9]], days90 + 1)]).trustedDevices = ([], true) ∧
      (DeviceText.json.fromStr (markLayer.str.decrypt (DeviceOp.run markLayer DeviceText.json
          Settings.empty freshDevices [(.add sampleDevice, 0), (.remove [[9]], days90 + 1)]
          ).config2.trustedDevices).1).getD [] = []) := by
  refine ⟨?_, by decide⟩
  have hd : markLayer.str.decrypt bulkyDevices.config2.trustedDevices =
      (DeviceText.json.toString [bulkyDevice], true, false) := rfl
  have hparse := DeviceText.json_lawful [bulkyDevice]
  have hkeep : [bulkyDevice].filter (fun d => !d.outdate 0) = [bulkyDevice] :=
    List.filter_cons_of_pos rfl
  refine ⟨⟨by rw [hd], by rw [hd, hparse]; rfl⟩, ?_, ?_⟩
  · have h := DeviceText.utf8ByteSize_name_lt bulkyDevice
    rwa [bulkyDevice, utf8ByteSize_replicate_one] at h
  · show (getTrustedDevices markLayer DeviceText.json 0 bulkyDevices).2.trustedDevices = _
    simp only [getTrustedDevices, hd, fillCache, hparse, Option.getD_some, hkeep]
    rfl

end HbbCommon
