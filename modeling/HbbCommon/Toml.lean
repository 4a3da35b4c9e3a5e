import Mathlib.Data.List.AList
import Mathlib.Data.Finmap

/-! TOML documents as values, and the serde decoders and encoders of the Rust types that the
configuration records hold. toml hands a datetime to a decoder that asks for a map as the map
from `datetimeKey` to its text, and an array to a struct decoder as its fields in order, refusing
an array longer than the struct once the decoder returns. -/

namespace HbbCommon.Toml

inductive Value where
  | string (s : String)
  | integer (i : Int)
  | float (bits : UInt64)
  | boolean (b : Bool)
  | datetime (text : String)
  | array (items : List Value)
  | table (entries : List (String × Value))
  deriving Inhabited

abbrev Table := List (String × Value)

inductive Kind where
  | string | integer | float | boolean | datetime | array | table
  deriving DecidableEq, Repr

def Value.kind : Value → Kind
  | .string _ => .string
  | .integer _ => .integer
  | .float _ => .float
  | .boolean _ => .boolean
  | .datetime _ => .datetime
  | .array _ => .array
  | .table _ => .table

/-- A key's value; a TOML table holds each key once. -/
def Table.get? (t : Table) (k : String) : Option Value := t.lookup k

def Table.erase (t : Table) (k : String) : Table := t.filter (·.1 != k)

/-- The table with `k` bound to `v`, in place of any previous value. -/
def Table.set (t : Table) (k : String) (v : Value) : Table := (k, v) :: Table.erase t k

theorem Table.get?_cons (t : Table) (k g : String) (v : Value) :
    Table.get? ((k, v) :: t) g = if g = k then some v else t.get? g := by
  by_cases h : g = k
  · simp [Table.get?, List.lookup_cons, h]
  · have hb : (g == k) = false := by simpa using h
    simp [Table.get?, List.lookup_cons, h, hb]

@[simp] theorem Table.get?_nil (k : String) : Table.get? [] k = none := rfl

theorem Table.get?_erase (t : Table) (k g : String) :
    (Table.erase t k).get? g = if g = k then none else t.get? g := by
  induction t with
  | nil => simp [Table.erase, Table.get?]
  | cons e t ih =>
    obtain ⟨k', v⟩ := e
    by_cases hk : k' = k
    · subst hk
      have h : Table.erase ((k', v) :: t) k' = Table.erase t k' := by simp [Table.erase]
      rw [h, ih, Table.get?_cons]
      by_cases hg : g = k' <;> simp [hg]
    · have h : Table.erase ((k', v) :: t) k = (k', v) :: Table.erase t k := by
        simp [Table.erase, hk]
      rw [h, Table.get?_cons, Table.get?_cons, ih]
      by_cases hg : g = k' <;> by_cases hg' : g = k <;> simp_all

theorem Table.get?_set (t : Table) (k g : String) (v : Value) :
    (Table.set t k v).get? g = if g = k then some v else t.get? g := by
  rw [Table.set, Table.get?_cons, Table.get?_erase]
  by_cases hg : g = k <;> simp [hg]

/-- A Rust `i32`. -/
abbrev I32 := {i : Int // -2 ^ 31 ≤ i ∧ i < 2 ^ 31}

instance : OfNat I32 0 := ⟨⟨0, by decide⟩⟩

instance : Inhabited I32 := ⟨0⟩

abbrev StrMap (β : Type) := AList (fun _ : String => β)

/-- `if let Some(v) = m.get_mut(k) { *v = f(v) }`: the entry of `k`, if any, changes in place. -/
def StrMap.update {β : Type} (m : StrMap β) (k : String) (f : β → β) : StrMap β :=
  ⟨m.entries.map fun s => if s.1 = k then ⟨s.1, f s.2⟩ else s, by
    have h : (m.entries.map fun s =>
        if s.1 = k then (⟨s.1, f s.2⟩ : Sigma fun _ : String => β) else s).keys =
          m.entries.keys := by
      simp [List.keys, List.map_map, Function.comp_def, apply_ite]
    simpa [List.NodupKeys, h] using m.nodupKeys⟩

theorem StrMap.foldl_update {β : Type} (ks : List String) (f : String → β → β) (m : StrMap β) :
    (ks.foldl (fun m k => m.update k (f k)) m).entries =
      m.entries.map fun s => (ks.filter (· = s.1)).foldl (fun s k => ⟨s.1, f k s.2⟩) s := by
  induction ks generalizing m with
  | nil => simp
  | cons k ks ih =>
    rw [List.foldl_cons, ih]
    simp only [StrMap.update, List.map_map, Function.comp_def]
    congr 1
    funext s
    by_cases h : s.1 = k
    · subst h
      simp [List.filter_cons]
    · simp [List.filter_cons, h, Ne.symm h]

theorem StrMap.lookup_update {β : Type} (m : StrMap β) (k k' : String) (f : β → β) :
    (m.update k' f).lookup k = if k = k' then (m.lookup k).map f else m.lookup k := by
  obtain ⟨l, hl⟩ := m
  simp only [StrMap.update, AList.lookup]
  clear hl
  induction l with
  | nil => simp
  | cons s l ih =>
    obtain ⟨a, b⟩ := s
    by_cases hk : k = a
    · subst hk
      by_cases ha : k = k'
      · subst ha; simp [List.dlookup_cons_eq]
      · simp [ha, List.dlookup_cons_eq]
    · rw [List.map_cons, List.dlookup_cons_ne _ _ (by dsimp only; split <;> exact hk),
        List.dlookup_cons_ne _ _ hk, ih]

theorem StrMap.update_of_lookup_none {β : Type} (m : StrMap β) (k : String) (f : β → β)
    (h : m.lookup k = none) : m.update k f = m := by
  have hk : k ∉ m.entries.keys := List.dlookup_eq_none.mp h
  apply AList.ext
  show m.entries.map _ = m.entries
  conv_rhs => rw [← List.map_id m.entries]
  refine List.map_congr_left fun s hs => ?_
  have : s.1 ≠ k := fun h => hk (h ▸ List.mem_keys_of_mem hs)
  simp [this]

theorem StrMap.lookup_foldl_update {β : Type} (ks : List String) (hks : ks.Nodup) (f : β → β)
    (m : StrMap β) (k : String) :
    (ks.foldl (fun m k => m.update k f) m).lookup k =
      if k ∈ ks then (m.lookup k).map f else m.lookup k := by
  induction ks generalizing m with
  | nil => simp
  | cons a ks ih =>
    obtain ⟨ha, hks⟩ := List.nodup_cons.mp hks
    rw [List.foldl_cons, ih hks, StrMap.lookup_update]
    by_cases hk : k = a
    · subst hk; simp [ha]
    · simp [hk]

theorem StrMap.foldl_filter_key {β : Type} (ks : List String) (hks : ks.Nodup) (φ : β → β)
    (s : Sigma fun _ : String => β) :
    (ks.filter (· = s.1)).foldl (fun s _ => ⟨s.1, φ s.2⟩) s =
      if s.1 ∈ ks then ⟨s.1, φ s.2⟩ else s := by
  rw [List.filter_eq]
  by_cases hm : s.1 ∈ ks
  · simp [List.count_eq_one_of_mem hks hm, hm]
  · simp [List.count_eq_zero_of_not_mem hm, hm]

theorem StrMap.foldl_update_cancel {β : Type} (ks : List String) (hks : ks.Nodup) (f g : β → β)
    (m : StrMap β) (h : ∀ k ∈ ks, ∀ v, m.lookup k = some v → g (f v) = v) :
    ks.foldl (fun m k => m.update k g) (ks.foldl (fun m k => m.update k f) m) = m := by
  apply AList.ext
  rw [StrMap.foldl_update ks (fun _ => g), StrMap.foldl_update ks (fun _ => f), List.map_map]
  conv_rhs => rw [← List.map_id m.entries]
  refine List.map_congr_left fun s hs => ?_
  simp only [Function.comp_apply, StrMap.foldl_filter_key ks hks]
  by_cases hm : s.1 ∈ ks
  · simp [hm, h s.1 hm s.2 (AList.mem_lookup_iff.mpr hs)]
  · simp [hm]

theorem StrMap.lookup_union {β : Type} (s₁ s₂ : StrMap β) (k : String) :
    (s₁ ∪ s₂).lookup k = (s₁.lookup k).or (s₂.lookup k) := by
  by_cases h : k ∈ s₁
  · obtain ⟨x, hx⟩ := Option.isSome_iff_exists.mp (AList.lookup_isSome.mpr h)
    rw [AList.lookup_union_left h, hx]
    rfl
  · rw [AList.lookup_union_right h, AList.lookup_eq_none.mpr h]
    rfl

/-- What serde makes of one TOML value for a Rust type: `none` is a deserialization error. -/
abbrev Decoder (α : Type) := Value → Option α

/-- The one key of the map toml hands a datetime as, to a decoder that asks for a map. -/
def datetimeKey : String := "$__toml_private_datetime"

abbrev Encoder (α : Type) := α → Value

namespace Decoder

def string : Decoder String
  | .string s => some s
  | _ => none

def bool : Decoder Bool
  | .boolean b => some b
  | _ => none

def i32 : Decoder I32
  | .integer i => if h : -2 ^ 31 ≤ i ∧ i < 2 ^ 31 then some ⟨i, h⟩ else none
  | _ => none

def u8 : Decoder UInt8
  | .integer i => if 0 ≤ i ∧ i < 256 then some (UInt8.ofNat i.toNat) else none
  | _ => none

def vec {α : Type} (d : Decoder α) : Decoder (List α)
  | .array items => items.mapM d
  | _ => none

def tuple2 {α β : Type} (da : Decoder α) (db : Decoder β) : Decoder (α × β)
  | .array [a, b] => do pure (← da a, ← db b)
  | _ => none

def tuple3 {α β γ : Type} (da : Decoder α) (db : Decoder β) (dc : Decoder γ) :
    Decoder (α × β × γ)
  | .array [a, b, c] => do pure (← da a, ← db b, ← dc c)
  | _ => none

def tuple4 {α : Type} (d : Decoder α) : Decoder (α × α × α × α)
  | .array [a, b, c, e] => do pure (← d a, ← d b, ← d c, ← d e)
  | _ => none

/-- A `HashMap<String, V>`: a table by its entries, a datetime as toml's one-key map. -/
def hashMap {α : Type} (d : Decoder α) : Decoder (StrMap α)
  | .table entries => entries.foldrM (fun e m => (d e.2).map fun v => m.insert e.1 v) ∅
  | .datetime text => (d (.string text)).map fun v => (∅ : StrMap α).insert datetimeKey v
  | _ => none

end Decoder

namespace Encoder

abbrev string : Encoder String := .string

abbrev bool : Encoder Bool := .boolean

def i32 : Encoder I32 := fun x => .integer x.1

def u8 : Encoder UInt8 := fun x => .integer x.toNat

def vec {α : Type} (e : Encoder α) : Encoder (List α) := fun xs => .array (xs.map e)

def tuple2 {α β : Type} (ea : Encoder α) (eb : Encoder β) : Encoder (α × β) :=
  fun x => .array [ea x.1, eb x.2]

def tuple3 {α β γ : Type} (ea : Encoder α) (eb : Encoder β) (ec : Encoder γ) :
    Encoder (α × β × γ) :=
  fun x => .array [ea x.1, eb x.2.1, ec x.2.2]

def tuple4 {α : Type} (e : Encoder α) : Encoder (α × α × α × α) :=
  fun x => .array [e x.1, e x.2.1, e x.2.2.1, e x.2.2.2]

def hashMap {α : Type} (e : Encoder α) : Encoder (StrMap α) :=
  fun m => .table (m.entries.map fun s => (s.1, e s.2))

end Encoder

/-- A decoder that reads back what its encoder writes. -/
def RoundTrip {α : Type} (d : Decoder α) (e : Encoder α) : Prop := ∀ x, d (e x) = some x

theorem roundTrip_string : RoundTrip Decoder.string Encoder.string := fun _ => rfl

theorem roundTrip_bool : RoundTrip Decoder.bool Encoder.bool := fun _ => rfl

theorem roundTrip_i32 : RoundTrip Decoder.i32 Encoder.i32 := fun x => by
  simp only [Decoder.i32, Encoder.i32, dif_pos x.2]

theorem roundTrip_u8 : RoundTrip Decoder.u8 Encoder.u8 := fun x => by
  have h : x.toNat < 256 := x.toNat_lt_size
  simp only [Decoder.u8, Encoder.u8, Int.toNat_ofNat]
  rw [if_pos (by omega)]
  exact congrArg some (UInt8.toNat.inj (UInt8.toNat_ofNat_of_lt x.toNat_lt_size))

theorem roundTrip_vec {α : Type} {d : Decoder α} {e : Encoder α} (h : RoundTrip d e) :
    RoundTrip (Decoder.vec d) (Encoder.vec e) := fun xs => by
  show (xs.map e).mapM d = some xs
  induction xs with
  | nil => rfl
  | cons x xs ih =>
    rw [List.map_cons, List.mapM_cons, h x, ih]
    rfl

theorem roundTrip_tuple2 {α β : Type} {da : Decoder α} {ea : Encoder α} {db : Decoder β}
    {eb : Encoder β} (ha : RoundTrip da ea) (hb : RoundTrip db eb) :
    RoundTrip (Decoder.tuple2 da db) (Encoder.tuple2 ea eb) := fun x => by
  simp [Decoder.tuple2, Encoder.tuple2, ha x.1, hb x.2]

theorem roundTrip_tuple3 {α β γ : Type} {da : Decoder α} {ea : Encoder α} {db : Decoder β}
    {eb : Encoder β} {dc : Decoder γ} {ec : Encoder γ} (ha : RoundTrip da ea)
    (hb : RoundTrip db eb) (hc : RoundTrip dc ec) :
    RoundTrip (Decoder.tuple3 da db dc) (Encoder.tuple3 ea eb ec) := fun x => by
  simp [Decoder.tuple3, Encoder.tuple3, ha x.1, hb x.2.1, hc x.2.2]

theorem roundTrip_tuple4 {α : Type} {d : Decoder α} {e : Encoder α} (h : RoundTrip d e) :
    RoundTrip (Decoder.tuple4 d) (Encoder.tuple4 e) := fun x => by
  simp [Decoder.tuple4, Encoder.tuple4, h x.1, h x.2.1, h x.2.2.1, h x.2.2.2]

theorem hashMap_foldr {α : Type} {d : Decoder α} {e : Encoder α} (h : RoundTrip d e)
    (l : List (Sigma fun _ : String => α)) (hl : l.NodupKeys) :
    (l.map fun s => (s.1, e s.2)).foldrM
      (fun x m => (d x.2).map fun v => m.insert x.1 v) (∅ : StrMap α) = some ⟨l, hl⟩ := by
  induction l with
  | nil => rfl
  | cons s l ih =>
    obtain ⟨hs, hl'⟩ := List.nodupKeys_cons.mp hl
    simp only [List.map_cons, List.foldrM_cons, ih hl', h s.2]
    simp only [Option.pure_def, Option.bind_eq_bind, Option.some_bind, Option.map_some']
    congr 1
    exact AList.ext (by simp [AList.insert, List.kerase_of_not_mem_keys hs])

theorem roundTrip_hashMap {α : Type} {d : Decoder α} {e : Encoder α} (h : RoundTrip d e) :
    RoundTrip (Decoder.hashMap d) (Encoder.hashMap e) := fun m =>
  hashMap_foldr h m.entries m.nodupKeys

/-- `deserialize_default!` -/
def deserializeDefault {α : Type} (d : Decoder α) (dflt : α) (v : Value) : α := (d v).getD dflt

theorem deserializeDefault_of_roundTrip {α : Type} {d : Decoder α} {e : Encoder α}
    (h : RoundTrip d e) (dflt x : α) : deserializeDefault d dflt (e x) = x := by
  simp [deserializeDefault, h x]

/-- How serde's derived decoder reads one field of a struct -/
def field {α : Type} (t : Table) (name : String) (absent : α) (present : Decoder α) :
    Option α :=
  match t.get? name with
  | none => some absent
  | some v => present v

/-- A field whose `deserialize_with` function never fails. -/
def fieldWith {α : Type} (t : Table) (name : String) (absent : α) (de : Value → α) : α :=
  match t.get? name with
  | none => absent
  | some v => de v

/-- Where a derived decoder finds a field: by its key in a table, by its position in an array. -/
abbrev FieldSource := String → Nat → Option Value

/-- A field of a `FieldSource` whose `deserialize_with` function never fails. -/
def fieldFrom {α : Type} (get : FieldSource) (name : String) (i : Nat) (absent : α)
    (de : Value → α) : α :=
  match get name i with
  | none => absent
  | some v => de v

/-- serde's derived decoder of a struct whose fields all have a tolerant default. -/
def Decoder.defaultedStruct {α : Type} (arity : Nat) (build : FieldSource → α) : Decoder α
  | .table t => some (build fun name _ => Table.get? t name)
  | .datetime text => some (build fun name _ => Table.get? [(datetimeKey, .string text)] name)
  | .array items => if items.length ≤ arity then some (build fun _ i => items.get? i) else none
  | _ => none

theorem defaultedStruct_eq_none {α : Type} (arity : Nat) (build : FieldSource → α) (w : Value)
    (hw : w.kind ∉ [Kind.table, .datetime, .array]) :
    Decoder.defaultedStruct arity build w = none := by
  cases w <;> simp_all [Decoder.defaultedStruct, Value.kind]

@[simp] theorem fieldWith_nil {α : Type} (name : String) (absent : α) (de : Value → α) :
    fieldWith [] name absent de = absent := rfl

theorem fieldWith_cons {α : Type} (t : Table) (k name : String) (v : Value) (absent : α)
    (de : Value → α) :
    fieldWith ((k, v) :: t) name absent de = if name = k then de v else fieldWith t name absent de := by
  by_cases h : name = k <;> simp [fieldWith, Table.get?_cons, h]

theorem ite_eq_self {α : Type} (x a : α) [Decidable (x = a)] : (if x = a then a else x) = x := by
  split <;> simp_all

theorem field_mem {α : Type} {P : α → Prop} {t : Table} {name : String} {absent : α}
    {present : Decoder α} {v : α} (h : field t name absent present = some v) (habsent : P absent)
    (hpresent : ∀ w x, present w = some x → P x) : P v := by
  unfold field at h
  split at h
  · exact Option.some.inj h ▸ habsent
  · exact hpresent _ _ h

theorem field_set_self {α : Type} (t : Table) (f : String) (w : Value) (absent : α)
    (present : Decoder α) (h : present w = none) : field (Table.set t f w) f absent present = none := by
  simp [field, Table.get?_set, h]

/-- `load_path`: a file that is missing, unreadable or fails to decode gives `T::default()`. -/
def loadPath {α : Type} (dflt : α) (deserialize : Table → Option α) : Option Table → α
  | none => dflt
  | some t => (deserialize t).getD dflt

/-- A decoder that accepts only values of kind `k`. -/
def Decoder.Expects {α : Type} (d : Decoder α) (k : Kind) : Prop :=
  ∀ w : Value, w.kind ≠ k → d w = none

theorem expects_i32 : Decoder.i32.Expects .integer := by
  intro w h; cases w <;> simp_all [Decoder.i32, Value.kind]

theorem expects_vec {α : Type} (d : Decoder α) : (Decoder.vec d).Expects .array := by
  intro w h; cases w <;> simp_all [Decoder.vec, Value.kind]

/-! The members of `deserialize_default!` that the modelled records use. -/

abbrev Size := I32 × I32 × I32 × I32

abbrev KeyPair := List UInt8 × List UInt8

def deserializeString : Value → String := deserializeDefault Decoder.string ""

@[simp] theorem deserializeString_string (x : String) : deserializeString (.string x) = x := rfl

def deserializeBool : Value → Bool := deserializeDefault Decoder.bool false

@[simp] theorem deserializeBool_boolean (x : Bool) : deserializeBool (.boolean x) = x := rfl

def deserializeI32 : Value → I32 := deserializeDefault Decoder.i32 0

@[simp] theorem deserializeI32_i32 (x : I32) : deserializeI32 (Encoder.i32 x) = x :=
  deserializeDefault_of_roundTrip roundTrip_i32 _ x

def deserializeVecU8 : Value → List UInt8 := deserializeDefault (Decoder.vec Decoder.u8) []

@[simp] theorem deserializeVecU8_vec (x : List UInt8) :
    deserializeVecU8 (Encoder.vec Encoder.u8 x) = x :=
  deserializeDefault_of_roundTrip (roundTrip_vec roundTrip_u8) _ x

def deserializeVecString : Value → List String :=
  deserializeDefault (Decoder.vec Decoder.string) []

@[simp] theorem deserializeVecString_vec (x : List String) :
    deserializeVecString (Encoder.vec Encoder.string x) = x :=
  deserializeDefault_of_roundTrip (roundTrip_vec roundTrip_string) _ x

def deserializeVecI32StringI32 : Value → List (I32 × String × I32) :=
  deserializeDefault (Decoder.vec (Decoder.tuple3 Decoder.i32 Decoder.string Decoder.i32)) []

@[simp] theorem deserializeVecI32StringI32_vec (x : List (I32 × String × I32)) :
    deserializeVecI32StringI32
      (Encoder.vec (Encoder.tuple3 Encoder.i32 Encoder.string Encoder.i32) x) = x :=
  deserializeDefault_of_roundTrip
    (roundTrip_vec (roundTrip_tuple3 roundTrip_i32 roundTrip_string roundTrip_i32)) _ x

def deserializeKeypair : Value → KeyPair :=
  deserializeDefault (Decoder.tuple2 (Decoder.vec Decoder.u8) (Decoder.vec Decoder.u8)) ([], [])

@[simp] theorem deserializeKeypair_tuple2 (x : KeyPair) :
    deserializeKeypair (Encoder.tuple2 (Encoder.vec Encoder.u8) (Encoder.vec Encoder.u8) x) = x :=
  deserializeDefault_of_roundTrip
    (roundTrip_tuple2 (roundTrip_vec roundTrip_u8) (roundTrip_vec roundTrip_u8)) _ x

def deserializeSize : Value → Size := deserializeDefault (Decoder.tuple4 Decoder.i32) (0, 0, 0, 0)

@[simp] theorem deserializeSize_tuple4 (x : Size) :
    deserializeSize (Encoder.tuple4 Encoder.i32 x) = x :=
  deserializeDefault_of_roundTrip (roundTrip_tuple4 roundTrip_i32) _ x

def deserializeHashmapStringString : Value → StrMap String :=
  deserializeDefault (Decoder.hashMap Decoder.string) ∅

@[simp] theorem deserializeHashmapStringString_hashMap (x : StrMap String) :
    deserializeHashmapStringString (Encoder.hashMap Encoder.string x) = x :=
  deserializeDefault_of_roundTrip (roundTrip_hashMap roundTrip_string) _ x

def deserializeHashmapStringBool : Value → StrMap Bool :=
  deserializeDefault (Decoder.hashMap Decoder.bool) ∅

@[simp] theorem deserializeHashmapStringBool_hashMap (x : StrMap Bool) :
    deserializeHashmapStringBool (Encoder.hashMap Encoder.bool x) = x :=
  deserializeDefault_of_roundTrip (roundTrip_hashMap roundTrip_bool) _ x

end HbbCommon.Toml
