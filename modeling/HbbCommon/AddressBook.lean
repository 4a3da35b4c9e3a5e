import HbbCommon.PeerPath
/-! The address-book and group files: `Ab::store`/`Ab::load` and `Group::store`/`Group::load`,
one shape with the file name as parameter. A store compresses the JSON text it is given and
seals it with `symmetric_crypt`; a load opens, decompresses and parses it, and removes the file
when any step fails. The compressor, the cipher and `serde_json::from_str` on the records are
parameters. -/

namespace HbbCommon

/-- `compress`, `decompress` and `symmetric_crypt(data, encrypt)`, which may fail. -/
structure BlobCodec where
  compress : List UInt8 → List UInt8
  decompress : List UInt8 → List UInt8
  symmetricCrypt : List UInt8 → Bool → Option (List UInt8)

/-- The files of the configuration directory that hold bytes. -/
abbrev BlobFiles := AList fun _ : Path => List UInt8

/-- `64 * 1024 * 1024`, the most `decompress` takes. -/
def blobMaxLen : Nat := 64 * 1024 * 1024

section Blob

variable (c : BlobCodec) (path : Path)

/-- The body of `Ab::store` and `Group::store`. -/
def blobStore (canCreate : Bool) (fs : BlobFiles) (json : String) : BlobFiles :=
  if canCreate then
    let fs := fs.insert path []
    let data := c.compress json.toUTF8.data.toList
    if blobMaxLen < data.length then fs
    else
      match c.symmetricCrypt data true with
      | some data => fs.insert path data
      | none => fs
  else fs

/-- The body of `Ab::load` and `Group::load`, for a record `α` with its parser and its `Default` -/
def blobLoad {α : Type} (fromStr : String → Option α) (default : α) (fs : BlobFiles) :
    α × BlobFiles :=
  match (fs.lookup path).bind (c.symmetricCrypt · false) |>.bind
      fun data => fromStr (Base64.fromUtf8LossyString (c.decompress data)) with
  | some r => (r, fs)
  | none => (default, fs.erase path)

theorem blobStore_refused (fs : BlobFiles) (json : String)
    (h : blobMaxLen < (c.compress json.toUTF8.data.toList).length ∨
      c.symmetricCrypt (c.compress json.toUTF8.data.toList) true = none) :
    blobStore c path true fs json = fs.insert path [] := by
  unfold blobStore
  by_cases hlen : blobMaxLen < (c.compress json.toUTF8.data.toList).length
  · simp only [if_true, hlen]
  · have hcrypt := h.resolve_left hlen
    simp only [if_true, hlen, if_false, hcrypt]

theorem blobLoad_after_refused {α : Type} (fromStr : String → Option α) (default : α)
    (hempty : c.symmetricCrypt [] false = none) (fs : BlobFiles) (json : String)
    (h : blobMaxLen < (c.compress json.toUTF8.data.toList).length ∨
      c.symmetricCrypt (c.compress json.toUTF8.data.toList) true = none) :
    blobLoad c path fromStr default (blobStore c path true fs json) =
      (default, (fs.insert path []).erase path) := by
  rw [blobStore_refused c path fs json h]
  simp only [blobLoad, AList.lookup_insert, Option.some_bind, hempty, Option.none_bind]

end Blob

/-- `Config::path(format!("{}_ab", APP_NAME))` -/
def Ab.path (appName : String) : Path := Path.push [] (appName ++ "_ab")

/-- `Config::path(format!("{}_group", APP_NAME))` -/
def Group.path (appName : String) : Path := Path.push [] (appName ++ "_group")

def Ab.store (c : BlobCodec) (canCreate : Bool) (appName : String) (fs : BlobFiles)
    (json : String) : BlobFiles :=
  blobStore c (Ab.path appName) canCreate fs json

def Ab.load {α : Type} (c : BlobCodec) (fromStr : String → Option α) (default : α)
    (appName : String) (fs : BlobFiles) : α × BlobFiles :=
  blobLoad c (Ab.path appName) fromStr default fs

def Group.store (c : BlobCodec) (canCreate : Bool) (appName : String) (fs : BlobFiles)
    (json : String) : BlobFiles :=
  blobStore c (Group.path appName) canCreate fs json

def Group.load {α : Type} (c : BlobCodec) (fromStr : String → Option α) (default : α)
    (appName : String) (fs : BlobFiles) : α × BlobFiles :=
  blobLoad c (Group.path appName) fromStr default fs

/-- A stand-in codec -/
def sealCodec : BlobCodec where
  compress := id
  decompress := id
  symmetricCrypt data encrypt :=
    if encrypt then some (List.replicate 16 0 ++ data)
    else if data.length < 16 then none else some (data.drop 16)

/-- A JSON text one byte over the bound. -/
def bulkyJson : String := ⟨List.replicate (blobMaxLen + 1) '1'⟩

theorem ab_group_refused_store_loses_data :
    (Ab.load sealCodec some "" "RustDesk" (Ab.store sealCodec true "RustDesk" ∅ "\x7b\x7d")).1 =
        "\x7b\x7d" ∧
      (Group.load sealCodec some "" "RustDesk"
        (Group.store sealCodec true "RustDesk" ∅ "\x7b\x7d")).1 = "\x7b\x7d" ∧
      blobMaxLen < (sealCodec.compress bulkyJson.toUTF8.data.toList).length ∧
      (Ab.load sealCodec some "" "RustDesk" (Ab.store sealCodec true "RustDesk"
        (Ab.store sealCodec true "RustDesk" ∅ "\x7b\x7d") bulkyJson)).1 = "" ∧
      (Group.load sealCodec some "" "RustDesk" (Group.store sealCodec true "RustDesk"
        (Group.store sealCodec true "RustDesk" ∅ "\x7b\x7d") bulkyJson)).1 = "" := by
  have hbig : blobMaxLen < (sealCodec.compress bulkyJson.toUTF8.data.toList).length := by
    show blobMaxLen < bulkyJson.toUTF8.data.toList.length
    rw [Array.length_toList, ← ByteArray.size, String.size_toUTF8, bulkyJson,
      utf8ByteSize_replicate_one]
    omega
  refine ⟨by decide, by decide, hbig, ?_, ?_⟩ <;>
    exact congrArg Prod.fst (blobLoad_after_refused _ _ _ _ rfl _ _ (.inl hbig))

end HbbCommon
