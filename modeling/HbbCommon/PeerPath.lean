import HbbCommon.PeerConfig
import HbbCommon.Base64
import Mathlib.Data.List.Sort

/-! Where peer records live: Rust's Unix paths as lists of components, `PeerConfig::path`, the
listing of the peers directory with its file-name decoder, and `PeerConfig::batch_peers`. -/

namespace HbbCommon

open Toml Secret

/-- A path below the configuration directory, as the components Rust's `Path::components` yields -/
abbrev Path := List String

/-- The components of a relative Unix path text: empty and `.` components are dropped. -/
def components (s : String) : Path :=
  ((s.toList.splitOn '/').map String.mk).filter fun c => c ≠ "" ∧ c ≠ "."

namespace Path

/-- `PathBuf::push` of a relative path. -/
def push (p : Path) (s : String) : Path := p ++ components s

/-- `Path::file_name`: the last component, unless it is `..`. -/
def fileName (p : Path) : Option String :=
  match p.getLast? with
  | some ".." => none
  | x => x

/-- `rsplit_file_at_dot` -/
def rsplitFileAtDot (file : String) : Option String × Option String :=
  if file = ".." then (some file, none)
  else match file.toList.reverse.span (· ≠ '.') with
    | (after, []) => (none, some ⟨after.reverse⟩)
    | (after, _ :: before) =>
      if before = [] then (some file, none) else (some ⟨before.reverse⟩, some ⟨after.reverse⟩)

def extension (p : Path) : Option String :=
  p.fileName.bind fun f => (rsplitFileAtDot f).1.bind fun _ => (rsplitFileAtDot f).2

def fileStem (p : Path) : Option String :=
  p.fileName.bind fun f => (rsplitFileAtDot f).1.or (rsplitFileAtDot f).2

/-- `Path::with_extension` -/
def withExtension (p : Path) (ext : String) : Path :=
  match p.fileStem with
  | none => p
  | some stem => p.dropLast ++ [if ext = "" then stem else stem ++ "." ++ ext]

end Path

/-- `Config::with_extension`: `toml` is added after any extension the name already has. -/
def Config.withExtension (p : Path) : Path :=
  match p.extension with
  | some ext => p.withExtension (ext ++ ".toml")
  | none => p.withExtension "toml"

/-- `PEERS` -/
def peers : String := "peers"

/-- The characters of the pattern `.*[<>:/\\|\?\*].*`. -/
def forbiddenChars : List Char := ['<', '>', ':', '/', '\\', '|', '?', '*']

/-- The file stem `PeerConfig::path` gives an id -/
def PeerConfig.idEncoded (id : String) : String :=
  if id.toList.any (· ∈ forbiddenChars) then "base64_" ++ Base64.encode id else id

def PeerConfig.path (id : String) : Path :=
  Config.withExtension (Path.push [peers] (PeerConfig.idEncoded id))

example : PeerConfig.path "a/b:c" = ["peers", "base64_YS9iOmM=.toml"] := by decide

/-- The id the listing reads from a file stem. -/
def PeerConfig.decodeStem (stem : String) : String :=
  if "base64_".toList.isPrefixOf stem.toList ∧ stem.utf8ByteSize ≠ 7 then
    Base64.fromUtf8LossyString ((Base64.decode (stem.drop 7)).getD [])
  else stem

theorem PeerConfig.path_eq_of_idEncoded_eq (a b : String)
    (h : PeerConfig.idEncoded a = PeerConfig.idEncoded b) :
    PeerConfig.path a = PeerConfig.path b := by
  rw [PeerConfig.path, PeerConfig.path, h]

theorem PeerConfig.path_collision :
    ":" ≠ "base64_Og==" ∧ PeerConfig.path ":" = PeerConfig.path "base64_Og==" :=
  ⟨by decide, PeerConfig.path_eq_of_idEncoded_eq _ _ (by decide)⟩

/-- A file below the configuration directory -/
structure FileEntry where
  content : Option Table
  modified : Nat

abbrev Files := AList fun _ : Path => FileEntry

/-- What `confy::load_path` reads at `p`: nothing for a missing or unreadable file. -/
def Files.read (fs : Files) (p : Path) : Option Table := (fs.lookup p).bind (·.content)

/-- `PeerConfig::load(id)` on the files, with the store it may make. -/
def PeerConfig.loadAt (s : SecretLayer) (d : PeerDefaults) (now : Nat) (fs : Files)
    (id : String) : PeerConfig × Files :=
  let (c, store) := PeerConfig.load s d (fs.read (PeerConfig.path id))
  (c, if store then fs.insert (PeerConfig.path id) ⟨some (PeerConfig.store_ s c), now⟩ else fs)

/-- `PeerConfig::get_vec_id_modified_time_path` -/
def PeerConfig.getVecIdModifiedTimePath (fs : Files) (idFilters : Option (List String)) :
    List (String × Nat × Path) :=
  let listed := fs.entries.filterMap fun e =>
    match e.1 with
    | [dir, name] =>
      if dir = peers ∧ Path.extension [dir, name] = some "toml" then some (e.1, e.2.modified)
      else none
    | _ => none
  let withIds := listed.map fun x => (PeerConfig.decodeStem (x.1.fileStem.getD ""), x.2, x.1)
  let kept := withIds.filter fun x =>
    match idFilters with
    | none => true
    | some filters => filters.contains x.1
  kept.insertionSort fun a b => b.2.1 ≤ a.2.1

/-- `PeerConfig::BATCH_LOADING_COUNT` -/
def batchLoadingCount : Nat := 100

/-- One listed entry of `batch_peers` -/
def PeerConfig.batchStep (s : SecretLayer) (d : PeerDefaults) (now : Nat)
    (acc : List (String × Nat × PeerConfig) × Files) (e : String × Nat × Path) :
    List (String × Nat × PeerConfig) × Files :=
  let (c, fs) := PeerConfig.loadAt s d now acc.2 e.1
  (acc.1 ++ [(e.1, e.2.1, c)], if c.info.platform = "" then fs.erase e.2.2 else fs)

/-- `PeerConfig::batch_peers(all, from, to)`, with `from` and `to` as `start` and `stop` -/
def PeerConfig.batchPeers (s : SecretLayer) (d : PeerDefaults) (now : Nat) (fs : Files)
    (all : List (String × Nat × Path)) (start : Nat) (stop : Option Nat) :
    List (String × Nat × PeerConfig) × Nat × Files :=
  if all.length ≤ start then ([], 0, fs)
  else
    let stop := match stop with
      | some stop => min stop all.length
      | none => min (start + batchLoadingCount) all.length
    if stop ≤ start then ([], start, fs)
    else
      let r := ((all.drop start).take (stop - start)).foldl (PeerConfig.batchStep s d now) ([], fs)
      (r.1.filter fun x => x.2.2.info.platform ≠ "", stop, r.2)

/-- `PeerConfig::peers`: the listing, loaded in one batch. -/
def PeerConfig.peers (s : SecretLayer) (d : PeerDefaults) (now : Nat) (fs : Files)
    (idFilters : Option (List String)) : List (String × Nat × PeerConfig) × Files :=
  let all := PeerConfig.getVecIdModifiedTimePath fs idFilters
  let r := PeerConfig.batchPeers s d now fs all 0 (some all.length)
  (r.1, r.2.2)

section Batches

variable (s : SecretLayer) (d : PeerDefaults) (now : Nat)

end Batches

section Batches

variable (s : SecretLayer) (d : PeerDefaults) (now : Nat)

end Batches

/-- A peer on Windows, saved under the id `a`. -/
def windowsPeer : PeerConfig :=
  { PeerConfig.default ⟨fun _ => "N", fun _ => none⟩ with info := ⟨"", "", "Windows"⟩ }

theorem windowsPeer_decodable : windowsPeer.Decodable :=
  ⟨by decide, by decide, by decide, by decide, by decide, by decide,
    ⟨⟨50, by decide⟩, rfl, by decide, by decide⟩, by decide⟩

theorem PeerConfig.batch_removes_live_file :
    PeerConfig.path "base64_YQ==" = ["peers", "base64_YQ==.toml"] ∧
      (PeerConfig.deserialize ⟨fun _ => "N", fun _ => none⟩
          (PeerConfig.store_ markLayer windowsPeer)).map (·.info.platform) = some "Windows" ∧
      ((PeerConfig.batchPeers markLayer ⟨fun _ => "N", fun _ => none⟩ 1
          (AList.insert (PeerConfig.path "base64_YQ==")
            ⟨some (PeerConfig.store_ markLayer windowsPeer), 0⟩ ∅)
          (PeerConfig.getVecIdModifiedTimePath
            (AList.insert (PeerConfig.path "base64_YQ==")
              ⟨some (PeerConfig.store_ markLayer windowsPeer), 0⟩ ∅) none)
          0 none).2.2.lookup (PeerConfig.path "base64_YQ==")).isNone := by
  refine ⟨by decide, by rw [PeerConfig.deserialize_store _ _ _ windowsPeer_decodable]; rfl, ?_⟩
  decide

end HbbCommon
