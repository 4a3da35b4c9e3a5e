import HbbCommon.DisplayDefaults
/-! `USER_DEFAULT_CONFIG`, the cache behind `UserDefaultConfig::read`: the user defaults and the
`Instant` they were loaded at, filled on first use and reloaded by a read that comes more than a
second after the load. Any process may rewrite the `_default` file meanwhile. A read returns
the defaults the file held at the read itself, or just before an earlier read at most a second
older. -/

namespace HbbCommon

open Toml

/-- `UserDefaultConfig::load`: the `_default` file, or the empty record. -/
def UserDefaultConfig.load (file : Option Table) : UserDefaultConfig :=
  loadPath ⟨∅⟩ UserDefaultConfig.deserialize file

/-- `Duration::from_secs(1)`, in the nanoseconds of `Instant`. -/
def oneSecond : Nat := 1000000000

/-- `USER_DEFAULT_CONFIG`: nothing before first use, then the record and its load time. -/
abbrev DefaultsCache := Option (UserDefaultConfig × Nat)

/-- `UserDefaultConfig::read(key)` at time `now`, the `_default` file holding `file`. -/
def UserDefaultConfig.read {T : Type} (σ : Settings) (f : F64Ops T) (cache : DefaultsCache)
    (file : Option Table) (now : Nat) (key : String) : String × DefaultsCache :=
  let cfg := match cache with
    | none => (UserDefaultConfig.load file, now)
    | some cfg => if oneSecond < now - cfg.2 then (UserDefaultConfig.load file, now) else cfg
  (cfg.1.get σ f key, some cfg)

/-- A rewrite of the `_default` file, by this process or another, or a read. -/
inductive DefaultsEvent where
  | write (file : Option Table)
  | read (key : String)

/-- The file after a history of events. -/
def DefaultsEvent.fileAfter (file₀ : Option Table) (evs : List (DefaultsEvent × Nat)) :
    Option Table :=
  evs.foldl (fun file e => match e.1 with | .write file' => file' | .read _ => file) file₀

section Run

variable {T : Type} (σ : Settings) (f : F64Ops T)

def DefaultsEvent.step (st : DefaultsCache × Option Table) :
    DefaultsEvent × Nat → DefaultsCache × Option Table
  | (.write file, _) => (st.1, file)
  | (.read key, now) => ((UserDefaultConfig.read σ f st.1 st.2 now key).2, st.2)

def DefaultsEvent.run (st : DefaultsCache × Option Table) (evs : List (DefaultsEvent × Nat)) :
    DefaultsCache × Option Table :=
  evs.foldl (DefaultsEvent.step σ f) st

theorem DefaultsEvent.run_snoc (st : DefaultsCache × Option Table)
    (evs : List (DefaultsEvent × Nat)) (e : DefaultsEvent × Nat) :
    DefaultsEvent.run σ f st (evs ++ [e]) =
      DefaultsEvent.step σ f (DefaultsEvent.run σ f st evs) e :=
  List.foldl_append _ _ _ _

theorem DefaultsEvent.run_file (cache : DefaultsCache) (file₀ : Option Table)
    (evs : List (DefaultsEvent × Nat)) :
    (DefaultsEvent.run σ f (cache, file₀) evs).2 = DefaultsEvent.fileAfter file₀ evs := by
  induction evs generalizing cache file₀ with
  | nil => rfl
  | cons e evs ih =>
    obtain ⟨_ | _, _⟩ := e <;> exact ih _ _

/-- What the cache holds after a history: nothing, or a file read at most a second ago. -/
def DefaultsCache.Inv (file₀ : Option Table) (evs : List (DefaultsEvent × Nat))
    (cache : DefaultsCache) : Prop :=
  cache = none ∨ ∃ i key τ, evs.get? i = some (.read key, τ) ∧
    cache = some (UserDefaultConfig.load (DefaultsEvent.fileAfter file₀ (evs.take i)), τ)

theorem UserDefaultConfig.read_cases (cache : DefaultsCache) (file : Option Table)
    (now : Nat) (key : String) :
    (UserDefaultConfig.read σ f cache file now key =
        ((UserDefaultConfig.load file).get σ f key, some (UserDefaultConfig.load file, now))) ∨
      ∃ u τ, cache = some (u, τ) ∧ now ≤ τ + oneSecond ∧
        UserDefaultConfig.read σ f cache file now key = (u.get σ f key, cache) := by
  rcases cache with _ | ⟨u, τ⟩
  · exact .inl rfl
  · by_cases hstale : oneSecond < now - τ
    · exact .inl (by simp only [UserDefaultConfig.read, if_pos hstale])
    · exact .inr ⟨u, τ, rfl, by omega, by simp only [UserDefaultConfig.read, if_neg hstale]⟩

theorem DefaultsCache.Inv.snoc {file₀ : Option Table} {evs : List (DefaultsEvent × Nat)}
    {cache : DefaultsCache} (h : DefaultsCache.Inv file₀ evs cache) (e : DefaultsEvent × Nat)
    (cache' : DefaultsCache)
    (hstep : cache' = cache ∨ ∃ key, e.1 = .read key ∧
      cache' = some (UserDefaultConfig.load (DefaultsEvent.fileAfter file₀ evs), e.2)) :
    DefaultsCache.Inv file₀ (evs ++ [e]) cache' := by
  rcases hstep with rfl | ⟨key, he, rfl⟩
  · rcases h with rfl | ⟨i, key, τ, hi, rfl⟩
    · exact .inl rfl
    · have hlt : i < evs.length := by
        rw [List.get?_eq_getElem?] at hi
        exact (List.getElem?_eq_some_iff.mp hi).1
      refine .inr ⟨i, key, τ, ?_, ?_⟩
      · rw [List.get?_eq_getElem?, List.getElem?_append_left hlt, ← List.get?_eq_getElem?, hi]
      · rw [List.take_append_of_le_length hlt.le]
  · refine .inr ⟨evs.length, key, e.2, ?_, ?_⟩
    · rw [List.get?_eq_getElem?, List.getElem?_concat_length, ← he]
    · rw [List.take_left' rfl]

theorem DefaultsCache.Inv.step {file₀ : Option Table} {evs : List (DefaultsEvent × Nat)}
    {st : DefaultsCache × Option Table} (h : DefaultsCache.Inv file₀ evs st.1)
    (hfile : st.2 = DefaultsEvent.fileAfter file₀ evs) (e : DefaultsEvent × Nat) :
    DefaultsCache.Inv file₀ (evs ++ [e]) (DefaultsEvent.step σ f st e).1 := by
  obtain ⟨_ | key, now⟩ := e
  · exact h.snoc _ _ (.inl rfl)
  · rcases UserDefaultConfig.read_cases σ f st.1 st.2 now key with hr | ⟨u, τ, _, _, hr⟩
    · refine h.snoc _ _ (.inr ⟨key, rfl, ?_⟩)
      simp only [DefaultsEvent.step]
      rw [hr, hfile]
    · exact h.snoc _ _ (.inl (by simp only [DefaultsEvent.step, hr]))

theorem DefaultsCache.Inv.run (file₀ : Option Table) (evs : List (DefaultsEvent × Nat)) :
    DefaultsCache.Inv file₀ evs (DefaultsEvent.run σ f (none, file₀) evs).1 := by
  induction evs using List.reverseRecOn with
  | nil => exact .inl rfl
  | append_singleton evs e ih =>
    rw [DefaultsEvent.run_snoc]
    exact ih.step σ f (DefaultsEvent.run_file σ f none file₀ evs) e

end Run

theorem user_default_read_within_a_second {T : Type} (σ : Settings) (f : F64Ops T)
    (file₀ : Option Table) (evs : List (DefaultsEvent × Nat)) (t : Nat) (key : String) :
    (UserDefaultConfig.read σ f (DefaultsEvent.run σ f (none, file₀) evs).1
        (DefaultsEvent.run σ f (none, file₀) evs).2 t key).1 =
        (UserDefaultConfig.load (DefaultsEvent.fileAfter file₀ evs)).get σ f key ∨
      ∃ i key' τ, evs.get? i = some (.read key', τ) ∧ t ≤ τ + oneSecond ∧
        (UserDefaultConfig.read σ f (DefaultsEvent.run σ f (none, file₀) evs).1
            (DefaultsEvent.run σ f (none, file₀) evs).2 t key).1 =
          (UserDefaultConfig.load (DefaultsEvent.fileAfter file₀ (evs.take i))).get σ f key := by
  rw [DefaultsEvent.run_file σ f none file₀ evs]
  rcases UserDefaultConfig.read_cases σ f (DefaultsEvent.run σ f (none, file₀) evs).1
      (DefaultsEvent.fileAfter file₀ evs) t key with hr | ⟨u, τ, hc, ht, hr⟩
  · exact .inl (by rw [hr])
  · rcases DefaultsCache.Inv.run σ f file₀ evs with hnone | ⟨i, key', τ', hi, hc'⟩
    · rw [hnone] at hc
      exact nomatch hc
    · rw [hc] at hc'
      obtain ⟨rfl, rfl⟩ := Prod.mk.inj (Option.some.inj hc')
      exact .inr ⟨i, key', τ, hi, ht, by rw [hr]⟩

end HbbCommon
