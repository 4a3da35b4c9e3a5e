import HbbCommon.Persist
/-! The options of `CONFIG2` over whole runs. Three write sections decide a key's stored entry:
`set_option` on that key when the save gate lets the value through, `set_options`, and
`Config2::set`; every other section leaves it alone. So after any interleaving of the
operations, `Config::get_option(k)` reads the overwrite, else the entry the last deciding section
left, else the default. A `set_option` the gate refuses, such as one that sets the default
value, leaves the earlier entry in force. -/

namespace HbbCommon

open Toml Secret

/-- The entry a write section leaves for option `k` of `CONFIG2`, or `none` if it keeps it. -/
def Section.optionEntry (σ : Settings) (k : String) : Section → Option (Option String)
  | .setOption k' v =>
    if k' = k ∧ isOptionCanSave σ.overwriteSettings k σ.defaultSettings v = true then
      some (if v = "" then none else some v)
    else none
  | .setOptions v => some ((Config.purifyOptions σ v).lookup k)
  | .setConfig2 cfg => some (cfg.options.lookup k)
  | _ => none

theorem foldl_getD_eq_getLast_filterMap {α β : Type} (f : α → Option β) (l : List α) (b : β) :
    l.foldl (fun x a => (f a).getD x) b = ((l.filterMap f).getLast?).getD b := by
  induction l generalizing b with
  | nil => rfl
  | cons a l ih =>
    rw [List.foldl_cons, ih, List.filterMap_cons]
    cases f a with
    | none => rfl
    | some b' => rw [List.getLast?_cons, Option.getD_some]; rfl

namespace Singletons

variable (s : SecretLayer) (σ : Settings) (k : String)

theorem options_lookup_setOption (c : Config2) (k' v : String) :
    ((Config.setOption σ c k' v).getD c).options.lookup k =
      ((Section.setOption k' v).optionEntry σ k).getD (c.options.lookup k) := by
  rw [Config.options_setOption, Section.optionEntry]
  by_cases hk : k' = k
  · subst hk
    by_cases hs : isOptionCanSave σ.overwriteSettings k' σ.defaultSettings v = true
    · rw [setOptionIn_saved _ _ _ _ _ hs, if_pos (And.intro rfl hs), Option.getD_some]
    · rw [setOptionIn_kept _ _ _ _ _ (by simpa using hs), if_neg fun h => hs h.2,
        Option.getD_none]
  · rw [if_neg fun h => hk h.1, Option.getD_none, setOptionIn]
    split
    · exact lookup_writeOption_ne _ _ _ _ (Ne.symm hk)
    · rfl

theorem options_lookup_apply (st : Singletons) (sec : Section) :
    (st.apply s σ sec).config2.value.options.lookup k =
      (sec.optionEntry σ k).getD (st.config2.value.options.lookup k) := by
  cases sec with
  | setOption k' v =>
    simp only [apply, writeConfig2, Singleton.write_value]
    exact options_lookup_setOption σ k _ k' v
  | setOptions v =>
    simp only [apply, writeConfig2, Singleton.write_value, Config.setOptions, Section.optionEntry,
      Option.getD_some]
    split
    · next h =>
      rw [Option.getD_none, ← Finmap.lookup_toFinmap, h, Finmap.lookup_toFinmap]
    · rfl
  | setConfig2 cfg =>
    simp only [apply, writeConfig2, Singleton.write_value, Config2.set, Section.optionEntry,
      Option.getD_some]
    split
    · next h =>
      simp only [Config2.same, Bool.and_eq_true, decide_eq_true_eq] at h
      rw [Option.getD_none, ← Finmap.lookup_toFinmap, h.2, Finmap.lookup_toFinmap]
    · rfl
  | setNatType _ | setSerial _ | setUnlockPin _ | updateLatency _ =>
    simp only [apply, writeConfig2, Singleton.write_value]
    refine setIfChanged_frame (fun c : Config2 => c.options.lookup k) ?_ _ _
    exact fun _ _ => rfl
  | setSocks socks =>
    simp only [apply, writeConfig2, Singleton.write_value, Config.setSocks]
    split_ifs <;> rfl
  | _ => rfl

theorem options_lookup_run (st : Singletons) (sections : List Section) :
    (st.run s σ sections).config2.value.options.lookup k =
      ((sections.filterMap (Section.optionEntry σ k)).getLast?).getD
        (st.config2.value.options.lookup k) := by
  rw [run_view s σ (·.config2.value.options.lookup k) (fun x sec => (sec.optionEntry σ k).getD x)
    (options_lookup_apply s σ k) st, foldl_getD_eq_getLast_filterMap]

end Singletons

theorem get_option_last_deciding_write (s : SecretLayer) (σ : Settings) (st : Singletons)
    (sections : List Section) (k : String) :
    Config.getOption σ (st.run s σ sections).config2.value k =
      (((σ.overwriteSettings.lookup k).or
        (((sections.filterMap (Section.optionEntry σ k)).getLast?).getD
          (st.config2.value.options.lookup k))).or (σ.defaultSettings.lookup k)).getD "" := by
  rw [Config.getOption, getOr, Singletons.options_lookup_run]

end HbbCommon
