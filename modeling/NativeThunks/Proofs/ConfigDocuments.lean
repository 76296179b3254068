import NativeThunks.Proofs.TomlLines

/-! Configurations as TOML documents. The document of a configuration is read as the configuration
itself, and is refused just where one of its settings cannot be used. -/
namespace NativeThunks.ConfigDocuments
open Toml TomlLines

/-- The entries of a configuration's document. -/
def entriesOf (config : Config) : List Entry := [
  ⟨"runtime_crate", quote config.runtimePath, .string config.runtimePath⟩,
  ⟨"abi", quote config.convention.word, .string config.convention.word⟩,
  ⟨"receiver_name", quote config.receiverName, .string config.receiverName⟩,
  ⟨"wrap_scalars", Config.boolWord config.wrapScalars, .bool config.wrapScalars⟩,
  ⟨"emit_header", Config.boolWord config.emitHeader, .bool config.emitHeader⟩]

private theorem toList_toToml (config : Config) :
    config.toToml.toList = (entriesOf config).flatMap Entry.chars := by
  simp [Config.toToml, Config.tomlLine, entriesOf, Entry.chars]

/-- Every setting has an entry, under its name. -/
theorem keys_entriesOf (config : Config) : (entriesOf config).map Entry.key = Config.settings := rfl

private theorem distinct_settings : Config.settings.Nodup := by decide

private theorem bare_settings : ∀ key ∈ Config.settings, Bare key := by
  have occupied : ∀ key ∈ Config.settings, key.toList ≠ [] := by decide
  have bare : ∀ key ∈ Config.settings, key.toList.all isBare = true := by decide
  intro key member
  exact ⟨occupied key member, List.all_eq_true.mp (bare key member)⟩

private theorem written_entriesOf (config : Config) :
    ∀ entry ∈ entriesOf config, Written entry.text.toList entry.item := by
  simp only [entriesOf, List.forall_mem_cons]
  exact ⟨written_quote _, written_quote _, written_quote _, written_bool _, written_bool _, by simp⟩

private theorem readable_entriesOf (config : Config) : ∀ entry ∈ entriesOf config, entry.Readable := by
  intro entry member
  have key : entry.key ∈ Config.settings :=
    keys_entriesOf config ▸ List.mem_map.mpr ⟨entry, member, rfl⟩
  exact ⟨bare_settings entry.key key, written_entriesOf config entry member⟩

private theorem conventionNamed_word (convention : CallingConvention) :
    Config.conventionNamed convention.word = .ok convention := by
  cases convention <;> rfl

/-- The entries set everything, whatever the settings were before. -/
theorem withEntries_entriesOf (config start : Config) :
    Config.withEntries start ((entriesOf config).map Entry.pair) = .ok config := by
  simp [entriesOf, Entry.pair, Config.withEntries, Config.withEntry, Config.textSetting,
    Config.boolSetting, Config.conventionSetting, conventionNamed_word, Except.map, bind,
    Except.bind]

private theorem ofTomlUnchecked_toToml (config : Config) :
    Config.ofTomlUnchecked config.toToml = .ok config := by
  have distinct : ((entriesOf config).map Entry.key).Nodup :=
    keys_entriesOf config ▸ distinct_settings
  have read := ofText_entries (toList_toToml config) (readable_entriesOf config) distinct
  rw [Config.ofTomlUnchecked, read]
  exact withEntries_entriesOf config {}

/-- The document of a configuration is read as the configuration where its settings can be used.
Elsewhere the first setting that cannot be used is the fault. -/
theorem ofToml_toToml (config : Config) : Config.ofToml config.toToml =
    match config.invalid? with
    | none => .ok config
    | some setting => .error (.invalid setting) := by
  rw [Config.ofToml, ofTomlUnchecked_toToml]
  rfl

end NativeThunks.ConfigDocuments
