import AwareKV.Config
import AwareKV.Lib.Dict
import Mathlib.Data.List.Induction

/-!
# AwareKV.ConfigLoading — configurations from dictionaries

Translation of `DeadlineKVConfig.from_dict`, with the attributes of the configuration as Python keeps them:
a dictionary of the instance (`vars`), and the attributes of its class, some of which are properties.  A
value is what JSON and YAML documents hold.

* `fromDictStep_good`: a key that names a field, or nothing, overrides that field, or nothing.
* `from_dict_law_iff`: `from_dict` gives the configuration that is asked for exactly if no key names an
  attribute of the class that is not a field.
-/

namespace AwareKV

/-! ## Values -/

/-- The values of a configuration dictionary. -/
inductive ConfigValue
  | none
  | bool (b : Bool)
  | int (i : ℤ)
  | float (q : ℚ)
  | str (s : String)
  | list (items : List ConfigValue)
  | dict (entries : List (String × ConfigValue))

namespace ConfigValue

/-- `type(value).__name__`. -/
def typeName : ConfigValue → String
  | none => "NoneType"
  | bool _ => "bool"
  | int _ => "int"
  | float _ => "float"
  | str _ => "str"
  | list _ => "list"
  | dict _ => "dict"

/-- The dictionary that a value is, if `isinstance(value, dict)`. -/
def dict? : ConfigValue → Option (Dict String ConfigValue)
  | dict entries => some (entries.foldl (fun d e => d.insert e.1 e.2) .empty)
  | _ => Option.none

end ConfigValue

/-! ## Sections -/

/-- The dataclasses of the sections. -/
inductive ConfigSection
  | manifest | data | storage | network | hostCache | planner | metrics
  deriving DecidableEq

namespace ConfigSection

/-- All sections, in the order of the fields. -/
def all : List ConfigSection := [.manifest, .data, .storage, .network, .hostCache, .planner, .metrics]

/-- The field of the section. -/
def key : ConfigSection → String
  | manifest => "manifest"
  | data => "data"
  | storage => "storage"
  | network => "network"
  | hostCache => "host_cache"
  | planner => "planner"
  | metrics => "metrics"

/-- The section of a key. -/
def ofKey? (key : String) : Option ConfigSection :=
  if key = "manifest" then some .manifest
  else if key = "data" then some .data
  else if key = "storage" then some .storage
  else if key = "network" then some .network
  else if key = "host_cache" then some .hostCache
  else if key = "planner" then some .planner
  else if key = "metrics" then some .metrics
  else none

/-- The class of the section. -/
def className : ConfigSection → String
  | manifest => "ManifestConfig"
  | data => "DataConfig"
  | storage => "StorageConfig"
  | network => "NetworkConfig"
  | hostCache => "HostCacheConfig"
  | planner => "PlannerConfig"
  | metrics => "MetricsConfig"

/-- The fields of the section with their defaults. -/
def defaults : ConfigSection → Dict String ConfigValue
  | manifest => ⟨[("host", .str "127.0.0.1"), ("port", .int 8081), ("url", .str "http://127.0.0.1:8081")],
      by decide⟩
  | data => ⟨[("host", .str "127.0.0.1"), ("port", .int 9001)], by decide⟩
  | storage => ⟨[("root_dir", .str "/tmp/dakv_store"), ("max_objects", .int 1000), ("ttl_seconds", .int 3600)],
      by decide⟩
  | network => ⟨[("timeout_ms", .int 1000), ("refine_timeout_ms", .int 150),
      ("enable_simulation", .bool false), ("bandwidth_mbps", .int 1000), ("rtt_ms", .int 10),
      ("loss_percent", .float 0)], by decide⟩
  | hostCache => ⟨[("max_bytes", .int (4 * 1024 * 1024 * 1024)), ("eviction_policy", .str "lru")], by decide⟩
  | planner => ⟨[("policy", .str "rule_based"), ("alpha", .float (4 / 5)), ("min_prefix_tokens", .int 128)],
      by decide⟩
  | metrics => ⟨[("enable_prometheus", .bool true), ("prometheus_port", .int 9090), ("log_level", .str "INFO")],
      by decide⟩

end ConfigSection

/-! ## Attributes -/

/-- The values of attributes: plain values, and sections with their fields. -/
inductive ConfigAttr
  | value (v : ConfigValue)
  | object (cls : ConfigSection) (fields : Dict String ConfigValue)

/-- `vars(config)`. -/
abbrev ConfigAttrs := Dict String ConfigAttr

/-- `XConfig(**value) if isinstance(value, dict) else value`. -/
def ConfigSection.build (s : ConfigSection) (value : ConfigValue) : Py ConfigAttr :=
  match value.dict? with
  | none => .ok (.value value)
  | some d =>
    match d.keys.find? (fun k => !s.defaults.contains k) with
    | none => .ok (.object s (s.defaults.override d.get?))
    | some k => .error ⟨.typeError,
        s.className ++ ".__init__() got an unexpected keyword argument '" ++ k ++ "'"⟩

/-- The plain fields of `DeadlineKVConfig` with their defaults. -/
def plainDefaults : Dict String ConfigValue :=
  ⟨[("model_id", .str "meta-llama/Llama-2-7b-hf"), ("tokenizer_id", .str "meta-llama/Llama-2-7b-hf"),
    ("kv_layout_version", .str "v1-block-first"), ("block_size", .int 16), ("cache_dtype", .str "float16"),
    ("num_layers", .int 32), ("ttft_slo_ms", .int 500), ("tp_size", .int 1),
    ("enable_tier1_host_cache", .bool true), ("enable_refinement", .bool true),
    ("critical_codec", .str "int8_symm"), ("refinement_codec", .str "fp16_raw")], by decide⟩

/-- `vars(DeadlineKVConfig())`. -/
def defaultAttrs : ConfigAttrs :=
  ⟨plainDefaults.entries.map (fun e => (e.1, .value e.2)) ++
    ConfigSection.all.map (fun s => (s.key, .object s s.defaults)), by decide⟩

/-- The properties of `DeadlineKVConfig`, each with the section and its field that it returns. -/
def propertyPath (name : String) : Option (String × String) :=
  if name = "manifest_url" then some ("manifest", "url")
  else if name = "data_host" then some ("data", "host")
  else if name = "data_port" then some ("data", "port")
  else if name = "network_timeout_ms" then some ("network", "timeout_ms")
  else if name = "refine_timeout_ms" then some ("network", "refine_timeout_ms")
  else if name = "max_host_cache_bytes" then some ("host_cache", "max_bytes")
  else if name = "planner_policy" then some ("planner", "policy")
  else none

/-- What a property returns, unless it raises an `AttributeError`. -/
def getProperty (attrs : ConfigAttrs) (path : String × String) : Option ConfigValue :=
  match attrs.get? path.1 with
  | some (.object _ fields) => fields.get? path.2
  | _ => none

/-- The methods of `DeadlineKVConfig`, and the attributes of every instance that cannot be set like others. -/
def methodNames : List String := ["from_yaml", "from_dict", "__class__", "__dict__", "__weakref__"]

section Loading

-- the other names that the class has from `object`, from `dataclass` and from the interpreter
variable (inherited : String → Bool)

/-- The class has an attribute of this name. -/
def classAttribute (name : String) : Bool :=
  plainDefaults.contains name || (propertyPath name).isSome || methodNames.contains name || inherited name

/-- `hasattr(config, name)`. -/
def hasattr (attrs : ConfigAttrs) (name : String) : Bool :=
  match propertyPath name with
  | some path => (getProperty attrs path).isSome
  | none => attrs.contains name || classAttribute inherited name

/-- `setattr(config, name, value)`. -/
def setattr (attrs : ConfigAttrs) (name : String) (value : ConfigValue) : Py ConfigAttrs :=
  if (propertyPath name).isSome then
    .error ⟨.attributeError, "property '" ++ name ++ "' of 'DeadlineKVConfig' object has no setter"⟩
  else if name = "__class__" then
    .error ⟨.typeError, "__class__ must be set to a class, not '" ++ value.typeName ++ "' object"⟩
  else if name = "__weakref__" then
    .error ⟨.attributeError, "attribute '__weakref__' of 'DeadlineKVConfig' objects is not writable"⟩
  else if name = "__dict__" then
    match value.dict? with
    | some d => .ok ⟨d.entries.map (fun e => (e.1, .value e.2)), by
        rw [List.map_map]
        exact d.nodup⟩
    | none => .error ⟨.typeError, "__dict__ must be set to a dictionary, not a '" ++ value.typeName ++ "'"⟩
  else .ok (attrs.insert name (.value value))

/-- A round of the loop of `from_dict`. -/
def fromDictStep (attrs : ConfigAttrs) (item : String × ConfigValue) : Py ConfigAttrs :=
  match ConfigSection.ofKey? item.1 with
  | some s => do
    let section_ ← s.build item.2
    return attrs.insert item.1 section_
  | none => if hasattr inherited attrs item.1 then setattr attrs item.1 item.2 else .ok attrs

/-- `DeadlineKVConfig.from_dict`. -/
def fromDict (data : Dict String ConfigValue) : Py ConfigAttrs :=
  data.entries.foldlM (fromDictStep inherited) defaultAttrs

end Loading

/-! ## What is asked for -/

/-- The values under the keys of sections are dictionaries of fields of these sections. -/
def SectionsGiven (data : Dict String ConfigValue) : Prop :=
  ∀ s : ConfigSection, ∀ v, data.get? s.key = some v → ∃ d, v.dict? = some d ∧ ∀ k ∈ d.keys, k ∈ s.defaults.keys

/-- The attribute that a value stands for: a section with the fields that are given, or the value. -/
def attrOf (key : String) (value : ConfigValue) : ConfigAttr :=
  match ConfigSection.ofKey? key with
  | some s => .object s (s.defaults.override (value.dict?.getD .empty).get?)
  | none => .value value

/-- The configuration that `data` asks for: each field that it names has its value, the others their
defaults. -/
def requested (data : Dict String ConfigValue) : ConfigAttrs :=
  defaultAttrs.override (fun k => (data.get? k).map (attrOf k))

/-! ## Names -/

namespace ConfigSection

theorem ofKey?_key (s : ConfigSection) : ofKey? s.key = some s := by
  cases s <;> rfl

theorem key_of_ofKey? {key : String} {s : ConfigSection} (h : ofKey? key = some s) : s.key = key := by
  unfold ofKey? at h
  split_ifs at h with h1 h2 h3 h4 h5 h6 h7 <;> cases h <;> exact Eq.symm ‹_›

theorem key_mem (s : ConfigSection) : s.key ∈ defaultAttrs.keys := by
  cases s <;> decide

/-- A section is built from a dictionary of its fields. -/
theorem build_eq_ok {s : ConfigSection} {value : ConfigValue} {d : Dict String ConfigValue}
    (hd : value.dict? = some d) (hfields : ∀ k ∈ d.keys, k ∈ s.defaults.keys) :
    s.build value = .ok (.object s (s.defaults.override d.get?)) := by
  have hknown : d.keys.find? (fun k => !s.defaults.contains k) = none := by
    rw [List.find?_eq_none]
    intro k hk
    simpa using Dict.contains_iff.mpr (hfields k hk)
  rw [build, hd]
  dsimp only
  rw [hknown]

end ConfigSection

/-- The names of fields are neither properties nor special. -/
theorem settable_of_field {name : String} (h : name ∈ defaultAttrs.keys) :
    propertyPath name = none ∧ name ≠ "__class__" ∧ name ≠ "__weakref__" ∧ name ≠ "__dict__" := by
  have hall : ∀ n ∈ defaultAttrs.keys,
      propertyPath n = none ∧ n ≠ "__class__" ∧ n ≠ "__weakref__" ∧ n ≠ "__dict__" := by decide
  exact hall name h

/-- A property returns a field of a default section. -/
theorem getProperty_defaultAttrs {name : String} {path : String × String} (h : propertyPath name = some path) :
    (getProperty defaultAttrs path).isSome = true := by
  unfold propertyPath at h
  split_ifs at h <;> cases h <;> decide

variable {inherited : String → Bool} {attrs : ConfigAttrs} {name : String} {value : ConfigValue}

theorem hasattr_plain (hprop : propertyPath name = none) :
    hasattr inherited attrs name = (attrs.contains name || classAttribute inherited name) := by
  rw [hasattr, hprop]

theorem setattr_plain (hprop : propertyPath name = none) (hclass : name ≠ "__class__")
    (hweak : name ≠ "__weakref__") (hdict : name ≠ "__dict__") :
    setattr attrs name value = .ok (attrs.insert name (.value value)) := by
  rw [setattr, hprop, if_neg (by simp), if_neg hclass, if_neg hweak, if_neg hdict]

/-! ## One key -/

/-- A round for a key that is not a section's. -/
theorem fromDictStep_plain (hs : ConfigSection.ofKey? name = none) :
    fromDictStep inherited attrs (name, value) =
      if hasattr inherited attrs name then setattr attrs name value else .ok attrs := by
  rw [fromDictStep, hs]

/-- The key names a field, or nothing that the class has; and it comes with what it should. -/
structure GoodItem (inherited : String → Bool) (name : String) (value : ConfigValue) : Prop where
  known : name ∉ defaultAttrs.keys → classAttribute inherited name = false
  given : ∀ s, ConfigSection.ofKey? name = some s →
    ∃ d, value.dict? = some d ∧ ∀ k ∈ d.keys, k ∈ s.defaults.keys

/-- A section is set to the object that is built. -/
theorem fromDictStep_section (h : GoodItem inherited name value) {s : ConfigSection}
    (hs : ConfigSection.ofKey? name = some s) :
    fromDictStep inherited attrs (name, value) = .ok (attrs.insert name (attrOf name value)) := by
  obtain ⟨d, hd, hfields⟩ := h.given s hs
  have hattr : attrOf name value = .object s (s.defaults.override d.get?) := by
    rw [attrOf, hs, hd]
    rfl
  rw [fromDictStep, hs, hattr]
  dsimp only
  rw [ConfigSection.build_eq_ok hd hfields]
  rfl

/-- A plain field is set to the value. -/
theorem fromDictStep_field (hs : ConfigSection.ofKey? name = none) (hmem : name ∈ attrs.keys)
    (hfield : name ∈ defaultAttrs.keys) :
    fromDictStep inherited attrs (name, value) = .ok (attrs.insert name (attrOf name value)) := by
  obtain ⟨hprop, hclass, hweak, hdict⟩ := settable_of_field hfield
  have hhas : hasattr inherited attrs name = true := by
    rw [hasattr_plain hprop, Dict.contains_iff.mpr hmem, Bool.true_or]
  have hattr : attrOf name value = .value value := by rw [attrOf, hs]
  rw [fromDictStep_plain hs, if_pos hhas, setattr_plain hprop hclass hweak hdict, hattr]

/-- A name that nothing has is ignored. -/
theorem fromDictStep_unknown (hs : ConfigSection.ofKey? name = none) (hmem : name ∉ attrs.keys)
    (hclass : classAttribute inherited name = false) :
    fromDictStep inherited attrs (name, value) = .ok attrs := by
  have hprop : propertyPath name = none := by
    have hnone := hclass
    simp only [classAttribute, Bool.or_eq_false_iff] at hnone
    simpa using hnone.1.1.2
  have hhas : hasattr inherited attrs name ≠ true := by
    rw [hasattr_plain hprop, hclass, Bool.or_false, ne_eq, Dict.contains_iff]
    exact hmem
  rw [fromDictStep_plain hs, if_neg hhas]

/-- **A round of the loop**: the field of that name is overridden, if there is one. -/
theorem fromDictStep_good (h : GoodItem inherited name value) (g : String → Option ConfigAttr) :
    fromDictStep inherited (defaultAttrs.override g) (name, value) =
      .ok (defaultAttrs.override (fun k => if k = name then some (attrOf name value) else g k)) := by
  have hkeys : (defaultAttrs.override g).keys = defaultAttrs.keys := Dict.keys_override _ g
  cases hs : ConfigSection.ofKey? name with
  | some s =>
    have hfield : name ∈ defaultAttrs.keys := ConfigSection.key_of_ofKey? hs ▸ s.key_mem
    rw [fromDictStep_section h hs, Dict.insert_override hfield]
  | none =>
    by_cases hfield : name ∈ defaultAttrs.keys
    · rw [fromDictStep_field hs (hkeys ▸ hfield) hfield, Dict.insert_override hfield]
    · rw [fromDictStep_unknown hs (hkeys ▸ hfield) (h.known hfield)]
      refine congrArg Except.ok (Dict.override_congr fun k hk => ?_)
      rw [if_neg]
      rintro rfl
      exact hfield hk

/-! ## All keys -/

/-- **The loop**, over keys that all are good: every field has the value under its name. -/
theorem foldlM_fromDictStep {items : List (String × ConfigValue)} (hnodup : (items.map Prod.fst).Nodup)
    (h : ∀ item ∈ items, GoodItem inherited item.1 item.2) :
    items.foldlM (fromDictStep inherited) defaultAttrs =
      .ok (defaultAttrs.override (fun k => (Dict.assoc items k).map (attrOf k))) := by
  induction items using List.reverseRecOn with
  | nil => exact congrArg Except.ok (Dict.override_none defaultAttrs).symm
  | append_singleton items item ih =>
    obtain ⟨name, value⟩ := item
    rw [List.map_append, List.nodup_append] at hnodup
    have hnew : name ∉ items.map Prod.fst := fun hmem => hnodup.2.2 name hmem name (by simp) rfl
    rw [List.foldlM_append, ih hnodup.1 fun item hitem => h item (List.mem_append_left _ hitem)]
    show List.foldlM (fromDictStep inherited) (defaultAttrs.override _) [(name, value)] = _
    rw [List.foldlM_cons, fromDictStep_good (h (name, value) (by simp))]
    refine congrArg Except.ok (Dict.override_congr fun k _ => ?_)
    rw [← Dict.assign_of_notMem hnew, Dict.assoc_assign]
    split_ifs with hk
    · rw [hk]
      rfl
    · rfl

/-- The order of the keys does not matter for what is asked for. -/
theorem get?_of_perm {data data' : Dict String ConfigValue} (h : data'.entries.Perm data.entries)
    (key : String) : data'.get? key = data.get? key := by
  refine Option.ext fun v => ?_
  rw [Dict.get?_eq_some_iff, Dict.get?_eq_some_iff, h.mem_iff]

/-- **Loading what names only fields.** -/
theorem fromDict_eq_requested {data data' : Dict String ConfigValue} (hsections : SectionsGiven data)
    (h : ∀ k ∈ data.keys, k ∉ defaultAttrs.keys → classAttribute inherited k = false)
    (hperm : data'.entries.Perm data.entries) : fromDict inherited data' = .ok (requested data) := by
  have hgood : ∀ item ∈ data'.entries, GoodItem inherited item.1 item.2 := by
    intro item hitem
    have hmem : item ∈ data.entries := hperm.mem_iff.mp hitem
    refine ⟨h item.1 (List.mem_map_of_mem hmem), fun s hs => ?_⟩
    have hkey := ConfigSection.key_of_ofKey? hs
    exact hsections s item.2 (Dict.get?_eq_some_iff.mpr (by rw [hkey]; exact hmem))
  rw [fromDict, foldlM_fromDictStep data'.nodup hgood, requested]
  refine congrArg Except.ok (Dict.override_congr fun k _ => ?_)
  exact congrArg (Option.map (attrOf k)) (get?_of_perm hperm k)

/-! ## Other keys -/

/-- The section of the default configuration stays a section. -/
theorem get?_requested_section (data : Dict String ConfigValue) (s : ConfigSection) :
    ∃ fields, (requested data).get? s.key = some (.object s fields) := by
  have hdefault : defaultAttrs.get? s.key = some (.object s s.defaults) := by
    cases s <;> rfl
  rw [requested, Dict.get?_override, hdefault]
  cases hd : data.get? s.key with
  | none => exact ⟨s.defaults, rfl⟩
  | some v =>
    have hattr : attrOf s.key v = .object s (s.defaults.override (v.dict?.getD .empty).get?) := by
      rw [attrOf, s.ofKey?_key]
    exact ⟨_, congrArg some hattr⟩

theorem ofKey?_of_notMem (h : name ∉ defaultAttrs.keys) : ConfigSection.ofKey? name = none := by
  cases hs : ConfigSection.ofKey? name with
  | none => rfl
  | some s => exact absurd (ConfigSection.key_of_ofKey? hs ▸ s.key_mem) h

/-- A property that comes first raises. -/
theorem fromDictStep_property (inherited : String → Bool) {path : String × String}
    (hprop : propertyPath name = some path) (hfield : name ∉ defaultAttrs.keys) (value : ConfigValue) :
    ∃ e, fromDictStep inherited defaultAttrs (name, value) = .error e := by
  have hhas : hasattr inherited defaultAttrs name = true := by
    rw [hasattr, hprop]
    exact getProperty_defaultAttrs hprop
  rw [fromDictStep_plain (ofKey?_of_notMem hfield), if_pos hhas, setattr, hprop, if_pos (by simp)]
  exact ⟨_, rfl⟩

/-- **Another attribute of the class that comes last** raises, or leaves what was not asked for. -/
theorem fromDictStep_class (hprop : propertyPath name = none) (hfield : name ∉ defaultAttrs.keys)
    (hclass : classAttribute inherited name = true) (data : Dict String ConfigValue) :
    fromDictStep inherited attrs (name, value) ≠ .ok (requested data) := by
  have hhas : hasattr inherited attrs name = true := by
    rw [hasattr_plain hprop, hclass, Bool.or_true]
  rw [fromDictStep_plain (ofKey?_of_notMem hfield), if_pos hhas, setattr, hprop, if_neg (by simp)]
  split_ifs
  · simp
  · simp
  · cases value.dict? with
    | none => simp
    | some d =>
      -- the new attributes are plain values, also under the key of a section
      intro heq
      obtain ⟨fields, hsection⟩ := get?_requested_section data .manifest
      rw [← Except.ok.inj heq, Dict.get?_eq_some_iff, List.mem_map] at hsection
      obtain ⟨e, -, he⟩ := hsection
      have hattr : ConfigAttr.value e.2 = .object .manifest fields := congrArg Prod.snd he
      cases hattr
  · intro heq
    have hmem : name ∈ (attrs.insert name (.value value)).keys :=
      Dict.mem_keys_iff.mpr ⟨_, by rw [Dict.get?_insert, if_pos rfl]⟩
    rw [Except.ok.inj heq, requested, Dict.keys_override] at hmem
    exact hfield hmem

/-- **Loading a dictionary**: `from_dict` gives the configuration that is asked for, whatever the order of
the keys, exactly if no key names a property or another attribute of the class that is not a field. -/
theorem from_dict_law_iff (inherited : String → Bool) (data : Dict String ConfigValue)
    (hsections : SectionsGiven data) :
    (∀ data', data'.entries.Perm data.entries → fromDict inherited data' = .ok (requested data)) ↔
      ∀ k ∈ data.keys, k ∉ defaultAttrs.keys → classAttribute inherited k = false := by
  refine ⟨fun hall k hk hfield => ?_, fun h data' hperm => fromDict_eq_requested hsections h hperm⟩
  by_contra hclass
  rw [Bool.not_eq_false] at hclass
  obtain ⟨value, hvalue⟩ := Dict.mem_keys_iff.mp hk
  obtain ⟨before, after, hsplit⟩ := List.append_of_mem (Dict.get?_eq_some_iff.mp hvalue)
  cases hprop : propertyPath k with
  | some path =>
    have hperm : ((k, value) :: (before ++ after)).Perm data.entries := hsplit ▸ List.perm_middle.symm
    have hok := hall ⟨_, (hperm.map Prod.fst).nodup_iff.mpr data.nodup⟩ hperm
    obtain ⟨e, he⟩ := fromDictStep_property inherited hprop hfield value
    rw [fromDict, List.foldlM_cons, he] at hok
    cases hok
  | none =>
    have hperm : (before ++ after ++ [(k, value)]).Perm data.entries := by
      rw [hsplit]
      exact (List.perm_append_singleton _ _).trans List.perm_middle.symm
    have hok := hall ⟨_, (hperm.map Prod.fst).nodup_iff.mpr data.nodup⟩ hperm
    rw [fromDict, List.foldlM_append] at hok
    obtain ⟨attrs, -, hlast⟩ := Py.bind_eq_ok.mp hok
    rw [List.foldlM_cons] at hlast
    obtain ⟨last, hstep, hpure⟩ := Py.bind_eq_ok.mp hlast
    cases hpure
    exact fromDictStep_class hprop hfield hclass data hstep

/-- A field and a section are given, and a key that names nothing. -/
def sloConfig : Dict String ConfigValue :=
  ⟨[("unknown", .none), ("network", .dict [("timeout_ms", .int 200)]), ("ttft_slo_ms", .int 300)], by decide⟩

theorem sectionsGiven_sloConfig : SectionsGiven sloConfig := by
  intro s v hv
  rw [Dict.get?_eq_some_iff] at hv
  cases s with
  | network =>
    obtain rfl : v = .dict [("timeout_ms", .int 200)] := by
      simpa [sloConfig, ConfigSection.key] using hv
    exact ⟨_, rfl, by decide⟩
  | manifest | data | storage | hostCache | planner | metrics =>
    simp [sloConfig, ConfigSection.key] at hv

/-- It is loaded as it is given. -/
theorem from_dict_law_iff_slo : fromDict (fun _ => false) sloConfig = .ok (requested sloConfig) :=
  (from_dict_law_iff (fun _ => false) sloConfig sectionsGiven_sloConfig).mpr (by decide) sloConfig
    (List.Perm.refl _)

/-- A key of the documented launch configuration. -/
def launchConfig : Dict String ConfigValue := ⟨[("manifest_url", .str "http://10.0.0.2:8081")], by decide⟩

/-- It names a property: the documented configuration does not load. -/
theorem from_dict_raises :
    SectionsGiven launchConfig ∧ fromDict (fun _ => false) launchConfig =
      .error ⟨.attributeError, "property 'manifest_url' of 'DeadlineKVConfig' object has no setter"⟩ := by
  refine ⟨fun s v hv => ?_, rfl⟩
  rw [Dict.get?_eq_some_iff] at hv
  cases s <;> simp [launchConfig, ConfigSection.key] at hv

end AwareKV
