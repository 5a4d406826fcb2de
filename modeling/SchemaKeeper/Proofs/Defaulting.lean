import SchemaKeeper.Proofs.Admission

/-!
# What defaulting changes

Defaulting writes the counts of an object into the settings of its model and
prints the model without blanks.  A model of whole numbers is read back from that
text as it was, its counts apart, so all else that is read out of it stays the
same, and to default it once more changes nothing.
-/

namespace SchemaKeeper

namespace Model

variable {body text : String} {counts : Counts} {root changed : Json}
  {fields settings : List (String × Json)}

/-! ## Bodies that take counts -/

/-- A document is an object, and so are its settings if there are any. -/
def TakesCounts (root : Json) : Prop :=
  ∃ fields, root = .object fields ∧
    ∀ found, fields.lookup "settings" = some found → ∃ settings, found = .object settings

theorem takesCounts_iff :
    TakesCounts root ↔ ∃ fields settings, root = .object fields ∧ SettingsOf fields settings := by
  constructor
  · rintro ⟨fields, rfl, hobject⟩
    cases hfound : fields.lookup "settings" with
    | none => exact ⟨fields, [], rfl, .inr ⟨hfound, rfl⟩⟩
    | some found =>
        obtain ⟨settings, rfl⟩ := hobject found hfound
        exact ⟨fields, settings, rfl, .inl hfound⟩
  · rintro ⟨fields, settings, rfl, hsettings⟩
    refine ⟨fields, rfl, fun found hfound => ⟨settings, ?_⟩⟩
    rcases hsettings with hsome | ⟨hnone, -⟩
    · exact Option.some.inj (hfound.symm.trans hsome)
    · cases hnone.symm.trans hfound

theorem mergeCounts_of_settings (hparse : Json.parse body = .ok (.object fields))
    (h : SettingsOf fields settings) (counts : Counts) :
    mergeCounts body counts = .ok (merged fields settings counts).compact := by
  have hfields : parseObject body = .ok fields := by
    rw [parseObject, parse, hparse]
    rfl
  unfold mergeCounts
  rw [hfields]
  rcases h with hsome | ⟨hnone, rfl⟩
  · simp only [bind, Except.bind, hsome]
    rfl
  · simp only [bind, Except.bind, hnone]
    rfl

theorem mergeCounts_succeeds_iff :
    (∃ text, mergeCounts body counts = .ok text) ↔
      ∃ root, Json.parse body = .ok root ∧ TakesCounts root := by
  constructor
  · rintro ⟨text, h⟩
    obtain ⟨fields, settings, hparse, hsettings, -⟩ := mergeCounts_eq_ok h
    exact ⟨_, hparse, takesCounts_iff.mpr ⟨fields, settings, rfl, hsettings⟩⟩
  · rintro ⟨root, hparse, htakes⟩
    obtain ⟨fields, settings, rfl, hsettings⟩ := takesCounts_iff.mp htakes
    exact ⟨_, mergeCounts_of_settings hparse hsettings counts⟩

theorem compact_eq_ok_iff :
    compact body = .ok text ↔ ∃ root, Json.parse body = .ok root ∧ text = root.compact := by
  unfold compact parse
  cases Json.parse body with
  | error e => simp [Except.mapError, bind, Except.bind]
  | ok root => simp [Except.mapError, bind, Except.bind, pure, Except.pure, eq_comm]

/-! ## Documents with counts -/

/-- A document that has these counts in its settings and is as it was everywhere else. -/
structure Counted (counts : Counts) (root changed : Json) : Prop where
  shards : changed.at? ["settings", shardsKey] = some (Json.ofNat counts.shards.toNat)
  replicas : changed.at? ["settings", replicasKey] = some (Json.ofNat counts.replicas.toNat)
  elsewhere : ∀ path, ¬path <+: ["settings"] → ¬["settings", shardsKey] <+: path →
    ¬["settings", replicasKey] <+: path → changed.at? path = root.at? path

theorem lookup_countsFields {key : String} (hshards : key ≠ shardsKey)
    (hreplicas : key ≠ replicasKey) :
    (countsFields counts settings).lookup key = settings.lookup key := by
  rw [countsFields, Entries.lookup_insert_of_ne hshards, Entries.lookup_insert_of_ne hreplicas]

theorem field?_merged_of_ne {key : String} (hne : key ≠ "settings") :
    (merged fields settings counts).field? key = (Json.object fields).field? key :=
  Entries.lookup_insert_of_ne hne _ fields

theorem field?_merged_settings :
    (merged fields settings counts).field? "settings" =
      some (.object (countsFields counts settings)) :=
  Entries.lookup_insert_self ..

/-- Of what stood in the settings nothing but the counts is replaced. -/
theorem at?_merged_setting (h : SettingsOf fields settings) {key : String}
    (hshards : key ≠ shardsKey) (hreplicas : key ≠ replicasKey) (path : List String) :
    (merged fields settings counts).at? ("settings" :: key :: path) =
      (Json.object fields).at? ("settings" :: key :: path) := by
  have hfields : (Json.object fields).field? "settings" = fields.lookup "settings" := rfl
  simp only [Json.at?, field?_merged_settings, hfields, Option.bind_some]
  rcases h with hsome | ⟨hnone, rfl⟩
  · rw [hsome, Option.bind_some]
    simp only [Json.field?, Json.fields?, Option.bind_some, lookup_countsFields hshards hreplicas]
  · rw [hnone, Option.bind_none]
    simp only [Json.field?, Json.fields?, Option.bind_some, lookup_countsFields hshards hreplicas]
    rfl

theorem counted_merged (h : SettingsOf fields settings) (counts : Counts) :
    Counted counts (.object fields) (merged fields settings counts) where
  shards := shards_at_merged fields settings counts
  replicas := replicas_at_merged fields settings counts
  elsewhere path houter hshards hreplicas := by
    cases path with
    | nil => exact absurd List.nil_prefix houter
    | cons first path =>
        by_cases hfirst : first = "settings"
        · subst hfirst
          cases path with
          | nil => exact absurd List.prefix_rfl houter
          | cons key path =>
              refine at?_merged_setting h ?_ ?_ path
              · rintro rfl
                exact hshards (List.prefix_append [_, _] path)
              · rintro rfl
                exact hreplicas (List.prefix_append [_, _] path)
        · simp only [Json.at?, field?_merged_of_ne hfirst]

/-! ## Reading a body with counts -/

theorem whole_ofNat (n : Nat) : (Json.ofNat n).Whole :=
  ⟨n, rfl⟩

theorem whole_merged (hfields : (Json.object fields).Whole) (h : SettingsOf fields settings)
    (counts : Counts) : (merged fields settings counts).Whole := by
  have hsettings : (Json.object settings).Whole := by
    rcases h with hsome | ⟨-, rfl⟩
    · exact Json.allNumbers_object.mp hfields _ (Entries.mem_of_lookup hsome)
    · exact trivial
  have hreplicas := Json.allNumbers_insert hsettings (whole_ofNat counts.replicas.toNat) replicasKey
  have hshards := Json.allNumbers_insert hreplicas (whole_ofNat counts.shards.toNat) shardsKey
  exact Json.allNumbers_insert hfields hshards "settings"

/-- Two levels are enough for counts, so no body gets too deep by them. -/
theorem depth_merged_le {limit : Nat} (hfields : (Json.object fields).depth ≤ limit)
    (h : SettingsOf fields settings) (hlimit : 2 ≤ limit) (counts : Counts) :
    (merged fields settings counts).depth ≤ limit := by
  simp only [Json.depth] at hfields
  have hsettings : Json.depthFields settings ≤ limit - 2 := by
    rcases h with hsome | ⟨-, rfl⟩
    · have hinner := Json.depth_le_of_mem_fields (Entries.mem_of_lookup hsome)
      simp only [Json.depth] at hinner
      omega
    · exact Nat.zero_le _
  have hcounts : Json.depthFields (countsFields counts settings) ≤ limit - 2 :=
    Json.depthFields_insert_le
      (Json.depthFields_insert_le hsettings (Nat.zero_le _) replicasKey) (Nat.zero_le _) shardsKey
  have hinner : (Json.object (countsFields counts settings)).depth ≤ limit - 1 := by
    simp only [Json.depth]
    omega
  have houter : Json.depthFields (Entries.insert "settings"
      (.object (countsFields counts settings)) fields) ≤ limit - 1 :=
    Json.depthFields_insert_le (by omega) hinner "settings"
  simp only [merged, Json.depth]
  omega

section

variable (hparse : Json.parse body = .ok (.object fields)) (h : SettingsOf fields settings)
  (hwhole : (Json.object fields).Whole) (counts : Counts)

include hparse h hwhole

theorem parse_merged :
    Json.parse (merged fields settings counts).compact = .ok (merged fields settings counts) := by
  have hfields := Json.wellFormed_of_parse hparse
  refine Json.parse_compact (wellFormed_merged hfields (wellFormed_settings hfields h) counts)
    (whole_merged hwhole h counts) ?_
  exact depth_merged_le (Json.depth_of_parse hparse) h (by decide) counts

/-- Counts that are there already change no text. -/
theorem mergeCounts_again :
    mergeCounts (merged fields settings counts).compact counts =
      .ok (merged fields settings counts).compact := by
  have hfields := Json.wellFormed_of_parse hparse
  have hordered := (Json.wellFormed_object.mp (wellFormed_settings hfields h)).1
  have hne : replicasKey ≠ shardsKey := by decide
  have hreplicas : (countsFields counts settings).lookup replicasKey =
      some (Json.ofNat counts.replicas.toNat) := by
    rw [countsFields, Entries.lookup_insert_of_ne hne, Entries.lookup_insert_self]
  have hcounts : Entries.Ordered (countsFields counts settings) :=
    Entries.ordered_insert (Entries.ordered_insert hordered)
  have hsettled : countsFields counts (countsFields counts settings) =
      countsFields counts settings := by
    rw [countsFields, Entries.insert_eq_self hcounts hreplicas]
    exact Entries.insert_eq_self hcounts (Entries.lookup_insert_self ..)
  have hagain := mergeCounts_of_settings (parse_merged hparse h hwhole counts)
    (.inl field?_merged_settings) counts
  rw [hagain, merged, hsettled, Entries.insert_eq_self
    (Entries.ordered_insert (Json.wellFormed_object.mp hfields).1) (Entries.lookup_insert_self ..)]
  rfl

end

end Model

/-! ## Objects -/

namespace DesiredObject

theorem counts?_eq_none_iff {object : DesiredObject} :
    object.counts? = none ↔ object.kind = .pipeline := by
  cases object <;> simp [counts?, kind]

@[simp] theorem withModel_withModel (object : DesiredObject) (model other : String) :
    (object.withModel model).withModel other = object.withModel other := by
  cases object <;> rfl

end DesiredObject

namespace Admission

variable {object wanted : DesiredObject}

theorem exists_map_eq_ok_iff {ε α β : Type} {result : Except ε α} {f : α → β} :
    (∃ b, result.map f = .ok b) ↔ ∃ a, result = .ok a := by
  cases result <;> simp [Except.map]

/-- The models that can be defaulted. -/
theorem defaultModel_succeeds_iff :
    (∃ wanted, defaultModel object = .ok wanted) ↔
      ∃ root, Json.parse object.model = .ok root ∧
        (object.kind ≠ .pipeline → Model.TakesCounts root) := by
  rw [defaultModel_eq, exists_map_eq_ok_iff, ne_eq, ← DesiredObject.counts?_eq_none_iff,
    defaultedModel]
  cases object.counts? with
  | none => simp [Model.compact_eq_ok_iff]
  | some counts => simp [Model.mergeCounts_succeeds_iff]

/-- The object at hand after an attempt to default it in its place. -/
def afterDefaulting (object : DesiredObject) : DesiredObject :=
  (defaultInPlace.run.run object).2

theorem afterDefaulting_of_error {reason : ModelError} (h : defaultModel object = .error reason) :
    afterDefaulting object = object := by
  rw [defaultModel_eq] at h
  rw [afterDefaulting, defaultInPlace_run]
  cases hmodel : defaultedModel object with
  | error e => rfl
  | ok model =>
      rw [hmodel] at h
      cases h

theorem afterDefaulting_of_ok (h : defaultModel object = .ok wanted) :
    afterDefaulting object = wanted := by
  rw [defaultModel_eq] at h
  rw [afterDefaulting, defaultInPlace_run]
  cases hmodel : defaultedModel object with
  | error e =>
      rw [hmodel] at h
      cases h
  | ok model =>
      rw [hmodel] at h
      exact Except.ok.inj h

/-- What is the same after an object was defaulted whose model is a document. -/
structure Defaulted (object wanted : DesiredObject) (root : Json) : Prop where
  onlyModel : wanted = object.withModel wanted.model
  document : ∃ changed, Json.parse wanted.model = .ok changed ∧
    (object.kind = .pipeline → changed = root) ∧
    ∀ counts, object.counts? = some counts → Model.Counted counts root changed
  counts : ∀ counts, object.counts? = some counts →
    Model.shards wanted.model = .ok counts.shards ∧
      Model.replicas wanted.model = .ok counts.replicas
  properties : Model.properties wanted.model = Model.properties object.model
  wrapping : Model.typeWrapping wanted.model = Model.typeWrapping object.model
  again : defaultModel wanted = .ok wanted

theorem defaulted_of_compact (hcounts : object.counts? = none) {root : Json}
    (hparse : Json.parse object.model = .ok root) (hwhole : root.Whole) :
    Defaulted object (object.withModel root.compact) root := by
  have hback := Json.parse_compact (Json.wellFormed_of_parse hparse) hwhole
    (Json.depth_of_parse hparse)
  have hmapping := Model.mapping_congr hparse hback rfl
  have hagain : Model.compact root.compact = .ok root.compact :=
    Model.compact_eq_ok_iff.mpr ⟨root, hback, rfl⟩
  exact {
    onlyModel := by simp
    document := ⟨root, by simpa using hback, fun _ => rfl, by simp [hcounts]⟩
    counts := by simp [hcounts]
    properties := by simpa using hmapping.1
    wrapping := by simpa using hmapping.2
    again := by simp [defaultModel_eq, defaultedModel, hcounts, hagain, Except.map] }

theorem defaulted_of_merged {counts : Counts} (hcounts : object.counts? = some counts)
    {fields settings : List (String × Json)} (hparse : Json.parse object.model = .ok (.object fields))
    (hsettings : Model.SettingsOf fields settings) (hwhole : (Json.object fields).Whole) :
    Defaulted object (object.withModel (Model.merged fields settings counts).compact)
      (.object fields) := by
  have hback := Model.parse_merged hparse hsettings hwhole counts
  have hmapping := Model.mapping_congr hparse hback (Model.field?_merged_of_ne (by decide))
  have hmerge := Model.mergeCounts_of_settings hparse hsettings counts
  have hagain := Model.mergeCounts_again hparse hsettings hwhole counts
  exact {
    onlyModel := by simp
    document := by
      refine ⟨_, by simpa using hback, fun hkind => ?_, fun other hother => ?_⟩
      · rw [DesiredObject.counts?_eq_none_iff.mpr hkind] at hcounts
        cases hcounts
      · obtain rfl := Option.some.inj (hcounts.symm.trans hother)
        exact Model.counted_merged hsettings counts
    counts := fun other hother => by
      obtain rfl := Option.some.inj (hcounts.symm.trans hother)
      simpa using Model.counts_of_mergeCounts hmerge hback
    properties := by simpa using hmapping.1
    wrapping := by simpa using hmapping.2
    again := by simp [defaultModel_eq, defaultedModel, hcounts, hagain, Except.map] }

theorem defaulted_of_whole (h : defaultModel object = .ok wanted) {root : Json}
    (hparse : Json.parse object.model = .ok root) (hwhole : root.Whole) :
    Defaulted object wanted root := by
  rw [defaultModel_eq, defaultedModel] at h
  cases hcounts : object.counts? with
  | none =>
      have hcompact : Model.compact object.model = .ok root.compact :=
        Model.compact_eq_ok_iff.mpr ⟨root, hparse, rfl⟩
      rw [hcounts, hcompact] at h
      obtain rfl := Except.ok.inj h
      exact defaulted_of_compact hcounts hparse hwhole
  | some counts =>
      rw [hcounts] at h
      obtain ⟨found, hfound, htakes⟩ :=
        Model.mergeCounts_succeeds_iff.mp (exists_map_eq_ok_iff.mp ⟨wanted, h⟩)
      obtain rfl := Except.ok.inj (hparse.symm.trans hfound)
      obtain ⟨fields, settings, rfl, hsettings⟩ := Model.takesCounts_iff.mp htakes
      dsimp only at h
      rw [Model.mergeCounts_of_settings hparse hsettings counts] at h
      obtain rfl := Except.ok.inj h
      exact defaulted_of_merged hcounts hparse hsettings hwhole

/--
A model can be defaulted exactly when it is JSON and, if the object has counts, can
take them; an object that cannot be defaulted is left alone.  A model of whole
numbers is afterwards the same document with the counts of the object.
-/
theorem defaulting_changes_counts (object : DesiredObject) :
    ((∃ wanted, defaultModel object = .ok wanted) ↔
      ∃ root, Json.parse object.model = .ok root ∧
        (object.kind ≠ .pipeline → Model.TakesCounts root)) ∧
    (∀ reason, defaultModel object = .error reason → afterDefaulting object = object) ∧
    (∀ wanted, defaultModel object = .ok wanted → afterDefaulting object = wanted) ∧
    ∀ wanted root, defaultModel object = .ok wanted → Json.parse object.model = .ok root →
      root.Whole → Defaulted object wanted root := by
  exact ⟨defaultModel_succeeds_iff, fun _ h => afterDefaulting_of_error h,
    fun _ h => afterDefaulting_of_ok h, fun _ _ h hparse => defaulted_of_whole h hparse⟩

/-- A typed mapping beside settings that name one count twice, as a text and as null. -/
def typedOrders : DesiredObject :=
  .index ⟨"orders", "main", ⟨3, 2⟩,
    "\x7b \"settings\": \x7b\"number_of_shards\": \" +7 \", \"sort\": [1, \x7b\"by\": null\x7d], " ++
      "\"number_of_shards\": null\x7d, \"mappings\": \x7b\"_doc\": \x7b\"properties\": " ++
      "\x7b\"id\": \x7b\"type\": \"keyword\"\x7d\x7d\x7d\x7d \x7d"⟩

def typedOrdersModel : String :=
  "\x7b\"mappings\":\x7b\"_doc\":\x7b\"properties\":\x7b\"id\":\x7b\"type\":\"keyword\"\x7d\x7d\x7d\x7d," ++
    "\"settings\":\x7b\"number_of_replicas\":2,\"number_of_shards\":3," ++
    "\"sort\":[1,\x7b\"by\":null\x7d]\x7d\x7d"

def typedOrdersRoot : Json :=
  .object [
    ("mappings", .object [("_doc",
      Model.mappingTree (.object [("id", .object [("type", .string "keyword")])]))]),
    ("settings", .object [(Model.shardsKey, .null),
      ("sort", .array [.ofNat 1, .object [("by", .null)]])])]

theorem whole_typedOrdersRoot : typedOrdersRoot.Whole := by
  simp [typedOrdersRoot, Json.Whole, Json.AllNumbers, Json.AllNumbersFields, Json.AllNumbersItems,
    Model.mappingTree, Json.ofNat]

def nullSettings : DesiredObject :=
  .index ⟨"orders", "main", ⟨3, 2⟩, "\x7b\"settings\":null\x7d"⟩

/-- The counts find their place among settings, and settings that are null are left alone. -/
theorem typedOrders_defaulted :
    typedOrdersRoot.Whole ∧
      Defaulted typedOrders (typedOrders.withModel typedOrdersModel) typedOrdersRoot ∧
      defaultModel nullSettings = .error (.shape .settingsNotObject) ∧
      afterDefaulting nullSettings = nullSettings := by
  have hdefault : defaultModel typedOrders = .ok (typedOrders.withModel typedOrdersModel) := by
    decide +kernel
  have hparse : Json.parse typedOrders.model = .ok typedOrdersRoot := by decide +kernel
  have hrefused : defaultModel nullSettings = .error (.shape .settingsNotObject) := by
    decide +kernel
  exact ⟨whole_typedOrdersRoot,
    (defaulting_changes_counts typedOrders).2.2.2 _ _ hdefault hparse whole_typedOrdersRoot,
    hrefused, (defaulting_changes_counts nullSettings).2.1 _ hrefused⟩

end Admission

end SchemaKeeper
