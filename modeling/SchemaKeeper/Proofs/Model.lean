import SchemaKeeper.Model.Shape
import SchemaKeeper.Proofs.Counts
import SchemaKeeper.Proofs.Json.RoundTrip

/-!
# What is read out of bodies

The counts that were merged into a body are the counts that are read out of it,
whatever else the body holds.  The mapping tree of a body is a well-formed document.
-/

namespace SchemaKeeper

namespace Model

/-! ## Merged counts -/

/-- The settings of a body; where there are none they are empty. -/
def SettingsOf (fields settings : List (String × Json)) : Prop :=
  fields.lookup "settings" = some (.object settings) ∨
    fields.lookup "settings" = none ∧ settings = []

def merged (fields settings : List (String × Json)) (counts : Counts) : Json :=
  .object (Entries.insert "settings" (.object (countsFields counts settings)) fields)

theorem parseObject_eq_ok {body : String} {fields : List (String × Json)}
    (h : parseObject body = .ok fields) : Json.parse body = .ok (.object fields) := by
  unfold parseObject parse at h
  cases hparse : Json.parse body with
  | error e => simp [hparse, Except.mapError, bind, Except.bind] at h
  | ok v =>
      rw [hparse] at h
      cases v with
      | object found =>
          simp only [Except.mapError, bind, Except.bind, pure, Except.pure, Except.ok.injEq] at h
          rw [h]
      | null | bool | number | string | array =>
          simp [Except.mapError, bind, Except.bind, throw, throwThe, MonadExceptOf.throw] at h

theorem exists_parse_of_checkShape {kind : Kind} {body : String}
    (h : checkShape kind body = .ok ()) : ∃ fields, Json.parse body = .ok (.object fields) := by
  unfold checkShape at h
  cases hparse : Json.parse body with
  | error e => simp [hparse] at h
  | ok v =>
      cases v with
      | object fields => exact ⟨fields, rfl⟩
      | null | bool | number | string | array => simp [hparse] at h

theorem mergeCounts_eq_ok {body text : String} {counts : Counts}
    (h : mergeCounts body counts = .ok text) :
    ∃ fields settings, Json.parse body = .ok (.object fields) ∧
      SettingsOf fields settings ∧ text = (merged fields settings counts).compact := by
  unfold mergeCounts at h
  cases hfields : parseObject body with
  | error e => simp [hfields, bind, Except.bind] at h
  | ok fields =>
      have hparse := parseObject_eq_ok hfields
      simp only [hfields, bind, Except.bind] at h
      cases hsettings : fields.lookup "settings" with
      | none =>
          simp only [hsettings, pure, Except.pure, Except.ok.injEq] at h
          exact ⟨fields, [], hparse, .inr ⟨hsettings, rfl⟩, h.symm⟩
      | some found =>
          rw [hsettings] at h
          cases found with
          | object settings =>
              simp only [pure, Except.pure, Except.ok.injEq] at h
              exact ⟨fields, settings, hparse, .inl hsettings, h.symm⟩
          | null | bool | number | string | array =>
              simp [throw, throwThe, MonadExceptOf.throw] at h

theorem wellFormed_ofNat {n : Nat} (h : n < countBound) : (Json.ofNat n).wellFormed := by
  simp only [countBound] at h
  change Number.leastInteger ≤ (n : Int) ∧ (n : Int) < Number.integerBound
  simp only [Number.leastInteger, Number.integerBound]
  omega

theorem wellFormed_settings {fields settings : List (String × Json)}
    (hfields : (Json.object fields).wellFormed)
    (h : SettingsOf fields settings) : (Json.object settings).wellFormed := by
  rcases h with hsome | ⟨-, rfl⟩
  · exact Json.wellFormed_of_lookup hfields hsome
  · exact Json.wellFormed_object.mpr ⟨.nil, by simp⟩

theorem wellFormed_merged {fields settings : List (String × Json)}
    (hfields : (Json.object fields).wellFormed) (hsettings : (Json.object settings).wellFormed)
    (counts : Counts) : (merged fields settings counts).wellFormed := by
  have hreplicas := Json.wellFormed_insert hsettings
    (wellFormed_ofNat counts.replicas.toNat_lt) replicasKey
  have hshards := Json.wellFormed_insert hreplicas
    (wellFormed_ofNat counts.shards.toNat_lt) shardsKey
  exact Json.wellFormed_insert hfields hshards "settings"

theorem shards_at_merged (fields settings : List (String × Json)) (counts : Counts) :
    (merged fields settings counts).at? ["settings", shardsKey] =
      some (Json.ofNat counts.shards.toNat) := by
  simp [merged, countsFields, Json.at?, Json.field?, Json.fields?, Entries.lookup_insert_self]

theorem replicas_at_merged (fields settings : List (String × Json)) (counts : Counts) :
    (merged fields settings counts).at? ["settings", replicasKey] =
      some (Json.ofNat counts.replicas.toNat) := by
  have hne : replicasKey ≠ shardsKey := by decide
  simp [merged, countsFields, Json.at?, Json.field?, Json.fields?, Entries.lookup_insert_self,
    Entries.lookup_insert_of_ne hne]

/-- Counts that were merged into a body are read out of it, if it is read at all. -/
theorem counts_of_mergeCounts {body text : String} {counts : Counts} {root : Json}
    (h : mergeCounts body counts = .ok text) (hroot : Json.parse text = .ok root) :
    shards text = .ok counts.shards ∧ replicas text = .ok counts.replicas := by
  obtain ⟨fields, settings, hparse, hsettings, rfl⟩ := mergeCounts_eq_ok h
  have hfields := Json.wellFormed_of_parse hparse
  have hinner := wellFormed_settings hfields hsettings
  have hblurred :=
    Json.blurred_of_parse_compact (wellFormed_merged hfields hinner counts) hroot
  have hshards := Json.at?_eq_integer_of_blurred hblurred (shards_at_merged fields settings counts)
  have hreplicas :=
    Json.at?_eq_integer_of_blurred hblurred (replicas_at_merged fields settings counts)
  constructor
  · rw [shards_of_parse hroot, countAt_of_spells hshards (.number _)]
  · rw [replicas_of_parse hroot, countAt_of_spells hreplicas (.number _)]

/-! ## Mapping trees -/

theorem wellFormed_mappingTree {properties : Json} (h : properties.wellFormed) :
    (mappingTree properties).wellFormed :=
  Json.wellFormed_object.mpr ⟨List.pairwise_singleton .., by simpa using h⟩

theorem wellFormed_of_field? {v value : Json} (h : v.wellFormed) {key : String}
    (hfield : v.field? key = some value) : value.wellFormed := by
  cases v with
  | object fields => exact Json.wellFormed_of_lookup h hfield
  | null | bool | number | string | array => simp [Json.field?, Json.fields?] at hfield

theorem mappingFields_eq_some {root : Json} {fields : List (String × Json)}
    (h : mappingFields root = some fields) : root.field? "mappings" = some (.object fields) := by
  unfold mappingFields at h
  cases hfound : root.field? "mappings" with
  | none => simp [hfound] at h
  | some found =>
      rw [hfound] at h
      cases found with
      | object inner =>
          cases inner with
          | nil => simp [Json.fields?] at h
          | cons field inner =>
              simp only [Option.bind_some, Json.fields?, Option.some.injEq] at h
              rw [h]
      | null | bool | number | string | array => simp [Json.fields?] at h

/-- What a body says of its mapping is read out of its mapping alone. -/
theorem mapping_congr {body text : String} {root changed : Json}
    (hbody : Json.parse body = .ok root) (htext : Json.parse text = .ok changed)
    (h : changed.field? "mappings" = root.field? "mappings") :
    properties text = properties body ∧ typeWrapping text = typeWrapping body := by
  have hfields : mappingFields changed = mappingFields root := by
    rw [mappingFields, mappingFields, h]
  constructor
  · simp only [properties, hbody, htext, Except.toOption, bind, Option.bind_some, hfields]
  · simp only [typeWrapping, hbody, htext, hfields]

theorem wellFormed_of_properties {body : String} {tree : Json}
    (h : properties body = some tree) : tree.wellFormed := by
  unfold properties at h
  cases hparse : Json.parse body with
  | error e => simp [hparse, Except.toOption] at h
  | ok root =>
      have hroot := Json.wellFormed_of_parse hparse
      cases hfields : mappingFields root with
      | none => simp [hparse, hfields, Except.toOption] at h
      | some fields =>
          have hmapping := wellFormed_of_field? hroot (mappingFields_eq_some hfields)
          simp only [hparse, hfields, Except.toOption, Option.bind_some, bind] at h
          cases hdirect : fields.lookup "properties" with
          | some found =>
              simp only [hdirect, pure, Option.some.injEq] at h
              exact h ▸ wellFormed_mappingTree (Json.wellFormed_of_lookup hmapping hdirect)
          | none =>
              simp only [hdirect, Option.bind_eq_some_iff, pure, Option.some.injEq] at h
              obtain ⟨found, hfound, rfl⟩ := h
              obtain ⟨⟨name, type⟩, hmem, htype⟩ := List.exists_of_findSome?_eq_some hfound
              have hinner := (Json.wellFormed_object.mp hmapping).2 _ hmem
              exact wellFormed_mappingTree (wellFormed_of_field? hinner htype)

end Model

end SchemaKeeper
