import Schemata.Proofs.Agreement
import Schemata.Proofs.Closure
import Schemata.Proofs.Resolution
/-!
# What a traversal refers to

A relationship is resolved to the first entity of the name at its end, and the path of a traversal
has the table of that entity.  The response refers to a schema by name alone, and both documents
keep under a name what was made of its last bearer.

* `describes_last`: the entity that the documents describe under a name is the last one of the name.
* `linkItem_reference`: what the response of a traversal refers to.
* `link_describes_last`: a traversal whose path has the table of the first bearer refers to the
  schema of the last one.  They are one where the name has no other bearer.
-/

namespace Schemata

/-! ## 1. The entity under a name -/

/-- Both documents have under a name what is made of an entity. -/
structure Describes (schema api : Value) (stamp name : String) (e : Entity) : Prop where
  definition : schema.at? ["definitions", name] = some (JsonSchema.definition e)
  component : api.at? ["openApiSpec", "components", "schemas", name]
    = some (OpenApi.componentSchema e stamp)

/-- A definition tells the table of its entity. -/
theorem definition_tableName (e : Entity) :
    (JsonSchema.definition e).at? ["metadata", "tableName"] = some (.str e.tableName) := by
  simp [JsonSchema.definition, Value.at?, Value.get?_obj, List.lookup_cons]

/-- Definitions of entities with different tables differ. -/
theorem tableName_eq_of_definition_eq {e e' : Entity}
    (h : JsonSchema.definition e = JsonSchema.definition e') : e.tableName = e'.tableName := by
  have htables := congrArg (Value.at? ["metadata", "tableName"]) h
  rw [definition_tableName, definition_tableName] at htables
  simpa using htables

section Documents

variable {config : Config} {clock : Clock} {m : Model} {schema api : Value}

/-- **The last bearer of a name is the one that is described.** -/
theorem describes_last (hs : JsonSchema.document config clock m = .ok schema)
    (ha : OpenApi.generate config clock m = .ok api) {name : String}
    (hname : name ∈ m.entityNames) :
    ∃ stamp last, clock.stamp = .ok stamp ∧ last ∈ m.entities ∧ last.name = name ∧
      m.lastNamed? name = some last ∧ Describes schema api stamp name last := by
  obtain ⟨stamp, spec, hstamp, hd⟩ := OpenApi.exists_description ha
  obtain ⟨last, hmem, hlastName, hlast⟩ := Model.lastNamed?_of_mem hname
  refine ⟨stamp, last, hstamp, hmem, hlastName, hlast, ?_, ?_⟩
  · have hcut : ["definitions", name] = ["definitions"] ++ [name] := rfl
    rw [hcut, Value.at?_append, definitions_at? hs, Option.bind_some, Value.at?_cons,
      Value.get?_obj, JsonSchema.definitions, lookup_ofList_entities, hlast]
    rfl
  · have hcut : ["components", "schemas", name] = ["components", "schemas"] ++ [name] := rfl
    rw [hd.at?_spec, hcut, Value.at?_append, hd.schemasAt, Option.bind_some, Value.at?_cons,
      Value.get?_obj, OpenApi.schemas, lookup_ofList_entities, hlast]
    rfl

/-- What is described under a name is described of an entity exactly if the same is made of it. -/
theorem Describes.iff_same {stamp name : String} {last e : Entity}
    (h : Describes schema api stamp name last) :
    Describes schema api stamp name e ↔
      JsonSchema.definition last = JsonSchema.definition e ∧
        OpenApi.componentSchema last stamp = OpenApi.componentSchema e stamp := by
  constructor
  · rintro ⟨hdefinition, hcomponent⟩
    rw [h.definition] at hdefinition
    rw [h.component] at hcomponent
    exact ⟨Option.some.inj hdefinition, Option.some.inj hcomponent⟩
  · rintro ⟨hdefinition, hcomponent⟩
    exact ⟨hdefinition ▸ h.definition, hcomponent ▸ h.component⟩

end Documents

/-! ## 2. What a traversal refers to -/

/-- Where an item of a path has the reference of its response, if it lists records. -/
def listedRecord : List String :=
  ["get", "responses", "200", "content", "application/json", "schema", "items", "$ref"]

/-- The response of a traversal refers to the name at the end of its relationship. -/
theorem linkItem_reference (l : Model.Link) :
    (linkItem l).at? listedRecord = some (.str (reference "schemas" l.relationship.target)) := by
  simp [listedRecord, linkItem, OpenApi.linkOperation, OpenApi.response, OpenApi.jsonContent,
    OpenApi.schemaRef, reference, Value.at?, Value.get?_obj, List.lookup_cons]

section Links

variable {config : Config} {clock : Clock} {m : Model} {schema api : Value}

/-- A document that has a traversal has its reference. -/
theorem traversal_reference {l : Model.Link} {path : String}
    (h : api.at? ["openApiSpec", "paths", path] = some (linkItem l)) :
    api.at? (["openApiSpec", "paths", path] ++ listedRecord)
      = some (.str (reference "schemas" l.relationship.target)) := by
  rw [Value.at?_append, h, Option.bind_some, linkItem_reference]

/-- **Which entity a traversal refers to.**  A relationship is resolved to the first entity of the
name at its end, and wherever its traversal stands in the interface description, the response refers
to that name.  Both documents have under it what is made of the last entity of the name.  They
describe the first one exactly if the same is made of both: so they do if no other entity has the
name, and they do not if the tables differ. -/
theorem link_describes_last {raw : Value} (hm : Model.normalize raw = .ok m)
    (hs : JsonSchema.document config clock m = .ok schema)
    (ha : OpenApi.generate config clock m = .ok api) {l : Model.Link} (hl : l ∈ m.resolved) :
    ∃ stamp last, clock.stamp = .ok stamp ∧
      (m.entities.find? fun e => e.name = l.relationship.target) = some l.target ∧
      m.lastNamed? l.relationship.target = some last ∧
      (∀ path, api.at? ["openApiSpec", "paths", path] = some (linkItem l) →
        api.at? (["openApiSpec", "paths", path] ++ listedRecord)
          = some (.str (reference "schemas" l.relationship.target))) ∧
      Describes schema api stamp l.relationship.target last ∧
      (Describes schema api stamp l.relationship.target l.target ↔
        JsonSchema.definition last = JsonSchema.definition l.target ∧
          OpenApi.componentSchema last stamp = OpenApi.componentSchema l.target stamp) ∧
      ((∀ e ∈ m.entities, e.name = l.relationship.target → e = l.target) →
        Describes schema api stamp l.relationship.target l.target) ∧
      (last.tableName ≠ l.target.tableName →
        ¬ Describes schema api stamp l.relationship.target l.target) := by
  have hindexed := Model.isIndexed_of_normalize hm
  obtain ⟨htarget, htargetName⟩ := Model.target_mem hindexed hl
  have hname : l.relationship.target ∈ m.entityNames :=
    List.mem_map.mpr ⟨l.target, htarget, htargetName⟩
  obtain ⟨stamp, last, hstamp, hmem, hlastName, hlast, hdescribes⟩ := describes_last hs ha hname
  have hfirst := (Model.mem_resolved.mp hl).2.2
  rw [Model.entity?_of_isIndexed hindexed] at hfirst
  refine ⟨stamp, last, hstamp, hfirst, hlast, fun _ => traversal_reference, hdescribes,
    hdescribes.iff_same, fun honly => ?_, fun htables h => ?_⟩
  · rw [← honly last hmem hlastName]
    exact hdescribes
  · exact htables (tableName_eq_of_definition_eq (hdescribes.iff_same.mp h).1)

end Links

/-! ## 3. A user beside another entity -/

/-- A user related to users, before an entity of a name with a table and a field of its own. -/
def userBefore (name : String) : Value :=
  .obj [("entities", .list
      [.obj [("name", .str "user"), ("tableName", .str "users"), ("fields", .list [])],
        .obj [("name", .str name), ("tableName", .str "people"),
          ("fields", .list [.obj [("name", .str "age"), ("type", .str "int")]])]]),
    ("relationships", .list [.obj [("from", .str "user"), ("to", .str "user")]])]

/-- The primary key that is made up for an entity. -/
def madeUpKey : Field where
  name := "id"
  type := "number"
  required := true
  description := some "Unique identifier"
  constraints := some (.ofEntries
    [(.str "primary", .bool true), (.str "autoIncrement", .bool true)])

/-- The user of `userBefore`. -/
def userEntity : Entity := ⟨"user", "users", some "", [madeUpKey]⟩

/-- The other entity of `userBefore`. -/
def agedEntity (name : String) : Entity :=
  ⟨name, "people", some "", [madeUpKey, ⟨"age", "int", false, none, none⟩]⟩

/-- The relationship of `userBefore`. -/
def userToUser : Relationship :=
  ⟨"user", "user", none, none, [("from", .str "user"), ("to", .str "user")]⟩

/-- The normal form of `userBefore`. -/
def userModel (name : String) : Model := .of [userEntity, agedEntity name] [userToUser]

theorem normalize_userBefore :
    Model.normalize (userBefore "person") = .ok (userModel "person") ∧
      Model.normalize (userBefore "user") = .ok (userModel "user") :=
  ⟨rfl, rfl⟩

/-- Beside an entity of another name the user is what its traversal refers to. -/
theorem link_describes_last_person :
    ∃ m schema api stamp, Model.normalize (userBefore "person") = .ok m ∧
      m.resolved = [⟨userToUser, userEntity, userEntity⟩] ∧
      JsonSchema.document {} .standard m = .ok schema ∧
      OpenApi.generate {} .standard m = .ok api ∧
      api.at? (["openApiSpec", "paths", "/users/\x7bid\x7d/users"] ++ listedRecord)
        = some (.str "#/components/schemas/user") ∧
      Clock.standard.stamp = .ok stamp ∧ Describes schema api stamp "user" userEntity := by
  have hm := normalize_userBefore.1
  have hresolved : (userModel "person").resolved = [⟨userToUser, userEntity, userEntity⟩] := rfl
  obtain ⟨schema, hs⟩ : ∃ schema,
      JsonSchema.document {} .standard (userModel "person") = .ok schema := ⟨_, rfl⟩
  have ha : (OpenApi.generate {} .standard (userModel "person")).toBool = true := by decide +kernel
  obtain ⟨api, ha⟩ := toBool_eq_true.mp ha
  obtain ⟨stamp, last, hstamp, -, -, hreference, -, -, honly, -⟩ :=
    link_describes_last hm hs ha (hresolved ▸ List.mem_singleton.mpr rfl)
  refine ⟨_, schema, api, stamp, hm, hresolved, hs, ha, hreference "/users/\x7bid\x7d/users" ?_,
    hstamp, honly ?_⟩
  · obtain ⟨_, spec, -, hd⟩ := OpenApi.exists_description ha
    rw [hd.at?_path]
    rfl
  · intro e he hname
    simp only [userModel, Model.of, List.mem_cons, List.not_mem_nil, or_false] at he
    rcases he with rfl | rfl
    · rfl
    · exact absurd hname (by decide)

/-- Before another entity of its name the user has the table in the path, and the other one is what
the traversal refers to. -/
theorem link_describes_last_namesake :
    ∃ m schema api stamp, Model.normalize (userBefore "user") = .ok m ∧
      m.resolved = [⟨userToUser, userEntity, userEntity⟩] ∧
      JsonSchema.document {} .standard m = .ok schema ∧
      OpenApi.generate {} .standard m = .ok api ∧
      api.at? ["openApiSpec", "paths", "/users/\x7bid\x7d/users"]
        = some (linkItem ⟨userToUser, userEntity, userEntity⟩) ∧
      Clock.standard.stamp = .ok stamp ∧
      schema.at? ["definitions", "user"] ≠ some (JsonSchema.definition userEntity) ∧
      api.at? ["openApiSpec", "components", "schemas", "user"]
        ≠ some (OpenApi.componentSchema userEntity stamp) ∧
      Describes schema api stamp "user" (agedEntity "user") := by
  obtain ⟨schema, hs⟩ : ∃ schema,
      JsonSchema.document {} .standard (userModel "user") = .ok schema := ⟨_, rfl⟩
  have ha : (OpenApi.generate {} .standard (userModel "user")).toBool = true := by decide +kernel
  obtain ⟨api, ha⟩ := toBool_eq_true.mp ha
  have hname : "user" ∈ (userModel "user").entityNames := by decide
  obtain ⟨stamp, last, hstamp, -, -, hlast, hdescribes⟩ := describes_last hs ha hname
  obtain rfl : agedEntity "user" = last := Option.some.inj hlast
  refine ⟨_, schema, api, stamp, normalize_userBefore.2, rfl, hs, ha, ?_, hstamp, ?_, ?_,
    hdescribes⟩
  · obtain ⟨_, spec, -, hd⟩ := OpenApi.exists_description ha
    rw [hd.at?_path]
    rfl
  · rw [hdescribes.definition]
    intro h
    exact absurd (tableName_eq_of_definition_eq (Option.some.inj h)) (by decide)
  · rw [hdescribes.component]
    intro h
    have hkeys := congrArg (Value.keysAt? ["properties"]) (Option.some.inj h)
    rw [(describeAlike _ stamp).componentProperties, (describeAlike _ stamp).componentProperties]
      at hkeys
    exact absurd hkeys (by decide)

end Schemata
