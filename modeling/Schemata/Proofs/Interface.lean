import Schemata.OpenApi.Document
import Schemata.Proofs.Document
import Schemata.Proofs.Outcome
/-!
# The description of the interface, section by section

* `generate_eq_ok`: what a description is made of, once it is there.
* `Description`: the same, as the sections that statements about descriptions look at.
-/

namespace Schemata.OpenApi

/-- What a description is made of, once it is there. -/
theorem generate_eq_ok {config : Config} {clock : Clock} {m : Model} {api : Value}
    (h : generate config clock m = .ok api) :
    ∃ stamp base path examples, clock.stamp = .ok stamp ∧
      codeExamples m.entities base path stamp = .ok examples ∧
      api = .obj [("openApiSpec", document config m stamp), ("summary", summary config m stamp),
        ("codeExamples", examples)] := by
  have hbuild := mapError_eq_ok.mp h
  obtain ⟨stamp, hstamp, hrest⟩ := bind_eq_ok.mp hbuild
  obtain ⟨⟨base, path⟩, _, hrest⟩ := bind_eq_ok.mp hrest
  obtain ⟨examples, hexamples, hpure⟩ := bind_eq_ok.mp hrest
  cases hpure
  exact ⟨stamp, base, path, examples, mapError_eq_ok.mp hstamp, mapError_eq_ok.mp hexamples, rfl⟩

/-- The sections of a description of a model, and of the document in it. -/
structure Description (config : Config) (m : Model) (stamp : String) (api spec : Value) :
    Prop where
  specAt : api.at? ["openApiSpec"] = some spec
  endpointsAt : api.at? ["summary", "totalEndpoints"] = some (.nat (paths config m).length)
  pathsAt : spec.at? ["paths"] = some (.obj (paths config m))
  schemasAt : spec.at? ["components", "schemas"] = some (.obj (schemas m stamp))
  responsesAt : spec.at? ["components", "responses"] = some (.obj sharedResponses)
  tagsAt : spec.at? ["tags"] = some (.list (m.entities.map tag))
  examplesAt : ∃ base path examples, codeExamples m.entities base path stamp = .ok examples ∧
    api.at? ["codeExamples"] = some examples

theorem Description.at?_spec {config : Config} {m : Model} {stamp : String} {api spec : Value}
    (h : Description config m stamp api spec) (path : List String) :
    api.at? ("openApiSpec" :: path) = spec.at? path := by
  have hcut : "openApiSpec" :: path = ["openApiSpec"] ++ path := rfl
  rw [hcut, Value.at?_append, h.specAt, Option.bind_some]

/-- What stands under a path is what the map of paths has there. -/
theorem Description.at?_path {config : Config} {m : Model} {stamp : String} {api spec : Value}
    (h : Description config m stamp api spec) (path : String) :
    api.at? ["openApiSpec", "paths", path] = (paths config m).lookup path := by
  have hcut : ["paths", path] = ["paths"] ++ [path] := rfl
  rw [h.at?_spec, hcut, Value.at?_append, h.pathsAt, Option.bind_some, Value.at?_cons,
    Value.get?_obj]
  exact Option.bind_fun_some _

/-- **Descriptions have all their sections.** -/
theorem exists_description {config : Config} {clock : Clock} {m : Model} {api : Value}
    (h : generate config clock m = .ok api) :
    ∃ stamp spec, clock.stamp = .ok stamp ∧ Description config m stamp api spec := by
  obtain ⟨stamp, base, path, examples, hstamp, hexamples, rfl⟩ := generate_eq_ok h
  refine ⟨stamp, document config m stamp, hstamp, ?_, ?_, ?_, ?_, ?_, ?_, base, path, examples,
    hexamples, ?_⟩
  all_goals
    simp [Value.at?_cons, Value.at?_nil, Value.get?_obj, List.lookup_cons, document, summary]

end Schemata.OpenApi
