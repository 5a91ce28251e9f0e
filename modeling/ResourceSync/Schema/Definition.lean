import ResourceSync.Cluster.Client
import ResourceSync.Json.Block
import ResourceSync.Schema.Kinds

/-! The definitions that teach a cluster the kinds, and the files that hold them. -/
namespace ResourceSync

namespace Kind

/-- What a kind declares. -/
def purpose : Kind → String
  | alert =>
    "Alert declares an alert definition that obsync keeps in sync with the observability platform."
  | ruleGroup => "RuleGroup declares a group of log parsing rules on the observability platform."
  | recordingRuleGroupSet =>
    "RecordingRuleGroupSet declares recording rule groups evaluated by the observability platform."
  | outboundWebhook =>
    "OutboundWebhook declares a notification destination on the observability platform."
  | apiKey => "ApiKey declares an API key on the observability platform."
  | team => "Team declares a team on the observability platform."

/-- The schema of whole resources of a kind. -/
def schemaDocument (k : Kind) : Json :=
  let status := k.statusSchema.members ++ (Property.optional "status").members
  .obj [("title", .str k.name), ("description", .str k.purpose), ("type", .str "object"),
    ("properties", .obj [("spec", .obj k.specSchema.members), ("status", .obj status)]),
    ("required", Schema.names ["spec"])]

def versionDocument (k : Kind) : Json :=
  let column : Json := .obj [("name", .str "Remote ID"), ("type", .str "string"),
    ("jsonPath", .str ".status.id")]
  .obj [("name", .str "v1alpha1"), ("served", .bool true), ("storage", .bool true),
    ("schema", .obj [("openAPIV3Schema", k.schemaDocument)]),
    ("subresources", .obj [("status", .obj [])]), ("additionalPrinterColumns", .arr [column])]

/-- The definition of a kind as the API server takes it. -/
def definition (k : Kind) : Json :=
  let names : Json := .obj [("kind", .str k.name), ("plural", .str k.plural),
    ("singular", .str k.name.toLower), ("categories", .arr []), ("shortNames", .arr [])]
  Json.canonical <| .obj [("apiVersion", .str "apiextensions.k8s.io/v1"),
    ("kind", .str "CustomResourceDefinition"),
    ("metadata", .obj [("name", .str s!"{k.plural}.obsync.io")]),
    ("spec", .obj [("group", .str "obsync.io"), ("names", names), ("scope", .str "Namespaced"),
      ("versions", .arr [k.versionDocument])])]

def definitionFileName (k : Kind) : String := k.plural ++ ".crd.yaml"

end Kind

/-- A file to be written. -/
structure DefinitionFile where
  name : String
  content : String
deriving DecidableEq, Repr

namespace DefinitionFile

/-- What the head of a file says about it. -/
def notice : List String :=
  [" Copyright (c) 2025 Erick Bourgeois, firestoned", " SPDX-License-Identifier: MIT", "",
    " This file is AUTO-GENERATED from src/crd.rs",
    " DO NOT EDIT MANUALLY - Run `cargo run --bin crdgen` to regenerate", ""]

def banner : String := String.join (notice.map fun line => "#" ++ line ++ "\n")

def ofKind (k : Kind) : DefinitionFile := ⟨k.definitionFileName, banner ++ k.definition.blockText⟩

/-- The files of all kinds. -/
def all : List DefinitionFile := Kind.all.map ofKind

/-- What is told about the files once they are written to a directory. -/
def report (directory : String) : String :=
  let lines := ["Generating CRD YAML files from src/crd.rs..."] ++
    all.map (fun f => "  ✓ Generated " ++ f.name) ++
    [s!"✓ Successfully generated {all.length} CRD YAML files in {directory}", "", "Next steps:",
      "  1. Review the generated files", s!"  2. Deploy with: kubectl apply -f {directory}"]
  String.join (lines.map fun line => line ++ "\n")

end DefinitionFile

end ResourceSync
