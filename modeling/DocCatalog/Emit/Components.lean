import DocCatalog.Record.Component
import DocCatalog.Emit.Module
import DocCatalog.Emit.Field
import DocCatalog.Emit.Categories
/-!
# The module of components
-/

namespace DocCatalog.Emit.Components

def interfaces : String :=
  linesOf
    ["export interface ComponentInput \x7b",
     "  name: string;",
     "  type: string;",
     "  default?: string;",
     "  description: string;",
     "  required?: boolean;",
     "\x7d",
     "",
     "export interface ComponentOutput \x7b",
     "  name: string;",
     "  type: string;",
     "  description: string;",
     "\x7d",
     "",
     "export interface ComponentInfo \x7b",
     "  name: string;",
     "  selector: string;",
     "  category: string;",
     "  description: string;",
     "  inputs: ComponentInput[];",
     "  outputs: ComponentOutput[];",
     "  usage: string;",
     "  bestPractices?: string[];",
     "  relatedComponents?: string[];",
     "\x7d",
     ""]

def helpers : String :=
  linesOf
    ["",
     "export function getAllComponents(): ComponentInfo[] \x7b",
     "  return Object.values(components);",
     "\x7d",
     "",
     "export function getComponentsByCategory(category: ComponentCategory): ComponentInfo[] \x7b",
     "  return getAllComponents().filter((c) => c.category === category);",
     "\x7d",
     "",
     "export function getComponentByName(name: string): ComponentInfo | undefined \x7b",
     "  const q = name.toLowerCase();",
     "  return getAllComponents().find((c) => c.name.toLowerCase() === q || c.selector === name);",
     "\x7d"]

/-- The categories of the records, one on a line. -/
def categories (records : List ComponentRecord) : String :=
  let names := sortedNames (records.map (·.category))
  (if names.isEmpty then "export const componentCategories = [] as const;\n\n"
    else
      "export const componentCategories = [\n"
        ++ String.join (names.map fun c => itemLine 2 (quote c)) ++ "] as const;\n\n")
    ++ "export type ComponentCategory = (typeof componentCategories)[number];\n\n"

def inputItem (i : ComponentInput) : String :=
  objectItem 6
    (strField 8 "name" i.name ++ strField 8 "type" i.typeText
      ++ optStrField 8 "default" i.default? ++ strField 8 "description" i.description
      ++ if i.isRequired then sourceField 8 "required" "true" else "")

def outputItem (o : ComponentOutput) : String :=
  objectItem 6
    (strField 8 "name" o.name ++ strField 8 "type" o.typeText
      ++ strField 8 "description" o.description)

def fields (c : ComponentRecord) : String :=
  strField 4 "name" c.name ++ strField 4 "selector" c.selector
    ++ strField 4 "category" c.category ++ strField 4 "description" c.description
    ++ listField 4 "inputs" (c.inputs.map inputItem)
    ++ listField 4 "outputs" (c.outputs.map outputItem)
    ++ templateField 4 "usage" (c.usage.getD "")
    ++ optStrListField 4 "bestPractices" c.bestPractices
    ++ optStrListField 4 "relatedComponents" c.related

def generator (sources : List String) : Generator ComponentRecord where
  label := "components"
  sources := sources
  exportName := "components"
  infoType := "ComponentInfo"
  preamble records := interfaces ++ categories records
  fields := fields
  helpers := helpers

end DocCatalog.Emit.Components
