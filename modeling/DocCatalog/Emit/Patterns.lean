import DocCatalog.Record.Pattern
import DocCatalog.Emit.Module
import DocCatalog.Emit.Field
import DocCatalog.Emit.Categories
/-!
# The module of patterns
-/

namespace DocCatalog.Emit.Patterns

def interfaces : String :=
  linesOf
    ["export interface CodePattern \x7b",
     "  name: string;",
     "  title: string;",
     "  category: string;",
     "  language: string;",
     "  description: string;",
     "  code: string;",
     "  notes?: string[];",
     "  relatedPatterns?: string[];",
     "\x7d",
     ""]

def helpers : String :=
  linesOf
    ["",
     "export function getAllPatterns(): CodePattern[] \x7b",
     "  return Object.values(patterns);",
     "\x7d",
     "",
     "export function getPatternsByCategory(category: PatternCategory): CodePattern[] \x7b",
     "  return getAllPatterns().filter((p) => p.category === category);",
     "\x7d"]

/-- The categories of the records on one line. -/
def categories (records : List PatternRecord) : String :=
  "export const patternCategories = ["
    ++ ", ".intercalate ((sortedNames (records.map (·.category))).map quote) ++ "] as const;\n\n"
    ++ "export type PatternCategory = (typeof patternCategories)[number];\n\n"

def fields (p : PatternRecord) : String :=
  strField 4 "name" p.name ++ strField 4 "title" p.title ++ strField 4 "category" p.category
    ++ strField 4 "language" p.language ++ strField 4 "description" p.description
    ++ templateField 4 "code" p.code ++ optStrListField 4 "notes" p.notes
    ++ optStrListField 4 "relatedPatterns" p.related

def generator (sources : List String) : Generator PatternRecord where
  label := "patterns"
  sources := sources
  exportName := "patterns"
  infoType := "CodePattern"
  preamble records := interfaces ++ categories records
  fields := fields
  helpers := helpers

end DocCatalog.Emit.Patterns
