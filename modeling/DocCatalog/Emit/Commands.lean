import DocCatalog.Record.Command
import DocCatalog.Emit.Module
import DocCatalog.Emit.Field
/-!
# The module of commands

Besides the table it holds the packages and the troubleshooting list.
-/

namespace DocCatalog.Emit.Commands

def interfaces : String :=
  linesOf
    ["export interface CommandArgument \x7b",
     "  name: string;",
     "  description: string;",
     "  required: boolean;",
     "\x7d",
     "",
     "export interface CommandOption \x7b",
     "  name: string;",
     "  alias?: string;",
     "  type: 'boolean' | 'string' | 'number';",
     "  default?: string | boolean | number;",
     "  description: string;",
     "  choices?: string[];",
     "\x7d",
     "",
     "export interface CommandInfo \x7b",
     "  name: string;",
     "  alias?: string;",
     "  description: string;",
     "  usage: string;",
     "  arguments: CommandArgument[];",
     "  options: CommandOption[];",
     "  examples: string[];",
     "  notes?: string[];",
     "\x7d",
     "",
     "export interface PackageInfo \x7b",
     "  name: string;",
     "  description: string;",
     "  features: string[];",
     "  useCases: string[];",
     "  command: string;",
     "\x7d",
     "",
     "export interface TroubleshootingItem \x7b",
     "  problem: string;",
     "  solution: string;",
     "  example: string;",
     "\x7d",
     ""]

structure TroubleshootingItem where
  problem : String
  solution : String
  example_ : String

/-- Maintained by hand. -/
def troubleshooting : List TroubleshootingItem :=
  [⟨"Module not found errors",
     "Run pnpm install to ensure all dependencies are available",
     "pnpm install && pnpm run build"⟩,
   ⟨"TypeScript compilation errors",
     "Ensure all dependencies are installed and restart TypeScript server",
     "pnpm install && pnpm run build"⟩,
   ⟨"Routes not registered",
     "Check if --no-register was used, manually register in app.ts if needed",
     "import \x7b productsRoutes \x7d from './modules/products/products.routes';"⟩,
   ⟨"Frontend generation fails",
     "Generate backend first, then frontend separately",
     "pnpm run crud -- products --force && ./bin/cli.js generate products --target frontend --force"⟩]

def helpers : String :=
  linesOf
    ["",
     "export function getAllCommands(): CommandInfo[] \x7b",
     "  return Object.values(commands);",
     "\x7d",
     "",
     "export function getCommand(name: string): CommandInfo | undefined \x7b",
     "  return getAllCommands().find((c) => c.name === name || c.alias === name);",
     "\x7d",
     "",
     "export function getAllPackages(): PackageInfo[] \x7b",
     "  return packages;",
     "\x7d",
     "",
     "export function getTroubleshooting(): TroubleshootingItem[] \x7b",
     "  return troubleshooting;",
     "\x7d",
     "",
     "export function buildCommand(",
     "  tableName: string,",
     "  options: \x7b",
     "    target?: 'backend' | 'frontend';",
     "    package?: 'standard' | 'enterprise' | 'full';",
     "    withImport?: boolean;",
     "    withEvents?: boolean;",
     "    force?: boolean;",
     "    dryRun?: boolean;",
     "    domain?: string;",
     "    schema?: string;",
     "    shell?: string;",
     "    section?: string;",
     "    smartStats?: boolean;",
     "    directDb?: boolean;",
     "    noRoles?: boolean;",
     "    migrationOnly?: boolean;",
     "    multipleRoles?: boolean;",
     "  \x7d,",
     "): string \x7b",
     "  const frontend = options.target === 'frontend';",
     "  const parts: string[] = [];",
     "",
     "  if (frontend) \x7b",
     "    parts.push('./bin/cli.js generate', tableName, '--target frontend');",
     "  \x7d else \x7b",
     "    if (options.package === 'full' || (options.withImport && options.withEvents)) \x7b",
     "      parts.push('pnpm run crud:full --');",
     "    \x7d else if (options.package === 'enterprise' || options.withImport) \x7b",
     "      parts.push('pnpm run crud:import --');",
     "    \x7d else if (options.withEvents) \x7b",
     "      parts.push('pnpm run crud:events --');",
     "    \x7d else \x7b",
     "      parts.push('pnpm run crud --');",
     "    \x7d",
     "    parts.push(tableName);",
     "  \x7d",
     "",
     "  if (options.domain) parts.push(\x60--domain $\x7boptions.domain\x7d\x60);",
     "  if (options.schema && options.schema !== 'public') parts.push(\x60--schema $\x7boptions.schema\x7d\x60);",
     "",
     "  if (frontend) \x7b",
     "    if (options.withImport) parts.push('--with-import');",
     "    if (options.withEvents) parts.push('--with-events');",
     "    if (options.shell) parts.push(\x60--shell $\x7boptions.shell\x7d\x60);",
     "    if (options.section) parts.push(\x60--section $\x7boptions.section\x7d\x60);",
     "    if (options.smartStats) parts.push('--smart-stats');",
     "  \x7d else \x7b",
     "    if (options.directDb) parts.push('--direct-db');",
     "    if (options.noRoles) parts.push('--no-roles');",
     "    if (options.migrationOnly) parts.push('--migration-only');",
     "    if (options.multipleRoles) parts.push('--multiple-roles');",
     "  \x7d",
     "",
     "  if (options.force) parts.push('--force');",
     "  if (options.dryRun) parts.push('--dry-run');",
     "",
     "  return parts.join(' ');",
     "\x7d"]

def packageItem (p : PackageInfo) : String :=
  objectItem 2
    (strField 4 "name" p.name ++ strField 4 "description" p.description
      ++ strListField 4 "features" p.features ++ strListField 4 "useCases" p.useCases
      ++ strField 4 "command" p.command)

def troubleshootingItem (t : TroubleshootingItem) : String :=
  objectItem 2
    (strField 4 "problem" t.problem ++ strField 4 "solution" t.solution
      ++ strField 4 "example" t.example_)

def preamble (packages : List PackageInfo) : String :=
  interfaces
    ++ "export const packages: PackageInfo[] = [\n" ++ String.join (packages.map packageItem)
    ++ "];\n\n"
    ++ "export const troubleshooting: TroubleshootingItem[] = [\n"
    ++ String.join (troubleshooting.map troubleshootingItem) ++ "];\n\n"

/-- A default as source text. -/
def defaultLiteral : OptionDefault → String
  | .bool b => if b then "true" else "false"
  | .number n => n
  | .str s => quote s

def argumentItem (a : CommandArgument) : String :=
  objectItem 6
    (strField 8 "name" a.name ++ strField 8 "description" a.description
      ++ sourceField 8 "required" (if a.isRequired then "true" else "false"))

def optionItem (o : CommandOption) : String :=
  objectItem 6
    (strField 8 "name" o.name ++ optStrField 8 "alias" o.alias?
      ++ strField 8 "type" o.type.text
      ++ (match o.default? with
        | some d => sourceField 8 "default" (defaultLiteral d)
        | none => "")
      ++ strField 8 "description" o.description ++ optStrListField 8 "choices" o.choices)

def fields (c : CommandRecord) : String :=
  strField 4 "name" c.name ++ optStrField 4 "alias" c.alias?
    ++ strField 4 "description" c.description ++ strField 4 "usage" c.usage
    ++ listField 4 "arguments" (c.arguments.map argumentItem)
    ++ listField 4 "options" (c.options.map optionItem)
    ++ templateListField 4 "examples" c.examples ++ optStrListField 4 "notes" c.notes

def generator (sources : List String) (packages : List PackageInfo) : Generator CommandRecord where
  label := "commands"
  sources := sources
  exportName := "commands"
  infoType := "CommandInfo"
  preamble _ := preamble packages
  fields := fields
  helpers := helpers

end DocCatalog.Emit.Commands
