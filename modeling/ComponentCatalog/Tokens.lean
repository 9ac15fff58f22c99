import ComponentCatalog.Json.Basic

namespace ComponentCatalog

namespace DesignTokens

def group (tokens : List (String × String)) : Json :=
  .object (tokens.map fun (name, value) => (name, .string value))

def primary : Json :=
  group [("50", "#eff6ff"), ("500", "#3b82f6"), ("600", "#2563eb"), ("700", "#1d4ed8")]

def secondary : Json :=
  group [("50", "#f8fafc"), ("500", "#64748b"), ("600", "#475569"), ("700", "#334155")]

def colors : Json :=
  .object [
    ("primary", primary),
    ("secondary", secondary),
    ("success", .string "#10b981"),
    ("warning", .string "#f59e0b"),
    ("error", .string "#ef4444")]

def spacing : Json :=
  group [("xs", "0.5rem"), ("sm", "0.75rem"), ("md", "1rem"), ("lg", "1.5rem"), ("xl", "2rem")]

def fontSize : Json :=
  group [("xs", "0.75rem"), ("sm", "0.875rem"), ("base", "1rem"), ("lg", "1.125rem"),
    ("xl", "1.25rem")]

def borderRadius : Json :=
  group [("sm", "0.375rem"), ("md", "0.5rem"), ("lg", "0.75rem"), ("xl", "1rem")]

def toJson : Json :=
  .object [
    ("colors", colors),
    ("spacing", spacing),
    ("typography", .object [("fontFamily", .string "Inter, sans-serif"), ("fontSize", fontSize)]),
    ("borderRadius", borderRadius)]

end DesignTokens

structure Guidelines where
  importPattern : String
  styling       : String
  conventions   : List String

namespace Guidelines

def project : Guidelines where
  importPattern := "import ComponentName from '@/components/path/ComponentName';"
  styling       := "Use Tailwind CSS classes for styling"
  conventions   := [
    "Use TypeScript interfaces for props",
    "Export default for main component",
    "Use functional components with hooks",
    "Follow Next.js 13+ App Router conventions"]

def toJson (g : Guidelines) : Json :=
  .object [
    ("import_pattern", .string g.importPattern),
    ("styling", .string g.styling),
    ("conventions", .ofStrings g.conventions)]

end Guidelines
end ComponentCatalog
