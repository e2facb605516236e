import Accessors.Source.Package
import Accessors.Error.Describe

/-!
# Packages as JSON

The JSON forms of parsed packages: classes with their properties, methods and imports.
-/

namespace Accessors

/-- The JSON form of a property. -/
def PropertyInfo.toJson (p : PropertyInfo) : Json :=
  .obj [("class", .str p.className), ("field", .str p.fieldName), ("go_type", .str p.goType),
    ("nilable", .bool p.nilable), ("doc", .str p.doc), ("file", .str p.fileName),
    ("line", Json.nat p.line)]

/-- The JSON form of a class. -/
def ClassInfo.toJson (c : ClassInfo) : Json :=
  .obj [("type_name", .str c.typeName), ("package", .str c.packageName),
    ("import_path", .str c.importPath), ("name", .str c.name), ("file", .str c.fileName),
    ("line", Json.nat c.line), ("documented", .bool c.documented), ("methods", Json.strs c.methods),
    ("imports", .arr (c.imports.map fun i => .obj [("name", .str i.name), ("path", .str i.path)])),
    ("properties", .arr (c.properties.map PropertyInfo.toJson))]

/-- The JSON form of a package. -/
def PackageInfo.toJson (p : PackageInfo) : Json :=
  .obj [("package", .str p.packageName), ("path", .str p.packagePath),
    ("annotated", Json.strs (p.annotatedClasses.map (·.typeName))),
    ("classes", .arr (p.classes.map ClassInfo.toJson))]

end Accessors
