import Lookout.Config.Environment
import Lookout.Config.Reading
import Lookout.Text.Utf8
import Lookout.Yaml.Node
/-!
Settings loaded from a directory: a file that has to be there, a second one laid over it, and the
environment over both.
-/
namespace Lookout.Config

/-- The file that has to be there. -/
def fileName : String := "config.yaml"

/-- The file laid over it. -/
def localFileName : String := "config.local.yaml"

/-! ### Files -/

/-- The key that a node stands for. -/
def keyOf? : Yaml.Node → Option String
  | .text s => some s
  | .int n => some (toString n)
  | .bool b => some (if b then "true" else "false")
  | .real s => some s
  | _ => none

mutual

/-- A node as a tree. Numbers are finite as they are written, and keys are scalars. -/
def treeOf? (origin : String) : Yaml.Node → Option Tree
  | .null => some (.leaf origin .null)
  | .invalid => some (.leaf origin .null)
  | .bool b => some (.leaf origin (.bool b))
  | .int n => some (.leaf origin (.int n))
  | .real s => (Decimal.floatOf? s).map fun x => .leaf origin (.float x)
  | .text s => some (.leaf origin (.text s))
  | .sequence items => (treesOf? origin items).map (.items origin)
  | .mapping fields => (fieldsOf? origin fields).map fun list => .fields origin (Json.sortFields list)

/-- Nodes as trees. -/
def treesOf? (origin : String) : List Yaml.Node → Option (List Tree)
  | [] => some []
  | n :: rest => do return (← treeOf? origin n) :: (← treesOf? origin rest)

/-- Keys and values as fields. -/
def fieldsOf? (origin : String) : List (Yaml.Node × Yaml.Node) → Option (List (String × Tree))
  | [] => some []
  | (k, v) :: rest => do
    return (← keyOf? k, ← treeOf? origin v) :: (← fieldsOf? origin rest)

end

/-- The octets that may stand before a text. -/
def byteOrderMark : List UInt8 := [0xEF, 0xBB, 0xBF]

/-- The text of a file; octets that are no text are replaced. -/
def fileText (bytes : ByteArray) : String :=
  if byteOrderMark.isPrefixOf bytes.toList then
    Text.decodeLossy (bytes.extract 3 bytes.size)
  else Text.decodeLossy bytes

/-- The settings of a file. A file that is empty holds none; anything but a mapping is refused. -/
def layerOf? (origin : String) (bytes : ByteArray) : Option Layer :=
  match Yaml.Node.ofText? (fileText bytes) with
  | none => none
  | some none => some []
  | some (some (.mapping fields)) =>
    match treeOf? origin (.mapping fields) with
    | some (.fields _ list) => some list
    | _ => none
  | some (some _) => none

/-! ### Directories -/

/-- Why settings cannot be loaded. -/
inductive LoadError where
  | missing (directory path : String)
  | badSyntax (directory path : String)
  | fault (f : Fault)

/-- The wording of an error from the outermost part to the innermost. What is wrong within a file is
not told. -/
def LoadError.chain : LoadError → List String
  | missing directory path =>
    ["loading configuration from " ++ directory,
      "configuration file " ++ Text.quoted path ++ " not found"]
  | badSyntax directory path =>
    ["loading configuration from " ++ directory, "cannot read " ++ Text.quoted path]
  | fault f => ["unmarshaling into config struct", f.message .lenient]

/-- The wording of an error. -/
def LoadError.message (e : LoadError) : String := ": ".intercalate e.chain

/-- The path of a file in a directory. -/
def pathIn (directory name : String) : String :=
  if directory.isEmpty || directory.endsWith "/" then directory ++ name
  else directory ++ "/" ++ name

/-- A path without steps that lead nowhere. -/
def plainPath (path : String) : String :=
  let parts := (path.splitToList (· == '/')).filter fun s => s != "" && s != "."
  (if path.startsWith "/" then "/" else "") ++ "/".intercalate parts

/-- The settings of a directory under a layer. Files are given by their paths, without steps that
lead nowhere. -/
def loadUnder (env : Layer) (directory : String) (files : String → Option ByteArray) :
    Except LoadError Config :=
  let path := pathIn directory fileName
  let localPath := pathIn directory localFileName
  match files (plainPath path) with
  | none => .error (.missing directory path)
  | some bytes =>
    match layerOf? (plainPath path) bytes with
    | none => .error (.badSyntax directory path)
    | some base =>
      let upper? := match files (plainPath localPath) with
        | none => some []
        | some bytes => layerOf? (plainPath localPath) bytes
      match upper? with
      | none => .error (.badSyntax directory localPath)
      | some upper =>
        (read .lenient (stack [base, upper, env])).mapError .fault

/-- The settings of a directory under those of the environment. -/
def load (directory : String) (files : String → Option ByteArray)
    (bindings : List (String × String)) : Except LoadError Config :=
  loadUnder (Environment.layer bindings) directory files

end Lookout.Config
