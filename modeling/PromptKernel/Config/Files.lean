import PromptKernel.Config.Basic
import PromptKernel.Function.Descriptor

/-! The files that belong to a configuration, as a tree of directories. -/

namespace PromptKernel

structure Files where
  /-- Paths from the top directory, with what the files hold. -/
  entries : List (List String × ByteArray)

namespace Files

def ofList (files : List (String × ByteArray)) : Files :=
  ⟨files.map fun (path, content) => (Path.parts path, content)⟩

/-- Where a path has led so far. -/
inductive Spot
  | directory (path : List String)
  | file (content : ByteArray)
  /-- A directory around the top one. -/
  | outside

def step (files : Files) (spot : Spot) (part : String) : Except FileFault Spot :=
  match spot with
  | .file _ => .error .notDirectory
  | .outside => if part = ".." then .ok .outside else .error .notFound
  | .directory path =>
    if part = ".." then .ok (if path.isEmpty then .outside else .directory path.dropLast)
    else
      let path := path ++ [part]
      match files.entries.lookup path with
      | some content => .ok (.file content)
      | none =>
        if files.entries.any fun entry => path.isPrefixOf entry.1 then .ok (.directory path)
        else .error .notFound

def read (files : Files) (path : String) : Except FileFault String := do
  if Path.isAbsolute path then
    .error (if (Path.parts path).isEmpty then .isDirectory else .notFound)
  else
    match ← (Path.parts path).foldlM files.step (.directory []) with
    | .file content =>
      if Path.isDirectory path then .error .notDirectory
      else
        match String.fromUTF8? content with
        | some text => .ok text
        | none => .error .notText
    | _ => .error .isDirectory

end Files

namespace Config

/-- Reads a configuration file in the top directory, where its relative paths start. -/
def ofFile (files : Files) (name : String) : Except Error Config := do
  let text ← (files.read name).mapError .file
  let config ← ofToml text
  return { config with directory := some "" }

def definition (config : Config) (files : Files) (entry : FunctionConfig) :
    Except Error Definition := do
  let text ← (files.read (config.resolve entry.path)).mapError .file
  Definition.ofYaml entry.group text

end Config

end PromptKernel
