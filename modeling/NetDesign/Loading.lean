import NetDesign.Compilation

set_option autoImplicit false

namespace NetDesign

/-- Why there is no result, or not a whole one. -/
inductive Error where
  | network (error : NetworkError)
  | description (error : DescriptionError)
  | malformedDescription
  | malformedSettings
  /-- A file that is missing, that cannot be written, or that does not hold UTF-8. -/
  | file (name : String)
  /-- The devices that could not be compiled, by label. -/
  | devices (labels : List String)
deriving DecidableEq, Repr

namespace Error

def message : Error → String
  | network error => s!"Model Error: {error.message}"
  | description error => s!"Input Error: {error.message}"
  | malformedDescription => "Input Error: Cannot parse the network description"
  | malformedSettings => "JSON Error: Cannot parse the settings"
  | file name => s!"IO Error: {name}"
  | devices labels =>
    let list := ", ".intercalate labels
    s!"Compilation failed for {labels.length} device(s): {list}"

end Error

def textOfFile (name : String) (content : Option ByteArray) : Except Error String :=
  match content.bind String.fromUTF8? with
  | some text => .ok text
  | none => .error (.file name)

namespace Network

def ofText (s : String) : Except Error Network :=
  match Description.ofText? s with
  | none => .error .malformedDescription
  | some desc => desc.build.mapError .description

end Network

namespace Settings

def ofText (s : String) : Except Error Settings :=
  match ofText? s with
  | none => .error .malformedSettings
  | some settings => .ok settings

end Settings

namespace Compilation

def check (c : Compilation) : Except Error Unit :=
  match c.failedLabels? with
  | none => .ok ()
  | some labels => .error (.devices labels)

end Compilation

end NetDesign
