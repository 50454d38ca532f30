import Playfield.ProgramText
import Playfield.Storage.Disk

/-!
Program files: text files with the extension `bf`. The extension is checked before the file is
touched.
-/

namespace Playfield

inductive ProgramFileError where
  | wrongExtension (path : String)
  | inaccessible (path : String) (cause : FileError)
  | malformed (path : String) (cause : GridError)
  deriving DecidableEq

namespace ProgramFileError

def message : ProgramFileError → String
  | wrongExtension path => "Wrong file extension: " ++ path ++ ", expected .bf"
  | inaccessible path cause => "Cannot access " ++ path ++ ": " ++ cause.message
  | malformed path cause => "Wrongly formatted file " ++ path ++ ": " ++ cause.message

def source? : ProgramFileError → Option String
  | wrongExtension _ => none
  | inaccessible _ cause => some cause.message
  | malformed _ cause => some cause.message

end ProgramFileError

namespace ProgramFile

def checkExtension (path : String) : Except ProgramFileError Unit :=
  if Path.extension? path = some ['b', 'f'] then .ok () else .error (.wrongExtension path)

def ofContent (path : String) (content : FileContent) : Except ProgramFileError Grid := do
  checkExtension path
  let text ← (content.bind decodeText).mapError (.inaccessible path)
  (ProgramText.parse text).mapError (.malformed path)

def load (disk : Disk) (path : String) : Except ProgramFileError Grid :=
  ofContent path (disk.read path)

def save (disk : Disk) (path : String) (grid : Grid) : Except ProgramFileError Disk := do
  checkExtension path
  (disk.write path (ProgramText.render grid).toUTF8).mapError (.inaccessible path)

end ProgramFile

end Playfield
