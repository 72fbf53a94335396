import Componentry.Store

/-!
# Writing generated files

Generated files live in two areas. The automatic area belongs to the generator, which writes its
files anew on every run. The user area is the project directory; its files are made once and are
then left alone, while the latest text of each is kept among the templates of the automatic area.
Headers can be linked into a directory as if they were installed.
-/

namespace Componentry

open Files (Path)

/-- The name of the automatic area, if no other is asked for. -/
def defaultArea : String := ".taskgen"

/-- Where generated files are written. -/
structure FileWriter where
  baseDir : Path
  /-- The automatic area, seen from the base directory. -/
  area : String := defaultArea
  /-- Whether headers are linked. -/
  links : Bool := true

namespace FileWriter

/-- Where the log says that lines about written files come from. -/
def logName : String := "taskgen.generation.files"

/-- The directory of the automatic area. -/
def automaticDir (w : FileWriter) : Path :=
  w.baseDir.join w.area

/-- The path of a file of the automatic area. -/
def automaticPath (w : FileWriter) (parts : List String) : Path :=
  w.automaticDir.joinAll parts

/-- The path of a user file. -/
def userPath (w : FileWriter) (parts : List String) : Path :=
  w.baseDir.joinAll parts

/-- The path at which the latest text of a user file is kept. -/
def templatePath (w : FileWriter) (parts : List String) : Path :=
  w.automaticDir.joinAll ("templates" :: parts)

/-- Writes a file, and the directories above it as far as they are missing. -/
def writeFile (path : Path) (content : String) : Work Unit :=
  Work.onFiles (Files.Change.place path content.toUTF8)

/-- Writes a file of the automatic area. -/
def saveAutomatic (w : FileWriter) (parts : List String) (content : String) : Work Path := do
  let path := w.automaticPath parts
  writeFile path content
  Work.log .info logName s!"generated {path.toText}"
  return path

/-- Whether a file is there and has a text. -/
def isUpToDate (path : Path) (content : String) : Work Bool :=
  Work.onFiles do
    if ← Files.Change.isFile path then return (← Files.Change.readText path) == content
    else return false

/-- Writes a file unless it has the text already. -/
def writeIfChanged (path : Path) (content : String) : Work Unit := do
  if ← isUpToDate path content then
    Work.log .debug logName s!"{path.toText} is up to date"
  else
    writeFile path content
    Work.log .info logName s!"generated {path.toText}"

/-- Writes a user file unless there is one already, and keeps the text in the automatic area. -/
def saveUser (w : FileWriter) (parts : List String) (content : String) : Work Path := do
  writeIfChanged (w.templatePath parts) content
  let path := w.userPath parts
  if ← Work.onFiles (Files.Change.isPresent path) then
    Work.log .debug logName s!"preserving user file {path.toText}"
  else
    writeFile path content
    Work.log .info logName s!"created {path.toText}"
  return path

/-- Links a file into a directory, in the place of what was there by its name. -/
def linkInto (directory target : Path) : Files.Change Path := do
  let link := directory.join target.name
  if (← Files.Change.isLink link) || (← Files.Change.isPresent link) then Files.Change.remove link
  Files.Change.makeLink link (← Files.Change.resolve target)
  return link

/-- Links headers into a directory of the automatic area, as if they were installed. -/
def fakeInstall (w : FileWriter) (name : String) (targets : List Path) : Work (List Path) := do
  if !w.links then return []
  let directory := w.automaticDir.join name
  Work.onFiles do
    Files.Change.ensureDirectories directory
    targets.mapM (linkInto directory)

end FileWriter

end Componentry
