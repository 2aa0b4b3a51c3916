import Skirmish.Content.Document
import Skirmish.Rulebook.Scenario
import Skirmish.Value.Printer

/-!
# Saved settings

Settings are kept in a file as a document.  Loading from a path that leads nowhere
saves the settings that a new player starts with.
-/

namespace Skirmish.Settings

def ofDocument (text : String) : Except Fault Settings :=
  match Value.readSettings text with
  | .ok value => (Settings.read value).orFault
  | .error _ => .error (.violations [⟨[], .notDocument⟩])

def document (settings : Settings) : String :=
  settings.dump.document

def save (settings : Settings) (path : Path) : Folder.Change Unit :=
  Folder.store path settings.document

def load (path : Path) : Folder.Change Settings := do
  let folder ← get
  if ← (folder.leads path : Except Fault Bool) then
    ofDocument (← (folder.read path : Except Fault String))
  else
    save {} path
    return {}

end Skirmish.Settings
