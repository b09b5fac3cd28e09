import Espresso.Preset.Basic

/-!
# Admission

What becomes of a document that is offered to the catalog. One that is not an advanced profile is
left out without blame; one that cannot be read, or lacks a text that it needs, is a failure. The
record says which, so that every document is either in the catalog or in the log.
-/

namespace Espresso

structure Document where
  name : String
  text : String
  deriving DecidableEq, Repr

inductive Admission where
  | admitted (preset : Preset)
  | filtered (type? : Option ProfileType)
  deriving DecidableEq, Repr

def Document.admit (document : Document) : Except Failure Admission :=
  match Profile.parse document.text with
  | .ok profile =>
    if profile.isAdvanced then
      match Preset.ofProfile document.name profile with
      | .ok preset => .ok (.admitted preset)
      | .error missing => .error (.missing missing)
    else .ok (.filtered profile.type?)
  | .error error => .error (.unreadable error)

inductive Level where
  | debug
  | info
  | warning
  deriving DecidableEq, Repr

def Level.name : Level → String
  | debug => "DEBUG"
  | info => "INFO"
  | warning => "WARNING"

inductive Record where
  | filtered (document : String) (type? : Option ProfileType)
  | rejected (document : String) (cause : Failure)
  | unreadable (document : String)
  | loaded (count : Nat) (folder : String)
  deriving DecidableEq, Repr

namespace Record

def level : Record → Level
  | filtered _ _ => .debug
  | rejected _ _ => .warning
  | unreadable _ => .warning
  | loaded _ _ => .info

/-- A host says why a file cannot be read in the words of its own failure. Nothing is known of these
here, so the words for such a file are this program's own. -/
def message : Record → String
  | filtered document type? =>
    let type := (type?.map ProfileType.tag).getD "None"
    s!"Skipping {document}: profile type {type}"
  | rejected document cause =>
    let reason := cause.headline
    s!"Skipping {document}: {reason}"
  | unreadable document => s!"Skipping {document}: the file cannot be read"
  | loaded count folder => s!"Loaded {count} presets from {folder}"

/-- The document a record is about. -/
def document? : Record → Option String
  | filtered document _ => some document
  | rejected document _ => some document
  | unreadable document => some document
  | loaded _ _ => none

end Record

/-- A document as it is found: the text is there unless it cannot be read. -/
structure Source where
  name : String
  text? : Option String
  deriving DecidableEq, Repr

def Document.toSource (document : Document) : Source :=
  ⟨document.name, some document.text⟩

/-- The preset of a source, or the record of why there is none. -/
def Source.judge (source : Source) : Except Record Preset :=
  match source.text? with
  | none => .error (.unreadable source.name)
  | some text =>
    match Document.admit ⟨source.name, text⟩ with
    | .ok (.admitted preset) => .ok preset
    | .ok (.filtered type?) => .error (.filtered source.name type?)
    | .error cause => .error (.rejected source.name cause)

end Espresso
