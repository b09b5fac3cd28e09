import Espresso.Service.Desk
import Espresso.Service.Prompt
import Espresso.Service.Reference
import Espresso.Storage

/-!
# Sessions

The service over time. A catalog is built from a folder when it is first asked for, and shared
until it is dropped; the front opens a desk over the shared catalog with its first request, lends
it to the tools, and keeps it whatever happens to the shared catalog or the files. The front and the
tools keep the catalog and the checker of their desks apart, and come by them one at a time.
-/

namespace Espresso

/-- One checker among all that were appointed, told apart by its serial number. -/
structure Inspector where
  serial : Nat
  checker : Checker

/-- A desk takes a catalog and a checker. -/
def Desk.ofParts? : Option Snapshot → Option Inspector → Option Desk
  | some snapshot, some inspector => some ⟨snapshot, inspector.checker⟩
  | _, _ => none

/-- `home` is the folder of the profiles that come with the program, `built` the number of
catalogs built so far and `appointed` the number of checkers. -/
structure Session where
  storage : Storage
  home : Path
  setting? : Option String
  shared? : Option Snapshot
  frontCatalog? : Option Snapshot
  frontChecker? : Option Inspector
  toolsCatalog? : Option Snapshot
  toolsChecker? : Option Inspector
  built : Nat
  appointed : Nat

/-- What can be asked at a desk, by way of the front or of the tools alone. -/
inductive Query where
  | listPresets
  | getPreset (name : String)
  | analyzePreset (name : String)
  | analyzeProfile (text : String) (label? : Option String)
  | validateProfile (text : String)

/-- The texts that the front serves from its desk. -/
inductive Page where
  | headings
  | preset (name : String)

/-- Requests, and what happens between them. -/
inductive Event where
  | query (query : Query)
  | page (page : Page)
  | tool (query : Query)
  | reference
  | explain (name : String) (focus? : Option String)
  | shared
  | dropShared
  | closeDesks
  | install (documents : List Document) (checker : Checker)
  | setFolder (setting? : Option String)
  | put (path : Path) (node : Node)
  | remove (path : Path)

inductive Answer where
  | nothing
  | snapshot (snapshot : Snapshot)
  | headings (headings : List Heading)
  | preset (preset : Preset)
  | report (report : Report)
  | verdict (verdict : Verdict)
  | text (text : String)
  | messages (messages : List Message)

/-- What one event gives: an answer or a refusal, the records made on the way, and the session
after it. -/
structure Turn (α : Type) where
  result : Except Refusal α
  log : List Record
  session : Session

def Turn.andThen {α β : Type} (turn : Turn α) (f : α → Except Refusal β) : Turn β where
  result := turn.result.bind f
  log := turn.log
  session := turn.session

def Desk.answer (desk : Desk) : Query → Except Refusal Answer
  | .listPresets => .ok (.headings desk.headings)
  | .getPreset name => (desk.preset name).map .preset
  | .analyzePreset name => (desk.analyzePreset name).map .report
  | .analyzeProfile text label? => (desk.analyzeProfile text label?).map .report
  | .validateProfile text => .ok (.verdict (desk.validateProfile text))

namespace Session

def start (storage : Storage) (home : Path) (setting? : Option String) : Session where
  storage := storage
  home := home
  setting? := setting?
  shared? := none
  frontCatalog? := none
  frontChecker? := none
  toolsCatalog? := none
  toolsChecker? := none
  built := 0
  appointed := 0

def front? (session : Session) : Option Desk :=
  Desk.ofParts? session.frontCatalog? session.frontChecker?

def tools? (session : Session) : Option Desk :=
  Desk.ofParts? session.toolsCatalog? session.toolsChecker?

/-- An empty setting is as good as none. -/
def folder (session : Session) : Path :=
  match session.setting?.filter fun setting => setting != "" with
  | some setting => Path.ofString setting
  | none => session.home

/-- The catalog of the folder as it is now, and the records of building it. -/
def build (session : Session) : Except Refusal (Catalog × List Record) :=
  let folder := session.folder
  if session.storage.isFolder folder then
    let (catalog, skipped) := Catalog.ofSources (session.storage.sources folder)
    .ok (catalog, skipped ++ [.loaded catalog.size folder.text])
  else .error (.noFolder folder.text)

def unchanged {α : Type} (session : Session) (result : Except Refusal α) : Turn α where
  result := result
  log := []
  session := session

def shared (session : Session) : Turn Snapshot :=
  match session.shared? with
  | some snapshot => session.unchanged (.ok snapshot)
  | none =>
    match session.build with
    | .ok (catalog, log) =>
      let snapshot : Snapshot := ⟨session.built, catalog⟩
      { result := .ok snapshot
        log := log
        session := { session with shared? := some snapshot, built := session.built + 1 } }
    | .error refusal => session.unchanged (.error refusal)

def appoint (session : Session) (checker : Checker) : Inspector × Session :=
  (⟨session.appointed, checker⟩, { session with appointed := session.appointed + 1 })

/-- The tools keep the catalog and the checker that they are lent. -/
def lend (session : Session) (snapshot : Snapshot) (inspector : Inspector) : Session :=
  { session with toolsCatalog? := some snapshot, toolsChecker? := some inspector }

/-- The catalog is at the front before there is a checker, and the tools are lent both at last. -/
def openFront (session : Session) (snapshot : Snapshot) : Session :=
  let (inspector, staffed) := { session with frontCatalog? := some snapshot }.appoint .strict
  { staffed with frontChecker? := some inspector }.lend snapshot inspector

/-- The desk of the front, opened now if any part of it is missing. -/
def front (session : Session) : Turn Desk :=
  match session.front? with
  | some desk => session.unchanged (.ok desk)
  | none =>
    let turn := session.shared
    match turn.result with
    | .ok snapshot =>
      { result := .ok ⟨snapshot, .strict⟩
        log := turn.log
        session := turn.session.openFront snapshot }
    | .error refusal => { turn with result := .error refusal }

/-- The tools answer from the desk they were lent or given. -/
def toolsAnswer (session : Session) (query : Query) : Except Refusal Answer :=
  match session.tools? with
  | some desk => desk.answer query
  | none => .error .notReady

def install (session : Session) (documents : List Document) (checker : Checker) : Turn Answer :=
  let (catalog, log) := Catalog.ofDocuments documents
  let (inspector, staffed) := { session with built := session.built + 1 }.appoint checker
  { result := .ok .nothing
    log := log
    session := staffed.lend ⟨session.built, catalog⟩ inspector }

def handle (session : Session) : Event → Turn Answer
  | .query query =>
    let turn := session.front
    turn.andThen fun _ => turn.session.toolsAnswer query
  | .page .headings =>
    let turn := session.front
    turn.andThen fun _ =>
      match turn.session.tools? with
      | some desk => .ok (.text desk.headingsPage)
      | none => .error .notReady
  | .page (.preset name) => session.front.andThen fun desk => .ok (.text (desk.presetPage name))
  | .tool query => session.unchanged (session.toolsAnswer query)
  | .reference => session.unchanged (.ok (.text Reference.text))
  | .explain name focus? => session.unchanged (.ok (.messages (Prompt.explainPreset name focus?)))
  | .shared => session.shared.andThen fun snapshot => .ok (.snapshot snapshot)
  | .dropShared => { session with shared? := none }.unchanged (.ok .nothing)
  | .closeDesks =>
    { session with
      frontCatalog? := none
      frontChecker? := none
      toolsCatalog? := none
      toolsChecker? := none }.unchanged (.ok .nothing)
  | .install documents checker => session.install documents checker
  | .setFolder setting? => { session with setting? := setting? }.unchanged (.ok .nothing)
  | .put path node =>
    { session with storage := session.storage.put path node }.unchanged (.ok .nothing)
  | .remove path =>
    { session with storage := session.storage.remove path }.unchanged (.ok .nothing)

/-- The turns of a run of events, each from where the one before it ended. -/
def run (session : Session) : List Event → List (Turn Answer)
  | [] => []
  | event :: events =>
    let turn := session.handle event
    turn :: run turn.session events

end Session

end Espresso
