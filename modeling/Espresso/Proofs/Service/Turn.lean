import Espresso.Proofs.Result
import Espresso.Service.Session

/-!
# Turns

What an event can do to a session, said once. It is served at the front, asks for the shared
catalog, or leaves both alone; the rest is done to the files, to the shared catalog or to the desks
as a whole. What a run of events keeps is proved from this and from nothing else about the events.
-/

namespace Espresso

/-! ### Answers of desks -/

/-- A desk hands out no catalog and looks for no folder. -/
structure OfDesk (result : Except Refusal Answer) : Prop where
  ne_snapshot : ∀ snapshot, result ≠ .ok (.snapshot snapshot)
  ne_noFolder : ∀ path, result ≠ .error (.noFolder path)

theorem ofDesk_text (text : String) : OfDesk (.ok (.text text)) :=
  ⟨nofun, nofun⟩

namespace Desk

variable {desk : Desk}

theorem summarize_ne_noFolder {steps : List Step} {path : String} :
    summarize steps ≠ .error (.noFolder path) :=
  mapError_ne_error nofun

theorem preset_ne_noFolder {name path : String} : desk.preset name ≠ .error (.noFolder path) :=
  mapError_ne_error nofun

theorem analyzePreset_ne_noFolder {name path : String} :
    desk.analyzePreset name ≠ .error (.noFolder path) := by
  refine bind_ne_error (mapError_ne_error nofun) fun preset => ?_
  refine bind_ne_error (mapError_ne_error nofun) fun traced => ?_
  exact bind_ne_error summarize_ne_noFolder nofun

theorem analyzeProfile_ne_noFolder {text path : String} {label? : Option String} :
    desk.analyzeProfile text label? ≠ .error (.noFolder path) := by
  refine bind_ne_error (mapError_ne_error nofun) fun _ => ?_
  refine bind_ne_error (mapError_ne_error nofun) fun traced => ?_
  exact bind_ne_error summarize_ne_noFolder nofun

theorem ofDesk_answer (desk : Desk) (query : Query) : OfDesk (desk.answer query) where
  ne_snapshot snapshot h := by
    cases query with
    | listPresets | validateProfile => cases h
    | getPreset | analyzePreset | analyzeProfile =>
      obtain ⟨_, _, hanswer⟩ := map_eq_ok_iff.mp h
      cases hanswer
  ne_noFolder path h := by
    cases query with
    | listPresets | validateProfile => cases h
    | getPreset => exact preset_ne_noFolder (map_eq_error_iff.mp h)
    | analyzePreset => exact analyzePreset_ne_noFolder (map_eq_error_iff.mp h)
    | analyzeProfile => exact analyzeProfile_ne_noFolder (map_eq_error_iff.mp h)

end Desk

/-- Whether a host brings a catalog of its own to the tools. -/
def Event.isInstall : Event → Bool
  | .install _ _ => true
  | _ => false

/-- Whether an event is about the files or the folder, and no request to the service. -/
def Event.isOutside : Event → Bool
  | .setFolder _ | .put _ _ | .remove _ => true
  | _ => false

namespace Session

variable {session : Session} {event : Event} {snapshot : Snapshot} {desk : Desk}

theorem ofDesk_toolsAnswer (session : Session) (query : Query) :
    OfDesk (session.toolsAnswer query) := by
  unfold toolsAnswer
  split
  · exact Desk.ofDesk_answer _ query
  · exact ⟨nofun, nofun⟩

/-! ### The shared catalog -/

/-- The catalog that the folder would give now. -/
def offer (session : Session) : Snapshot :=
  ⟨session.built, (Catalog.ofSources (session.storage.sources session.folder)).1⟩

/-- What a request for the shared catalog can come to. -/
inductive AskShared (session : Session) : Turn Snapshot → Prop
  | found {snapshot : Snapshot} : session.shared? = some snapshot →
      AskShared session (session.unchanged (.ok snapshot))
  | built : session.shared? = none → session.storage.isFolder session.folder = true →
      AskShared session
        { result := .ok session.offer
          log := (Catalog.ofSources (session.storage.sources session.folder)).2 ++
            [.loaded session.offer.catalog.size session.folder.text]
          session := { session with shared? := some session.offer, built := session.built + 1 } }
  | refused : session.shared? = none → session.storage.isFolder session.folder = false →
      AskShared session (session.unchanged (.error (.noFolder session.folder.text)))

theorem askShared (session : Session) : AskShared session session.shared := by
  unfold shared
  cases hshared : session.shared? with
  | some snapshot => exact .found hshared
  | none =>
    unfold build
    cases hfolder : session.storage.isFolder session.folder with
    | true =>
      simp only [hfolder, if_true]
      exact .built hshared hfolder
    | false =>
      simp only [hfolder, Bool.false_eq_true, if_false]
      exact .refused hshared hfolder

/-! ### The front -/

/-- What a request at the front can come to. -/
inductive AskFront (session : Session) : Turn Desk → Prop
  | opened {desk : Desk} : session.front? = some desk →
      AskFront session (session.unchanged (.ok desk))
  | opens {snapshot : Snapshot} : session.front? = none → session.shared.result = .ok snapshot →
      AskFront session
        { result := .ok ⟨snapshot, .strict⟩
          log := session.shared.log
          session := session.shared.session.openFront snapshot }
  | refused {refusal : Refusal} : session.front? = none → session.shared.result = .error refusal →
      AskFront session
        { result := .error refusal, log := session.shared.log, session := session.shared.session }

theorem askFront (session : Session) : AskFront session session.front := by
  unfold front
  cases hfront : session.front? with
  | some desk => exact .opened hfront
  | none =>
    cases hshared : session.shared.result with
    | ok snapshot =>
      simp only [hshared]
      exact .opens hfront hshared
    | error refusal =>
      simp only [hshared]
      exact .refused hfront hshared

/-! ### Events -/

/-- What any event can come to. -/
inductive Handles (session : Session) : Event → Turn Answer → Prop
  | atFront {event : Event} {answer : Desk → Except Refusal Answer} :
      (∀ desk, OfDesk (answer desk)) → Handles session event (session.front.andThen answer)
  | forCatalog :
      Handles session .shared (session.shared.andThen fun snapshot => .ok (.snapshot snapshot))
  | aside {event : Event} {result : Except Refusal Answer} : OfDesk result →
      Handles session event (session.unchanged result)
  | outside {event : Event} (storage : Storage) (setting? : Option String) :
      Handles session event
        ({ session with storage := storage, setting? := setting? }.unchanged (.ok .nothing))
  | dropShared :
      Handles session .dropShared ({ session with shared? := none }.unchanged (.ok .nothing))
  | closeDesks : Handles session .closeDesks
      ({ session with
        frontCatalog? := none
        frontChecker? := none
        toolsCatalog? := none
        toolsChecker? := none }.unchanged (.ok .nothing))

theorem handles (hevent : event.isInstall = false) :
    Handles session event (session.handle event) := by
  cases event with
  | query query => exact .atFront fun _ => ofDesk_toolsAnswer _ query
  | page page =>
    cases page with
    | headings =>
      refine .atFront fun _ => ?_
      split
      · exact ofDesk_text _
      · exact ⟨nofun, nofun⟩
    | preset name => exact .atFront fun desk => ofDesk_text (desk.presetPage name)
  | tool query => exact .aside (ofDesk_toolsAnswer session query)
  | reference => exact .aside (ofDesk_text _)
  | explain name focus? => exact .aside ⟨nofun, nofun⟩
  | shared => exact .forCatalog
  | dropShared => exact .dropShared
  | closeDesks => exact .closeDesks
  | install documents checker => cases hevent
  | setFolder setting? => exact .outside session.storage setting?
  | put path node => exact .outside (session.storage.put path node) session.setting?
  | remove path => exact .outside (session.storage.remove path) session.setting?

/-- The session after a run of events. -/
def after (session : Session) : List Event → Session
  | [] => session
  | event :: events => (session.handle event).session.after events

/-- What every event of some kind keeps, a run of such events keeps. -/
theorem kept_after {kind : Event → Prop} {kept : Session → Prop}
    (hstep : ∀ session event, kind event → kept session → kept (session.handle event).session)
    {events : List Event} (hevents : ∀ event ∈ events, kind event) (hsession : kept session) :
    kept (session.after events) := by
  induction events generalizing session with
  | nil => exact hsession
  | cons event events ih =>
    obtain ⟨hevent, hrest⟩ := List.forall_mem_cons.mp hevents
    exact ih hrest (hstep session event hevent hsession)

end Session

end Espresso
