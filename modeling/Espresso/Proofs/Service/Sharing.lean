import Espresso.Proofs.Service.Custody

/-!
# The shared catalog

Between two drops of the shared catalog at most one is built, and all who ask for it are given that
one. A request that is refused because there is no folder leaves the session as it was: what follows
goes as if the request had not been made, and looks for the folder anew.
-/

namespace Espresso

/-! ### Records of builds -/

/-- A build that succeeds is recorded as such at its end. -/
def Record.isLoaded : Record → Bool
  | .loaded _ _ => true
  | .filtered _ _ | .rejected _ _ | .unreadable _ => false

theorem Source.isLoaded_of_judge {source : Source} {record : Record}
    (h : source.judge = .error record) : record.isLoaded = false := by
  unfold judge at h
  split at h
  · cases h
    rfl
  · split at h <;> cases h <;> rfl

theorem Catalog.countP_isLoaded_ofSources (sources : List Source) :
    (ofSources sources).2.countP Record.isLoaded = 0 := by
  rw [List.countP_eq_zero]
  intro record hrecord
  obtain ⟨verdict, hverdict, hkept⟩ := List.mem_filterMap.mp hrecord
  obtain ⟨source, -, hjudge⟩ := List.mem_map.mp hverdict
  split at hkept
  · cases hkept
  · cases hkept
    simp [Source.isLoaded_of_judge hjudge]

namespace Session

variable {session middle next : Session} {event : Event} {log : List Record}
  {snapshot : Snapshot}

/-! ### One build -/

/-- What becomes of the shared catalog while it is not dropped: it stays as it is, or it was not
there and is built, which happens once. -/
inductive Sharing (session : Session) (log : List Record) (next : Session) : Prop
  | kept : log.countP Record.isLoaded = 0 → next.shared? = session.shared? →
      next.built = session.built → Sharing session log next
  | built {snapshot : Snapshot} : session.shared? = none → log.countP Record.isLoaded = 1 →
      next.shared? = some snapshot → next.built = session.built + 1 → Sharing session log next

theorem Sharing.shared?_eq (h : Sharing session log next)
    (hshared : session.shared? = some snapshot) : next.shared? = some snapshot := by
  cases h with
  | kept _ hkept => exact hkept.trans hshared
  | built hnone =>
    rw [hshared] at hnone
    cases hnone

theorem Sharing.trans {later : List Record} (hfirst : Sharing session log middle)
    (hsecond : Sharing middle later next) : Sharing session (log ++ later) next := by
  cases hfirst with
  | kept hcount hshared hbuilt =>
    cases hsecond with
    | kept hlater hkept hsame =>
      exact .kept (by rw [List.countP_append, hcount, hlater]) (hkept.trans hshared)
        (hsame.trans hbuilt)
    | built hnone hlater hsome hmore =>
      exact .built (hshared.symm.trans hnone) (by rw [List.countP_append, hcount, hlater]) hsome
        (by rw [hmore, hbuilt])
  | built hnone hcount hsome hbuilt =>
    cases hsecond with
    | kept hlater hkept hsame =>
      exact .built hnone (by rw [List.countP_append, hcount, hlater]) (hkept.trans hsome)
        (hsame.trans hbuilt)
    | built hagain =>
      rw [hsome] at hagain
      cases hagain

theorem AskShared.sharing {turn : Turn Snapshot} (h : AskShared session turn) :
    Sharing session turn.log turn.session := by
  cases h with
  | found | refused => exact .kept rfl rfl rfl
  | built hnone =>
    refine .built hnone ?_ rfl rfl
    rw [List.countP_append, Catalog.countP_isLoaded_ofSources]
    rfl

theorem AskFront.sharing {turn : Turn Desk} (h : AskFront session turn) :
    Sharing session turn.log turn.session := by
  cases h with
  | opened => exact .kept rfl rfl rfl
  | refused => exact session.askShared.sharing
  | opens =>
    -- Opening the front leaves the shared catalog alone, so this is what asking for it did.
    cases session.askShared.sharing with
    | kept hcount hshared hbuilt => exact .kept hcount hshared hbuilt
    | built hnone hcount hsome hbuilt => exact .built hnone hcount hsome hbuilt

theorem Handles.sharing {turn : Turn Answer} (h : Handles session event turn)
    (hevent : event ≠ .dropShared) : Sharing session turn.log turn.session := by
  cases h with
  | atFront => exact session.askFront.sharing
  | forCatalog => exact session.askShared.sharing
  | aside | outside | closeDesks => exact .kept rfl rfl rfl
  | dropShared => exact absurd rfl hevent

/-- The records of a run of events. -/
def records (session : Session) (events : List Event) : List Record :=
  (session.run events).flatMap Turn.log

theorem sharing_after (session : Session) {events : List Event}
    (hevents : ∀ event ∈ events, event.isInstall = false ∧ event ≠ .dropShared) :
    Sharing session (session.records events) (session.after events) := by
  induction events generalizing session with
  | nil => exact .kept rfl rfl rfl
  | cons event events ih =>
    obtain ⟨⟨hinstall, hdrop⟩, hrest⟩ := List.forall_mem_cons.mp hevents
    exact ((handles hinstall).sharing hdrop).trans (ih _ hrest)

/-! ### One catalog handed out -/

theorem AskShared.shared?_eq {turn : Turn Snapshot} (h : AskShared session turn)
    (hresult : turn.result = .ok snapshot) : turn.session.shared? = some snapshot := by
  cases h with
  | found hfound =>
    cases hresult
    exact hfound
  | built =>
    cases hresult
    rfl
  | refused => cases hresult

theorem Handles.shared?_eq {turn : Turn Answer} (h : Handles session event turn)
    (hresult : turn.result = .ok (.snapshot snapshot)) : turn.session.shared? = some snapshot := by
  cases h with
  | atFront hdesk =>
    obtain ⟨desk, _, hanswer⟩ := bind_eq_ok_iff.mp hresult
    exact absurd hanswer ((hdesk desk).ne_snapshot snapshot)
  | forCatalog =>
    obtain ⟨found, hfound, hanswer⟩ := bind_eq_ok_iff.mp hresult
    cases hanswer
    exact session.askShared.shared?_eq hfound
  | aside hdesk => exact absurd hresult (hdesk.ne_snapshot snapshot)
  | outside | dropShared | closeDesks => cases hresult

theorem shared?_after_of_mem_run {events : List Event} {turn : Turn Answer}
    (hevents : ∀ event ∈ events, event.isInstall = false ∧ event ≠ .dropShared)
    (hturn : turn ∈ session.run events) (hresult : turn.result = .ok (.snapshot snapshot)) :
    (session.after events).shared? = some snapshot := by
  induction events generalizing session with
  | nil => cases hturn
  | cons event events ih =>
    obtain ⟨⟨hinstall, _⟩, hrest⟩ := List.forall_mem_cons.mp hevents
    rcases List.mem_cons.mp hturn with rfl | hlater
    · have hgiven := (handles hinstall).shared?_eq hresult
      exact (sharing_after _ hrest).shared?_eq hgiven
    · exact ih hrest hlater

/-- At most one build is recorded and counted, and one catalog is handed out. -/
structure SharesOnce (session : Session) (span : List Event) : Prop where
  loaded_le_one : (session.records span).countP Record.isLoaded ≤ 1
  built_eq : (session.after span).built =
    session.built + (session.records span).countP Record.isLoaded
  same : ∀ first ∈ session.run span, ∀ second ∈ session.run span, ∀ given again,
    first.result = .ok (.snapshot given) → second.result = .ok (.snapshot again) → given = again

theorem sharesOnce {span : List Event}
    (hspan : ∀ event ∈ span, event.isInstall = false ∧ event ≠ .dropShared) :
    session.SharesOnce span where
  loaded_le_one := by
    cases sharing_after session hspan with
    | kept hcount => omega
    | built _ hcount => omega
  built_eq := by
    cases sharing_after session hspan with
    | kept hcount _ hbuilt => omega
    | built _ hcount _ hbuilt => omega
  same first hfirst second hsecond given again hgiven hagain := by
    have hend := shared?_after_of_mem_run hspan hfirst hgiven
    rw [shared?_after_of_mem_run hspan hsecond hagain] at hend
    exact (Option.some.inj hend).symm

/-! ### Refusals -/

/-- There is no shared catalog yet, and no folder to build one from. -/
structure LacksFolder (session : Session) : Prop where
  shared?_eq : session.shared? = none
  isFolder_eq : session.storage.isFolder session.folder = false

theorem AskShared.refused_of_error {turn : Turn Snapshot} {refusal : Refusal}
    (h : AskShared session turn) (hresult : turn.result = .error refusal) :
    session.LacksFolder ∧ turn = session.unchanged (.error (.noFolder session.folder.text)) := by
  cases h with
  | found | built => cases hresult
  | refused hshared hfolder => exact ⟨⟨hshared, hfolder⟩, rfl⟩

theorem AskFront.refused_of_error {turn : Turn Desk} {refusal : Refusal}
    (h : AskFront session turn) (hresult : turn.result = .error refusal) :
    session.LacksFolder ∧ turn = session.unchanged (.error (.noFolder session.folder.text)) := by
  cases h with
  | opened | opens => cases hresult
  | refused _ hshared =>
    obtain ⟨hlacks, hturn⟩ := session.askShared.refused_of_error hshared
    refine ⟨hlacks, ?_⟩
    rw [hturn] at hshared ⊢
    cases hshared
    rfl

theorem Handles.refused_of_noFolder {turn : Turn Answer} {path : String}
    (h : Handles session event turn) (hresult : turn.result = .error (.noFolder path)) :
    session.LacksFolder ∧ turn = session.unchanged (.error (.noFolder session.folder.text)) := by
  cases h with
  | atFront hdesk =>
    rcases bind_eq_error_iff.mp hresult with hfront | ⟨desk, _, hanswer⟩
    · obtain ⟨hlacks, hturn⟩ := session.askFront.refused_of_error hfront
      exact ⟨hlacks, by rw [hturn]; rfl⟩
    · exact absurd hanswer ((hdesk desk).ne_noFolder path)
  | forCatalog =>
    rcases bind_eq_error_iff.mp hresult with hshared | ⟨_, _, hanswer⟩
    · obtain ⟨hlacks, hturn⟩ := session.askShared.refused_of_error hshared
      exact ⟨hlacks, by rw [hturn]; rfl⟩
    · cases hanswer
  | aside hdesk => exact absurd hresult (hdesk.ne_noFolder path)
  | outside | dropShared | closeDesks => cases hresult

theorem refused_of_noFolder {path : String}
    (h : (session.handle event).result = .error (.noFolder path)) :
    session.LacksFolder ∧
      session.handle event = session.unchanged (.error (.noFolder session.folder.text)) := by
  cases hevent : event.isInstall with
  | false => exact (handles hevent).refused_of_noFolder h
  | true =>
    cases event with
    | install => cases h
    | _ => cases hevent

/-! ### The folder of the moment -/

/-- What is answered once the folder was looked for. -/
def ifFolder (session : Session) (answer : Except Refusal Answer) : Except Refusal Answer :=
  if session.storage.isFolder session.folder then answer
  else .error (.noFolder session.folder.text)

/-- Everyone who needs a catalog is answered over the one of the folder as it is now, or refused if
there is no such folder now. -/
structure LooksForFolder (session : Session) : Prop where
  shared : (session.handle .shared).result = session.ifFolder (.ok (.snapshot session.offer))
  front : session.front? = none → ∀ event answer,
    Desk.respond? ⟨session.offer, .strict⟩ event = some answer →
    (session.handle event).result = session.ifFolder answer

theorem shared_result (hshared : session.shared? = none) :
    session.shared.result =
      if session.storage.isFolder session.folder then .ok session.offer
      else .error (.noFolder session.folder.text) := by
  have hask := session.askShared
  generalize session.shared = turn at hask ⊢
  cases hask with
  | found hfound =>
    rw [hshared] at hfound
    cases hfound
  | built _ hfolder => rw [if_pos hfolder]
  | refused _ hfolder =>
    rw [if_neg (by simp [hfolder])]
    rfl

theorem front_result_of_refused {refusal : Refusal} (hfront : session.front? = none)
    (hshared : session.shared.result = .error refusal) : session.front.result = .error refusal := by
  unfold front
  simp only [hfront, hshared]

theorem result_handle_of_refused {desk : Desk} {answer : Except Refusal Answer} {refusal : Refusal}
    (hfront : session.front.result = .error refusal)
    (hrespond : desk.respond? event = some answer) :
    (session.handle event).result = .error refusal := by
  cases event with
  | query query =>
    simp only [handle, Turn.andThen, hfront]
    rfl
  | page page =>
    cases page <;>
    · simp only [handle, Turn.andThen, hfront]
      rfl
  | tool | reference | explain | shared | dropShared | closeDesks | install | setFolder | put
  | remove => cases hrespond

theorem looksForFolder (hshared : session.shared? = none) : session.LooksForFolder where
  shared := by
    have hresult := shared_result hshared
    unfold ifFolder
    simp only [handle, Turn.andThen, hresult]
    split <;> rfl
  front hfront event answer hrespond := by
    have hresult := shared_result hshared
    unfold ifFolder
    split at hresult
    case isTrue hfolder =>
      have hopened := front_eq_of_closed hfront hresult
      rw [if_pos hfolder]
      refine result_handle ?_ ?_ hrespond
      · rw [hopened]
      · rw [hopened]
        exact (keeps_openFront session.shared.session session.offer).tools?_eq
    case isFalse hfolder =>
      rw [if_neg hfolder]
      exact result_handle_of_refused (front_result_of_refused hfront hresult) hrespond

theorem shared?_after_of_isOutside {changes : List Event}
    (hchanges : ∀ change ∈ changes, change.isOutside = true) :
    (session.after changes).shared? = session.shared? := by
  have hstep (earlier : Session) (change : Event) (hchange : change.isOutside = true)
      (hshared : earlier.shared? = session.shared?) :
      (earlier.handle change).session.shared? = session.shared? := by
    cases change with
    | setFolder | put | remove => exact hshared
    | _ => cases hchange
  exact kept_after hstep hchanges rfl

/-- The request changes nothing and is not recorded. What follows goes as without it, and when the
files or the folder have changed in between, they count as they are by then. -/
structure Unnoticed (session : Session) (event : Event) : Prop where
  lacksFolder : session.LacksFolder
  handle_eq : session.handle event = session.unchanged (.error (.noFolder session.folder.text))
  run_eq : ∀ events, session.run (event :: events) = session.handle event :: session.run events
  looksAgain : ∀ changes, (∀ change ∈ changes, change.isOutside = true) →
    ((session.handle event).session.after changes).LooksForFolder

theorem unnoticed {path : String} (h : (session.handle event).result = .error (.noFolder path)) :
    session.Unnoticed event := by
  obtain ⟨hlacks, hturn⟩ := refused_of_noFolder h
  have hsession : (session.handle event).session = session := by
    rw [hturn]
    rfl
  refine ⟨hlacks, hturn, fun events => ?_, fun changes hchanges => ?_⟩
  · change session.handle event :: (session.handle event).session.run events = _
    rw [hsession]
  · rw [hsession]
    exact looksForFolder ((shared?_after_of_isOutside hchanges).trans hlacks.shared?_eq)

/-- **One build, and refusals without a trace.** Wherever the service has got to, at most one
catalog is built until the shared one is dropped, and all who ask for it in between are given the
same. A request that is refused for want of a folder leaves everything as it was, and the next one
looks for the folder as it is then. -/
theorem sharesOnce_and_unnoticed (session : Session) :
    (∀ span, (∀ event ∈ span, event.isInstall = false ∧ event ≠ .dropShared) →
      session.SharesOnce span) ∧
    ∀ event path, (session.handle event).result = .error (.noFolder path) →
      session.Unnoticed event :=
  ⟨fun _ hspan => sharesOnce hspan, fun _ _ hrefused => unnoticed hrefused⟩

/-- A service that comes up before its folder does. -/
def bareSession : Session :=
  start .empty shelf none

theorem ifFolder_bareSession (answer : Except Refusal Answer) :
    bareSession.ifFolder answer = .error (.noFolder "/profiles") := by
  have hfolder : bareSession.storage.isFolder bareSession.folder = false := by decide +kernel
  have htext : bareSession.folder.text = "/profiles" := by decide +kernel
  unfold ifFolder
  rw [if_neg (by simp [hfolder]), htext]

theorem ifFolder_mended (answer : Except Refusal Answer) :
    (bareSession.after [.put shelf .folder]).ifFolder answer = answer := by
  have hfolder : (bareSession.after [.put shelf .folder]).storage.isFolder
      (bareSession.after [.put shelf .folder]).folder = true := by decide +kernel
  unfold ifFolder
  rw [if_pos hfolder]

/-- The catalog is refused while there is no folder, and given once there is one. -/
theorem shared_bareSession :
    (bareSession.handle .shared).result = .error (.noFolder "/profiles") ∧
      (((bareSession.handle .shared).session.after [.put shelf .folder]).handle .shared).result =
        .ok (.snapshot (bareSession.after [.put shelf .folder]).offer) ∧
      (bareSession.records [.shared, .put shelf .folder, .shared, .remove shelf, .shared]).countP
        Record.isLoaded ≤ 1 := by
  obtain ⟨hshares, hunnoticed⟩ := sharesOnce_and_unnoticed bareSession
  have hrefused : (bareSession.handle .shared).result = .error (.noFolder "/profiles") :=
    (looksForFolder rfl).shared.trans (ifFolder_bareSession _)
  have hfirst := hunnoticed .shared _ hrefused
  have hlooks := hfirst.looksAgain [.put shelf .folder] (by simp [Event.isOutside])
  have hsame : (bareSession.handle .shared).session = bareSession := by
    rw [hfirst.handle_eq]
    rfl
  refine ⟨hrefused, ?_, ?_⟩
  · rw [hlooks.shared, hsame, ifFolder_mended]
  · exact (hshares _ (by simp [Event.isInstall])).loaded_le_one

end Session

end Espresso
