import Espresso.Proofs.Service.Agreement

/-!
# Documents that are not analyzed

A document that is handed in is checked before anything else, and the check asks for all that
reading, tracing and summarizing need. So a refusal always comes from the check and lists what it
found. The label of a document is for a message that is never needed.
-/

namespace Espresso

/-- Between a heading and the hints, the message has a line for each of the errors. The lines keep
the order of the errors and are numbered from one on. -/
def Desk.Numbers (errors : List String) (message : String) : Prop :=
  ∃ items : List String,
    message = Text.lines (["Profile validation failed. Please fix the following issues:", ""] ++
      items ++ [""] ++ hints) ∧
    items.length = errors.length ∧
      ∀ index error, errors[index]? = some error → items[index]? = some s!"{index + 1}. {error}"

namespace Text

theorem length_numbered (items : List String) : (numbered items).length = items.length := by
  simp [numbered, counted]

theorem getElem?_numbered {items : List String} {index : Nat} {item : String}
    (h : items[index]? = some item) : (numbered items)[index]? = some s!"{index + 1}. {item}" := by
  simp [numbered, counted, List.getElem?_zipIdx, h]

end Text

namespace Desk

variable {profile : Profile} {steps : List Step} {timeline : Timeline} {text : String}

theorem numbers_advice (errors : List String) : Numbers errors (advice errors) :=
  ⟨Text.numbered errors, rfl, Text.length_numbered errors, fun _ _ => Text.getElem?_numbered⟩

theorem traceProfile_eq_ok_iff :
    traceProfile text = .ok (profile, steps, timeline) ↔
      Profile.parse text = .ok profile ∧ profile.steps = .ok steps ∧
        Timeline.trace steps = .ok timeline := by
  unfold traceProfile
  simp only [bind_eq_ok_iff, mapError_eq_ok_iff]
  constructor
  · rintro ⟨_, hparse, _, hsteps, _, htrace, hresult⟩
    cases hresult
    exact ⟨hparse, hsteps, htrace⟩
  · rintro ⟨hparse, hsteps, htrace⟩
    exact ⟨profile, hparse, steps, hsteps, timeline, htrace, rfl⟩

end Desk

/-- What a checker accepts, whatever types it lets pass, can be traced and summarized. -/
theorem Checker.exists_traceProfile {checker : Checker} {text : String}
    (h : checker.accepts text = true) :
    ∃ profile steps timeline summaries, Desk.traceProfile text = .ok (profile, steps, timeline) ∧
      StepSummary.ofSteps steps = .ok summaries := by
  obtain ⟨profile, title, notes, shot, steps, hholds, _, hread, hessentials⟩ := accepts_iff.mp h
  obtain ⟨timeline, htrace⟩ := Timeline.exists_trace_eq_ok_iff.mpr hessentials
  obtain ⟨summaries, hsummaries⟩ := StepSummary.exists_ofSteps_eq_ok hessentials
  have hsteps : profile.steps = .ok steps := by
    rw [hholds.steps_eq_readAll, hread]
    rfl
  exact ⟨profile, steps, timeline, summaries,
    Desk.traceProfile_eq_ok_iff.mpr ⟨hholds.parsed, hsteps, htrace⟩, hsummaries⟩

namespace Session

/-- What the tools answer to a document they are to analyze under some label. -/
def analysis (session : Session) (text : String) (label? : Option String) :
    Except Refusal Answer :=
  (session.handle (.tool (.analyzeProfile text label?))).result

/-- A document is refused because of the verdict on it, with the errors of the verdict, or else it
is reported on. The label has no say. -/
structure AnalyzesBy (session : Session) (text : String) (verdict : Verdict) : Prop where
  refused_iff : ∀ label?, (∃ refusal, session.analysis text label? = .error refusal) ↔
    verdict.valid = false
  refused : verdict.valid = false → ∃ message, Desk.Numbers verdict.errors message ∧
    ∀ label?, session.analysis text label? = .error (.invalidRequest message)
  reported : verdict.valid = true → ∃ profile steps timeline summaries,
    Profile.parse text = .ok profile ∧ profile.steps = .ok steps ∧
      Timeline.trace steps = .ok timeline ∧ StepSummary.ofSteps steps = .ok summaries ∧
        ∀ label?, session.analysis text label? =
          .ok (.report ⟨timeline, summaries, none, profile.title?, verdict.warnings⟩)

variable {session : Session} {desk : Desk} {text : String}

theorem analysis_eq_error (h : session.tools? = some desk)
    (hrejected : desk.checker.accepts text = false) (label? : Option String) :
    session.analysis text label? =
      .error (.invalidRequest (Desk.advice (desk.checker.errors text))) := by
  have happrove : desk.checker.approve text ≠ .ok () := by
    rw [ne_eq, Checker.approve_eq_ok_iff, hrejected]
    exact Bool.false_ne_true
  unfold analysis
  rw [result_tool h, Desk.answer, Desk.analyzeProfile_of_not_approved happrove]
  rfl

theorem analysis_eq_ok (h : session.tools? = some desk)
    (haccepts : desk.checker.accepts text = true) {profile : Profile} {steps : List Step}
    {timeline : Timeline} {summaries : List StepSummary}
    (htrace : Desk.traceProfile text = .ok (profile, steps, timeline))
    (hsummaries : StepSummary.ofSteps steps = .ok summaries) (label? : Option String) :
    session.analysis text label? =
      .ok (.report
        ⟨timeline, summaries, none, profile.title?, desk.checker.comments text⟩) := by
  have hsummarize : Desk.summarize steps = .ok summaries := mapError_eq_ok_iff.mpr hsummaries
  unfold analysis
  rw [result_tool h, Desk.answer,
    Desk.analyzeProfile_of_ok (Checker.approve_eq_ok_iff.mpr haccepts) htrace hsummarize]
  rfl

/-- **Only the check refuses.** Tools with any checker analyze a document under any label if and
only if they find it valid. If they do not, the refusal numbers the errors that they find. -/
theorem exists_verdict_and_analyzesBy (h : session.tools? = some desk) (text : String) :
    ∃ verdict, (session.handle (.tool (.validateProfile text))).result = .ok (.verdict verdict) ∧
      session.AnalyzesBy text verdict := by
  refine ⟨desk.validateProfile text, result_tool h _, ?_⟩
  have hvalid : (desk.validateProfile text).valid = desk.checker.accepts text := rfl
  cases haccepts : desk.checker.accepts text with
  | false =>
    have herror := analysis_eq_error h haccepts
    constructor
    · intro label?
      rw [hvalid, haccepts]
      exact iff_of_true ⟨_, herror label?⟩ rfl
    · intro _
      exact ⟨_, Desk.numbers_advice _, herror⟩
    · intro hreported
      rw [hvalid, haccepts] at hreported
      cases hreported
  | true =>
    obtain ⟨profile, steps, timeline, summaries, htrace, hsummaries⟩ :=
      Checker.exists_traceProfile haccepts
    have hreport := analysis_eq_ok h haccepts htrace hsummaries
    constructor
    · intro label?
      rw [hvalid, haccepts, hreport label?]
      simp
    · intro hrefused
      rw [hvalid, haccepts] at hrefused
      cases hrefused
    · intro _
      obtain ⟨hparse, hsteps, htimeline⟩ := Desk.traceProfile_eq_ok_iff.mp htrace
      exact ⟨profile, steps, timeline, summaries, hparse, hsteps, htimeline, hsummaries, hreport⟩

/-- At the desk over `brew`, that document is reported on; a document of a title alone lacks three
things. -/
theorem analysis_brewSession :
    (∃ report, ∀ label?, brewSession.analysis brew.text label? = .ok (.report report)) ∧
    ∃ message, Desk.Numbers
        ["settings_profile_type is missing; only settings_2c (advanced) profiles are supported",
         "Missing required command 'profile_notes'",
         "Missing required command 'advanced_shot'"] message ∧
      ∀ label?, brewSession.analysis "profile_title A" label? =
        .error (.invalidRequest message) := by
  have htools : brewSession.tools? = some brewDesk := rfl
  constructor
  · obtain ⟨verdict, hverdict, hanalyzes⟩ := exists_verdict_and_analyzesBy htools brew.text
    rw [result_tool htools] at hverdict
    cases hverdict
    obtain ⟨_, _, _, _, _, _, _, _, hreport⟩ := hanalyzes.reported (by decide +kernel)
    exact ⟨_, hreport⟩
  · obtain ⟨verdict, hverdict, hanalyzes⟩ := exists_verdict_and_analyzesBy htools "profile_title A"
    rw [result_tool htools] at hverdict
    cases hverdict
    obtain ⟨message, hnumbers, hrefused⟩ := hanalyzes.refused (by decide +kernel)
    have herrors : Checker.strict.errors "profile_title A" =
        ["settings_profile_type is missing; only settings_2c (advanced) profiles are supported",
         "Missing required command 'profile_notes'",
         "Missing required command 'advanced_shot'"] := by decide +kernel
    refine ⟨message, ?_, hrefused⟩
    rw [← herrors]
    exact hnumbers

end Session

end Espresso
