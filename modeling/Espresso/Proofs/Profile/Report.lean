import Espresso.Proofs.Grammar.Completion
import Espresso.Proofs.Profile.Groups
import Espresso.Proofs.Profile.Lookup
import Espresso.Proofs.Text.Line

/-!
# Reports of what cannot be read

A checker answers every text. Where the document or its steps cannot be read it says so on one line,
and ends that line with the characters on which reading stopped: they stand in the document as they
are shown. Nothing else that may go wrong with a text keeps the checker from its answer.
-/

namespace Espresso

/-! ### What a report says -/

theorem Reading.IsName.unbroken {name : List Char} (h : IsName name) : Text.Unbroken name :=
  Text.unbroken_of_not_isBlank fun c hc => Text.isBlank_eq_false_of_isKeyChar (h.2 c hc)

theorem Reading.unbroken_tagLike (text : List Char) : Text.Unbroken (tagLike text) := by
  refine Text.unbroken_of_not_isBlank fun c hc => ?_
  have hlike := Text.of_mem_takeWhile hc
  simp only [Bool.not_eq_true', Bool.or_eq_false_iff] at hlike
  exact hlike.1.1

theorem Malformation.unbroken_message {shape : Malformation} {text : List Char}
    (h : (Fault.malformed shape).Shows text) : Text.Unbroken shape.message.toList := by
  cases shape with
  | unspacedKey name =>
    have hname : Reading.IsName name.toList := h
    have hfront : Text.Unbroken ("Expected whitespace after key '" ++ name).toList :=
      Text.unbroken_append (by decide) hname.unbroken
    exact Text.unbroken_append hfront (by decide)
  | flag | number | brace | key | stepOpening | stepClosing | trailing => decide

/-! ### What a report shows of the input that is left -/

/-- What is shown is the front of the first line that is left, without the blanks before it, and
stands in the document. -/
structure ParseError.ShowsPlace (error : ParseError) (document shown : List Char) : Prop where
  first_line : ∃ line, (Text.splitLines (Text.trim error.remaining)).head? = some line ∧
    shown = line.take excerptLimit
  ne_nil : shown ≠ []
  length_le : shown.length ≤ 40
  startsBlank_eq_false : Text.startsBlank shown = false
  piece : shown <:+: document

/-- The entry is one line, and unless nothing but blanks is left it ends with the place where
reading stopped. -/
structure ParseError.ReportedIn (error : ParseError) (document entry : String) : Prop where
  unbroken : Text.Unbroken entry.toList
  ends_near : ¬ Text.AllBlank error.remaining → ∃ front shown,
    entry = front ++ " near '" ++ shown ++ "'" ∧
      error.ShowsPlace document.toList shown.toList

namespace ParseError

variable {error : ParseError}

/-- The characters that a report shows. -/
def place (error : ParseError) : List Char :=
  (Text.firstLine (Text.trim error.remaining)).take excerptLimit

theorem place_isPrefix (error : ParseError) :
    error.place <+: Text.firstLine (Text.trim error.remaining) :=
  List.take_prefix _ _

theorem unbroken_place (error : ParseError) : Text.Unbroken error.place :=
  (Text.unbroken_firstLine _).of_isPrefix error.place_isPrefix

theorem place_prefix_trim (error : ParseError) : error.place <+: Text.trim error.remaining :=
  error.place_isPrefix.trans (Text.firstLine_isPrefix _)

theorem place_isInfix (error : ParseError) : error.place <:+: error.remaining :=
  (error.place_prefix_trim.trans (Text.trim_prefix_skipBlanks _)).isInfix.trans
    (Text.skipBlanks_suffix _).isInfix

/-- A trimmed text that is not empty has a first line, and that line is not empty either. -/
theorem showsPlace_place {document : List Char} (hleft : ¬ Text.AllBlank error.remaining)
    (hpiece : error.place <:+: document) : error.ShowsPlace document error.place where
  first_line := ⟨_, Text.head?_splitLines (mt Text.trim_eq_nil_iff.mp hleft), rfl⟩
  ne_nil := by
    have hline := Text.firstLine_ne_nil (mt Text.trim_eq_nil_iff.mp hleft)
      (Text.startsBlank_trim error.remaining)
    simp [place, excerptLimit, hline]
  length_le := List.length_take_le _ _
  startsBlank_eq_false :=
    Text.startsBlank_of_isPrefix error.place_prefix_trim (Text.startsBlank_trim _)
  piece := hpiece

/-- What a report says before it shows anything. -/
def lead (error : ParseError) : String :=
  ParseError.report ⟨error.fault, []⟩

theorem report_eq (error : ParseError) :
    error.report =
      if (Text.trim error.remaining).isEmpty then error.lead
      else error.lead ++ " near '" ++ String.ofList error.place ++ "'" :=
  rfl

theorem report_of_allBlank (h : Text.AllBlank error.remaining) : error.report = error.lead := by
  rw [report_eq, if_pos (by simpa using Text.trim_eq_nil_iff.mpr h)]

theorem report_of_not_allBlank (h : ¬ Text.AllBlank error.remaining) :
    error.report = error.lead ++ " near '" ++ String.ofList error.place ++ "'" := by
  rw [report_eq, if_neg (by simpa using mt Text.trim_eq_nil_iff.mp h)]

/-- Keys and tags have no blank in them. -/
theorem unbroken_lead {text : List Char} (h : error.fault.Shows text) :
    Text.Unbroken error.lead.toList := by
  obtain ⟨fault, remaining⟩ := error
  cases fault with
  | malformed shape => exact Malformation.unbroken_message h
  | unterminated =>
    have hmessage : Text.Unbroken "Unterminated '\x7b' string".toList := by decide
    exact hmessage
  | unrecognized tag expected =>
    obtain ⟨rfl, hexpected⟩ := h
    have htag : Text.Unbroken (String.ofList (Reading.tagLike text)).toList := by
      rw [String.toList_ofList]
      exact Reading.unbroken_tagLike text
    have hfront : Text.Unbroken
        ("Unrecognized value '" ++ String.ofList (Reading.tagLike text)).toList :=
      Text.unbroken_append (by decide) htag
    have hchoices : Text.Unbroken (String.intercalate ", " expected).toList :=
      Text.unbroken_intercalate (by decide) fun word hword => (hexpected word hword).unbroken
    have hmiddle : Text.Unbroken ("Unrecognized value '" ++
        String.ofList (Reading.tagLike text) ++ "' (expected one of: ").toList :=
      Text.unbroken_append hfront (by decide)
    exact Text.unbroken_append (Text.unbroken_append hmiddle hchoices) (by decide)
  | reported family message => cases h

/-- A report is about any document in which the characters stand that it shows. -/
theorem reportedIn_report {document : String} (hshows : error.fault.Shows error.remaining)
    (hpiece : error.place <:+: document.toList) : error.ReportedIn document error.report := by
  have hlead := unbroken_lead hshows
  constructor
  · by_cases hleft : Text.AllBlank error.remaining
    · rw [report_of_allBlank hleft]
      exact hlead
    · have hplace : Text.Unbroken (String.ofList error.place).toList := by
        rw [String.toList_ofList]
        exact error.unbroken_place
      have hnear : Text.Unbroken (error.lead ++ " near '").toList :=
        Text.unbroken_append hlead (by decide)
      rw [report_of_not_allBlank hleft]
      exact Text.unbroken_append (Text.unbroken_append hnear hplace) (by decide)
  · intro hleft
    refine ⟨error.lead, String.ofList error.place, report_of_not_allBlank hleft, ?_⟩
    rw [String.toList_ofList]
    exact showsPlace_place hleft hpiece

/-- What stands before an entry that says what cannot be read. -/
theorem ReportedIn.after {document entry front : String} (h : error.ReportedIn document entry)
    (hfront : Text.Unbroken front.toList) : error.ReportedIn document (front ++ entry) where
  unbroken := Text.unbroken_append hfront h.unbroken
  ends_near hleft := by
    obtain ⟨lead, shown, rfl, hplace⟩ := h.ends_near hleft
    exact ⟨front ++ lead, shown, by simp only [String.append_assoc], hplace⟩

end ParseError

/-! ### Where the input that is left stands in the document -/

theorem SpellsText.infix_token {endsWord : Char → Bool} {p : Prop} {value : String}
    {token : List Char} (h : SpellsText endsWord p value token) : value.toList <:+: token := by
  cases h with
  | @braced inner _ =>
    rw [String.toList_ofList]
    exact ⟨['{'], ['}'], rfl⟩
  | word _ _ _ => exact ⟨[], [], by simp⟩

namespace Profile

variable {text shot : String} {profile : Profile} {error : ParseError}

theorem body_suffix (text : String) : body text <:+ text.toList :=
  List.dropWhile_suffix _

theorem shot_isInfix (hparse : Profile.parse text = .ok profile) (hshot : profile.shot? = some shot) :
    shot.toList <:+: text.toList := by
  obtain ⟨p, token, hpiece, hspelled⟩ :=
    Reading.exists_piece_of_mem (parse_eq_ok_iff.mp hparse) (Entry.known_mem_of_first? hshot)
  have htoken : token <:+: text.toList := hpiece.trans (body_suffix text).isInfix
  cases hspelled with
  | @known _ _ gap value _ _ hvalue =>
    have hspells : SpellsText (Vocabulary.endsWord CommandKey) p shot value := hvalue
    have hvalueToken : value <:+: (Tagged.tag CommandKey.advancedShot).toList ++ gap ++ value :=
      (List.suffix_append _ value).isInfix
    exact (hspells.infix_token.trans hvalueToken).trans htoken

theorem reportedIn_of_parse (hparse : Profile.parse text = .error error) :
    error.ReportedIn text error.report := by
  have hread : Reading.commandReader.readWhole (body text) = .error error :=
    Espresso.map_eq_error_iff.mp hparse
  obtain ⟨hshows, front, _, _, hbody, _, _⟩ :=
    Reading.exists_completion_of_fails_commands (ItemReader.fails_of_readWhole hread)
  have hremaining : error.remaining <:+ body text := ⟨front, hbody.symm⟩
  exact ParseError.reportedIn_report hshows
    (error.place_isInfix.trans (hremaining.trans (body_suffix text)).isInfix)

theorem steps_eq_error_iff {failure : Failure} :
    profile.steps = .error failure ↔
      (profile.advancedShot? = none ∧ failure = .missing ⟨CommandKey.advancedShot.tag, "profile"⟩) ∨
        ∃ shot error, profile.advancedShot? = some shot ∧ Step.readAll shot = .error error ∧
          failure = .unreadable error := by
  unfold steps
  cases profile.advancedShot? with
  | none => simp [eq_comm]
  | some shot => simp [mapError_eq_error_iff, @eq_comm _ failure]

theorem steps_eq_unreadable_iff :
    profile.steps = .error (.unreadable error) ↔
      ∃ shot, profile.advancedShot? = some shot ∧ Step.readAll shot = .error error := by
  rw [steps_eq_error_iff]
  simp

/-- The line feed that closes the text of the steps is not in the document, and no line has one. -/
theorem reportedIn_of_steps (hparse : Profile.parse text = .ok profile)
    (hsteps : profile.steps = .error (.unreadable error)) :
    error.ReportedIn text error.report := by
  obtain ⟨shot, hshot, hread⟩ := steps_eq_unreadable_iff.mp hsteps
  rw [advancedShot?_eq] at hshot
  obtain ⟨value, hvalue, rfl⟩ := Option.map_eq_some_iff.mp hshot
  obtain ⟨hshows, front, _, _, htext, _⟩ :=
    Reading.exists_completion_of_fails_steps (ItemReader.fails_of_readWhole hread)
  rw [String.toList_append] at htext
  have hremaining : error.remaining <:+ value.toList ++ ['\n'] := ⟨front, htext.symm⟩
  have hplace : error.place <:+: value.toList :=
    error.unbroken_place.infix_of_concat (error.place_isInfix.trans hremaining.isInfix)
  exact ParseError.reportedIn_report hshows (hplace.trans (shot_isInfix hparse hvalue))

end Profile

/-! ### The answers of a checker -/

/-- What could not be read, of a problem that says so. -/
def Problem.cause? : Problem → Option ParseError
  | unreadable error => some error
  | unreadableSteps error => some error
  | _ => none

namespace Checker

variable {checker : Checker} {text : String} {profile : Profile} {error : ParseError}

theorem unreadableSteps_mem_shotProblems_iff :
    .unreadableSteps error ∈ shotProblems profile ↔
      ∃ shot, profile.advancedShot? = some shot ∧ Step.readAll shot = .error error := by
  unfold shotProblems
  cases profile.advancedShot? with
  | none => simp
  | some shot =>
    cases hread : Step.readAll shot with
    | ok steps => simp [hread, stepProblems]
    | error found => simp [hread, eq_comm]

theorem unreadable_not_mem_shotProblems : .unreadable error ∉ shotProblems profile := by
  unfold shotProblems
  cases profile.advancedShot? with
  | none => simp
  | some shot => cases hread : Step.readAll shot <;> simp [hread, stepProblems]

theorem unreadable_mem_problems_iff :
    .unreadable error ∈ checker.problems text ↔ Profile.parse text = .error error := by
  cases hparse : Profile.parse text with
  | error found =>
    rw [problems_of_error hparse]
    simp [eq_comm]
  | ok profile =>
    rw [problems_eq hparse]
    simp [typeProblems, demand, unreadable_not_mem_shotProblems]

theorem unreadableSteps_mem_problems_iff :
    .unreadableSteps error ∈ checker.problems text ↔
      ∃ profile, Profile.parse text = .ok profile ∧ profile.steps = .error (.unreadable error) := by
  cases hparse : Profile.parse text with
  | error found =>
    rw [problems_of_error hparse]
    simp
  | ok profile =>
    rw [problems_eq hparse]
    simp [typeProblems, demand, unreadableSteps_mem_shotProblems_iff,
      Profile.steps_eq_unreadable_iff]

theorem missingShot_mem_problems (hparse : Profile.parse text = .ok profile)
    (hshot : profile.advancedShot? = none) :
    .missingCommand .advancedShot ∈ checker.problems text := by
  rw [problems_eq hparse]
  simp [shotProblems, hshot]

theorem reportedIn_of_mem_problems {problem : Problem} (hproblem : problem ∈ checker.problems text)
    (hcause : problem.cause? = some error) : error.ReportedIn text problem.message := by
  cases problem with
  | unreadable found =>
    cases hcause
    exact Profile.reportedIn_of_parse (unreadable_mem_problems_iff.mp hproblem)
  | unreadableSteps found =>
    cases hcause
    obtain ⟨profile, hparse, hsteps⟩ := unreadableSteps_mem_problems_iff.mp hproblem
    exact (Profile.reportedIn_of_steps hparse hsteps).after (by decide)
  | wrongType | missingCommand | missingProperty => cases hcause

/-- **One line for what cannot be read.** A checker answers every text. If the document cannot be
read, the answer is this one error, without a comment. If it can be read and its steps cannot,
either there are none, which is reported as such, or the error is reported. In both cases the error
is one line, and unless nothing but blanks is left it ends with the characters of the document on
which reading stopped. -/
theorem unreadable_reported_on_one_line (checker : Checker) (text : String) :
    (∀ error, Profile.parse text = .error error →
      checker.problems text = [.unreadable error] ∧ checker.errors text = [error.report] ∧
        checker.comments text = []) ∧
    (∀ profile, Profile.parse text = .ok profile →
      (∀ error, .unreadable error ∉ checker.problems text) ∧
      (∀ error, .unreadableSteps error ∈ checker.problems text ↔
        profile.steps = .error (.unreadable error)) ∧
      ∀ failure, profile.steps = .error failure →
        .missingCommand .advancedShot ∈ checker.problems text ∨
          ∃ error, failure = .unreadable error) ∧
    ∀ problem ∈ checker.problems text, ∀ error, problem.cause? = some error →
      error.ReportedIn text problem.message := by
  refine ⟨fun error hparse => ?_, fun profile hparse => ⟨fun error => ?_, fun error => ?_,
    fun failure hsteps => ?_⟩, fun problem hproblem error => reportedIn_of_mem_problems hproblem⟩
  · have hproblems := problems_of_error hparse checker
    refine ⟨hproblems, ?_, comments_of_error hparse checker⟩
    unfold errors
    rw [hproblems]
    rfl
  · rw [unreadable_mem_problems_iff, hparse]
    simp
  · rw [unreadableSteps_mem_problems_iff]
    constructor
    · rintro ⟨other, hother, hsteps⟩
      cases hparse.symm.trans hother
      exact hsteps
    · exact fun hsteps => ⟨profile, hparse, hsteps⟩
  · rcases Profile.steps_eq_error_iff.mp hsteps with ⟨hshot, _⟩ | ⟨_, error, _, _, hfailure⟩
    · exact .inl (missingShot_mem_problems hparse hshot)
    · exact .inr ⟨error, hfailure⟩

/-- A document with a beverage that nobody knows. -/
def mudText : String :=
  "profile_title Dregs\nbeverage_type  mud\r\nprofile_notes none\n"

/-- A document whose step has a pump that nobody knows, with more behind it than one line shows. -/
def steamText : String :=
  "advanced_shot \x7b\n\x7bpump\tsteam of eight bar for as long as it takes\u2028seconds 4\x7d" ++
    "\n\x7d"

theorem unreadable_reported_on_one_line_texts :
    (∃ error, Profile.parse mudText = .error error ∧ strict.errors mudText = [error.report] ∧
      strict.comments mudText = [] ∧ ¬ Text.AllBlank error.remaining ∧
      error.ReportedIn mudText error.report) ∧
    ∃ profile error, Profile.parse steamText = .ok profile ∧
      profile.steps = .error (.unreadable error) ∧ ¬ Text.AllBlank error.remaining ∧
      error.ReportedIn steamText ("advanced_shot: " ++ error.report) ∧
      error.place = "steam of eight bar for as long as it tak".toList := by
  have hmud : failure? (Profile.parse mudText) = some ⟨.unrecognized "mud" (Tagged.tags Beverage),
      "mud\r\nprofile_notes none\n".toList⟩ := by decide +kernel
  have hsteam : ((Profile.parse steamText).toOption.bind fun profile => failure? profile.steps) =
      some (.unreadable ⟨.unrecognized "steam" (Tagged.tags Pump),
        "steam of eight bar for as long as it takes\u2028seconds 4\x7d\n\n".toList⟩) := by
    decide +kernel
  obtain ⟨profile, hparse, hfailure⟩ := Option.bind_eq_some_iff.mp hsteam
  rw [toOption_eq_some_iff] at hparse
  rw [failure?_eq_some_iff] at hfailure hmud
  obtain ⟨hunreadable, -, hmudReports⟩ := unreadable_reported_on_one_line strict mudText
  obtain ⟨hproblems, herrors, hcomments⟩ := hunreadable _ hmud
  obtain ⟨-, hreadable, hsteamReports⟩ := unreadable_reported_on_one_line strict steamText
  have hproblem := ((hreadable profile hparse).2.1 _).mpr hfailure
  refine ⟨⟨_, hmud, herrors, hcomments, ?_, ?_⟩, profile, _, hparse, hfailure, ?_, ?_, ?_⟩
  · exact fun hblank => absurd (hblank 'm' (by decide)) (by decide)
  · exact hmudReports _ (hproblems ▸ List.mem_singleton_self _) _ rfl
  · exact fun hblank => absurd (hblank 's' (by decide)) (by decide)
  · exact hsteamReports _ hproblem _ rfl
  · decide +kernel

end Checker

end Espresso
