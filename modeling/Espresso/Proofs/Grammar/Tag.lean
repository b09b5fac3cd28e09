import Espresso.Proofs.Text.Case
import Espresso.Proofs.Text.Span

/-!
# Tags

A tag is read by the longest spelling in front of a text. In a family whose spellings are made of
the characters of keys, that is the spelling itself whenever no such character follows it.
-/

namespace Espresso

namespace Reading

/-- Letters, digits and underscores, at least one of them. -/
def IsName (name : List Char) : Prop :=
  name ≠ [] ∧ ∀ c ∈ name, isKeyChar c = true

theorem isName_iff {name : List Char} :
    (!name.isEmpty && name.all isKeyChar) = true ↔ IsName name := by
  simp [IsName]

instance (name : List Char) : Decidable (IsName name) :=
  decidable_of_iff _ isName_iff

/-- The characters of a literal are found by unification here; to unpack the string is slow. -/
theorem isName_toList {name : String} {chars : List Char} (h : name = String.ofList chars)
    (hchars : (!chars.isEmpty && chars.all isKeyChar) = true) : IsName name.toList := by
  rw [h, String.toList_ofList]
  exact isName_iff.mp hchars

variable {text : List Char} {α : Type}

/-- The longer of two spellings, the first of two that are equally long. -/
def longer (kept next : String × α) : String × α :=
  if kept.1.length < next.1.length then next else kept

theorem foldl_longer (candidates : List (String × α)) (start : String × α) :
    candidates.foldl longer start ∈ start :: candidates ∧
      ∀ candidate ∈ start :: candidates,
        candidate.1.length ≤ (candidates.foldl longer start).1.length := by
  induction candidates generalizing start with
  | nil => simp
  | cons next candidates ih =>
    obtain ⟨hmem, hmax⟩ := ih (longer start next)
    have hlonger : longer start next = start ∨ longer start next = next := by
      unfold longer
      split <;> simp
    have hstart : start.1.length ≤ (longer start next).1.length ∧
        next.1.length ≤ (longer start next).1.length := by
      unfold longer
      split <;> omega
    have hhead := hmax (longer start next) (by simp)
    constructor
    · rw [List.foldl_cons]
      rcases List.mem_cons.mp hmem with h | h
      · rw [h]
        rcases hlonger with hkept | hkept <;> simp [hkept]
      · exact List.mem_cons_of_mem _ (List.mem_cons_of_mem _ h)
    · intro candidate hcandidate
      rw [List.foldl_cons]
      rcases List.mem_cons.mp hcandidate with rfl | hcandidate
      · omega
      · rcases List.mem_cons.mp hcandidate with rfl | hcandidate
        · omega
        · exact hmax candidate (List.mem_cons_of_mem _ hcandidate)

theorem longestSpelling?_eq (spellings : List (String × α)) (text : List Char) :
    longestSpelling? spellings text =
      match spellings.filter fun spelling => spelling.1.toList.isPrefixOf text with
      | [] => none
      | first :: others => some (others.foldl longer first) := by
  unfold longestSpelling?
  cases spellings.filter fun spelling => spelling.1.toList.isPrefixOf text with
  | nil => rfl
  | cons first others =>
    rw [List.foldl_cons]
    simp only
    generalize first = start
    induction others generalizing start with
    | nil => rfl
    | cons next others ih =>
      rw [List.foldl_cons, List.foldl_cons, ← ih]
      congr 1
      simp only [longer]
      split <;> rfl

theorem longestSpelling?_eq_some {spellings : List (String × α)} {longest : String × α}
    (h : longestSpelling? spellings text = some longest) :
    longest ∈ spellings ∧ longest.1.toList <+: text ∧
      ∀ spelling ∈ spellings, spelling.1.toList <+: text →
        spelling.1.length ≤ longest.1.length := by
  have hcandidates : ∀ spelling,
      spelling ∈ spellings.filter (fun spelling => spelling.1.toList.isPrefixOf text) ↔
        spelling ∈ spellings ∧ spelling.1.toList <+: text := by
    intro spelling
    simp
  rw [longestSpelling?_eq] at h
  split at h
  · cases h
  · next first others hfilter =>
    cases h
    obtain ⟨hmem, hmax⟩ := foldl_longer others first
    rw [← hfilter] at hmem hmax
    obtain ⟨hspelling, hfront⟩ := (hcandidates _).mp hmem
    exact ⟨hspelling, hfront, fun spelling hspelling hfront =>
      hmax spelling ((hcandidates spelling).mpr ⟨hspelling, hfront⟩)⟩

theorem exists_longestSpelling? {spellings : List (String × α)} {spelling : String × α}
    (hspelling : spelling ∈ spellings) (hfront : spelling.1.toList <+: text) :
    ∃ longest, longestSpelling? spellings text = some longest := by
  have hcandidate :
      spelling ∈ spellings.filter fun spelling => spelling.1.toList.isPrefixOf text := by
    simpa using ⟨hspelling, hfront⟩
  rw [longestSpelling?_eq]
  split
  · next hfilter =>
    rw [hfilter] at hcandidate
    cases hcandidate
  · exact ⟨_, rfl⟩

end Reading

namespace Tagged

variable {α : Type} [Tagged α] {member : α} {token rest text : List Char}

theorem ofTag?_ofList_eq_none_iff {name : List Char} :
    (ofTag? (String.ofList name) : Option α) = none ↔
      ∀ member : α, (tag member).toList ≠ name := by
  constructor
  · rintro hnone member rfl
    rw [String.ofList_toList, ofTag?_tag] at hnone
    cases hnone
  · intro hfresh
    refine Option.eq_none_iff_forall_ne_some.mpr fun member hmember => hfresh member ?_
    rw [tag_of_ofTag?_eq_some hmember, String.toList_ofList]

theorem mem_spellings_iff {spelling : String} :
    (spelling, member) ∈ spellings α ↔ spelling = tag member ∨ (spelling, member) ∈ aliases := by
  unfold spellings
  rw [List.mem_append, List.mem_map]
  constructor
  · rintro (⟨other, _, hpair⟩ | halias)
    · cases hpair
      exact .inl rfl
    · exact .inr halias
  · rintro (rfl | halias)
    · exact .inl ⟨member, mem_all member, rfl⟩
    · exact .inr halias

/-- A spelling of a member, in either case of its letters if the family ignores case. -/
def Spelled (member : α) (token : List Char) : Prop :=
  ∃ spelling, (spelling, member) ∈ spellings α ∧
    (if ignoresCase α then token.map Char.toLower else token) = spelling.toList

/-- The form of a text in which spellings are looked for. -/
def compared (α : Type) [Tagged α] (text : List Char) : List Char :=
  if ignoresCase α then Text.lowercase text else text

theorem readTag_eq (text : List Char) :
    (Reading.readTag text : Reading α) =
      match Reading.longestSpelling? (spellings α) (compared α text) with
      | some (spelling, member) => .ok (member, text.drop spelling.length)
      | none => .error ⟨.unrecognized (String.ofList (Reading.tagLike text)) (tags α), text⟩ :=
  rfl

/-- A family whose spellings are names, each of one member. Where case is ignored, no spelling has a
letter that stands for one above ASCII too. -/
structure Named (α : Type) [Tagged α] : Prop where
  isName_spelling : ∀ spelling ∈ spellings α, Reading.IsName spelling.1.toList
  member_eq : ∀ first ∈ spellings α, ∀ second ∈ spellings α, first.1 = second.1 →
    first.2 = second.2
  ascii : ignoresCase α = true → ∀ spelling ∈ spellings α,
    'k' ∉ spelling.1.toList ∧ spelling.1.toList.getLast? ≠ some 'i'

namespace Named

theorem isName_of_spelled (hnamed : Named α) (h : Spelled member token) :
    Reading.IsName token := by
  obtain ⟨spelling, hmem, hspelling⟩ := h
  have hname := hnamed.isName_spelling _ hmem
  split at hspelling
  · rw [← hspelling] at hname
    refine ⟨fun hempty => hname.1 (by rw [hempty]; rfl), fun c hc => ?_⟩
    rw [← Text.isKeyChar_toLower]
    exact hname.2 _ (List.mem_map_of_mem hc)
  · rwa [hspelling]

theorem exists_compared_append (hnamed : Named α) (h : Spelled member token) :
    ∃ spelling, (spelling, member) ∈ spellings α ∧ spelling.toList.length = token.length ∧
      ∀ rest, compared α (token ++ rest) = spelling.toList ++ compared α rest := by
  have hname := hnamed.isName_of_spelled h
  obtain ⟨spelling, hmem, hspelling⟩ := h
  refine ⟨spelling, hmem, ?_, fun rest => ?_⟩
  · rw [← hspelling]
    split <;> simp
  · unfold compared
    split at hspelling
    · next hcase =>
      rw [if_pos hcase, if_pos hcase, Text.lowercase_append, Text.lowercase_of_isKeyChar hname.2,
        hspelling]
    · next hcase => rw [if_neg hcase, if_neg hcase, hspelling]

/-- The spelling that is found was cut off the text itself, not only off its compared form. -/
theorem exists_cut_of_longestSpelling? (hnamed : Named α) {spelling : String}
    (h : Reading.longestSpelling? (spellings α) (compared α text) = some (spelling, member)) :
    ∃ token, text = token ++ text.drop spelling.length ∧ token.length = spelling.length ∧
      Spelled member token := by
  obtain ⟨hmem, hfront, _⟩ := Reading.longestSpelling?_eq_some h
  have hcut : ∃ token after, text = token ++ after ∧
      (if ignoresCase α then token.map Char.toLower else token) = spelling.toList := by
    unfold compared at hfront
    split at hfront
    · next hcase =>
      obtain ⟨hkelvin, hdotted⟩ := hnamed.ascii hcase _ hmem
      simp only [hcase, if_true]
      exact Text.exists_of_prefix_lowercase (hnamed.isName_spelling _ hmem).2 hkelvin hdotted
        hfront
    · next hcase =>
      obtain ⟨after, htext⟩ := hfront
      simp only [hcase, Bool.false_eq_true, if_false]
      exact ⟨spelling.toList, after, htext.symm, rfl⟩
  obtain ⟨token, after, rfl, hspelling⟩ := hcut
  have hlength : spelling.length = token.length := by
    rw [← String.length_toList, ← hspelling]
    split <;> simp
  exact ⟨token, by rw [hlength, List.drop_left], hlength.symm, spelling, hmem, hspelling⟩

theorem member_unique (hnamed : Named α) {other : α} (h : Spelled member token)
    (hother : Spelled other token) : member = other := by
  obtain ⟨spelling, hmem, hspelling⟩ := h
  obtain ⟨second, hsecond, hsame⟩ := hother
  exact hnamed.member_eq _ hmem _ hsecond (String.toList_inj.mp (hspelling.symm.trans hsame))

/-- A tag is read by the longest of its family's spellings that the text starts with. -/
theorem readTag_eq_ok_iff (hnamed : Named α) :
    Reading.readTag text = .ok (member, rest) ↔
      ∃ token, text = token ++ rest ∧ Spelled member token ∧
        ∀ (other : α) (longer : List Char), Spelled other longer → longer <+: text →
          longer.length ≤ token.length := by
  rw [readTag_eq]
  constructor
  · intro h
    split at h
    · next spelling found hlongest =>
      cases h
      obtain ⟨token, htext, hlength, hspelled⟩ := hnamed.exists_cut_of_longestSpelling? hlongest
      refine ⟨token, htext, hspelled, fun other longer hother hfront => ?_⟩
      obtain ⟨second, hmem, hsecond, hcompared⟩ := hnamed.exists_compared_append hother
      obtain ⟨after, rfl⟩ := hfront
      have hmax := (Reading.longestSpelling?_eq_some hlongest).2.2 _ hmem
        (hcompared after ▸ List.prefix_append _ _)
      rwa [← hsecond, hlength, String.length_toList]
    · cases h
  · rintro ⟨token, rfl, hspelled, hmax⟩
    obtain ⟨spelling, hmem, hlength, hcompared⟩ := hnamed.exists_compared_append hspelled
    obtain ⟨⟨word, found⟩, hlongest⟩ : ∃ longest,
        Reading.longestSpelling? (spellings α) (compared α (token ++ rest)) = some longest :=
      Reading.exists_longestSpelling? hmem (hcompared rest ▸ List.prefix_append _ _)
    obtain ⟨own, htext, hown, hfound⟩ := hnamed.exists_cut_of_longestSpelling? hlongest
    have hle : spelling.length ≤ word.length :=
      (Reading.longestSpelling?_eq_some hlongest).2.2 _ hmem
        (hcompared rest ▸ List.prefix_append _ _)
    have hge := hmax found own hfound ⟨_, htext.symm⟩
    rw [String.length_toList] at hlength
    have hsame : token.length = own.length := by omega
    obtain ⟨rfl, hrest⟩ := List.append_inj htext hsame
    rw [hlongest]
    dsimp only
    rw [← hrest, hnamed.member_unique hspelled hfound]

theorem exists_spelled_of_readTag (hnamed : Named α)
    (h : Reading.readTag text = .ok (member, rest)) :
    ∃ token, text = token ++ rest ∧ Spelled member token := by
  obtain ⟨token, htext, hspelled, _⟩ := hnamed.readTag_eq_ok_iff.mp h
  exact ⟨token, htext, hspelled⟩

/-- No spelling goes on past a character that is none of a key. -/
theorem prefix_of_stop (hnamed : Named α) (h : Spelled member token)
    (hrest : rest.head?.any Reading.isKeyChar = false) (hfront : token <+: text ++ rest) :
    token <+: text := by
  rw [← List.isPrefixOf_iff_prefix] at hfront ⊢
  rwa [Text.isPrefixOf_append_of_stop (hnamed.isName_of_spelled h).2 hrest] at hfront

/-- No other spelling of the family is read instead, since what follows is no character of one. -/
theorem readTag_append (hnamed : Named α) (h : Spelled member token)
    (hrest : rest.head?.any Reading.isKeyChar = false) :
    Reading.readTag (token ++ rest) = .ok (member, rest) :=
  hnamed.readTag_eq_ok_iff.mpr ⟨token, rfl, h, fun _ _ hother hfront =>
    (hnamed.prefix_of_stop hother hrest hfront).length_le⟩

/-- A tag that was read is read again when more text follows that cannot go on with it. -/
theorem readTag_append_of_eq_ok (hnamed : Named α) {after : List Char}
    (h : Reading.readTag text = .ok (member, rest))
    (hafter : after.head?.any Reading.isKeyChar = false) :
    Reading.readTag (text ++ after) = .ok (member, rest ++ after) := by
  obtain ⟨token, rfl, hspelled, hmax⟩ := hnamed.readTag_eq_ok_iff.mp h
  exact hnamed.readTag_eq_ok_iff.mpr ⟨token, List.append_assoc _ _ _, hspelled,
    fun other longer hother hfront =>
      hmax other longer hother (hnamed.prefix_of_stop hother hafter hfront)⟩

/-- It is read again off any shorter text that still holds it. -/
theorem readTag_of_append (hnamed : Named α) {after : List Char}
    (h : Reading.readTag (token ++ rest ++ after) = .ok (member, rest ++ after)) :
    Reading.readTag (token ++ rest) = .ok (member, rest) := by
  obtain ⟨own, htext, hspelled, hmax⟩ := hnamed.readTag_eq_ok_iff.mp h
  rw [List.append_assoc] at htext
  obtain rfl := List.append_cancel_right htext
  exact hnamed.readTag_eq_ok_iff.mpr ⟨token, rfl, hspelled, fun other longer hother hfront =>
    hmax other longer hother (hfront.trans (List.prefix_append _ _))⟩

end Named

/-- A family whose members are written in one way each, as names. -/
structure Plain (α : Type) [Tagged α] : Prop where
  aliases_eq_nil : (aliases : List (String × α)) = []
  ignoresCase_eq_false : ignoresCase α = false
  isName_tag : ∀ member : α, Reading.IsName (tag member).toList

theorem Plain.named (hplain : Plain α) : Named α := by
  have hspellings : ∀ spelling ∈ spellings α, spelling.1 = tag spelling.2 := by
    rintro ⟨word, member⟩ hmem
    simpa [mem_spellings_iff, hplain.aliases_eq_nil] using hmem
  refine ⟨fun spelling hmem => ?_, fun first hfirst second hsecond hsame => ?_, fun hcase => ?_⟩
  · rw [hspellings spelling hmem]
    exact hplain.isName_tag spelling.2
  · rw [hspellings first hfirst, hspellings second hsecond] at hsame
    exact tag_injective hsame
  · rw [hplain.ignoresCase_eq_false] at hcase
    cases hcase

theorem Plain.spelled_tag (hplain : Plain α) (member : α) : Spelled member (tag member).toList := by
  refine ⟨tag member, mem_spellings_iff.mpr (.inl rfl), ?_⟩
  rw [hplain.ignoresCase_eq_false]
  rfl

theorem plain_transition : Plain Transition :=
  ⟨rfl, rfl, by intro member; cases member <;> exact Reading.isName_toList rfl rfl⟩

theorem plain_sensor : Plain Sensor :=
  ⟨rfl, rfl, by intro member; cases member <;> exact Reading.isName_toList rfl rfl⟩

theorem plain_pump : Plain Pump :=
  ⟨rfl, rfl, by intro member; cases member <;> exact Reading.isName_toList rfl rfl⟩

theorem plain_exit : Plain Exit :=
  ⟨rfl, rfl, by intro member; cases member <;> exact Reading.isName_toList rfl rfl⟩

theorem plain_profileType : Plain ProfileType :=
  ⟨rfl, rfl, by intro member; cases member <;> exact Reading.isName_toList rfl rfl⟩

theorem named_beverage : Named Beverage where
  isName_spelling := by decide
  member_eq := by decide
  ascii _ := by decide

end Tagged

end Espresso
