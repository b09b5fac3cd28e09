import Espresso.Proofs.Grammar.Entry

/-!
# Shorter texts

A reader does not look further than it has to: what it takes off a text, it takes off every front of
the text that holds it whole.
-/

namespace Espresso.Reading

variable {K : Type} [Vocabulary K] {token rest after : List Char}

theorem readWord_of_append {endsWord : Char → Bool} {value : String}
    (h : readWord endsWord (token ++ rest ++ after) = .ok (value, rest ++ after)) :
    readWord endsWord (token ++ rest) = .ok (value, rest) := by
  unfold readWord at h ⊢
  rw [List.append_assoc] at h
  simp only [Except.ok.injEq, Prod.mk.injEq] at h ⊢
  obtain ⟨hvalue, hrest⟩ := h
  have hsplit := List.takeWhile_append_dropWhile (p := fun c => !endsWord c)
    (l := token ++ (rest ++ after))
  rw [hrest] at hsplit
  have htoken := List.append_cancel_right hsplit
  have hgoes : ∀ c ∈ token, (!endsWord c) = true := by
    intro c hc
    rw [← htoken] at hc
    exact Text.of_mem_takeWhile (p := fun c => !endsWord c) hc
  have hstop := Text.stop_dropWhile (fun c => !endsWord c) (token ++ (rest ++ after))
  rw [hrest] at hstop
  have hends := Text.stop_of_append hstop
  rw [Text.takeWhile_append_of_stop hgoes hends, Text.dropWhile_append_of_stop hgoes hends,
    ← hvalue, htoken]
  exact ⟨rfl, rfl⟩

theorem readBraced_of_append {value : String}
    (h : readBraced (token ++ rest ++ after) = .ok (value, rest ++ after)) :
    readBraced (token ++ rest) = .ok (value, rest) := by
  obtain ⟨htext, hbalanced⟩ := readBraced_eq_ok_iff.mp h
  refine readBraced_eq_ok_iff.mpr ⟨(List.append_left_inj after).mp ?_, hbalanced⟩
  rw [htext]
  simp

theorem readText_of_append {endsWord : Char → Bool} {value : String}
    (h : readText endsWord (token ++ rest ++ after) = .ok (value, rest ++ after)) :
    readText endsWord (token ++ rest) = .ok (value, rest) := by
  by_cases hopening : (token ++ rest ++ after).head? = some '{'
  · rw [readText_of_head?_eq hopening] at h
    have hbraced := readBraced_of_append h
    have hhead : (token ++ rest).head? = some '{' := by
      rw [(readBraced_eq_ok_iff.mp hbraced).1]
      rfl
    rwa [readText_of_head?_eq hhead]
  · have hhead : (token ++ rest).head? ≠ some '{' := by
      intro hhead
      obtain ⟨body, hbody⟩ := List.head?_eq_some_iff.mp hhead
      rw [hbody] at hopening
      exact hopening rfl
    rw [readText_of_head?_ne hopening] at h
    rw [readText_of_head?_ne hhead]
    exact readWord_of_append h

theorem readValue_of_append {endsWord : Char → Bool} {kind : Kind} {value : kind.Value}
    (h : readValue endsWord kind (token ++ rest ++ after) = .ok (value, rest ++ after)) :
    readValue endsWord kind (token ++ rest) = .ok (value, rest) := by
  cases kind with
  | flag =>
    apply readFlag_eq_ok_iff.mpr
    apply (List.append_left_inj after).mp
    rw [readFlag_eq_ok_iff.mp h, List.cons_append]
  | number =>
    simp only [readValue, readNumber] at h ⊢
    split at h
    · next numeral left hread =>
      cases h
      rw [Decimal.Numeral.read?_of_append hread]
    · exact absurd h stuck_ne_ok
  | text => exact readText_of_append h
  | transition => exact Tagged.plain_transition.named.readTag_of_append h
  | sensor => exact Tagged.plain_sensor.named.readTag_of_append h
  | pump => exact Tagged.plain_pump.named.readTag_of_append h
  | exit => exact Tagged.plain_exit.named.readTag_of_append h
  | beverage => exact Tagged.named_beverage.readTag_of_append h
  | profileType => exact Tagged.plain_profileType.named.readTag_of_append h

theorem readKeyed_of_append {name : String} {entry : Entry K}
    (h : readKeyed K name (token ++ rest ++ after) = .ok (entry, rest ++ after)) :
    readKeyed K name (token ++ rest) = .ok (entry, rest) := by
  unfold readKeyed at h ⊢
  split at h
  · obtain ⟨value, hvalue, rfl⟩ := map_eq_ok_iff.mp h
    rw [readValue_of_append hvalue]
    rfl
  · obtain ⟨value, hvalue, rfl⟩ := map_eq_ok_iff.mp h
    rw [readText_of_append hvalue]
    rfl

/-- An entry is read off every front of the text that holds it. -/
theorem readEntry_of_append {entry : Entry K}
    (h : readEntry K (token ++ rest ++ after) = .ok (entry, rest ++ after)) :
    readEntry K (token ++ rest) = .ok (entry, rest) := by
  obtain ⟨hname, hblank, hkeyed⟩ := readEntry_eq_ok_iff.mp h
  obtain ⟨gap, hgap, hne, htext⟩ := exists_gap_valueText hblank
  obtain ⟨value, hvalue⟩ := suffix_of_readKeyed hkeyed
  have hstart := startsBlank_valueText (token ++ rest ++ after)
  have hisName := isName_takeWhile hname
  generalize (token ++ rest ++ after).takeWhile isKeyChar = name at hkeyed htext hisName
  rw [← hvalue, ← List.append_assoc] at hkeyed hstart
  rw [← hvalue, List.append_assoc token, ← List.append_assoc (name ++ gap)] at htext
  obtain rfl := List.append_cancel_right htext
  have hvalueStart : Text.startsBlank (value ++ rest) = false := Text.stop_of_append hstart
  rw [List.append_assoc, readEntry_append_of_isName hisName hgap hne hvalueStart]
  exact readKeyed_of_append hkeyed

end Espresso.Reading
