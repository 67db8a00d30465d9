import MeshTrace.Proofs.Firmware.Reading

namespace MeshTrace

open Text

/-- An arrow does not start in a text without its tip, not even if an arrow follows. -/
theorem not_arrow_prefix {front : List Char} (nonempty : front ≠ []) (apart : '>' ∉ front) (rest : List Char) :
    " -> ".toList.isPrefixOf? (front ++ (" -> ".toList ++ rest)) = none := by
  cases front with
  | nil => exact absurd rfl nonempty
  | cons a front =>
    cases front with
    | nil => simp [List.isPrefixOf?]
    | cons b front =>
      cases front with
      | nil => simp [List.isPrefixOf?]
      | cons c front =>
        have tip : '>' ≠ c := by
          rintro rfl
          exact apart (by simp)
        simp [List.isPrefixOf?, tip]

namespace Message

/-- The target is what follows the only arrow. -/
theorem arrowTarget?_append {front target : List Char} (apart : '>' ∉ front) (nonempty : target ≠ [])
    (unbroken : '\n' ∉ target) : arrowTarget? (front ++ (" -> ".toList ++ target)) = some target := by
  obtain ⟨c, rest, rfl⟩ := List.exists_cons_of_ne_nil nonempty
  have whole : (c :: rest).contains '\n' = false := by simpa using unbroken
  unfold arrowTarget?
  rw [search_append front _ fun after suffix some => ?_]
  · refine search_of_some ?_
    simp only [isPrefixOf?_append, whole]
    rfl
  · have early := not_arrow_prefix some (fun member => apart (suffix.subset member)) (c :: rest)
    simp only [early]

theorem splitAtArrow?_append {front : List Char} (apart : '>' ∉ front) (rest : List Char) :
    splitAtArrow? (front ++ (" -> ".toList ++ rest)) = some (front, rest) := by
  induction front with
  | nil => simp [splitAtArrow?, List.isPrefixOf?]
  | cons c front ih =>
    have early := not_arrow_prefix (by simp) apart rest
    have later := ih fun member => apart (List.mem_cons_of_mem c member)
    rw [List.cons_append] at early ⊢
    simp only [splitAtArrow?, early, later, Option.map_some]

end Message

namespace Entry

theorem arrowTarget?_timeSource {old new : Option Address} (fits : (timeSource old new).Fits) :
    Message.arrowTarget? (timeSource old new).text = some (addressText "(NULL LL addr)" new) := by
  have grouped : (timeSource old new).text = ("[INFO: TSCH Queue] ".toList ++ ("update time source: ".toList ++
      addressText "(NULL LL addr)" old)) ++ (" -> ".toList ++ addressText "(NULL LL addr)" new) := by
    simp only [text, tag, parts, List.flatten_cons, List.flatten_nil, List.append_nil, List.append_assoc]
  have apart : '>' ∉ "[INFO: TSCH Queue] ".toList ++ ("update time source: ".toList ++
      addressText "(NULL LL addr)" old) := by
    have here := not_mem_addressText (c := '>') (by decide) (by decide : '>' ∉ "(NULL LL addr)".toList) fits.1
    simp [here]
  rw [grouped]
  exact Message.arrowTarget?_append apart (addressText_ne_nil (by decide) fits.2)
    (not_mem_addressText (by decide) (by decide) fits.2)

theorem arrowTarget?_parentLladdr {callback : Bool} {new : Option Address} (fits : (parentLladdr callback new).Fits) :
    Message.arrowTarget? (parentLladdr callback new).text = some (addressText "(NULL LL addr)" new) := by
  have apart : '>' ∉ "[INFO: RPL       ] ".toList ++
      (if callback then "rpl callback: new parent lladdr" else "new parent lladdr").toList := by
    cases callback <;> decide
  have grouped : (parentLladdr callback new).text = ("[INFO: RPL       ] ".toList ++
      (if callback then "rpl callback: new parent lladdr" else "new parent lladdr").toList) ++
        (" -> ".toList ++ addressText "(NULL LL addr)" new) := by
    simp only [text, tag, parts, List.flatten_cons, List.flatten_nil, List.append_nil, List.append_assoc]
  rw [grouped]
  exact Message.arrowTarget?_append apart (addressText_ne_nil (by decide) fits)
    (not_mem_addressText (by decide) (by decide) fits)

theorem preferredParents?_preferredParent {old new : Option Address} (fits : (preferredParent old new).Fits) :
    Message.preferredParents? (preferredParent old new).text =
      some (addressText "NULL" old, addressText "NULL" new) := by
  have oldSome := addressText_ne_nil (by decide : "NULL".toList ≠ []) fits.1
  have newSome := addressText_ne_nil (by decide : "NULL".toList ≠ []) fits.2
  have newSolid := solid_addressText (by decide : Solid "NULL".toList) fits.2
  have comma : Solid (addressText "NULL" old ++ [',']) := by
    intro c member
    rcases List.mem_append.mp member with inOld | last
    · exact solid_addressText (by decide : Solid "NULL".toList) fits.1 c inOld
    · rw [List.mem_singleton.mp last]
      decide
  have slots : Shape.Slots [.text "rpl_set_preferred_parent: used to be ", .word, .text " now is ", .word]
      [addressText "NULL" old ++ [','], addressText "NULL" new] :=
    Shape.slots_of_forall₂ (by decide) (.cons (word_fits comma (by simp)) (.cons (word_fits newSolid newSome) .nil))
  have read : Shape.read [.text "rpl_set_preferred_parent: used to be ", .word, .text " now is ", .word]
      ("rpl_set_preferred_parent: used to be ".toList ++ ((addressText "NULL" old ++ [',']) ++
        (" now is ".toList ++ (addressText "NULL" new ++ [])))) =
        some ([addressText "NULL" old ++ [','], addressText "NULL" new], []) := Shape.read_write (by decide) slots
  -- The comma is taken off again at the end of the word.
  obtain ⟨c, front, reversed⟩ := List.exists_cons_of_ne_nil (List.reverse_ne_nil_iff.mpr oldSome)
  have back : (c :: front).reverse = addressText "NULL" old := by rw [← reversed, List.reverse_reverse]
  have grouped : (preferredParent old new).text = "[INFO: RPL       ] ".toList ++
      ("rpl_set_preferred_parent: used to be ".toList ++ ((addressText "NULL" old ++ [',']) ++
        (" now is ".toList ++ (addressText "NULL" new ++ [])))) := by
    simp [text, tag, parts]
  rw [grouped]
  refine Shape.search_text _ [.word, .text " now is ", .word] (fun cs none => by simp only [none]) (by decide) ?_
  simp only [read, List.reverse_append, List.reverse_singleton, List.singleton_append, reversed, back]

theorem switchedParents?_parentSwitch {old new : Option Address} (fits : (parentSwitch old new).Fits) :
    Message.switchedParents? (parentSwitch old new).text =
      some (addressText "(NULL IP addr)" old, addressText "(NULL IP addr)" new) := by
  have oldSome := addressText_ne_nil (by decide : "(NULL IP addr)".toList ≠ []) fits.1
  have newSome := addressText_ne_nil (by decide : "(NULL IP addr)".toList ≠ []) fits.2
  have oldLine := not_mem_addressText (c := '\n') (by decide) (by decide : '\n' ∉ "(NULL IP addr)".toList) fits.1
  have newLine := not_mem_addressText (c := '\n') (by decide) (by decide : '\n' ∉ "(NULL IP addr)".toList) fits.2
  have oldTip := not_mem_addressText (c := '>') (by decide) (by decide : '>' ∉ "(NULL IP addr)".toList) fits.1
  have grouped : (parentSwitch old new).text = "[INFO: RPL       ]".toList ++ (" parent switch: ".toList ++
      (addressText "(NULL IP addr)" old ++ (" -> ".toList ++ addressText "(NULL IP addr)" new))) := by
    simp [text, tag, parts]
  rw [grouped]
  obtain ⟨c, front, oldText⟩ := List.exists_cons_of_ne_nil oldSome
  obtain ⟨d, back, newText⟩ := List.exists_cons_of_ne_nil newSome
  rw [oldText] at oldLine oldTip ⊢
  rw [newText] at newLine ⊢
  have split := Message.splitAtArrow?_append (fun member => oldTip (List.mem_cons_of_mem c member)) (d :: back)
  unfold Message.switchedParents?
  rw [search_append_of_clear (fun cs found => ?_) (by decide)]
  · refine search_of_some ?_
    have unbroken : '\n' ∉ c :: (front ++ (" -> ".toList ++ d :: back)) := by
      simp only [List.mem_cons, List.mem_append, not_or] at oldLine newLine ⊢
      exact ⟨oldLine.1, oldLine.2, by decide, newLine⟩
    have oneLine : (c :: (front ++ (" -> ".toList ++ d :: back))).contains '\n' = false := by
      simpa using unbroken
    simp only [isPrefixOf?_append, List.cons_append, oneLine, split]
    rfl
  · cases start : " parent switch: ".toList.isPrefixOf? cs with
    | none =>
      simp only [start] at found
      exact absurd rfl found
    | some rest => exact ⟨rest, List.isPrefixOf?_eq_some_iff_append_eq.mp start⟩

/-- The message about a switch is not one about the preferred parent. -/
theorem preferredParents?_parentSwitch {old new : Option Address} (fits : (parentSwitch old new).Fits) :
    Message.preferredParents? (parentSwitch old new).text = none := by
  have missing : occurs "rpl_set_preferred_parent: used to be ".toList (parentSwitch old new).text = false := by
    refine occurs_eq_false_of_skeleton ?_
    rw [skeleton_text fits, bare]
    decide
  refine search_eq_none_of_occurs (fun cs found => ?_) missing
  cases read : Shape.read [.text "rpl_set_preferred_parent: used to be ", .word, .text " now is ", .word] cs with
  | none => simp [read] at found
  | some r => exact Shape.prefix_of_read read

end Entry

end MeshTrace
