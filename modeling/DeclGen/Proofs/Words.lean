import DeclGen.Generate.Words
import Mathlib.Data.List.Forall2
import Mathlib.Tactic.Lemma

/-!
# The words of a name

Nothing is lost when a name is split: its words, put together, are the name in lower case. One of them
begins at the first character, and one at each upper-case character behind it
(`Words.ofName_lossless`). While a name is split, the words that are closed, the open one and the
rest of the name make up the whole; each lemma below says this of one property, for any open word.
-/

namespace DeclGen.Words

/-- The upper-case characters of a name behind its first one. -/
def capitals (name : String) : List Char := (name.toList.drop 1).filter Unicode.isUppercase

/-- Every character has a lower case of at least one character. -/
lemma toLower_ne_nil (c : Char) : Unicode.toLower c ≠ [] := by
  unfold Unicode.toLower
  split
  · simp
  · split <;> simp

/-! ## Splitting with a word that is open -/

lemma splitAfter_nil {current : List Char} (h : current ≠ []) : splitAfter current [] = [current] := by
  simp [splitAfter, h]

/-- An upper-case character closes the open word and begins the next one. -/
lemma splitAfter_capital {current : List Char} (h : current ≠ []) {c : Char}
    (hc : Unicode.isUppercase c) (rest : List Char) :
    splitAfter current (c :: rest) = current :: splitAfter (Unicode.toLower c) rest := by
  simp [splitAfter, h, hc]

/-- Any other character is added to the open word; so is every character where none is open yet. -/
lemma splitAfter_other {current : List Char} {c : Char}
    (h : current = [] ∨ Unicode.isUppercase c = false) (rest : List Char) :
    splitAfter current (c :: rest) = splitAfter (current ++ Unicode.toLower c) rest := by
  rw [splitAfter, if_neg]
  rcases h with rfl | h
  · simp
  · simp [h]

/-- The words hold what is open, and the rest in lower case. -/
lemma flatten_splitAfter {current : List Char} (h : current ≠ []) (s : List Char) :
    (splitAfter current s).flatten = current ++ s.flatMap Unicode.toLower := by
  induction s generalizing current with
  | nil => simp [splitAfter_nil h]
  | cons c rest ih =>
    cases hc : Unicode.isUppercase c with
    | true =>
      rw [splitAfter_capital h hc, List.flatten_cons, ih (toLower_ne_nil c), List.flatMap_cons]
    | false =>
      have hopen : current ++ Unicode.toLower c ≠ [] := by simp [h]
      rw [splitAfter_other (.inr hc), ih hopen, List.flatMap_cons, List.append_assoc]

lemma nil_notMem_splitAfter {current : List Char} (h : current ≠ []) (s : List Char) :
    [] ∉ splitAfter current s := by
  induction s generalizing current with
  | nil => simpa [splitAfter_nil h] using h.symm
  | cons c rest ih =>
    cases hc : Unicode.isUppercase c with
    | true =>
      rw [splitAfter_capital h hc, List.mem_cons, not_or]
      exact ⟨h.symm, ih (toLower_ne_nil c)⟩
    | false =>
      rw [splitAfter_other (.inr hc)]
      exact ih (by simp [h])

/-- The first word goes on with the open one, and each of the others begins with its capital. -/
lemma exists_splitAfter_eq {current : List Char} (h : current ≠ []) (s : List Char) :
    ∃ first others, splitAfter current s = first :: others ∧ current <+: first ∧
      List.Forall₂ (fun c w => Unicode.toLower c <+: w) (s.filter Unicode.isUppercase) others := by
  induction s generalizing current with
  | nil => exact ⟨current, [], splitAfter_nil h, List.prefix_refl current, .nil⟩
  | cons c rest ih =>
    cases hc : Unicode.isUppercase c with
    | true =>
      obtain ⟨first, others, hsplit, hfirst, hothers⟩ := ih (toLower_ne_nil c)
      refine ⟨current, first :: others, ?_, List.prefix_refl current, ?_⟩
      · rw [splitAfter_capital h hc, hsplit]
      · rw [List.filter_cons_of_pos hc]
        exact .cons hfirst hothers
    | false =>
      have hopen : current ++ Unicode.toLower c ≠ [] := by simp [h]
      obtain ⟨first, others, hsplit, hfirst, hothers⟩ := ih hopen
      refine ⟨first, others, ?_, (List.prefix_append _ _).trans hfirst, ?_⟩
      · rw [splitAfter_other (.inr hc), hsplit]
      · rwa [List.filter_cons_of_neg (by simp [hc])]

/-! ## The words of a whole name -/

/-- The words of a name hold its characters in lower case and nothing else. None of them is empty; a name
has one word, if it is not empty, and one more for each capital behind its first character, which begins
with that capital in lower case. -/
theorem ofName_lossless (name : String) :
    String.join (ofName name) = String.ofList (name.toList.flatMap Unicode.toLower) ∧
    "" ∉ ofName name ∧
    (ofName name).length = (if name = "" then 0 else 1 + (capitals name).length) ∧
    List.Forall₂ (fun c w => Unicode.toLower c <+: w.toList) (capitals name) (ofName name).tail := by
  cases hname : name.toList with
  | nil =>
    obtain rfl : name = "" := String.toList_eq_nil_iff.mp hname
    exact ⟨by decide, by decide, by decide, .nil⟩
  | cons c rest =>
    have hne : name ≠ "" := by
      rintro rfl
      simp at hname
    -- no word is open in front of the first character, so that it opens one whatever its case
    have hwords : ofName name = (splitAfter (Unicode.toLower c) rest).map String.ofList := by
      rw [ofName, hname, splitAfter_other (.inl rfl), List.nil_append]
    have hcapitals : capitals name = rest.filter Unicode.isUppercase := by rw [capitals, hname]; rfl
    have hopen := toLower_ne_nil c
    obtain ⟨first, others, hsplit, -, hothers⟩ := exists_splitAfter_eq hopen rest
    refine ⟨?_, ?_, ?_, ?_⟩
    · rw [hwords, ← String.toList_inj, String.toList_ofList, List.flatMap_cons,
        ← flatten_splitAfter hopen rest, String.toList_join, List.flatMap_map]
      simp [List.flatMap_id']
    · rw [hwords, List.mem_map]
      rintro ⟨w, hw, hempty⟩
      obtain rfl : w = [] := by simpa using hempty
      exact nil_notMem_splitAfter hopen rest hw
    · rw [hwords, hsplit, if_neg hne, hcapitals, hothers.length_eq]
      simp [Nat.add_comm]
    · rw [hwords, hsplit, hcapitals, List.map_cons, List.tail_cons, List.forall₂_map_right_iff]
      simpa using hothers

example : ofName "HTTPServer" = ["h", "t", "t", "p", "server"] := by decide

end DeclGen.Words
