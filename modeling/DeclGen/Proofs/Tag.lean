import DeclGen.Tag
import Mathlib.Data.List.Basic
import Mathlib.Tactic.Lemma

/-!
# Reading tags back

A tag that is written as pairs `key:"value"`, with any number of spaces around them, is read back as these pairs
(`pairs_written`), so that looking a key up gives the value of the first pair with it (`lookup_written`). A value
may hold escaped quotes, and with them a text that looks like a pair: a match never begins inside a value, since
the reader goes on behind the quote that closes it.
-/

namespace DeclGen

/-! ## Leftmost matches -/

namespace Text.Pattern

variable {α : Type} {p : Pattern α}

/-- What belongs to a match is skipped. -/
lemma matchesAfter_length (s rest : List Char) : p.matchesAfter s.length (s ++ rest) = p.matches rest := by
  induction s with
  | nil => rfl
  | cons c s ih => exact ih

/-- A match at the front of a text is the first one, and the search goes on behind it. -/
lemma matches_append {a : α} {s rest : List Char} (hs : s ≠ []) (h : p (s ++ rest) = some (a, s.length)) :
    p.matches (s ++ rest) = a :: p.matches rest := by
  cases s with
  | nil => exact absurd rfl hs
  | cons c s =>
    rw [List.cons_append] at h ⊢
    simp only [Pattern.matches, matchesAfter, h, List.length_cons, Nat.add_sub_cancel]
    rw [matchesAfter_length]
    rfl

/-- Where no match begins at any of the first characters, the search goes on behind them. -/
lemma matches_append_of_none {s : List Char} (h : ∀ c ∈ s, ∀ rest, p (c :: rest) = none) (rest : List Char) :
    p.matches (s ++ rest) = p.matches rest := by
  induction s with
  | nil => rfl
  | cons c s ih =>
    obtain ⟨hc, hs⟩ := List.forall_mem_cons.mp h
    rw [List.cons_append, Pattern.matches, matchesAfter, hc]
    exact ih hs

end Text.Pattern

namespace Tag

open Text

/-! ## Keys and values -/

/-- A key: an ASCII letter or `_`, and behind it letters, digits, `_`, `.` and `-`. -/
inductive IsKey : List Char → Prop
  | intro {c : Char} {rest : List Char} (first : c.isAlpha ∨ c = '_')
      (others : ∀ d ∈ rest, d.isAlphanum ∨ d = '_' ∨ d = '.' ∨ d = '-') : IsKey (c :: rest)

/-- A value as it stands between quotes: characters other than the quote and the backslash, and escapes, which are
a backslash with the character behind it, whatever it is but a line feed. -/
inductive IsValue : List Char → Prop
  | nil : IsValue []
  | plain {c : Char} {rest : List Char} (quote : c ≠ '"') (slash : c ≠ '\\') : IsValue rest → IsValue (c :: rest)
  | escape {c : Char} {rest : List Char} (feed : c ≠ '\n') : IsValue rest → IsValue ('\\' :: c :: rest)

/-- A key is what the reader of keys goes over. -/
lemma isKey_cons_iff {c : Char} {rest : List Char} :
    IsKey (c :: rest) ↔ isKeyStart c ∧ rest.all isKeyPart := by
  have hstart : isKeyStart c ↔ c.isAlpha ∨ c = '_' := by simp [isKeyStart]
  have hpart : rest.all isKeyPart ↔ ∀ d ∈ rest, d.isAlphanum ∨ d = '_' ∨ d = '.' ∨ d = '-' := by
    simp [isKeyPart, or_assoc]
  rw [hstart, hpart]
  exact ⟨fun | .intro first others => ⟨first, others⟩, fun h => .intro h.1 h.2⟩

instance : DecidablePred IsKey
  | [] => isFalse nofun
  | _ :: _ => decidable_of_iff _ isKey_cons_iff.symm

/-- A value is read up to the quote behind it. -/
lemma value?_append {value : List Char} (h : IsValue value) (rest : List Char) :
    value? (value ++ '"' :: rest) = some value := by
  induction h with
  | nil => rfl
  | @plain c v hquote hslash _ ih =>
    have hread : value? (c :: (v ++ '"' :: rest)) = (value? (v ++ '"' :: rest)).map (c :: ·) := by
      rw [value?]
      · exact hquote
      · exact fun heq => absurd heq hslash
      · exact fun _ _ heq => absurd heq hslash
    rw [List.cons_append, hread, ih, Option.map_some]
  | @escape c v hfeed _ ih =>
    have hread : value? ('\\' :: c :: (v ++ '"' :: rest)) =
        (value? (v ++ '"' :: rest)).map (['\\', c] ++ ·) := by
      rw [value?, if_neg (by simpa using hfeed)]
    rw [List.cons_append, List.cons_append, hread, ih, Option.map_some]
    rfl

/-- What is read up to a quote is a value. -/
lemma isValue_of_value? {s value : List Char} (h : value? s = some value) : IsValue value := by
  fun_induction value? s generalizing value with
  | case1 => cases h
  | case2 rest =>
    obtain rfl := Option.some.inj h
    exact .nil
  | case3 => cases h
  | case4 => cases h
  | case5 c rest hfeed ih =>
    obtain ⟨v, hv, rfl⟩ := Option.map_eq_some_iff.mp h
    exact .escape (by simpa using hfeed) (ih hv)
  | case6 c rest hquote hlast hslash ih =>
    obtain ⟨v, hv, rfl⟩ := Option.map_eq_some_iff.mp h
    have hplain : c ≠ '\\' := by
      rintro rfl
      cases rest with
      | nil => exact hlast rfl rfl
      | cons d rest => exact hslash d rest rfl rfl
    exact .plain hquote hplain (ih hv)

instance : DecidablePred IsValue := fun value =>
  decidable_of_iff (value? (value ++ ['"']) = some value) ⟨isValue_of_value?, fun h => value?_append h []⟩

/-- A pair is read at the front of a text as it was written. -/
lemma pair_append {key value : List Char} (hkey : IsKey key) (hvalue : IsValue value) (rest : List Char) :
    pair (key ++ (':' :: '"' :: value ++ ['"']) ++ rest) =
      some ((key, value), (key ++ (':' :: '"' :: value ++ ['"'])).length) := by
  obtain @⟨c, others, hfirst, hothers⟩ := hkey
  obtain ⟨hstart, hall⟩ := isKey_cons_iff.mp (.intro hfirst hothers)
  have hpart : ∀ d ∈ others, isKeyPart d := List.all_eq_true.mp hall
  -- the colon ends the key, since no key holds one
  have hcolon : isKeyPart ':' = false := by decide
  have htext : c :: others ++ (':' :: '"' :: value ++ ['"']) ++ rest =
      c :: (others ++ (':' :: '"' :: (value ++ '"' :: rest))) := by
    simp
  have htake : (others ++ (':' :: '"' :: (value ++ '"' :: rest))).takeWhile isKeyPart = others := by
    rw [List.takeWhile_append_of_pos hpart, List.takeWhile_cons_of_neg (by simp [hcolon]), List.append_nil]
  have hdrop : (others ++ (':' :: '"' :: (value ++ '"' :: rest))).dropWhile isKeyPart =
      ':' :: '"' :: (value ++ '"' :: rest) := by
    rw [List.dropWhile_append_of_pos hpart, List.dropWhile_cons_of_neg (by simp [hcolon])]
  have hlength : (c :: others).length + value.length + 3 =
      (c :: others ++ (':' :: '"' :: value ++ ['"'])).length := by
    simp
    omega
  rw [htext, pair, if_pos hstart]
  simp only [htake, hdrop, value?_append hvalue, Option.map_some, hlength]

/-! ## Tags -/

/-- A pair of a tag, with the spaces in front of it. -/
structure Entry where
  gap : Nat
  key : String
  value : String
  isKey : IsKey key.toList
  isValue : IsValue value.toList

namespace Entry

/-- The pair without the spaces in front of it. -/
def pairText (e : Entry) : String := e.key ++ ":\"" ++ e.value ++ "\""

/-- The pair as it stands in a tag. -/
def text (e : Entry) : String := String.ofList (List.replicate e.gap ' ') ++ e.pairText

end Entry

/-- A tag of these pairs, with spaces behind them. -/
def written (entries : List Entry) (gap : Nat) : String :=
  String.join (entries.map (·.text)) ++ String.ofList (List.replicate gap ' ')

/-- Spaces are passed over. -/
lemma matches_spaces (n : Nat) (rest : List Char) :
    pair.matches (List.replicate n ' ' ++ rest) = pair.matches rest := by
  apply Pattern.matches_append_of_none
  intro c hc rest'
  obtain rfl := List.eq_of_mem_replicate hc
  rfl

/-- A written pair is read, and what follows it is read as if it stood alone. -/
lemma matches_entry (e : Entry) (rest : List Char) :
    pair.matches (e.text.toList ++ rest) = (e.key.toList, e.value.toList) :: pair.matches rest := by
  have htext : e.text.toList ++ rest = List.replicate e.gap ' ' ++
      (e.key.toList ++ (':' :: '"' :: e.value.toList ++ ['"']) ++ rest) := by
    simp [Entry.text, Entry.pairText]
  rw [htext, matches_spaces, Pattern.matches_append (by simp) (pair_append e.isKey e.isValue rest)]

/-- A tag is read back as the pairs that it was written from. -/
lemma pairs_written (entries : List Entry) (gap : Nat) :
    pairs (written entries gap) = entries.map fun e => (e.key.toList, e.value.toList) := by
  have hgap : pair.matches (List.replicate gap ' ') = [] := by
    have hspaces := matches_spaces gap []
    rwa [List.append_nil] at hspaces
  rw [pairs, written, String.toList_append, String.toList_ofList]
  induction entries with
  | nil => exact hgap
  | cons e rest ih =>
    have hjoin : (String.join ((e :: rest).map (·.text))).toList =
        e.text.toList ++ (String.join (rest.map (·.text))).toList := by
      simp
    rw [hjoin, List.append_assoc, matches_entry, ih, List.map_cons]

/-- For every list of pairs and spaces around them, looking a key up in the tag that is written from them gives the
value of the first pair with that key, and nothing if there is none. -/
theorem lookup_written (entries : List Entry) (gap : Nat) (key : String) :
    lookup (written entries gap) key = (entries.find? (·.key == key)).map (·.value) := by
  have hkey : ∀ e : Entry, (e.key.toList == key.toList) = (e.key == key) := by
    intro e
    rw [Bool.eq_iff_iff, beq_iff_eq, beq_iff_eq, String.toList_inj]
  rw [lookup, pairs_written, List.find?_map, Option.map_map]
  simp only [Function.comp_def, hkey, String.ofList_toList]

/-- A pair whose value holds a text that looks like a pair, with its quotes escaped. -/
def misleading : Entry := ⟨0, "json", "a db:\\\"x\\\"", by decide, by decide⟩

/-- A pair with the key that the misleading one seems to have. -/
def sought : Entry := ⟨2, "db", "name", by decide, by decide⟩

/-- The pair behind the misleading one is found. Without it there is none with its key. -/
theorem lookup_written_misleading :
    written [misleading, sought] 1 = "json:\"a db:\\\"x\\\"\"  db:\"name\" " ∧
      lookup (written [misleading, sought] 1) "db" = some "name" ∧
      lookup (written [misleading] 0) "db" = none := by
  refine ⟨by decide, ?_, ?_⟩
  · rw [lookup_written]
    decide
  · rw [lookup_written]
    decide

end Tag

end DeclGen
