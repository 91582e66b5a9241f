import DeclGen.Generate.Slots
import DeclGen.Proofs.Qualifier.Stripping
import DeclGen.Proofs.Text.Lines

/-!
# Stripping laid out text

A generated file is put together from pieces of text. `StripsTo` compares what stripping leaves of a
piece with the text that is wanted in its place: never more is left than is wanted, and exactly that is
left when a condition holds. Because stripping only leaves characters out, the comparison goes through
concatenation (`StripsTo.append`): the conditions of two pieces that a border parts are joined, and the
whole comes out as wanted only when both pieces do. Lists with commas, lines and blocks follow.
-/

namespace DeclGen.Qualifier

open Text

/-- Stripping `text` leaves a part of `wanted`, and all of it exactly when `clear` holds. -/
structure StripsTo (q text wanted : String) (clear : Prop) : Prop where
  sublist : (strip text q).toList.Sublist wanted.toList
  eq_iff : strip text q = wanted ↔ clear

namespace StripsTo

variable {q : String}

/-- A text that is to stay as it is stays when it mentions nothing. -/
lemma fixed (hq : Naming.isIdentifier q) (text : String) :
    StripsTo q text text (¬ Mentions q text) :=
  ⟨toList_strip_sublist text q, strip_eq_self_iff hq text⟩

/-- A text that is to be stripped comes out as wanted. -/
lemma stripped (q text : String) : StripsTo q text (strip text q) True :=
  ⟨List.Sublist.refl _, by simp⟩

/-- A text without a dot stays. -/
lemma plain (hq : Naming.isIdentifier q) {text : String} (h : '.' ∉ text.toList) :
    StripsTo q text text True := by
  refine ⟨toList_strip_sublist text q, ?_⟩
  simp [strip_eq_self_iff hq, not_mentions_of_dot_notMem h]

lemma congr {text wanted : String} {clear clear' : Prop} (h : StripsTo q text wanted clear)
    (hiff : clear ↔ clear') : StripsTo q text wanted clear' :=
  ⟨h.sublist, h.eq_iff.trans hiff⟩

/-- Of two texts that a border parts both have to come out as wanted. -/
lemma append (hq : Naming.isIdentifier q) {a a' b b' : String} {ca cb : Prop}
    (ha : StripsTo q a a' ca) (hb : StripsTo q b b' cb) (hborder : EndsClear a ∨ StartsClear b) :
    StripsTo q (a ++ b) (a' ++ b') (ca ∧ cb) := by
  have hstrip := strip_append hq hborder
  refine ⟨?_, ?_⟩
  · rw [hstrip, String.toList_append, String.toList_append]
    exact ha.sublist.append hb.sublist
  · rw [hstrip, ← ha.eq_iff, ← hb.eq_iff]
    exact append_eq_append_iff_of_sublist ha.sublist hb.sublist

/-- A text without dots in front, after which a name can start. -/
lemma lead (hq : Naming.isIdentifier q) {front text wanted : String} {clear : Prop}
    (hfront : isLead front) (h : StripsTo q text wanted clear) :
    StripsTo q (front ++ text) (front ++ wanted) clear := by
  have hstay : StripsTo q front front True :=
    (fixed hq front).congr (by simp [not_mentions_of_dot_notMem (dot_notMem_of_isLead hfront)])
  exact (hstay.append hq h (.inl (endsClear_of_isLead hfront))).congr (by simp)

/-- A text without dots behind, before which a name ends. -/
lemma trail (hq : Naming.isIdentifier q) {text wanted behind : String} {clear : Prop}
    (h : StripsTo q text wanted clear) (hbehind : isTrail behind) :
    StripsTo q (text ++ behind) (wanted ++ behind) clear := by
  have hstay : StripsTo q behind behind True :=
    (fixed hq behind).congr (by simp [not_mentions_of_dot_notMem (dot_notMem_of_isTrail hbehind)])
  exact (h.append hq hstay (.inr (startsClear_of_isTrail hbehind))).congr (by simp)

/-- Two texts around one that parts them. -/
lemma gap (hq : Naming.isIdentifier q) {a a' between b b' : String} {ca cb : Prop}
    (ha : StripsTo q a a' ca) (hbetween : isTrail between ∧ isLead between)
    (hb : StripsTo q b b' cb) : StripsTo q (a ++ between ++ b) (a' ++ between ++ b') (ca ∧ cb) :=
  (ha.trail hq hbetween.1).append hq hb (.inl ((endsClear_of_isLead hbetween.2).append
    (by rintro rfl; simp [isTrail] at hbetween) a))

/-- Of items with commas between them every one has to come out as wanted. -/
lemma commaList (hq : Naming.isIdentifier q) {α : Type} {f g : α → String} {clear : α → Prop}
    {items : List α} (h : ∀ x ∈ items, StripsTo q (f x) (g x) (clear x)) :
    StripsTo q (Slots.commaList (items.map f)) (Slots.commaList (items.map g))
      (∀ x ∈ items, clear x) := by
  unfold Slots.commaList
  induction items with
  | nil => exact (plain hq (by simp)).congr (by simp)
  | cons x rest ih =>
    have hx := h x (by simp)
    cases rest with
    | nil => simpa using hx
    | cons y rest =>
      have hrest := ih fun z hz => h z (List.mem_cons_of_mem x hz)
      have hcomma : isTrail ", " ∧ isLead ", " := by decide
      have hall := hx.gap hq hcomma hrest
      simp only [List.map_cons, String.intercalate_cons_cons] at hall ⊢
      exact hall.congr (by simp)

end StripsTo

lemma mentions_commaList {q : String} (hq : Naming.isIdentifier q) (items : List String) :
    Mentions q (Slots.commaList items) ↔ ∃ t ∈ items, Mentions q t := by
  have hall := StripsTo.commaList hq fun t (_ : t ∈ items) => StripsTo.fixed hq t
  simp only [List.map_id'] at hall
  rw [← not_iff_not, ← strip_eq_self_iff hq, hall.eq_iff]
  simp

/-! ## Lines and blocks -/

lemma endsClear_newLine : EndsClear "\n" := .inr ⟨[], '\n', by decide, by decide⟩

lemma endsClear_line (l : Line) : EndsClear l.render := by
  unfold Line.render
  split
  · exact endsClear_newLine
  · exact endsClear_newLine.append (by decide) _

/-- Every text that is made of lines ends in a line feed. -/
lemma endsClear_render (b : Block) : EndsClear b.render := by
  rcases List.eq_nil_or_concat b with rfl | ⟨b, l, rfl⟩
  · exact .inl rfl
  · have hl : Block.render [l] = l.render := by simp [Block.render, String.join]
    rw [List.concat_eq_append, render_append, hl]
    refine (endsClear_line l).append ?_ _
    unfold Line.render
    split <;> simp

/-- The block some levels deeper. -/
def deeper (k : Nat) (b : Block) : Block := b.map fun l => { l with depth := l.depth + k }

/-- `StripsTo` for the text of a block, at whatever depth it is put. -/
def BlockStripsTo (q : String) (b wanted : Block) (clear : Prop) : Prop :=
  ∀ k, StripsTo q (deeper k b).render (deeper k wanted).render clear

namespace BlockStripsTo

variable {q : String}

lemma congr {b wanted : Block} {clear clear' : Prop} (h : BlockStripsTo q b wanted clear)
    (hiff : clear ↔ clear') : BlockStripsTo q b wanted clear' :=
  fun k => (h k).congr hiff

/-- At depth zero a block stands as it is. -/
lemma render {b wanted : Block} {clear : Prop} (h : BlockStripsTo q b wanted clear) :
    StripsTo q b.render wanted.render clear := by
  simpa [deeper] using h 0

lemma append (hq : Naming.isIdentifier q) {a a' b b' : Block} {ca cb : Prop}
    (ha : BlockStripsTo q a a' ca) (hb : BlockStripsTo q b b' cb) :
    BlockStripsTo q (a ++ b) (a' ++ b') (ca ∧ cb) := by
  intro k
  simp only [deeper, List.map_append, render_append]
  exact (ha k).append hq (hb k) (.inl (endsClear_render _))

lemma indent {b wanted : Block} {clear : Prop} (h : BlockStripsTo q b wanted clear) :
    BlockStripsTo q b.indent wanted.indent clear := by
  intro k
  have hdeeper : ∀ a : Block, deeper k a.indent = deeper (k + 1) a := by
    intro a
    simp only [deeper, Block.indent, List.map_map]
    refine List.map_congr_left fun l _ => ?_
    simp [Nat.add_assoc, Nat.add_comm 1 k]
  rw [hdeeper, hdeeper]
  exact h (k + 1)

/-- A line that is to stay a line of text. -/
lemma line (hq : Naming.isIdentifier q) {text wanted : String} {clear : Prop}
    (h : StripsTo q text wanted clear) (ht : text ≠ "") (hw : wanted ≠ "") (depth : Nat) :
    BlockStripsTo q [⟨depth, text⟩] [⟨depth, wanted⟩] clear := by
  intro k
  -- tabs in front and the line feed behind are borders, so that only the text itself counts
  have htabs : '.' ∉ (String.ofList (List.replicate (depth + k) '\t')).toList := by
    simp [List.mem_replicate]
  have hends : EndsClear (String.ofList (List.replicate (depth + k) '\t')) := by
    cases hk : depth + k with
    | zero => exact .inl rfl
    | succ n => exact .inr ⟨List.replicate n '\t', '\t', by simp [List.replicate_succ'], by decide⟩
  have hstarts : StartsClear "\n" := .inr ⟨'\n', [], by decide, by decide⟩
  have htext := ((StripsTo.plain hq htabs).append hq h (.inl hends)).append hq
    (StripsTo.plain hq (by decide)) (.inr hstarts)
  have hone : ∀ t : String, t ≠ "" → (deeper k [⟨depth, t⟩]).render =
      String.ofList (List.replicate (depth + k) '\t') ++ t ++ "\n" := by
    intro t hne
    simp [deeper, Block.render, Line.render, String.join, hne]
  rw [hone text ht, hone wanted hw]
  exact htext.congr (by simp)

/-- Blocks one after the other, one for each item. -/
lemma flatMap (hq : Naming.isIdentifier q) {α : Type} {f g : α → Block} {clear : α → Prop}
    {items : List α} (h : ∀ x ∈ items, BlockStripsTo q (f x) (g x) (clear x)) :
    BlockStripsTo q (items.flatMap f) (items.flatMap g) (∀ x ∈ items, clear x) := by
  induction items with
  | nil =>
    intro k
    have hempty : '.' ∉ "".toList := by decide
    exact (StripsTo.plain hq hempty).congr (by simp)
  | cons x rest ih =>
    have hrest := ih fun z hz => h z (List.mem_cons_of_mem x hz)
    have hall := (h x (by simp)).append hq hrest
    simp only [List.flatMap_cons]
    exact hall.congr (by simp)

/-- Lines, one for each item. -/
lemma lines (hq : Naming.isIdentifier q) {α : Type} {f g : α → String} {clear : α → Prop}
    {items : List α} (h : ∀ x ∈ items, StripsTo q (f x) (g x) (clear x))
    (hf : ∀ x ∈ items, f x ≠ "") (hg : ∀ x ∈ items, g x ≠ "") :
    BlockStripsTo q (Block.ofTexts (items.map f)) (Block.ofTexts (items.map g))
      (∀ x ∈ items, clear x) := by
  have hlines : ∀ t : α → String,
      Block.ofTexts (items.map t) = items.flatMap fun x => [⟨0, t x⟩] := by
    intro t
    rw [Block.ofTexts, List.map_map, List.map_eq_flatMap]
    rfl
  rw [hlines, hlines]
  exact flatMap hq fun x hx => line hq (h x hx) (hf x hx) (hg x hx) 0

/-- An empty line stays. -/
lemma gap (hq : Naming.isIdentifier q) : BlockStripsTo q Block.gap Block.gap True := by
  intro k
  have hgap : (deeper k Block.gap).render = "\n" := by
    simp [deeper, Block.gap, Block.render, Line.render, String.join]
  rw [hgap]
  exact StripsTo.plain hq (by decide)

/-- A header, a body and a closing brace. -/
lemma braces (hq : Naming.isIdentifier q) {header header' : String} {body body' : Block}
    {ch cb : Prop} (hh : StripsTo q header header' ch) (hne : header ≠ "") (hne' : header' ≠ "")
    (hb : BlockStripsTo q body body' cb) :
    BlockStripsTo q (Block.braces header body) (Block.braces header' body') (ch ∧ cb) := by
  have hbrace : '.' ∉ "\x7d".toList := by decide
  have hclosing := line hq (StripsTo.plain hq hbrace) (by decide) (by decide) 0
  have hall := ((line hq hh hne hne' 0).append hq hb.indent).append hq hclosing
  exact hall.congr (by simp)

end BlockStripsTo

end DeclGen.Qualifier
