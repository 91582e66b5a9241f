import DeclGen.Generate.Mock
import DeclGen.Proofs.Source.Lexed
import Mathlib.Data.List.Nodup

/-!
# Members of a mock

A field and a method of one type must not have the same name. The members of a mock are read off its
lines (`Mock.declaredMembers`): the fields in the lines of the struct, the methods in the headers of the
functions on it. They are the callbacks, the methods of the interface and the method that clears the
callbacks, and it is settled when no two of them meet (`Mock.nodup_declaredMembers_iff`).
-/

namespace DeclGen

open Source

/-! ## Names with an ending -/

/-- A name stays a name when what is put behind it is made of the characters of names, unless it becomes a
keyword. -/
lemma Source.IsName.append {name tail : String} (h : IsName name)
    (htail : ∀ c ∈ tail.toList, Unicode.isNamePart c) (hkey : name ++ tail ∉ keywords) :
    IsName (name ++ tail) := by
  obtain ⟨c, rest, hlist, hstart, hpart⟩ := h.start
  refine ⟨⟨c, rest ++ tail.toList, by simp [hlist], hstart, fun d hd => ?_⟩, hkey⟩
  rcases List.mem_append.mp hd with hd | hd
  · exact hpart d hd
  · exact htail d hd

/-- What `a ++ tail` is not, if it does not end in `tail`. -/
lemma append_ne_of_not_isSuffixOf {tail text : String}
    (h : tail.toList.isSuffixOf text.toList = false) (a : String) : a ++ tail ≠ text := by
  rintro rfl
  have hsuffix : tail.toList.isSuffixOf (a ++ tail).toList = true := by
    rw [List.isSuffixOf_iff_suffix, String.toList_append]
    exact List.suffix_append _ _
  exact Bool.false_ne_true (h.symm.trans hsuffix)

namespace Naming

lemma isName_callbackName {name : String} (h : IsName name) : IsName (callbackName name) := by
  have htail : ∀ c ∈ callbackTail.toList, Unicode.isNamePart c := List.all_eq_true.mp (by decide)
  have hkey : ∀ k ∈ keywords, callbackTail.toList.isSuffixOf k.toList = false := by decide
  exact h.append htail fun hmem => append_ne_of_not_isSuffixOf (hkey _ hmem) name rfl

lemma callbackName_injective : Function.Injective callbackName := by
  intro a b h
  have hlists := congrArg String.toList h
  rw [← String.toList_inj]
  simpa [callbackName] using hlists

end Naming

namespace Mock

open Text

/-! ## What the lines of a type declare -/

/-- The line that opens the struct of a type. -/
def structHeader (type : String) : String := "type " ++ type ++ " struct \x7b"

/-- How the header of a method of a type begins. -/
def methodHead (type : String) : String := "func (" ++ receiver ++ " *" ++ type ++ ") "

/-- The fields of a type: the names in front of the lines in its struct. -/
def declaredFields (type : String) (b : Block) : List String :=
  ((b.dropWhile (·.text ≠ structHeader type)).tail.takeWhile (·.depth = 1)).map fun l =>
    leadingName l.text

/-- The method that a line opens on a type. -/
def methodOf? (type : String) (l : Line) : Option String :=
  if l.depth = 0 then (afterHead? (methodHead type) l.text).map leadingName else none

/-- The fields and the methods of a type, as the lines of a text declare them. -/
def declaredMembers (type : String) (b : Block) : List String :=
  declaredFields type b ++ b.filterMap (methodOf? type)

/-- The method that clears the callbacks. -/
def resetName : String := "ResetMock"

/-! ## The members of a mock -/

section Fields

variable {i : Interface}

/-- A callback stands in front of the line of its field. -/
lemma leadingName_field {w : Nat} {name type : String} (h : IsName name) :
    leadingName (padTo w name ++ " " ++ type) = name := by
  have hblank : Unicode.isNamePart ' ' = false := by decide
  rw [padTo, String.append_assoc, String.append_assoc]
  refine leadingName_append h fun c hc => ?_
  -- whether the name is padded or not, a space follows it
  have hspace : c = ' ' := by
    cases hw : w - name.length with
    | zero => simpa [hw, eq_comm] using hc
    | succ n => simpa [hw, List.replicate_succ, eq_comm] using hc
  rw [hspace, hblank]

lemma declaredFields_ofInterface (h : ∀ m ∈ i.methods, IsName m.name) :
    declaredFields (Naming.mockName i.name) (ofInterface i) =
      i.methods.map fun m => Naming.callbackName m.name := by
  have hcomment : ∀ rest : String, "// " ++ rest ≠ structHeader (Naming.mockName i.name) := by
    intro rest heq
    have hfirst := congrArg (fun s => s.toList.head?) heq
    simp [structHeader] at hfirst
  have htake : ∀ (texts : List String) (rest : Block),
      ((Block.ofTexts texts).indent ++ ⟨0, "\x7d"⟩ :: rest).takeWhile (·.depth = 1) =
        (Block.ofTexts texts).indent := by
    intro texts rest
    rw [List.takeWhile_append_of_pos (by simp [Block.indent, Block.ofTexts])]
    simp
  rw [declaredFields, ofInterface, Block.braces, Block.enclose]
  simp only [Block.ofTexts, List.map_cons, List.map_nil, List.cons_append, List.nil_append,
    String.append_assoc, List.append_assoc]
  rw [List.dropWhile_cons_of_pos (by simpa using hcomment _),
    List.dropWhile_cons_of_neg (by simp [structHeader, String.append_assoc]), List.tail_cons]
  have hlines := htake (alignedFields (callbacks i))
  simp only [Block.ofTexts] at hlines
  rw [hlines]
  simp only [Block.indent, alignedFields, callbacks, List.map_map]
  refine List.map_congr_left fun m hm => ?_
  exact leadingName_field (Naming.isName_callbackName (h m hm))

end Fields

section Methods

variable {type : String}

/-- A text that does not begin like a function opens no method. -/
lemma methodOf?_eq_none {l : Line} (h : l.depth ≠ 0 ∨ l.text.toList.head? ≠ some 'f') :
    methodOf? type l = none := by
  unfold methodOf?
  split
  · rename_i hdepth
    have hfirst : l.text.toList.head? ≠ some 'f' := h.resolve_left (by simpa using hdepth)
    rw [Option.map_eq_none_iff, afterHead?, Option.map_eq_none_iff, Option.eq_none_iff_forall_ne_some]
    intro rest hrest
    rw [List.isPrefixOf?_eq_some_iff_append_eq] at hrest
    exact hfirst (by simp [← hrest, methodHead])
  · rfl

/-- The header of a function on the type opens the method of the name behind it. -/
lemma methodOf?_head {name behind : String} (hname : IsName name)
    (hbehind : ∀ c ∈ behind.toList.head?, Unicode.isNamePart c = false) :
    methodOf? type ⟨0, methodHead type ++ (name ++ behind)⟩ = some name := by
  have hafter : afterHead? (methodHead type) (methodHead type ++ (name ++ behind)) =
      some (name ++ behind) := by
    have hcut := List.isPrefixOf?_eq_some_iff_append_eq.mpr
      (String.toList_append (s := methodHead type) (t := name ++ behind)).symm
    rw [afterHead?, hcut, Option.map_some, String.ofList_toList]
  rw [methodOf?, if_pos rfl, hafter, Option.map_some, leadingName_append hname hbehind]

lemma filterMap_methodOf?_indent (b : Block) : b.indent.filterMap (methodOf? type) = [] := by
  rw [List.filterMap_eq_nil_iff]
  intro l hl
  obtain ⟨l', -, rfl⟩ := List.mem_map.mp hl
  exact methodOf?_eq_none (.inl (Nat.succ_ne_zero _))

/-- Of a block in braces only the header can open a method. -/
lemma filterMap_methodOf?_braces (header : String) (body : Block) :
    (Block.braces header body).filterMap (methodOf? type) = (methodOf? type ⟨0, header⟩).toList := by
  have hclose : methodOf? type ⟨0, "\x7d"⟩ = none := methodOf?_eq_none (.inr (by decide))
  rw [Block.braces, Block.enclose, List.filterMap_append, List.filterMap_cons,
    filterMap_methodOf?_indent]
  cases methodOf? type ⟨0, header⟩ <;> simp [hclose]

end Methods

section Members

variable {i : Interface}

lemma filterMap_methodOf?_forwarding {mock : String} {m : Method} (h : IsName m.name) :
    (forwarding mock m).filterMap (methodOf? mock) = [m.name] := by
  have hparen : Unicode.isNamePart '(' = false := by decide
  have hheader : "func (" ++ receiver ++ " *" ++ mock ++ ") " ++ m.header receiver ++ " \x7b" =
      methodHead mock ++ (m.name ++ ("(" ++ Slots.paramList m.params receiver ++ ")" ++
        Slots.resultClause m.returns ++ " \x7b")) := by
    simp [methodHead, Method.header, String.append_assoc]
  rw [forwarding, filterMap_methodOf?_braces, hheader, methodOf?_head h (by simp [hparen])]
  rfl

lemma filterMap_methodOf?_reset (mock : String) :
    (reset mock i).filterMap (methodOf? mock) = [resetName] := by
  have hreset : IsName resetName := by decide
  have hparen : Unicode.isNamePart '(' = false := by decide
  have hheader : "func (" ++ receiver ++ " *" ++ mock ++ ") ResetMock() \x7b" =
      methodHead mock ++ (resetName ++ "() \x7b") := by
    simp [methodHead, resetName, String.append_assoc]
  have hcomment : methodOf? mock ⟨0, "// ResetMock clears every callback."⟩ = none :=
    methodOf?_eq_none (.inr (by decide))
  rw [reset, List.filterMap_append, filterMap_methodOf?_braces, hheader,
    methodOf?_head hreset (by simp [hparen])]
  simp [Block.ofTexts, hcomment]

/-- The members that a mock declares: its callbacks, the methods of its interface, and the one that
clears the callbacks. -/
lemma declaredMembers_ofInterface (h : ∀ m ∈ i.methods, IsName m.name) :
    declaredMembers (Naming.mockName i.name) (ofInterface i) =
      i.methods.map (fun m => Naming.callbackName m.name) ++ i.methods.map (·.name) ++
        [resetName] := by
  have hgap : Block.gap.filterMap (methodOf? (Naming.mockName i.name)) = [] := by
    simp [Block.gap, methodOf?_eq_none]
  have hmethods : ∀ ms ⊆ i.methods,
      (ms.flatMap fun m => Block.gap ++ forwarding (Naming.mockName i.name) m).filterMap
        (methodOf? (Naming.mockName i.name)) = ms.map (·.name) := by
    intro ms hms
    induction ms with
    | nil => rfl
    | cons m ms ih =>
      rw [List.flatMap_cons, List.filterMap_append, List.filterMap_append, hgap,
        filterMap_methodOf?_forwarding (h m (hms List.mem_cons_self)),
        ih (List.subset_of_cons_subset hms)]
      rfl
  -- neither the comments nor the header of the struct belong to a function
  have hcomment : ∀ rest : String,
      methodOf? (Naming.mockName i.name) ⟨0, "// " ++ rest⟩ = none :=
    fun rest => methodOf?_eq_none (.inr (by simp))
  have htype : ∀ rest : String,
      methodOf? (Naming.mockName i.name) ⟨0, "type " ++ rest⟩ = none :=
    fun rest => methodOf?_eq_none (.inr (by simp))
  rw [declaredMembers, declaredFields_ofInterface h, List.append_assoc]
  congr 1
  rw [ofInterface]
  simp only [List.filterMap_append, filterMap_methodOf?_braces, filterMap_methodOf?_reset, hgap,
    hmethods _ (List.Subset.refl _), String.append_assoc, htype, Block.ofTexts, List.map_cons,
    List.map_nil, List.filterMap_cons, hcomment, List.filterMap_nil, Option.toList_none,
    List.nil_append, List.append_nil]

/-- Two members of the mock of an interface have one name: a method is called like the callback of a
method, or like the method that clears the callbacks. -/
def Clashes (i : Interface) : Prop :=
  (∃ m ∈ i.methods, ∃ m' ∈ i.methods, m'.name = Naming.callbackName m.name) ∨
  ∃ m ∈ i.methods, m.name = resetName

/-- For every interface whose methods have different names, the members that its mock declares differ
from each other exactly when no method is called like a callback or like the method that clears them. -/
theorem nodup_declaredMembers_iff (hnames : ∀ m ∈ i.methods, IsName m.name)
    (hnodup : (i.methods.map (·.name)).Nodup) :
    (declaredMembers (Naming.mockName i.name) (ofInterface i)).Nodup ↔ ¬ Clashes i := by
  have hcallbacks : (i.methods.map fun m => Naming.callbackName m.name).Nodup := by
    have hmap := hnodup.map Naming.callbackName_injective
    rwa [List.map_map] at hmap
  have hreset : ∀ name, Naming.callbackName name ≠ resetName :=
    append_ne_of_not_isSuffixOf (by decide)
  rw [declaredMembers_ofInterface hnames]
  constructor
  · rintro h (⟨m, hm, m', hm', heq⟩ | ⟨m, hm, heq⟩)
    · have hdisjoint := (List.nodup_append'.mp (List.nodup_append'.mp h).1).2.2
      exact hdisjoint (List.mem_map_of_mem hm) (heq ▸ List.mem_map_of_mem hm')
    · have hdisjoint := (List.nodup_append'.mp h).2.2
      refine hdisjoint (List.mem_append_right _ (List.mem_map_of_mem hm)) ?_
      exact List.mem_singleton.mpr heq
  · intro h
    -- each of the three lists has no duplicates, so only two of them could meet
    refine (hcallbacks.append hnodup ?_).append (List.nodup_singleton _) ?_
    · rintro name hcallback hmethod
      obtain ⟨m, hm, rfl⟩ := List.mem_map.mp hcallback
      obtain ⟨m', hm', heq⟩ := List.mem_map.mp hmethod
      exact h (.inl ⟨m, hm, m', hm', heq⟩)
    · rintro name hmember hlast
      obtain rfl := List.mem_singleton.mp hlast
      rcases List.mem_append.mp hmember with hcallback | hmethod
      · obtain ⟨m, -, heq⟩ := List.mem_map.mp hcallback
        exact hreset m.name heq
      · obtain ⟨m, hm, heq⟩ := List.mem_map.mp hmethod
        exact h (.inr ⟨m, hm, heq⟩)

/-! Two interfaces: the members of one mock differ, and two of the other are the same. -/

/-- An interface with the given methods, none of which takes or returns anything. -/
def plainInterface (name : String) (methods : List String) : Interface :=
  ⟨name, methods.map fun m => ⟨m, [], []⟩, "store"⟩

theorem nodup_declaredMembers_cache :
    (declaredMembers "MockCache" (ofInterface (plainInterface "Cache" ["Get", "Set"]))).Nodup := by
  have hiff := nodup_declaredMembers_iff (i := plainInterface "Cache" ["Get", "Set"])
    (by decide) (by decide)
  refine hiff.mpr ?_
  rintro (⟨m, hm, m', hm', heq⟩ | ⟨m, hm, heq⟩)
  · have hnone : ∀ m ∈ (plainInterface "Cache" ["Get", "Set"]).methods,
        ∀ m' ∈ (plainInterface "Cache" ["Get", "Set"]).methods,
          m'.name ≠ Naming.callbackName m.name := by decide
    exact hnone m hm m' hm' heq
  · have hnone : ∀ m ∈ (plainInterface "Cache" ["Get", "Set"]).methods, m.name ≠ resetName := by
      decide
    exact hnone m hm heq

/-- A method called like the callback of another one has the name of a field of the mock. -/
theorem not_nodup_declaredMembers_hooks :
    ((plainInterface "Hooks" ["Set", "SetCallback"]).methods.map (·.name)).Nodup ∧
      ¬ (declaredMembers "MockHooks"
        (ofInterface (plainInterface "Hooks" ["Set", "SetCallback"]))).Nodup := by
  decide

end Members

end Mock

end DeclGen
